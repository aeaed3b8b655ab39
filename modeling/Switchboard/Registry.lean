import Switchboard.Target.Selector

/-!
The receivers of a client, in the order in which they were registered. A receiver claims targets for
one destination. Receivers of one destination have no selector in common.
-/
namespace Switchboard

structure Receiver where
  destination : Nat
  name : String
  selectors : List Selector
deriving DecidableEq, Repr

def Receiver.handles (r : Receiver) (t : Target) : Bool := r.selectors.any (·.claims t)

inductive RegistryError
  | duplicateTarget (destination : String) (selector : String)
  | emptyReceiver (destination : String)
deriving DecidableEq, Repr

def RegistryError.message : RegistryError → String
  | .duplicateTarget destination selector =>
    "destination '" ++ destination ++ "' already has a receiver claiming '" ++ selector ++ "'"
  | .emptyReceiver destination => "receiver for destination '" ++ destination ++ "' declares no targets"

abbrev Registry := List Receiver

namespace Registry

/-- The first selector that an earlier receiver of the same destination has. -/
def conflict (registry : Registry) (r : Receiver) : Option Selector :=
  registry.findSome? fun held =>
    if held.name = r.name then r.selectors.find? (held.selectors.contains ·) else none

def register (registry : Registry) (r : Receiver) : Except RegistryError Registry :=
  if r.selectors = [] then .error (.emptyReceiver r.name)
  else match registry.conflict r with
    | some selector => .error (.duplicateTarget r.name selector.text)
    | none => .ok (registry ++ [r])

def unregister (registry : Registry) (name : String) : Registry × Nat :=
  let kept := registry.filter (·.name != name)
  (kept, registry.length - kept.length)

/-- The receivers that claim a target, connected or not. -/
def candidates (registry : Registry) (t : Target) : List Receiver := registry.filter (·.handles t)

/-- The names of the destinations, each once, in the order of their first receivers. -/
def destinationNames (registry : Registry) : List String := (registry.map (·.name)).eraseDups

end Registry

end Switchboard
