import Switchboard.Client
import Switchboard.Config.Document

/-!
Setting a client up and taking it down: destinations and receivers come and go, and a shutdown retires
every destination. A change that takes several steps is written as those steps, each of which holds one
lock; other changes may come in between, and `Change` runs them one at a time.
-/
namespace Switchboard

inductive ClientError
  | config (e : Config.Error)
  | registry (e : RegistryError)
  | duplicateDestination (name : String)
  | unknownDestination (name : String)

def ClientError.message : ClientError → String
  | .config e => e.message
  | .registry e => e.message
  | .duplicateDestination name => "destination '" ++ name ++ "' already exists"
  | .unknownDestination name => "unknown destination '" ++ name ++ "'"

namespace Client

variable {T : Type} [Transport T]

/-- Add a destination, disconnected, and give its number. -/
def addDestination (d : Descriptor) (c : Client T) : Except ClientError (Client T × Nat) :=
  if (c.table.lookup d.name).isSome then .error (.duplicateDestination d.name)
  else
    let i := c.destinations.length
    .ok ({ c with
      destinations := c.destinations ++ [{ descriptor := d, created := c.now }]
      table := c.table ++ [(d.name, i)] }, i)

def lookup (name : String) (c : Client T) : Except ClientError Nat :=
  match c.table.lookup name with
  | some i => .ok i
  | none => .error (.unknownDestination name)

def register (i : Nat) (name : String) (selectors : List Selector) (c : Client T) :
    Except ClientError (Client T × Receiver) :=
  let r : Receiver := ⟨i, name, selectors⟩
  match c.registry.register r with
  | .ok registry => .ok ({ c with registry := registry }, r)
  | .error e => .error (.registry e)

def addReceiver (name : String) (selectors : List Selector) (c : Client T) :
    Except ClientError (Client T × Receiver) := do
  let i ← c.lookup name
  c.register i name selectors

def removeFromTable (name : String) (c : Client T) : Except ClientError (Client T × Nat) := do
  let i ← c.lookup name
  return ({ c with table := c.table.filter (·.1 != name) }, i)

def unregister (name : String) (c : Client T) : Client T × Nat :=
  let (registry, removed) := c.registry.unregister name
  ({ c with registry := registry }, removed)

def flagRetired (i : Nat) (c : Client T) : Client T :=
  (c.onDestination i () fun d => (d.markRetired, ())).1

def disconnect (i : Nat) (c : Client T) : Client T :=
  let (c, h) := c.onDestination i none Destination.disconnect
  c.release i h

def retire (i : Nat) (c : Client T) : Client T := (c.flagRetired i).disconnect i

/-- Remove a destination and every receiver of its name, and say how many of those there were. -/
def unload (name : String) (c : Client T) : Except ClientError (Client T × Nat) := do
  let (c, i) ← c.removeFromTable name
  let (c, removed) := c.unregister name
  return (c.retire i, removed)

/-- Make the supervisor look at the destinations now. -/
def wake (c : Client T) : Client T := { c with signal := true }

def stopSupervisor (c : Client T) : Client T :=
  match c.supervisor with
  | some s => { c with supervisor := some { s with running := false }, signal := true }
  | none => c

/-- Stop the supervisor and retire every loaded destination. A second shutdown does nothing. -/
def shutdown (c : Client T) : Client T :=
  if c.shutDown then c
  else
    let c := ({ c with shutDown := true }).stopSupervisor
    (c.table.map (·.2)).foldl (fun c i => c.retire i) c

def addDestinations : List Config.Destination → Client T → Except ClientError (Client T)
  | [], c => .ok c
  | d :: rest, c => do
    let (c, _) ← c.addDestination d.descriptor
    addDestinations rest c

def addReceivers : List Config.Receiver → Client T → Except ClientError (Client T)
  | [], c => .ok c
  | r :: rest, c => do
    let (c, _) ← c.addReceiver r.destination r.targets
    addReceivers rest c

def ofConfig (config : Config) (transport : T) : Except ClientError (Client T) := do
  config.validate.mapError .config
  let c ← addDestinations config.destinations (create config.name transport config.reconnect.policy)
  addReceivers config.receivers c

/-- A change under way, before its next step. -/
inductive Change
  | addDestination (d : Descriptor)
  | addReceiver (name : String) (selectors : List Selector)
  | register (i : Nat) (name : String) (selectors : List Selector)
  | unload (name : String)
  | unregister (i : Nat) (name : String)
  | flagRetired (i : Nat)
  | disconnect (i : Nat)
  | finished
deriving DecidableEq

/-- One step of a change. A change that fails is over. -/
def Change.step (change : Change) (c : Client T) : Client T × Change :=
  match change with
  | .addDestination d => match c.addDestination d with
    | .ok (c, _) => (c, .finished)
    | .error _ => (c, .finished)
  | .addReceiver name selectors => match c.lookup name with
    | .ok i => (c, .register i name selectors)
    | .error _ => (c, .finished)
  | .register i name selectors => match c.register i name selectors with
    | .ok (c, _) => (c, .finished)
    | .error _ => (c, .finished)
  | .unload name => match c.removeFromTable name with
    | .ok (c, i) => (c, .unregister i name)
    | .error _ => (c, .finished)
  | .unregister i name => ((c.unregister name).1, .flagRetired i)
  | .flagRetired i => (c.flagRetired i, .disconnect i)
  | .disconnect i => (c.disconnect i, .finished)
  | .finished => (c, .finished)

end Client

end Switchboard
