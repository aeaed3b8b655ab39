/-!
Targets of invocations: an interface of a component of a module, written `module/component!interface`.
The interface may be left out and may hold any characters; the other two parts are not empty and hold
no separator.
-/
namespace Switchboard

structure Target where
  moduleName : String
  component : String
  interface : String
deriving DecidableEq, Repr, Inhabited

namespace Target

def cutAt (sep : Char) : List Char → Option (List Char × List Char)
  | [] => none
  | c :: r =>
    if c = sep then some ([], r) else (cutAt sep r).map fun (before, after) => (c :: before, after)

def text (t : Target) : String :=
  t.moduleName ++ "/" ++ t.component ++ "!" ++ t.interface

structure ParseError where
  input : String
deriving DecidableEq, Repr

def ParseError.message (e : ParseError) : String :=
  "invalid target '" ++ e.input ++ "' (expected module/component!interface)"

/-- Read a target; the interface begins after the first exclamation mark. -/
def parse (s : String) : Except ParseError Target :=
  let (path, interface) := (cutAt '!' s.toList).getD (s.toList, [])
  match cutAt '/' path with
  | some (m@(_ :: _), c@(_ :: _)) =>
    if '/' ∈ c then .error ⟨s⟩
    else .ok ⟨String.ofList m, String.ofList c, String.ofList interface⟩
  | _ => .error ⟨s⟩

end Target

end Switchboard
