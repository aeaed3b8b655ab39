import Switchboard.Target
import Switchboard.Target.Pattern

/-!
Selectors claim targets by one pattern for each part of a target.
-/
namespace Switchboard

structure Selector where
  moduleName : String
  component : String := "*"
  interface : String := "*"
deriving DecidableEq, Repr, Inhabited

namespace Selector

def text (s : Selector) : String :=
  s.moduleName ++ "/" ++ s.component ++ "!" ++ s.interface

def claims (s : Selector) (t : Target) : Bool :=
  Pattern.accepts s.moduleName t.moduleName &&
    Pattern.accepts s.component t.component &&
    Pattern.accepts s.interface t.interface

end Selector

end Switchboard
