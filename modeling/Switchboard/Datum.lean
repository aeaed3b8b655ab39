import Switchboard.Number.Shortest
import Switchboard.Text.Quoted

/-!
Data as documents hold them: scalars, lists, and records whose fields keep the order in which they
were written, a repeated name included. An error of reading says what was found and what was expected
in its place.
-/
namespace Switchboard

inductive Datum
  | null
  | bool (b : Bool)
  | int (n : Int)
  | float (x : Number.Binary64)
  | text (s : String)
  | list (items : List Datum)
  | record (fields : List (String × Datum))
deriving Inhabited

/-- What two document formats differ in where values are read from their data. -/
structure Dialect where
  numbers : Number.Style
  /-- Whether items beyond the last field are dropped when a list stands for a record. -/
  dropsSurplus : Bool

def Dialect.toml : Dialect := ⟨.positional, true⟩

def Dialect.json : Dialect := ⟨.compact, false⟩

namespace Datum

/-- A datum in a message: its value if that is short, otherwise its kind. -/
def describe (dialect : Dialect) : Datum → String
  | .null => "null"
  | .bool b => "boolean `" ++ toString b ++ "`"
  | .int n => "integer `" ++ toString n ++ "`"
  | .float x => "floating point `" ++ dialect.numbers.text x ++ "`"
  | .text s => "string " ++ Text.quoted s
  | .list _ => "sequence"
  | .record _ => "map"

end Datum

inductive DataError
  | missingField (name : String)
  | duplicateField (name : String)
  | unknownVariant (name : String) (known : List String)
  | invalidType (found : Datum) (expected : String)
  | invalidValue (found : Datum) (expected : String)
  | invalidLength (length : Nat)
deriving Inhabited

namespace DataError

private def ticked (s : String) : String := "`" ++ s ++ "`"

def message (dialect : Dialect) : DataError → String
  | .missingField name => "missing field " ++ ticked name
  | .duplicateField name => "duplicate field " ++ ticked name
  | .unknownVariant name known =>
    "unknown variant " ++ ticked name ++ ", expected one of " ++ ", ".intercalate (known.map ticked)
  | .invalidType found expected =>
    "invalid type: " ++ found.describe dialect ++ ", expected " ++ expected
  | .invalidValue found expected =>
    "invalid value: " ++ found.describe dialect ++ ", expected " ++ expected
  | .invalidLength length => "invalid length " ++ toString length

end DataError

end Switchboard
