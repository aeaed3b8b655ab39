import Switchboard.Datum.Decoder

/-!
Records of several variants, told apart by the field `type`. A list stands for one when its first item
is the name of the variant and the others are the variant's fields in order.
-/
namespace Switchboard

/-- What a tag was found with: the fields beside it, or the items after it. -/
inductive Content
  | named (fields : List (String × Datum))
  | positional (items : List Datum)

namespace Content

def fields {α : Type} (f : Fields α) (dialect : Dialect) : Content → Except DataError α
  | .named fields => f.ofNamed dialect fields
  | .positional items => f.ofItems dialect items

/-- Read a variant without fields: named ones are skipped, items are too many. -/
def bare {α : Type} (a : α) : Content → Except DataError α
  | .named _ => .ok a
  | .positional [] => .ok a
  | .positional items => .error (.invalidLength items.length)

end Content

namespace Variant

def tag (known : List String) : Datum → Except DataError String
  | .text s => if s ∈ known then .ok s else .error (.unknownVariant s known)
  | d => .error (.invalidType d "variant identifier")

def takeTag (known : List String) : Option String → List (String × Datum) →
    Except DataError (String × List (String × Datum))
  | none, [] => .error (.missingField "type")
  | some t, [] => .ok (t, [])
  | found, (name, d) :: rest =>
    if name = "type" then
      match found with
      | some _ => .error (.duplicateField "type")
      | none => do takeTag known (some (← tag known d)) rest
    else do
      let (t, fields) ← takeTag known found rest
      return (t, (name, d) :: fields)

def split (name : String) (known : List String) : Datum → Except DataError (String × Content)
  | .record fields => do
    let (t, rest) ← takeTag known none fields
    return (t, .named rest)
  | .list [] => .error (.missingField "type")
  | .list (d :: items) => do return (← tag known d, .positional items)
  | d => .error (.invalidType d ("internally tagged enum " ++ name))

end Variant

end Switchboard
