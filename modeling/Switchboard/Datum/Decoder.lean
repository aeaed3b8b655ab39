import Switchboard.Datum

/-!
Reading typed values from data. A record is read from its fields by name or from a list of its values
in order; names it does not know are skipped. The first fault in the order of the document is the one
reported, and absent fields come after it in the order in which the record declares them.
-/
namespace Switchboard

abbrev Decoder (α : Type) := Dialect → Datum → Except DataError α

namespace Decoder

def text : Decoder String
  | _, .text s => .ok s
  | _, d => .error (.invalidType d "a string")

def flag : Decoder Bool
  | _, .bool b => .ok b
  | _, d => .error (.invalidType d "a boolean")

def unsigned (bits : Nat) : Decoder Nat
  | _, .int n =>
    if 0 ≤ n ∧ n < Nat.pow 2 bits then .ok n.toNat
    else .error (.invalidValue (.int n) ("u" ++ toString bits))
  | _, d => .error (.invalidType d ("u" ++ toString bits))

def listOf {α : Type} (item : Decoder α) : Decoder (List α)
  | dialect, .list items => items.mapM (item dialect)
  | _, d => .error (.invalidType d "a sequence")

/-- A value that null stands for when it is absent. -/
def nullable {α : Type} (value : Decoder α) : Decoder (Option α)
  | _, .null => .ok none
  | dialect, d => (value dialect d).map some

end Decoder

/-- A field of a record as far as the form of the data goes. -/
structure Slot where
  name : String
  required : Bool
  check : Dialect → Datum → Except DataError Unit

/-- How a record is read: its fields in the order of declaration, and the value they make up. -/
structure Fields (α : Type) where
  slots : List Slot
  build : Dialect → (String → Option Datum) → Except DataError α

namespace Fields

def pure {α : Type} (a : α) : Fields α := ⟨[], fun _ _ => .ok a⟩

def field {α β : Type} (f : Fields (α → β)) (name : String) (value : Decoder α) (absent : Option α) :
    Fields β where
  slots := f.slots ++ [⟨name, absent.isNone, fun dialect d => (value dialect d).map fun _ => ()⟩]
  build dialect get := do
    let g ← f.build dialect get
    match get name, absent with
    | some d, _ => (value dialect d).map g
    | none, some a => .ok (g a)
    | none, none => .error (.missingField name)

def required {α β : Type} (f : Fields (α → β)) (name : String) (value : Decoder α) : Fields β :=
  f.field name value none

def defaulted {α β : Type} (f : Fields (α → β)) (name : String) (value : Decoder α) (absent : α) :
    Fields β :=
  f.field name value (some absent)

def optional {α β : Type} (f : Fields (Option α → β)) (name : String) (value : Decoder α) : Fields β :=
  f.field name value.nullable (some none)

/-- Check named fields in the order of the document. -/
def checkNamed (slots : List Slot) (dialect : Dialect) :
    List String → List (String × Datum) → Except DataError Unit
  | _, [] => .ok ()
  | seen, (name, d) :: rest =>
    match slots.find? (·.name == name) with
    | none => checkNamed slots dialect seen rest
    | some slot =>
      if name ∈ seen then .error (.duplicateField name)
      else do
        slot.check dialect d
        checkNamed slots dialect (name :: seen) rest

def nameItems (dialect : Dialect) :
    Nat → List Slot → List Datum → Except DataError (List (String × Datum))
  | count, [], items =>
    if items.isEmpty || dialect.dropsSurplus then .ok [] else .error (.invalidLength (count + items.length))
  | count, slot :: slots, [] =>
    if slot.required then .error (.invalidLength count) else nameItems dialect (count + 1) slots []
  | count, slot :: slots, d :: items => do
    slot.check dialect d
    return (slot.name, d) :: (← nameItems dialect (count + 1) slots items)

def ofNamed {α : Type} (f : Fields α) (dialect : Dialect) (fields : List (String × Datum)) :
    Except DataError α := do
  checkNamed f.slots dialect [] fields
  f.build dialect fun name => fields.lookup name

def ofItems {α : Type} (f : Fields α) (dialect : Dialect) (items : List Datum) : Except DataError α := do
  let fields ← nameItems dialect 0 f.slots items
  f.build dialect fun name => fields.lookup name

def decoder {α : Type} (f : Fields α) (name : String) : Decoder α
  | dialect, .record fields => f.ofNamed dialect fields
  | dialect, .list items => f.ofItems dialect items
  | _, d => .error (.invalidType d ("struct " ++ name))

end Fields

end Switchboard
