import Switchboard.Toml.Reader

/-!
TOML documents. A document is a table of assignments followed by sections, each a header with its own
assignments; a section adds one table at the path of its header.
-/
namespace Switchboard.Toml

def assignAll : List (List String × String × Datum) → Entries → Option Entries
  | [], entries => some entries
  | (path, name, d) :: rest, entries => entries.assign path name d >>= assignAll rest

/-- The assignments up to the next header, and the expressions from it on. -/
def takeAssignments : List Expression → List (List String × String × Datum) × List Expression
  | .assignment path name d :: rest =>
    let (taken, rest) := takeAssignments rest
    ((path, name, d) :: taken, rest)
  | rest => ([], rest)

theorem length_takeAssignments (es : List Expression) :
    (takeAssignments es).2.length ≤ es.length := by
  induction es with
  | nil => simp [takeAssignments]
  | cons e rest ih => cases e <;> simp [takeAssignments]; omega

def addSection (repeated : Bool) (path : List String) (name : String)
    (assignments : List (List String × String × Datum)) (root : Entries) : Option Entries :=
  if repeated then do
    let row ← assignAll assignments []
    root.alter (·.addRow name row) path
  else
    root.alter (·.addTable name (assignAll assignments)) path

def addSections (root : Entries) : List Expression → Option Entries
  | .header repeated path name :: rest =>
    let section_ := takeAssignments rest
    (addSection repeated path name section_.1 root).bind fun root => addSections root section_.2
  | [] => some root
  | .assignment _ _ _ :: _ => none
termination_by es => es.length
decreasing_by
  have := length_takeAssignments rest
  simp only [List.length_cons]
  omega

def document? (es : List Expression) : Option (List (String × Datum)) := do
  let (assignments, rest) := takeAssignments es
  let root ← assignAll assignments []
  return fields (← addSections root rest)

def parse? (s : String) : Option Datum := do
  let es ← expressions? s.toList
  return .record (← document? es)

end Switchboard.Toml
