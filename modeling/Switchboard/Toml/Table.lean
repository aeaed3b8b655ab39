import Switchboard.Datum

/-!
Tables under construction. A table remembers whether it was written out, or only implied by the path
of a header or of a dotted key, since that decides what may still be added to it. A list of tables
takes additions in its last table.
-/
namespace Switchboard.Toml

inductive Origin
  | written
  | implied
  | dotted
deriving DecidableEq

inductive Node
  | value (d : Datum)
  | table (origin : Origin) (entries : List (String × Node))
  /-- A list of tables, the last one first. -/
  | tables (rows : List (List (String × Node)))

abbrev Entries := List (String × Node)

namespace Entries

def replace (name : String) (node : Node) : Entries → Entries
  | [] => []
  | (other, old) :: rest =>
    if other = name then (name, node) :: rest else (other, old) :: replace name node rest

def remove (name : String) (entries : Entries) : Entries := entries.filter (·.1 != name)

/-- Change the table at the end of a path, creating what is missing as dotted tables. A dotted key may
not go through a table that was written out. -/
def alterDotted (f : Entries → Option Entries) : List String → Origin → Entries → Option Entries
  | [], origin, entries => if origin = .dotted then f entries else none
  | name :: path, _, entries =>
    match entries.lookup name with
    | none => (alterDotted f path .dotted []).map fun sub => entries ++ [(name, .table .dotted sub)]
    | some (.table .written _) => none
    | some (.table origin sub) =>
      (alterDotted f path origin sub).map fun sub => entries.replace name (.table origin sub)
    | some (.tables (row :: rows)) =>
      (alterDotted f path .written row).map fun row => entries.replace name (.tables (row :: rows))
    | some _ => none

def addNew (name : String) (node : Node) (entries : Entries) : Option Entries :=
  if (entries.lookup name).isSome then none else some (entries ++ [(name, node)])

/-- Assign a value to a dotted key. No key is assigned twice. -/
def assign (path : List String) (name : String) (d : Datum) (entries : Entries) : Option Entries :=
  match path with
  | [] => entries.addNew name (.value d)
  | path => entries.alterDotted (·.addNew name (.value d)) path .written

/-- Change the table that a header's path leads to, creating what is missing as implied tables. -/
def alter (f : Entries → Option Entries) : List String → Entries → Option Entries
  | [], entries => f entries
  | name :: path, entries =>
    match entries.lookup name with
    | none => (alter f path []).map fun sub => entries ++ [(name, .table .implied sub)]
    | some (.table origin sub) =>
      (alter f path sub).map fun sub => entries.replace name (.table origin sub)
    | some (.tables (row :: rows)) =>
      (alter f path row).map fun row => entries.replace name (.tables (row :: rows))
    | some _ => none

def addRow (entries : Entries) (name : String) (row : Entries) : Option Entries :=
  match entries.lookup name with
  | none => some (entries ++ [(name, .tables [row])])
  | some (.tables rows) => some (entries.replace name (.tables (row :: rows)))
  | some _ => none

/-- Write out a table. One that a header implied keeps what it holds and moves to the end. -/
def addTable (name : String) (fill : Entries → Option Entries) (entries : Entries) : Option Entries :=
  match entries.lookup name with
  | none => (fill []).map fun sub => entries ++ [(name, .table .written sub)]
  | some (.table .implied sub) =>
    (fill sub).map fun sub => entries.remove name ++ [(name, .table .written sub)]
  | some _ => none

end Entries

mutual

def Node.datum : Node → Datum
  | .value d => d
  | .table _ entries => .record (fields entries)
  | .tables rows => .list (records rows).reverse

def fields : List (String × Node) → List (String × Datum)
  | [] => []
  | (name, node) :: rest => (name, node.datum) :: fields rest

def records : List (List (String × Node)) → List Datum
  | [] => []
  | row :: rows => .record (fields row) :: records rows

end

end Switchboard.Toml
