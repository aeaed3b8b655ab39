import Switchboard.Proofs.Lookup
import Switchboard.Toml.Document

/-!
Documents that consist of the values of a table and of lists of tables, one section for each table of a
list. Their expressions make up the record of those values and lists, in the order in which they stand.
-/
namespace Switchboard.Toml

/-! ### Values of a table -/

def assigned (row : List (String × Datum)) : List Expression :=
  row.map fun p => .assignment [] p.1 p.2

def values (row : List (String × Datum)) : Entries := row.map fun p => (p.1, .value p.2)

theorem fields_append (table more : Entries) : fields (table ++ more) = fields table ++ fields more := by
  induction table with
  | nil => rfl
  | cons entry table ih => simp [fields, ih]

theorem fields_values (row : List (String × Datum)) : fields (values row) = row := by
  induction row with
  | nil => rfl
  | cons p row ih =>
    have rest : fields (row.map fun p => (p.1, .value p.2)) = row := ih
    simp [values, fields, Node.datum, rest]

theorem lookup_values {row : List (String × Datum)} {name : String} (new : name ∉ row.map (·.1)) :
    (values row).lookup name = none := by
  apply lookup_of_not_mem
  rwa [values, List.map_map]

theorem assignAll_row {row : List (String × Datum)} (distinct : (row.map (·.1)).Nodup) :
    assignAll (row.map fun p => ([], p)) [] = some (values row) := by
  suffices onto : ∀ table : Entries, (∀ p ∈ row, table.lookup p.1 = none) →
      assignAll (row.map fun p => ([], p)) table = some (table ++ values row) from
    onto [] fun _ _ => rfl
  induction row with
  | nil => simp [assignAll, values]
  | cons p row ih =>
    intro table new
    rw [List.map_cons, List.nodup_cons] at distinct
    have assigned : table.assign [] p.1 p.2 = some (table ++ [(p.1, .value p.2)]) := by
      simp [Entries.assign, Entries.addNew, new p List.mem_cons_self]
    have later := ih distinct.2 (table ++ [(p.1, .value p.2)]) <| by
      intro q there
      have other : q.1 ≠ p.1 := by
        intro same
        exact distinct.1 (same ▸ List.mem_map_of_mem there)
      rw [lookup_concat_of_ne other, new q (List.mem_cons_of_mem p there)]
    rw [List.map_cons, assignAll, assigned, Option.bind_eq_bind, Option.bind_some, later]
    simp [values]

/-! ### Sections -/

/-- Nothing more is assigned here: a section begins, or the document ends. -/
def StartsSection : List Expression → Prop
  | .assignment _ _ _ :: _ => False
  | _ => True

theorem takeAssignments_row (row : List (String × Datum)) {rest : List Expression}
    (starts : StartsSection rest) :
    takeAssignments (assigned row ++ rest) = (row.map fun p => ([], p), rest) := by
  induction row with
  | nil =>
    match rest, starts with
    | [], _ | .header _ _ _ :: _, _ => rfl
  | cons p row ih =>
    have later : takeAssignments ((row.map fun p => .assignment [] p.1 p.2) ++ rest) =
        (row.map fun p => ([], p), rest) := ih
    simp [assigned, takeAssignments, later]

theorem addSections_section (root : Entries) (repeated : Bool) (path : List String) (name : String)
    (row : List (String × Datum)) {rest : List Expression} (starts : StartsSection rest) :
    addSections root (.header repeated path name :: (assigned row ++ rest)) =
      (addSection repeated path name (row.map fun p => ([], p)) root).bind
        fun root => addSections root rest := by
  rw [addSections, takeAssignments_row row starts]

theorem document?_values {row : List (String × Datum)} (distinct : (row.map (·.1)).Nodup)
    {rest : List Expression} (starts : StartsSection rest) :
    document? (assigned row ++ rest) = (addSections (values row) rest).map fields := by
  rw [document?, takeAssignments_row row starts]
  simp only [assignAll_row distinct, Option.bind_eq_bind, Option.bind_some]
  cases addSections (values row) rest <;> rfl

/-! ### Lists of tables -/

/-- A table with a list of tables as its last entry, or without the entry if the list is empty. The last
table of the list stands first. -/
def withRows (name : String) (rows : List Entries) (table : Entries) : Entries :=
  match rows with
  | [] => table
  | last :: before => table ++ [(name, .tables (last :: before))]

theorem lookup_withRows {name other : String} (different : other ≠ name) (rows : List Entries)
    (table : Entries) : (withRows name rows table).lookup other = table.lookup other := by
  cases rows with
  | nil => rfl
  | cons last before => exact lookup_concat_of_ne different table _

theorem lookup_rows {name : String} {table : Entries} (new : table.lookup name = none) (node : Node) :
    (table ++ [(name, node)]).lookup name = some node := by
  simp [List.lookup_append, new]

theorem replace_last {name : String} {table : Entries} (new : table.lookup name = none)
    (old node : Node) :
    Entries.replace name node (table ++ [(name, old)]) = table ++ [(name, node)] := by
  induction table with
  | nil => simp [Entries.replace]
  | cons entry table ih =>
    obtain ⟨other, held⟩ := entry
    rw [List.lookup_cons] at new
    split at new
    · cases new
    · next unequal =>
      have different : other ≠ name := by
        rintro rfl
        simp at unequal
      simp [Entries.replace, different, ih new]

theorem addRow_withRows {name : String} {table : Entries} (new : table.lookup name = none)
    (rows : List Entries) (row : Entries) :
    (withRows name rows table).addRow name row = some (withRows name (row :: rows) table) := by
  cases rows with
  | nil => simp [withRows, Entries.addRow, new]
  | cons last before =>
    simp only [withRows, Entries.addRow, lookup_rows new]
    rw [replace_last new]

/-- A path leads to a place of a document: what changes the table there changes the document so. -/
def Leads (path : List String) (within : Entries → Entries) : Prop :=
  ∀ (f : Entries → Option Entries) (table changed : Entries), f table = some changed →
    Entries.alter f path (within table) = some (within changed)

theorem Leads.root : Leads [] id := by
  intro f table changed result
  exact result

theorem Leads.lastRow {name : String} {table : Entries} (new : table.lookup name = none)
    (rows : List Entries) : Leads [name] fun row => withRows name (row :: rows) table := by
  intro f row changed result
  simp only [withRows, Entries.alter, lookup_rows new, result, Option.map_some]
  rw [replace_last new]

variable {α β : Type}

/-- The sections of a list of tables. -/
def rowSections (path : List String) (name : String) (row : α → List (String × Datum))
    (items : List α) : List Expression :=
  items.flatMap fun a => .header true path name :: assigned (row a)

theorem StartsSection.rowSections (path : List String) (name : String)
    (row : α → List (String × Datum)) (items : List α) {rest : List Expression}
    (starts : StartsSection rest) : StartsSection (rowSections path name row items ++ rest) := by
  cases items with
  | nil => exact starts
  | cons a items => trivial

theorem addSection_row {path : List String} {within : Entries → Entries} (leads : Leads path within)
    {name : String} {table : Entries} (new : table.lookup name = none) (rows : List Entries)
    {row : List (String × Datum)} (distinct : (row.map (·.1)).Nodup) :
    addSection true path name (row.map fun p => ([], p)) (within (withRows name rows table)) =
      some (within (withRows name (values row :: rows) table)) := by
  have added := leads (·.addRow name (values row)) _ _ (addRow_withRows new rows (values row))
  simp [addSection, assignAll_row distinct, added]

theorem addSections_rows {path : List String} {within : Entries → Entries} (leads : Leads path within)
    {name : String} {table : Entries} {row : α → List (String × Datum)}
    (distinct : ∀ a, ((row a).map (·.1)).Nodup) {items : List α}
    (new : items ≠ [] → table.lookup name = none) (rows : List Entries) {rest : List Expression}
    (starts : StartsSection rest) :
    addSections (within (withRows name rows table)) (rowSections path name row items ++ rest) =
      addSections (within (withRows name ((items.map fun a => values (row a)).reverse ++ rows) table))
        rest := by
  induction items generalizing rows with
  | nil => rfl
  | cons a items ih =>
    have absent := new (List.cons_ne_nil a items)
    have more := StartsSection.rowSections path name row items starts
    calc addSections (within (withRows name rows table)) (rowSections path name row (a :: items) ++ rest)
      _ = addSections (within (withRows name rows table))
          (.header true path name :: (assigned (row a) ++ (rowSections path name row items ++ rest))) := by
        simp [rowSections]
      _ = addSections (within (withRows name (values (row a) :: rows) table))
          (rowSections path name row items ++ rest) := by
        rw [addSections_section _ _ _ _ _ more, addSection_row leads absent rows (distinct a)]
        rfl
      _ = _ := by
        rw [ih fun _ => absent]
        simp

/-- The sections of a list of tables of which each has a list of tables itself. -/
def nestedSections (outer inner : String) (row : α → List (String × Datum)) (items : α → List β)
    (innerRow : β → List (String × Datum)) (all : List α) : List Expression :=
  all.flatMap fun a =>
    .header true [] outer :: (assigned (row a) ++ rowSections [outer] inner innerRow (items a))

theorem StartsSection.nestedSections (outer inner : String) (row : α → List (String × Datum))
    (items : α → List β) (innerRow : β → List (String × Datum)) (all : List α)
    {rest : List Expression} (starts : StartsSection rest) :
    StartsSection (nestedSections outer inner row items innerRow all ++ rest) := by
  cases all with
  | nil => exact starts
  | cons a all => trivial

/-- A table of the outer list. -/
def nestedRow (inner : String) (row : α → List (String × Datum)) (items : α → List β)
    (innerRow : β → List (String × Datum)) (a : α) : Entries :=
  withRows inner ((items a).map fun b => values (innerRow b)).reverse (values (row a))

theorem addSections_nested {outer inner : String} {table : Entries} {row : α → List (String × Datum)}
    (distinct : ∀ a, ((row a).map (·.1)).Nodup) {items : α → List β}
    (innerNew : ∀ a, items a ≠ [] → inner ∉ (row a).map (·.1)) {innerRow : β → List (String × Datum)}
    (innerDistinct : ∀ b, ((innerRow b).map (·.1)).Nodup) {all : List α}
    (new : all ≠ [] → table.lookup outer = none) (rows : List Entries) {rest : List Expression}
    (starts : StartsSection rest) :
    addSections (withRows outer rows table)
        (nestedSections outer inner row items innerRow all ++ rest) =
      addSections
        (withRows outer ((all.map (nestedRow inner row items innerRow)).reverse ++ rows) table)
        rest := by
  induction all generalizing rows with
  | nil => rfl
  | cons a all ih =>
    have absent := new (List.cons_ne_nil a all)
    let others := nestedSections outer inner row items innerRow all ++ rest
    have more : StartsSection others := starts.nestedSections outer inner row items innerRow all
    have innerMore := StartsSection.rowSections [outer] inner innerRow (items a) more
    have filled := addSections_rows (Leads.lastRow absent rows) innerDistinct
      (fun some => lookup_values (innerNew a some)) [] more
    rw [List.append_nil] at filled
    calc addSections (withRows outer rows table)
          (nestedSections outer inner row items innerRow (a :: all) ++ rest)
      _ = addSections (withRows outer rows table) (.header true [] outer ::
          (assigned (row a) ++ (rowSections [outer] inner innerRow (items a) ++ others))) := by
        simp [nestedSections, others]
      _ = addSections (withRows outer (values (row a) :: rows) table)
          (rowSections [outer] inner innerRow (items a) ++ others) := by
        have opened := addSection_row Leads.root absent rows (distinct a)
        rw [id_eq, id_eq] at opened
        rw [addSections_section _ _ _ _ _ innerMore, opened]
        rfl
      _ = addSections (withRows outer (nestedRow inner row items innerRow a :: rows) table) others :=
        filled
      _ = _ := by
        rw [ih fun _ => absent]
        simp

/-! ### Records -/

theorem records_eq (rows : List Entries) : records rows = rows.map fun row => .record (fields row) := by
  induction rows with
  | nil => rfl
  | cons row rows ih => simp [records, ih]

/-- A list of records as a field, which is missing when the list is empty. -/
def listField (name : String) (items : List Datum) : List (String × Datum) :=
  if items = [] then [] else [(name, .list items)]

theorem fields_withRows (name : String) (rows : List Entries) (table : Entries) :
    fields (withRows name rows.reverse table) =
      fields table ++ listField name (rows.map fun row => .record (fields row)) := by
  cases reversed : rows.reverse with
  | nil =>
    rw [List.reverse_eq_nil_iff] at reversed
    simp [reversed, withRows, listField]
  | cons last before =>
    have some : rows ≠ [] := by
      rintro rfl
      cases reversed
    simp only [withRows]
    rw [← reversed, fields_append]
    simp [fields, Node.datum, records_eq, listField, some]

end Switchboard.Toml
