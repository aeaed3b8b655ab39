import Switchboard.Proofs.Config.Record
import Switchboard.Proofs.Toml.Lines
import Switchboard.Proofs.Toml.Sections

/-!
Configurations survive being written and read again. A configuration is a document of plain values with
a list of destinations, a list of receivers of which each has a list of targets, and a table at the end.
Its record is that of the values of the configuration, with lists that are not empty behind the others.
-/
namespace Switchboard.Config

open Toml (Line Expression assigned rowSections nestedSections nestedRow withRows listField)
open Fields (given)

/-! ### Expressions -/

def targetRow (s : Selector) : List (String × Datum) :=
  [("module", .text s.moduleName), ("component", .text s.component), ("interface", .text s.interface)]

/-- A list that is empty is a plain value. -/
def emptyField {α : Type} (name : String) (items : List α) : List (String × Datum) :=
  if items.isEmpty then [(name, .list [])] else []

def Receiver.row (r : Receiver) : List (String × Datum) :=
  ("destination", .text r.destination) :: emptyField "targets" r.targets

def row (c : Config) : List (String × Datum) :=
  ("name", .text c.name) :: ("log_level", .text c.logLevel)
    :: (emptyField "destinations" c.destinations ++ emptyField "receivers" c.receivers)

def sections (c : Config) : List Expression :=
  rowSections [] "destinations" Destination.values c.destinations
    ++ (nestedSections "receivers" "targets" Receiver.row Receiver.targets targetRow c.receivers
      ++ .header false [] "reconnect" :: (assigned c.reconnect.values ++ []))

theorem expressions_emptyList {α : Type} (name : String) (items : List α) :
    (emptyList name items).map Line.expression = assigned (emptyField name items) := by
  cases items <;> rfl

theorem expressions_destinations (items : List Destination) :
    (items.flatMap Destination.lines).map Line.expression =
      rowSections [] "destinations" Destination.values items := by
  rw [List.map_flatMap, rowSections]
  refine List.flatMap_congr fun d _ => ?_
  obtain ⟨_, _, _, username, password, _, _, heartbeat⟩ := d
  cases username <;> cases password <;> cases heartbeat <;> rfl

theorem expressions_receivers (items : List Receiver) :
    (items.flatMap Receiver.lines).map Line.expression =
      nestedSections "receivers" "targets" Receiver.row Receiver.targets targetRow items := by
  have targets (r : Receiver) : (r.targets.flatMap targetLines).map Line.expression =
      rowSections ["receivers"] "targets" targetRow r.targets := List.map_flatMap
  rw [List.map_flatMap, nestedSections]
  refine List.flatMap_congr fun r _ => ?_
  rw [Receiver.lines, List.map_append, List.map_append, targets, expressions_emptyList]
  rfl

theorem expressions_lines (c : Config) :
    c.lines.map Line.expression = assigned c.row ++ c.sections := by
  calc c.lines.map Line.expression
    _ = assigned [("name", .text c.name), ("log_level", .text c.logLevel)]
        ++ assigned (emptyField "destinations" c.destinations)
        ++ assigned (emptyField "receivers" c.receivers)
        ++ rowSections [] "destinations" Destination.values c.destinations
        ++ nestedSections "receivers" "targets" Receiver.row Receiver.targets targetRow c.receivers
        ++ .header false [] "reconnect" :: assigned c.reconnect.values := by
      simp only [lines, List.map_append, expressions_emptyList, expressions_destinations,
        expressions_receivers]
      rfl
    _ = assigned c.row ++ c.sections := by simp [row, sections, assigned]

/-! ### The record of a document -/

theorem emptyField_listField {α : Type} (name : String) (items : List α) (datum : α → Datum) :
    emptyField name items ++ listField name (items.map datum) = [(name, .list (items.map datum))] := by
  cases items <;> simp [emptyField, listField]

theorem not_mem_emptyField {α : Type} {name other : String} (different : other ≠ name)
    (items : List α) : other ∉ (emptyField name items).map (·.1) := by
  cases items <;> simp [emptyField, different]

theorem Receiver.distinct_row (r : Receiver) : (r.row.map (·.1)).Nodup := by
  cases absent : r.targets <;> simp [row, emptyField, absent]

theorem Receiver.fields_nestedRow (r : Receiver) :
    Toml.fields (nestedRow "targets" Receiver.row Receiver.targets targetRow r) = r.values := by
  have targets : (r.targets.map fun s => Toml.values (targetRow s)).map (fun row =>
      .record (Toml.fields row)) = r.targets.map Selector.datum := by
    rw [List.map_map]
    refine List.map_congr_left fun s _ => ?_
    rw [Function.comp_apply, Toml.fields_values]
    rfl
  rw [nestedRow, Toml.fields_withRows, Toml.fields_values, targets, row, List.cons_append,
    emptyField_listField, values]

theorem distinct_row (c : Config) : (c.row.map (·.1)).Nodup := by
  cases noDestinations : c.destinations <;> cases noReceivers : c.receivers <;>
    simp [row, emptyField, noDestinations, noReceivers]

/-- A list of tables is new in the document, since only an empty list is a plain value. -/
theorem lookup_row (c : Config) :
    (c.destinations ≠ [] → (Toml.values c.row).lookup "destinations" = none) ∧
      (c.receivers ≠ [] → (Toml.values c.row).lookup "receivers" = none) ∧
      (Toml.values c.row).lookup "reconnect" = none := by
  refine ⟨fun some => Toml.lookup_values ?_, fun some => Toml.lookup_values ?_, Toml.lookup_values ?_⟩
  · simp [row, emptyField, some]
  · simp [row, emptyField, some]
  · simp [row, not_mem_emptyField]

def withDestinations (c : Config) : Toml.Entries :=
  withRows "destinations" (c.destinations.map fun d => Toml.values d.values).reverse (Toml.values c.row)

theorem addSections_destinations (c : Config) {rest : List Expression}
    (starts : Toml.StartsSection rest) :
    Toml.addSections (Toml.values c.row)
        (rowSections [] "destinations" Destination.values c.destinations ++ rest) =
      Toml.addSections c.withDestinations rest := by
  have added := Toml.addSections_rows Toml.Leads.root Destination.distinct c.lookup_row.1 [] starts
  rwa [List.append_nil] at added

def withReceivers (c : Config) : Toml.Entries :=
  withRows "receivers"
    (c.receivers.map (nestedRow "targets" Receiver.row Receiver.targets targetRow)).reverse
    c.withDestinations

theorem addSections_receivers (c : Config) {rest : List Expression}
    (starts : Toml.StartsSection rest) :
    Toml.addSections c.withDestinations
        (nestedSections "receivers" "targets" Receiver.row Receiver.targets targetRow c.receivers
          ++ rest) =
      Toml.addSections c.withReceivers rest := by
  have absent (some : c.receivers ≠ []) : c.withDestinations.lookup "receivers" = none := by
    rw [withDestinations, Toml.lookup_withRows (by decide), c.lookup_row.2.1 some]
  have noTargets (r : Receiver) (some : r.targets ≠ []) : "targets" ∉ r.row.map (·.1) := by
    simp [Receiver.row, emptyField, some]
  have distinct (s : Selector) : ((targetRow s).map (·.1)).Nodup := by simp [targetRow]
  have added := Toml.addSections_nested Receiver.distinct_row noTargets distinct absent [] starts
  rwa [List.append_nil] at added

theorem addSection_reconnect (c : Config) :
    Toml.addSection false [] "reconnect" (c.reconnect.values.map fun p => ([], p)) c.withReceivers =
      some (c.withReceivers ++ [("reconnect", .table .written (Toml.values c.reconnect.values))]) := by
  have absent : c.withReceivers.lookup "reconnect" = none := by
    rw [withReceivers, withDestinations, Toml.lookup_withRows (by decide),
      Toml.lookup_withRows (by decide), c.lookup_row.2.2]
  have distinct : (c.reconnect.values.map (·.1)).Nodup := by simp [Reconnect.values]
  simp [Toml.addSection, Toml.Entries.alter, Toml.Entries.addTable, absent,
    Toml.assignAll_row distinct]

theorem fields_withReceivers (c : Config) :
    Toml.fields c.withReceivers =
      c.row ++ listField "destinations" (c.destinations.map fun d => .record d.values)
        ++ listField "receivers" (c.receivers.map fun r => .record r.values) := by
  rw [withReceivers, Toml.fields_withRows, withDestinations, Toml.fields_withRows, Toml.fields_values]
  simp only [List.map_map, Function.comp_def, Toml.fields_values, Receiver.fields_nestedRow]

theorem document?_lines (c : Config) :
    Toml.document? (c.lines.map Line.expression) =
      some (Toml.fields c.withReceivers ++ [("reconnect", .record c.reconnect.values)]) := by
  let last : List Expression := .header false [] "reconnect" :: (assigned c.reconnect.values ++ [])
  have startsLast : Toml.StartsSection last := trivial
  have startsReceivers :=
    startsLast.nestedSections "receivers" "targets" Receiver.row Receiver.targets targetRow c.receivers
  have starts : Toml.StartsSection c.sections :=
    startsReceivers.rowSections [] "destinations" Destination.values c.destinations
  have ended : Toml.StartsSection [] := trivial
  rw [expressions_lines, Toml.document?_values c.distinct_row starts, sections,
    addSections_destinations c startsReceivers, addSections_receivers c startsLast,
    Toml.addSections_section _ _ _ _ _ ended, addSection_reconnect, Option.bind_some,
    Toml.addSections, Option.map_some, Toml.fields_append]
  simp [Toml.fields, Toml.Node.datum, Toml.fields_values]

/-- The document is the record of the values: whether a list is empty decides only where it stands. -/
theorem document_perm (c : Config) :
    List.Perm (Toml.fields c.withReceivers ++ [("reconnect", .record c.reconnect.values)]) c.values := by
  let named : List (String × Datum) := [("name", .text c.name), ("log_level", .text c.logLevel)]
  let destinations := c.destinations.map fun d => Datum.record d.values
  let receivers := c.receivers.map fun r => Datum.record r.values
  let noDestinations := emptyField "destinations" c.destinations
  let noReceivers := emptyField "receivers" c.receivers
  let last := [("reconnect", Datum.record c.reconnect.values)]
  have moved : (noReceivers ++ listField "destinations" destinations).Perm
      (listField "destinations" destinations ++ noReceivers) := List.perm_append_comm
  have written : Toml.fields c.withReceivers ++ last = named ++ noDestinations
      ++ (noReceivers ++ listField "destinations" destinations)
      ++ (listField "receivers" receivers ++ last) := by
    rw [fields_withReceivers]
    simp [row, named, noDestinations, noReceivers, destinations, receivers]
  have sorted : named ++ noDestinations ++ (listField "destinations" destinations ++ noReceivers)
      ++ (listField "receivers" receivers ++ last) = c.values := by
    have filled := emptyField_listField "destinations" c.destinations fun d => Datum.record d.values
    have claimed := emptyField_listField "receivers" c.receivers fun r => Datum.record r.values
    calc _
      _ = named ++ (noDestinations ++ listField "destinations" destinations)
          ++ (noReceivers ++ listField "receivers" receivers) ++ last := by simp
      _ = c.values := by
        rw [filled, claimed]
        rfl
  rw [written, ← sorted]
  exact (moved.append_left _).append_right _

/-! ### Keys -/

theorem Destination.bare (d : Destination) : d.lines.all Line.isBare = true := by
  obtain ⟨_, _, _, username, password, _, _, heartbeat⟩ := d
  cases username <;> cases password <;> cases heartbeat <;> rfl

theorem emptyList_bare {α : Type} {name : String} (bare : Toml.isBare name = true) (items : List α) :
    (emptyList name items).all Line.isBare = true := by
  cases items <;> simp [emptyList, Line.isBare, bare]

theorem Receiver.bare (r : Receiver) : r.lines.all Line.isBare = true := by
  have targets : (r.targets.flatMap targetLines).all Line.isBare = true := by
    rw [List.all_flatMap, List.all_eq_true]
    exact fun _ _ => rfl
  rw [Receiver.lines, List.all_append, List.all_append, targets, emptyList_bare (by decide)]
  rfl

theorem bare (c : Config) : ∀ line ∈ c.lines, line.isBare = true := by
  have destinations : (c.destinations.flatMap Destination.lines).all Line.isBare = true := by
    rw [List.all_flatMap, List.all_eq_true]
    exact fun d _ => d.bare
  have receivers : (c.receivers.flatMap Receiver.lines).all Line.isBare = true := by
    rw [List.all_flatMap, List.all_eq_true]
    exact fun r _ => r.bare
  have noDestinations : (emptyList "destinations" c.destinations).all Line.isBare = true :=
    emptyList_bare (by decide) c.destinations
  have noReceivers : (emptyList "receivers" c.receivers).all Line.isBare = true :=
    emptyList_bare (by decide) c.receivers
  rw [← List.all_eq_true, lines]
  simp only [List.all_append, noDestinations, noReceivers, destinations, receivers]
  rfl

/-! ### Numbers -/

def Destination.numbers (d : Destination) : List Nat :=
  d.port.toNat :: d.connectTimeoutMs.toNat :: d.invokeTimeoutMs.toNat
    :: (d.heartbeatIntervalMs.map UInt64.toNat).toList

def Reconnect.numbers (r : Reconnect) : List Nat :=
  [r.initialDelayMs.toNat, r.maxDelayMs.toNat, r.scanIntervalMs.toNat]

def numbers (c : Config) : List Nat := c.destinations.flatMap Destination.numbers ++ c.reconnect.numbers

/-- No number takes more than 63 bits, which is what a document has room for. -/
def Signed (c : Config) : Prop := ∀ n ∈ c.numbers, n ≤ 0x7fffffffffffffff

instance (c : Config) : Decidable c.Signed := inferInstanceAs (Decidable (∀ n ∈ c.numbers, _))

/-! Whether a line can be written depends on its expression alone, so the numbers are those of the rows. -/

def isSigned : Datum → Bool
  | .int n => -0x8000000000000000 ≤ n && n < 0x8000000000000000
  | _ => true

def hasSigned : Expression → Bool
  | .assignment _ _ d => isSigned d
  | .header _ _ _ => true

theorem isWritable_eq (line : Line) : line.isWritable = hasSigned line.expression := by
  cases line with
  | assignment name value => cases value <;> rfl
  | header repeated path name => rfl

theorem isSigned_text (s : String) : isSigned (.text s) = true := rfl

theorem isSigned_nat (n : Nat) : isSigned (.int n) = decide (n ≤ 0x7fffffffffffffff) := by
  rw [isSigned, ← Bool.decide_and, decide_eq_decide]
  omega

theorem all_assigned (row : List (String × Datum)) :
    (assigned row).all hasSigned = row.all fun p => isSigned p.2 := by
  simp [assigned, List.all_map, Function.comp_def, hasSigned]

theorem all_rowSections {α : Type} (path : List String) (name : String)
    (row : α → List (String × Datum)) (items : List α) :
    (rowSections path name row items).all hasSigned =
      items.all fun a => (row a).all fun p => isSigned p.2 := by
  simp [rowSections, List.all_flatMap, all_assigned, hasSigned]

theorem Destination.signed (d : Destination) :
    (d.values.all fun p => isSigned p.2) = d.numbers.all (· ≤ 0x7fffffffffffffff) := by
  obtain ⟨_, _, _, username, password, _, _, heartbeat⟩ := d
  cases username <;> cases password <;> cases heartbeat <;>
    simp [values, given, numbers, isSigned_nat, isSigned_text]

theorem Receiver.signed (r : Receiver) :
    (.header true [] "receivers" :: (assigned r.row
      ++ rowSections ["receivers"] "targets" targetRow r.targets)).all hasSigned = true := by
  have targets : (r.targets.all fun s => (targetRow s).all fun p => isSigned p.2) = true := by
    simp [targetRow, isSigned_text]
  have listed : (r.row.all fun p => isSigned p.2) = true := by
    cases absent : r.targets <;> simp [row, emptyField, absent, isSigned]
  rw [List.all_cons, List.all_append, all_assigned, all_rowSections, listed, targets]
  rfl

theorem Reconnect.signed (r : Reconnect) :
    (r.values.all fun p => isSigned p.2) = r.numbers.all (· ≤ 0x7fffffffffffffff) := by
  simp only [values, numbers, List.all_cons, isSigned_nat, List.all_nil]
  rfl

theorem isWritable_lines (c : Config) : c.lines.all Line.isWritable = decide c.Signed := by
  have front : (c.row.all fun p => isSigned p.2) = true := by
    cases noDestinations : c.destinations <;> cases noReceivers : c.receivers <;>
      simp [row, emptyField, noDestinations, noReceivers, isSigned]
  have destinations : (c.destinations.all fun d => d.values.all fun p => isSigned p.2) =
      (c.destinations.flatMap Destination.numbers).all (· ≤ 0x7fffffffffffffff) := by
    simp only [List.all_flatMap, Destination.signed]
  have receivers : (nestedSections "receivers" "targets" Receiver.row Receiver.targets targetRow
      c.receivers).all hasSigned = true := by
    rw [nestedSections, List.all_flatMap, List.all_eq_true]
    exact fun r _ => r.signed
  calc c.lines.all Line.isWritable
    _ = (assigned c.row ++ c.sections).all hasSigned := by
      rw [← expressions_lines, List.all_map]
      exact congrArg c.lines.all (funext isWritable_eq)
    _ = ((c.destinations.flatMap Destination.numbers).all (· ≤ 0x7fffffffffffffff)
        && c.reconnect.numbers.all (· ≤ 0x7fffffffffffffff)) := by
      simp only [sections, List.all_append, List.all_cons, all_assigned, front, all_rowSections,
        destinations, receivers, Reconnect.signed]
      simp [hasSigned]
    _ = decide c.Signed := by
      rw [← List.all_append, Bool.eq_iff_iff, List.all_eq_true, decide_eq_true_iff]
      simp only [decide_eq_true_eq]
      rfl

/-! ### Configurations -/

theorem ofToml_lines (c : Config) (signed : c.Signed) :
    ofToml (String.ofList (c.lines.flatMap Line.write)) = .ok c := by
  have writable : ∀ line ∈ c.lines, line.isWritable = true := by
    rw [← List.all_eq_true, isWritable_lines, decide_eq_true signed]
  have parsed : Toml.parse? (String.ofList (c.lines.flatMap Line.write)) =
      some (.record (Toml.fields c.withReceivers ++ [("reconnect", .record c.reconnect.values)])) := by
    rw [Toml.parse?, String.toList_ofList, Toml.expressions?_lines c.bare writable]
    simp [document?_lines]
  rw [ofToml, parsed]
  simp [read_values .toml c c.document_perm, Except.mapError]

/-- A configuration whose numbers all fit in 63 bits has a document from which it is read back as it was;
any other has no document. -/
theorem document_read_back (c : Config) :
    (c.Signed → ∃ s, c.toml? = some s ∧ ofToml s = .ok c) ∧ (¬ c.Signed → c.toml? = none) := by
  have writes : c.toml? =
      if c.Signed then some (String.ofList (c.lines.flatMap Line.write)) else none := by
    rw [toml?, Toml.write?, isWritable_lines]
    simp
  constructor
  · intro signed
    exact ⟨_, by rw [writes, if_pos signed], c.ofToml_lines signed⟩
  · intro unsigned
    rw [writes, if_neg unsigned]

/-- Texts with runs of quotes, a leading newline, control characters and a byte order mark, a user name
that is empty, receivers without a target and with two, and numbers on both sides of the bound. -/
theorem document_read_back_texts :
    let destination : Destination :=
      { name := "\n\"\"\"'''\\", host := "\uFEFF\t#", port := 65535, username := some "",
        password := some "\r'", connectTimeoutMs := 0x7fffffffffffffff }
    let c : Config :=
      { name := "\x01\"\n", destinations := [destination, { destination with password := none }],
        receivers := [⟨"b", []⟩, ⟨"c", [⟨"m", "*", "'"⟩, ⟨"", "[]", "=\n"⟩]⟩] }
    let large : Destination := { destination with connectTimeoutMs := 0x8000000000000000 }
    (∃ s, c.toml? = some s ∧ ofToml s = .ok c) ∧ { c with destinations := [large] }.toml? = none :=
  ⟨(document_read_back _).1 (by decide), (document_read_back _).2 (by decide)⟩

end Switchboard.Config
