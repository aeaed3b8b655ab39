import Switchboard.Target
import Mathlib.Data.List.TakeWhile

/-!
Which texts are targets, and what a target is written as. The interface begins behind the first
exclamation mark of a text; in front of it stands the path, which one slash has to part into a module and a
component. Nothing else of a text is looked at, and nothing of it is lost but a missing exclamation mark.
-/
namespace Switchboard.Target

/-! ### Cutting at a separator -/

section Cut

variable {sep : Char} {cs : List Char}

theorem cutAt_eq_none : cutAt sep cs = none ↔ sep ∉ cs := by
  induction cs with
  | nil => simp [cutAt]
  | cons c rest ih =>
    rw [cutAt]
    split
    · next same => simp [same]
    · next other => simp [ih, Ne.symm other]

/-- A text is cut at its first separator. -/
theorem cutAt_eq_some {before after : List Char} :
    cutAt sep cs = some (before, after) ↔ cs = before ++ sep :: after ∧ sep ∉ before := by
  induction cs generalizing before with
  | nil => simp [cutAt]
  | cons c rest ih =>
    rw [cutAt]
    split
    · next same =>
      -- The text begins with the separator, so it can only be cut with nothing in front.
      subst same
      cases before with
      | nil => simp
      | cons b before =>
        simp only [Option.some.injEq, Prod.mk.injEq, List.cons_append, List.cons.injEq, List.mem_cons]
        constructor
        · rintro ⟨⟨⟩, -⟩
        · rintro ⟨⟨rfl, -⟩, first⟩
          exact absurd (.inl rfl) first
    · next other =>
      cases before with
      | nil => simp [other]
      | cons b before =>
        rw [Option.map_eq_some_iff]
        constructor
        · rintro ⟨⟨_, _⟩, found, ⟨⟩⟩
          obtain ⟨rfl, first⟩ := ih.mp found
          exact ⟨rfl, by simp [first, Ne.symm other]⟩
        · rintro ⟨split, first⟩
          obtain ⟨rfl, rest⟩ := List.cons.inj split
          rw [List.mem_cons, not_or] at first
          exact ⟨(before, after), ih.mpr ⟨rest, first.2⟩, rfl⟩

end Cut

/-! ### Paths -/

/-- What stands in front of the first exclamation mark, or the whole text if there is none. -/
def path (s : String) : List Char := s.toList.takeWhile (· != '!')

/-- There is one slash, and something on each side of it. -/
def Parted (path : List Char) : Prop :=
  path.count '/' = 1 ∧ ∃ moduleName component, moduleName ≠ [] ∧ component ≠ [] ∧
    path = moduleName ++ '/' :: component

/-- A target whose text can be taken apart again: the names of its module and of its component are not
empty and hold no separator. Its interface may be anything. -/
structure Plain (t : Target) : Prop where
  moduleName : t.moduleName.toList ≠ [] ∧ '/' ∉ t.moduleName.toList ∧ '!' ∉ t.moduleName.toList
  component : t.component.toList ≠ [] ∧ '/' ∉ t.component.toList ∧ '!' ∉ t.component.toList

instance (t : Target) : Decidable t.Plain :=
  decidable_of_iff (_ ∧ _) ⟨fun ⟨m, c⟩ => ⟨m, c⟩, fun ⟨m, c⟩ => ⟨m, c⟩⟩

theorem parted_iff {cs : List Char} : Parted cs ↔ ∃ m c : List Char, (m ≠ [] ∧ '/' ∉ m) ∧
    (c ≠ [] ∧ '/' ∉ c) ∧ cs = m ++ '/' :: c := by
  constructor
  · rintro ⟨one, m, c, some, other, rfl⟩
    rw [List.count_append, List.count_cons_self] at one
    have none : m.count '/' = 0 ∧ c.count '/' = 0 := by omega
    rw [List.count_eq_zero, List.count_eq_zero] at none
    exact ⟨m, c, ⟨some, none.1⟩, ⟨other, none.2⟩, rfl⟩
  · rintro ⟨m, c, ⟨some, first⟩, ⟨other, last⟩, rfl⟩
    refine ⟨?_, m, c, some, other, rfl⟩
    rw [List.count_append, List.count_cons_self, List.count_eq_zero.mpr first, List.count_eq_zero.mpr last]

/-- What stands behind the first exclamation mark, if there is one. -/
def interfaceOf (s : String) : List Char := s.toList.drop ((path s).length + 1)

/-- A text with the exclamation mark that it may leave out at its end. -/
def marked (s : String) : String := if '!' ∈ s.toList then s else s ++ "!"

theorem path_unmarked (s : String) : '!' ∉ path s := by
  intro there
  simpa using List.mem_takeWhile_imp there

theorem path_append {s : String} {before after : List Char} (split : s.toList = before ++ '!' :: after)
    (first : '!' ∉ before) : path s = before := by
  have passed : ∀ c ∈ before, (c != '!') = true := by
    intro c there
    exact bne_iff_ne.mpr (ne_of_mem_of_not_mem there first)
  rw [path, split, List.takeWhile_append_of_pos passed]
  simp

theorem path_eq_self {s : String} (unmarked : '!' ∉ s.toList) : path s = s.toList := by
  rw [path, List.takeWhile_eq_self_iff]
  intro c there
  exact bne_iff_ne.mpr (ne_of_mem_of_not_mem there unmarked)

/-- What is read of a text: its path, and the interface behind it. -/
theorem getD_cutAt (s : String) :
    (cutAt '!' s.toList).getD (s.toList, []) = (path s, interfaceOf s) := by
  cases cut : cutAt '!' s.toList with
  | none =>
    rw [Option.getD_none, interfaceOf, path_eq_self (cutAt_eq_none.mp cut),
      List.drop_eq_nil_of_le (Nat.le_succ _)]
  | some parts =>
    obtain ⟨before, after⟩ := parts
    obtain ⟨split, first⟩ := cutAt_eq_some.mp cut
    rw [Option.getD_some, interfaceOf, path_append split first, split, ← List.drop_drop, List.drop_left]
    rfl

theorem toList_marked (s : String) : (marked s).toList = path s ++ '!' :: interfaceOf s := by
  by_cases there : '!' ∈ s.toList
  · obtain ⟨before, after, split, first⟩ := List.eq_append_cons_of_mem there
    rw [marked, if_pos there, interfaceOf, path_append split first, split, ← List.drop_drop, List.drop_left]
    rfl
  · rw [marked, if_neg there, interfaceOf, path_eq_self there, List.drop_eq_nil_of_le (Nat.le_succ _),
      String.toList_append]
    rfl

/-! ### Reading -/

/-- A target is read from the path of a text and what stands behind it. -/
theorem parse_eq_ok {s : String} {t : Target} : parse s = .ok t ↔ ∃ m c : List Char,
    (m ≠ [] ∧ '/' ∉ m) ∧ (c ≠ [] ∧ '/' ∉ c) ∧ path s = m ++ '/' :: c ∧
      t = ⟨String.ofList m, String.ofList c, String.ofList (interfaceOf s)⟩ := by
  simp only [parse, getD_cutAt]
  constructor
  · intro read
    split at read
    · next m ms c cs cut =>
      obtain ⟨split, first⟩ := cutAt_eq_some.mp cut
      split at read
      · cases read
      · next last =>
        cases read
        exact ⟨_, _, ⟨List.cons_ne_nil m ms, first⟩, ⟨List.cons_ne_nil c cs, last⟩, split, rfl⟩
    · cases read
  · rintro ⟨m, c, ⟨some, first⟩, ⟨other, last⟩, split, rfl⟩
    obtain ⟨x, m, rfl⟩ := List.exists_cons_of_ne_nil some
    obtain ⟨y, c, rfl⟩ := List.exists_cons_of_ne_nil other
    simp only [cutAt_eq_some.mpr ⟨split, first⟩, if_neg last]

theorem parse_error {s : String} {e : ParseError} (refused : parse s = .error e) : e = ⟨s⟩ := by
  unfold parse at refused
  dsimp only at refused
  split at refused
  · split at refused <;> cases refused
    rfl
  · cases refused
    rfl

/-- What is read is written as the text it was read from, with its exclamation mark. -/
theorem text_of_parse {s : String} {t : Target} (read : parse s = .ok t) : t.text = marked s := by
  obtain ⟨m, c, -, -, split, rfl⟩ := parse_eq_ok.mp read
  apply String.toList_injective
  rw [toList_marked, split]
  simp [text]

theorem plain_of_parse {s : String} {t : Target} (read : parse s = .ok t) : t.Plain := by
  obtain ⟨m, c, named, owned, split, rfl⟩ := parse_eq_ok.mp read
  have unmarked := path_unmarked s
  rw [split, List.mem_append, List.mem_cons, not_or, not_or] at unmarked
  constructor
  · rw [String.toList_ofList]
    exact ⟨named.1, named.2, unmarked.1⟩
  · rw [String.toList_ofList]
    exact ⟨owned.1, owned.2, unmarked.2.2⟩

theorem Plain.parse_text {t : Target} (plain : t.Plain) : parse t.text = .ok t := by
  obtain ⟨⟨some, named, unmarked⟩, other, owned, unmarked'⟩ := plain
  have split : t.text.toList =
      (t.moduleName.toList ++ '/' :: t.component.toList) ++ '!' :: t.interface.toList := by
    simp [text]
  have first : '!' ∉ t.moduleName.toList ++ '/' :: t.component.toList := by
    simp [unmarked, unmarked']
  have behind : interfaceOf t.text = t.interface.toList := by
    rw [interfaceOf, path_append split first, split, ← List.drop_drop, List.drop_left]
    rfl
  refine parse_eq_ok.mpr ⟨_, _, ⟨some, named⟩, ⟨other, owned⟩, path_append split first, ?_⟩
  rw [behind]
  simp only [String.ofList_toList]

/-- A text is a target exactly if its path is parted by one slash, and it is what the target is written as,
up to the exclamation mark; the targets that are read are those that are read back from what they are
written as. -/
theorem text_form :
    (∀ s, (∃ t, parse s = .ok t) ↔ Parted (path s)) ∧
      (∀ s, ¬ Parted (path s) → parse s = .error ⟨s⟩) ∧
      (∀ s t, parse s = .ok t → t.text = (if '!' ∈ s.toList then s else s ++ "!") ∧ t.Plain) ∧
      ∀ t : Target, t.Plain → parse t.text = .ok t := by
  have parted (s : String) : (∃ t, parse s = .ok t) ↔ Parted (path s) := by
    rw [parted_iff]
    constructor
    · rintro ⟨t, read⟩
      obtain ⟨m, c, named, owned, split, -⟩ := parse_eq_ok.mp read
      exact ⟨m, c, named, owned, split⟩
    · rintro ⟨m, c, named, owned, split⟩
      exact ⟨_, parse_eq_ok.mpr ⟨m, c, named, owned, split, rfl⟩⟩
  refine ⟨parted, ?_, fun s t read => ⟨text_of_parse read, plain_of_parse read⟩,
    fun t plain => plain.parse_text⟩
  intro s apart
  cases read : parse s with
  | ok t => exact absurd ((parted s).mp ⟨t, read⟩) apart
  | error e => rw [parse_error read]

/-- An interface with both separators in it, one that is left out, and a second slash in a path. -/
theorem text_form_separators :
    parse "m/c!i/x!y" = .ok ⟨"m", "c", "i/x!y"⟩ ∧
      parse (Target.text ⟨"m", "c", "i/x!y"⟩) = .ok ⟨"m", "c", "i/x!y"⟩ ∧
      Target.text ⟨"m", "c", ""⟩ = "m/c!" ∧ parse "m/c/d!i" = .error ⟨"m/c/d!i"⟩ := by
  have read : parse "m/c" = .ok ⟨"m", "c", ""⟩ := by decide
  have apart : ¬ Parted (path "m/c/d!i") := by
    rintro ⟨one, -⟩
    revert one
    decide
  exact ⟨by decide, text_form.2.2.2 ⟨"m", "c", "i/x!y"⟩ (by decide), (text_form.2.2.1 _ _ read).1,
    text_form.2.1 _ apart⟩

end Switchboard.Target
