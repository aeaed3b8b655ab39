import Mathlib.Data.List.Nodup

/-!
Values that are known by name, or by another key, in a list in which no key stands twice.
-/
namespace Switchboard

section

variable {κ α : Type} [BEq κ] [LawfulBEq κ] {entries : List (κ × α)}

theorem lookup_of_mem (distinct : (entries.map (·.1)).Nodup) {p : κ × α} (there : p ∈ entries) :
    entries.lookup p.1 = some p.2 := by
  induction entries with
  | nil => cases there
  | cons q rest ih =>
    rw [List.map_cons, List.nodup_cons] at distinct
    rcases List.mem_cons.mp there with rfl | later
    · rw [List.lookup_cons, beq_self_eq_true]
    · have other : (p.1 == q.1) = false := by
        rw [beq_eq_false_iff_ne]
        intro same
        exact distinct.1 (same ▸ List.mem_map_of_mem later)
      rw [List.lookup_cons, other]
      exact ih distinct.2 later

theorem lookup_of_not_mem {name : κ} (absent : name ∉ entries.map (·.1)) :
    entries.lookup name = none := by
  rw [List.lookup_eq_none_iff]
  intro p there
  rw [bne_iff_ne]
  rintro rfl
  exact absent (List.mem_map_of_mem there)

theorem mem_of_lookup {name : κ} {a : α} (found : entries.lookup name = some a) :
    (name, a) ∈ entries := by
  obtain ⟨before, after, split, _⟩ := List.lookup_eq_some_iff.mp found
  rw [split]
  exact List.mem_append_right before List.mem_cons_self

end

/-- A value is found by its own key. -/
theorem find?_of_mem {κ α : Type} [BEq κ] [LawfulBEq κ] {key : α → κ} {values : List α}
    (distinct : (values.map key).Nodup) {a : α} (there : a ∈ values) :
    values.find? (key · == key a) = some a := by
  induction values with
  | nil => cases there
  | cons b rest ih =>
    rw [List.map_cons, List.nodup_cons] at distinct
    rcases List.mem_cons.mp there with rfl | later
    · exact List.find?_cons_of_pos (p := (key · == key a)) (beq_self_eq_true (key a))
    · have other : ¬ (key b == key a) = true := by
        rw [beq_iff_eq]
        intro same
        exact distinct.1 (same ▸ List.mem_map_of_mem later)
      exact (List.find?_cons_of_neg (p := (key · == key a)) other).trans (ih distinct.2 later)

/-- What comes under another name is not in the way. -/
theorem lookup_concat_of_ne {α : Type} {name other : String} (different : other ≠ name)
    (entries : List (String × α)) (a : α) :
    (entries ++ [(name, a)]).lookup other = entries.lookup other := by
  have unequal : (other == name) = false := beq_eq_false_iff_ne.mpr different
  simp [List.lookup_append, List.lookup_cons, unequal]

/-- A name is found under its place. -/
theorem lookup_zipIdx {names : List String} (distinct : names.Nodup) {i : Nat} {name : String}
    (there : names[i]? = some name) : names.zipIdx.lookup name = some i := by
  have listed : (names.zipIdx.map (·.1)).Nodup := by rwa [List.zipIdx_map_fst]
  exact lookup_of_mem listed (List.mk_mem_zipIdx_iff_getElem?.mpr there)

end Switchboard
