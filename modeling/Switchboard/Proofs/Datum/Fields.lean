import Switchboard.Datum.Variant
import Switchboard.Proofs.Lookup

/-!
A record is read back from the fields that it declares. `Fits` follows the way in which `Fields` are
put together, so that a record fits as soon as each of its fields is read back.
-/
namespace Switchboard

namespace Fields

variable {α β : Type}

/-- The record declares fields of these names, each of which is given or may be absent, and what is given
makes up the value. -/
structure Fits (f : Fields α) (dialect : Dialect) (names : List String)
    (fields : List (String × Datum)) (a : α) : Prop where
  slots : f.slots.map (·.name) = names
  declared : ∀ p ∈ fields, p.1 ∈ names
  checked : ∀ p ∈ fields, ∀ slot, f.slots.find? (·.name == p.1) = some slot →
    slot.check dialect p.2 = .ok ()
  built : ∀ get : String → Option Datum, (∀ p ∈ fields, get p.1 = some p.2) →
    (∀ name ∈ names, name ∉ fields.map (·.1) → get name = none) → f.build dialect get = .ok a

theorem Fits.pure (dialect : Dialect) (a : α) : Fits (Fields.pure a) dialect [] [] a where
  slots := rfl
  declared := by simp
  checked := by simp
  built _ _ _ := rfl

section Extension

variable {f : Fields (α → β)} {dialect : Dialect} {names : List String}
  {fields : List (String × Datum)} {g : α → β}

/-- The slot of a field that was declared before is found as it was. -/
theorem Fits.earlier (fits : Fits f dialect names fields g) {name : String} {value : Decoder α}
    {absent : Option α} (new : name ∉ names) {p : String × Datum} (there : p ∈ fields) {slot : Slot}
    (found : (f.field name value absent).slots.find? (·.name == p.1) = some slot) :
    slot.check dialect p.2 = .ok () := by
  simp only [Fields.field, List.find?_append, Option.or_eq_some_iff] at found
  rcases found with old | ⟨_, added⟩
  · exact fits.checked p there slot old
  · rw [List.find?_singleton, Option.ite_none_right_eq_some] at added
    have same : name = p.1 := by simpa using added.1
    exact absurd (same ▸ fits.declared p there) new

theorem Fits.field (fits : Fits f dialect names fields g) {name : String} {value : Decoder α}
    {d : Datum} {a : α} (read : value dialect d = .ok a) (absent : Option α) (new : name ∉ names) :
    Fits (f.field name value absent) dialect (names ++ [name]) (fields ++ [(name, d)]) (g a) where
  slots := by simp [Fields.field, fits.slots]
  declared := by
    intro p there
    rcases List.mem_append.mp there with before | last
    · exact List.mem_append_left _ (fits.declared p before)
    · rw [List.mem_singleton] at last
      subst last
      simp
  checked := by
    intro p there slot found
    rcases List.mem_append.mp there with before | last
    · exact fits.earlier new before found
    · rw [List.mem_singleton] at last
      subst last
      simp only [Fields.field, List.find?_append, Option.or_eq_some_iff] at found
      rcases found with old | ⟨_, added⟩
      · -- A slot of that name would be one of the fields before.
        have named : slot.name = name := by simpa using List.find?_some old
        have known := List.mem_map_of_mem (f := (·.name)) (List.mem_of_find?_eq_some old)
        rw [fits.slots, named] at known
        exact absurd known new
      · rw [List.find?_singleton, Option.ite_none_right_eq_some] at added
        obtain ⟨_, only⟩ := added
        cases only
        simp [read, Except.map]
  built := by
    intro get given missing
    have before : f.build dialect get = .ok g := by
      apply fits.built get fun p there => given p (List.mem_append_left _ there)
      intro other declared ungiven
      apply missing other (List.mem_append_left _ declared)
      rw [List.map_append, List.mem_append, not_or]
      refine ⟨ungiven, ?_⟩
      rw [List.map_singleton, List.mem_singleton]
      rintro rfl
      exact new declared
    have here : get name = some d := given (name, d) (by simp)
    simp [Fields.field, before, here, read, bind, Except.bind, Except.map]

theorem Fits.required (fits : Fits f dialect names fields g) (name : String) {value : Decoder α}
    {d : Datum} {a : α} (read : value dialect d = .ok a) (new : name ∉ names) :
    Fits (f.required name value) dialect (names ++ [name]) (fields ++ [(name, d)]) (g a) :=
  fits.field read none new

theorem Fits.defaulted (fits : Fits f dialect names fields g) (name : String) {value : Decoder α}
    {d : Datum} {a : α} (read : value dialect d = .ok a) (absent : α) (new : name ∉ names) :
    Fits (f.defaulted name value absent) dialect (names ++ [name]) (fields ++ [(name, d)]) (g a) :=
  fits.field read (some absent) new

/-- A field that is left out stands for its default. -/
theorem Fits.absent (fits : Fits f dialect names fields g) (name : String) (value : Decoder α) (a : α)
    (new : name ∉ names) :
    Fits (f.defaulted name value a) dialect (names ++ [name]) fields (g a) where
  slots := by simp [Fields.defaulted, Fields.field, fits.slots]
  declared p there := List.mem_append_left _ (fits.declared p there)
  checked p there slot found := fits.earlier new there found
  built := by
    intro get given missing
    have before : f.build dialect get = .ok g :=
      fits.built get given fun other declared => missing other (List.mem_append_left _ declared)
    have here : get name = none := by
      apply missing name (by simp)
      intro there
      obtain ⟨p, given, rfl⟩ := List.mem_map.mp there
      exact new (fits.declared p given)
    simp [Fields.defaulted, Fields.field, before, here, bind, Except.bind]

end Extension

theorem Fits.optional {f : Fields (Option α → β)} {dialect : Dialect} {names : List String}
    {fields : List (String × Datum)} {g : Option α → β} (fits : Fits f dialect names fields g)
    (name : String) {value : Decoder α} {d : Datum} {a : Option α}
    (read : value.nullable dialect d = .ok a) (new : name ∉ names) :
    Fits (f.optional name value) dialect (names ++ [name]) (fields ++ [(name, d)]) (g a) :=
  fits.field read (some none) new

/-- A field of a value that may be absent, in which case the field is. -/
def given (name : String) (d : Option Datum) : List (String × Datum) := (d.map (name, ·)).toList

theorem Fits.given {f : Fields (Option α → β)} {dialect : Dialect} {names : List String}
    {fields : List (String × Datum)} {g : Option α → β} (fits : Fits f dialect names fields g)
    (name : String) {value : Decoder α} {datum : α → Datum}
    (read : ∀ a, value.nullable dialect (datum a) = .ok (some a)) (a : Option α) (new : name ∉ names) :
    Fits (f.optional name value) dialect (names ++ [name]) (fields ++ given name (a.map datum)) (g a) := by
  cases a with
  | none =>
    rw [Option.map_none, Fields.given, Option.map_none, Option.toList_none, List.append_nil]
    exact fits.absent name value.nullable none new
  | some a => exact fits.optional name (read a) new

/-- The order of what is given does not matter. -/
theorem Fits.perm {f : Fields α} {dialect : Dialect} {names : List String}
    {fields others : List (String × Datum)} {a : α} (fits : Fits f dialect names fields a)
    (same : others.Perm fields) : Fits f dialect names others a where
  slots := fits.slots
  declared p there := fits.declared p (same.mem_iff.mp there)
  checked p there := fits.checked p (same.mem_iff.mp there)
  built get given missing := by
    apply fits.built get fun p there => given p (same.mem_iff.mpr there)
    intro name declared ungiven
    exact missing name declared fun there => ungiven ((same.map (·.1)).mem_iff.mp there)

theorem checkNamed_ok {slots : List Slot} {dialect : Dialect} {fields : List (String × Datum)}
    (distinct : (fields.map (·.1)).Nodup)
    (checked : ∀ p ∈ fields, ∀ slot, slots.find? (·.name == p.1) = some slot →
      slot.check dialect p.2 = .ok ())
    {seen : List String} (unseen : ∀ name ∈ fields.map (·.1), name ∉ seen) :
    checkNamed slots dialect seen fields = .ok () := by
  induction fields generalizing seen with
  | nil => rfl
  | cons p rest ih =>
    obtain ⟨name, d⟩ := p
    rw [List.map_cons, List.nodup_cons] at distinct
    have later := fun p there => checked p (List.mem_cons_of_mem _ there)
    unfold checkNamed
    cases found : slots.find? (·.name == name) with
    | none =>
      dsimp only
      exact ih distinct.2 later fun other there => unseen other (List.mem_cons_of_mem _ there)
    | some slot =>
      have ok : slot.check dialect d = .ok () := checked (name, d) List.mem_cons_self slot found
      dsimp only
      rw [if_neg (unseen name List.mem_cons_self), ok]
      apply ih distinct.2 later
      intro other there seenNow
      rcases List.mem_cons.mp seenNow with rfl | before
      · exact distinct.1 there
      · exact unseen other (List.mem_cons_of_mem _ there) before

theorem Fits.ofNamed {f : Fields α} {dialect : Dialect} {names : List String}
    {fields : List (String × Datum)} {a : α} (fits : Fits f dialect names fields a)
    (distinct : (fields.map (·.1)).Nodup) : f.ofNamed dialect fields = .ok a := by
  have checked : checkNamed f.slots dialect [] fields = .ok () :=
    checkNamed_ok distinct fits.checked (by simp)
  have built : f.build dialect (fields.lookup ·) = .ok a := by
    apply fits.built (fields.lookup ·) fun p there => lookup_of_mem distinct there
    exact fun name _ ungiven => lookup_of_not_mem ungiven
  simp [Fields.ofNamed, checked, built, bind, Except.bind]

end Fields

end Switchboard
