import Switchboard.Registry

/-!
When a registration is refused. A receiver is compared with those held, in their order, and it
conflicts with the first that has its destination and one of its claims.
-/
namespace Switchboard

theorem Receiver.handles_iff {r : Receiver} {t : Target} :
    r.handles t ↔ ∃ s ∈ r.selectors, s.claims t := by
  rw [handles, List.any_eq_true]

/-- Two receivers do not claim the same at one destination. -/
def Receiver.Apart (earlier later : Receiver) : Prop :=
  earlier.name = later.name → ∀ s ∈ later.selectors, s ∉ earlier.selectors

namespace Registry

/-- What is asked of a held receiver when another is compared with the registry. -/
theorem conflict_at_none {held r : Receiver} :
    (if held.name = r.name then r.selectors.find? (held.selectors.contains ·) else none) = none ↔
      held.Apart r := by
  simp only [ite_eq_right_iff, List.find?_eq_none, List.contains_iff_mem, Receiver.Apart]

theorem conflict_none {registry : Registry} {r : Receiver} :
    registry.conflict r = none ↔ ∀ held ∈ registry, held.Apart r := by
  simp only [conflict, List.findSome?_eq_none_iff, conflict_at_none]

theorem conflict_some {registry : Registry} {r : Receiver} {s : Selector}
    (found : registry.conflict r = some s) :
    ∃ held ∈ registry, held.name = r.name ∧ s ∈ held.selectors ∧ s ∈ r.selectors := by
  obtain ⟨held, listed, here⟩ := List.exists_of_findSome?_eq_some found
  split at here
  · next same =>
    have claimed := List.find?_some here
    exact ⟨held, listed, same, by simpa using claimed, List.mem_of_find?_eq_some here⟩
  · cases here

/-- Why a registration is refused: the receiver claims nothing, or a claim of it is taken. The
first receiver that has one of its claims is the one it is compared with, and the first of its
claims that this one has is named. -/
inductive Refusal (registry : Registry) (r : Receiver) : RegistryError → Prop
  | empty (nothing : r.selectors = []) : Refusal registry r (.emptyReceiver r.name)
  | taken {before later : List Receiver} {held : Receiver} {passed rest : List Selector} {s : Selector}
      (listed : registry = before ++ held :: later) (apart : ∀ other ∈ before, other.Apart r)
      (same : held.name = r.name) (claims : r.selectors = passed ++ s :: rest)
      (free : ∀ other ∈ passed, other ∉ held.selectors) (twice : s ∈ held.selectors) :
      Refusal registry r (.duplicateTarget r.name s.text)

theorem refusal_of_conflict {registry : Registry} {r : Receiver} {s : Selector}
    (found : registry.conflict r = some s) :
    Refusal registry r (.duplicateTarget r.name s.text) := by
  obtain ⟨before, held, later, listed, here, passed⟩ := List.findSome?_eq_some_iff.mp found
  have apart (other : Receiver) (earlier : other ∈ before) : other.Apart r :=
    conflict_at_none.mp (passed other earlier)
  split at here
  · next same =>
    obtain ⟨twice, skipped, rest, claims, free⟩ := List.find?_eq_some_iff_append.mp here
    refine .taken listed apart same claims (fun other early => ?_) (List.contains_iff_mem.mp twice)
    simpa using free other early
  · cases here

theorem Refusal.reason {registry : Registry} {r : Receiver} {e : RegistryError}
    (refusal : Refusal registry r e) :
    r.selectors = [] ∨ ∃ held ∈ registry, held.name = r.name ∧ ∃ s ∈ r.selectors, s ∈ held.selectors := by
  cases refusal with
  | empty nothing => exact .inl nothing
  | @taken before later held passed rest s listed _ same claims _ twice =>
    refine .inr ⟨held, ?_, same, s, ?_, twice⟩
    · rw [listed]
      exact List.mem_append_right before List.mem_cons_self
    · rw [claims]
      exact List.mem_append_right passed List.mem_cons_self

end Registry

end Switchboard
