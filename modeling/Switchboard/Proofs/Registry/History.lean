import Mathlib.Data.List.Nodup
import Mathlib.Data.List.Range
import Switchboard.Proofs.Registry.Conflict

/-!
What a registry holds after any history of registrations and removals: the receivers whose
registration was accepted and whose destination was not removed since, in that order. Each claims
something, and no two of one destination claim the same. A registration is refused for a receiver
that claims nothing or for a claim that is taken, and names the first taken one.

An edit of either kind spares some of the receivers and adds at most one (`apply_fst`); all that
is said of a history follows from this by induction on its last edit.
-/
namespace Switchboard

namespace Registry

/-! ### Edits -/

inductive Edit
  | register (r : Receiver)
  | unregister (name : String)
deriving DecidableEq

inductive Answer
  | registered
  | refused (e : RegistryError)
  | removed (count : Nat)
deriving DecidableEq

namespace Edit

def apply (registry : Registry) : Edit → Registry × Answer
  | .register r =>
    match registry.register r with
    | .ok after => (after, .registered)
    | .error e => (registry, .refused e)
  | .unregister name =>
    let (kept, count) := registry.unregister name
    (kept, .removed count)

/-- The receiver that an edit adds. -/
def added? (registry : Registry) : Edit → Option Receiver
  | .register r => if ((register r).apply registry).2 = .registered then some r else none
  | .unregister _ => none

/-- An edit spares a receiver unless it removes its destination. -/
def spares (e : Edit) (r : Receiver) : Bool := e ≠ .unregister r.name

@[simp] theorem register_spares (r other : Receiver) : (register r).spares other = true := by
  simp [spares]

theorem unregister_spares (name : String) (r : Receiver) :
    (unregister name).spares r = (r.name != name) := by
  rw [Bool.eq_iff_iff, bne_iff_ne, ne_comm]
  simp [spares]

end Edit

/-- The registry after a history. -/
def after (history : List Edit) : Registry :=
  history.foldl (fun registry e => (e.apply registry).1) []

/-- The receiver that was registered at a place of a history and has not been removed since. -/
def standing? (history : List Edit) (k : Nat) : Option Receiver :=
  (history[k]?.bind (·.added? (after (history.take k)))).filter fun r =>
    (history.drop (k + 1)).all (·.spares r)

@[simp] theorem after_nil : after [] = [] := rfl

theorem after_concat (history : List Edit) (e : Edit) :
    after (history ++ [e]) = (e.apply (after history)).1 := by
  simp [after]

/-! ### One registration -/

theorem register_apply (registry : Registry) (r : Receiver) :
    ((r.selectors ≠ [] ∧ ∀ held ∈ registry, held.Apart r) ∧
        (Edit.register r).apply registry = (registry ++ [r], .registered)) ∨
      ∃ e, Refusal registry r e ∧ (Edit.register r).apply registry = (registry, .refused e) := by
  by_cases nothing : r.selectors = []
  · right
    refine ⟨_, .empty nothing, ?_⟩
    simp only [Edit.apply, register, if_pos nothing]
  · cases found : registry.conflict r with
    | none =>
      left
      refine ⟨⟨nothing, conflict_none.mp found⟩, ?_⟩
      simp only [Edit.apply, register, if_neg nothing, found]
    | some s =>
      right
      refine ⟨_, refusal_of_conflict found, ?_⟩
      simp only [Edit.apply, register, if_neg nothing, found]

theorem refused_iff {registry : Registry} {r : Receiver} :
    (∃ e, ((Edit.register r).apply registry).2 = .refused e) ↔
      r.selectors = [] ∨
        ∃ held ∈ registry, held.name = r.name ∧ ∃ s ∈ r.selectors, s ∈ held.selectors := by
  rcases register_apply registry r with ⟨⟨claims, apart⟩, accepted⟩ | ⟨e, refusal, refused⟩
  · rw [accepted]
    constructor
    · rintro ⟨e, other⟩
      cases other
    · rintro (nothing | ⟨held, listed, same, s, claimed, twice⟩)
      · exact absurd nothing claims
      · exact absurd twice (apart held listed same s claimed)
  · exact ⟨fun _ => refusal.reason, fun _ => ⟨e, by rw [refused]⟩⟩

/-! ### One edit -/

theorem unregister_apply {registry : Registry} {name : String} :
    (Edit.unregister name).apply registry =
      (registry.filter (·.name != name), .removed (registry.countP (·.name == name))) := by
  have counted : registry.length - (registry.filter (·.name != name)).length =
      registry.countP (·.name == name) := by
    have whole := registry.length_eq_countP_add_countP (·.name == name)
    have others : registry.countP (fun r => !(r.name == name)) =
        (registry.filter (·.name != name)).length := List.countP_eq_length_filter
    simp only [Bool.not_eq_true, Bool.decide_eq_false] at whole
    omega
  simp only [Edit.apply, unregister, counted]

theorem apply_fst (registry : Registry) (e : Edit) :
    (e.apply registry).1 = registry.filter e.spares ++ (e.added? registry).toList := by
  cases e with
  | register r =>
    have all : registry.filter (Edit.register r).spares = registry := by
      rw [List.filter_eq_self]
      exact fun other _ => Edit.register_spares r other
    rcases register_apply registry r with ⟨_, accepted⟩ | ⟨e, _, refused⟩
    · rw [all, Edit.added?, accepted, if_pos rfl, Option.toList_some]
    · rw [all, Edit.added?, refused, if_neg (by simp), Option.toList_none, List.append_nil]
  | unregister name =>
    have kept : registry.filter (Edit.unregister name).spares = registry.filter (·.name != name) :=
      List.filter_congr fun r _ => Edit.unregister_spares name r
    rw [unregister_apply, kept, Edit.added?, Option.toList_none, List.append_nil]

/-! ### Histories -/

/-- What stood stands unless the last edit removes it. -/
theorem standing?_concat {history : List Edit} {k : Nat} (early : k < history.length) (e : Edit) :
    standing? (history ++ [e]) k = (standing? history k).filter e.spares := by
  have begun : k ≤ history.length := early.le
  rw [standing?, standing?, List.getElem?_append_left early, List.take_append_of_le_length begun,
    List.drop_append_of_le_length early, Option.filter_filter]
  congr 1
  funext r
  rw [List.all_append, List.all_cons, List.all_nil, Bool.and_true]

theorem standing?_last (history : List Edit) (e : Edit) :
    standing? (history ++ [e]) history.length = e.added? (after history) := by
  have ended : (history ++ [e]).drop (history.length + 1) = [] := by simp
  simp only [standing?, List.getElem?_concat_length, Option.bind_some, List.take_left, ended,
    List.all_nil]
  cases e.added? (after history) <;> rfl

theorem after_eq_standing (history : List Edit) :
    after history = (List.range history.length).filterMap (standing? history) := by
  induction history using List.reverseRecOn with
  | nil => rfl
  | append_singleton history e ih =>
    have earlier : (List.range history.length).filterMap (standing? (history ++ [e])) =
        (after history).filter e.spares := by
      rw [ih, List.filter_filterMap]
      refine List.filterMap_congr fun k listed => ?_
      exact standing?_concat (List.mem_range.mp listed) e
    have last : [history.length].filterMap (standing? (history ++ [e])) =
        (e.added? (after history)).toList := by
      rw [← standing?_last, List.filterMap_cons, List.filterMap_nil]
      cases standing? (history ++ [e]) history.length <;> rfl
    rw [after_concat, apply_fst, List.length_append, List.length_singleton, List.range_succ,
      List.filterMap_append, earlier, last]

/-- Receivers claim something, and those of one destination do not claim the same. -/
structure Settled (registry : Registry) : Prop where
  claims : ∀ r ∈ registry, r.selectors ≠ []
  apart : registry.Pairwise Receiver.Apart

theorem Settled.apply {registry : Registry} (settled : Settled registry) (e : Edit) :
    Settled (e.apply registry).1 := by
  cases e with
  | register r =>
    rcases register_apply registry r with ⟨⟨claims, apart⟩, accepted⟩ | ⟨e, _, refused⟩
    · rw [accepted]
      constructor
      · intro other listed
        rcases List.mem_append.mp listed with held | new
        · exact settled.claims other held
        · rwa [List.mem_singleton.mp new]
      · refine List.pairwise_append.mpr ⟨settled.apart, List.pairwise_singleton _ _, ?_⟩
        intro held listed other new
        rw [List.mem_singleton.mp new]
        exact apart held listed
    · rw [refused]
      exact settled
  | unregister name =>
    rw [unregister_apply]
    exact ⟨fun r kept => settled.claims r (List.mem_of_mem_filter kept), settled.apart.filter _⟩

theorem settled_after (history : List Edit) : Settled (after history) := by
  induction history using List.reverseRecOn with
  | nil => exact ⟨fun _ absent => (List.not_mem_nil absent).elim, List.Pairwise.nil⟩
  | append_singleton history e ih =>
    rw [after_concat]
    exact ih.apply e

/-! ### What a registry holds -/

theorem receivers_standing (history : List Edit) :
    after history = (List.range history.length).filterMap (standing? history) ∧
      ((∀ r ∈ after history, r.selectors ≠ []) ∧ (after history).Pairwise Receiver.Apart) ∧
      (∀ r : Receiver,
        ((∃ e, ((Edit.register r).apply (after history)).2 = .refused e) ↔
          r.selectors = [] ∨ ∃ held ∈ after history, held.name = r.name ∧
            ∃ s ∈ r.selectors, s ∈ held.selectors) ∧
        ((Edit.register r).apply (after history) = (after history ++ [r], .registered) ∨
          ∃ e, Refusal (after history) r e ∧
            (Edit.register r).apply (after history) = (after history, .refused e))) ∧
      (∀ name : String, (Edit.unregister name).apply (after history) =
        ((after history).filter (·.name != name),
          .removed ((after history).countP (·.name == name)))) ∧
      ∀ t : Target, (after history).candidates t =
        (after history).filter fun r => ∃ s ∈ r.selectors, s.claims t := by
  refine ⟨after_eq_standing history, ⟨(settled_after history).claims, (settled_after history).apart⟩,
    fun r => ⟨refused_iff, ?_⟩, fun name => unregister_apply, fun t => ?_⟩
  · exact (register_apply (after history) r).imp_left And.right
  · refine List.filter_congr fun r _ => ?_
    rw [Bool.eq_iff_iff, Receiver.handles_iff, decide_eq_true_iff]

/-- One receiver was refused at first and comes in when the one before it is gone. -/
def reentry : List Edit :=
  [.register ⟨0, "near", [⟨"a", "*", "*"⟩, ⟨"b", "*", "*"⟩]⟩, .register ⟨0, "near", [⟨"b", "*", "*"⟩]⟩,
    .register ⟨1, "far", [⟨"b", "*", "*"⟩]⟩, .unregister "near", .register ⟨2, "near", [⟨"b", "*", "*"⟩]⟩]

theorem receivers_standing_reentry :
    after reentry = [⟨1, "far", [⟨"b", "*", "*"⟩]⟩, ⟨2, "near", [⟨"b", "*", "*"⟩]⟩] ∧
      (List.range reentry.length).filterMap (standing? reentry) = after reentry ∧
      (after reentry).Pairwise Receiver.Apart ∧
      ∃ e, ((Edit.register ⟨3, "far", []⟩).apply (after reentry)).2 = .refused e := by
  obtain ⟨standing, ⟨_, apart⟩, refused, _⟩ := receivers_standing reentry
  exact ⟨by decide, standing.symm, apart, (refused ⟨3, "far", []⟩).1.mpr (.inl rfl)⟩

end Registry

end Switchboard
