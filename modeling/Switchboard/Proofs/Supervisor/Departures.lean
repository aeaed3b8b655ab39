import Switchboard.Proofs.Connection.Handles
import Switchboard.Proofs.Connection.OutOfService
import Switchboard.Proofs.Supervisor.Down

/-!
Where the destinations of a client are. One that was added is in the table, or its unloading is under
way, or it is out of service: an unloading takes it out of the table first and tears it down last. So it
is after every turn of a client and its supervisor, of which the destinations notice an action at most.
-/
namespace Switchboard

instance (d : Destination) : Decidable d.OutOfService :=
  inferInstanceAs (Decidable (d.retired = true ∧ d.live = none ∧ d.state ≠ .connected))

namespace Client

variable {T : Type} [Transport T]

instance (c : Client T) (i : Nat) : Decidable (c.OutOfService i) :=
  decidable_of_iff ((c.destinations[i]?).any (decide ·.OutOfService) = true) <| by
    simp [OutOfService, Option.any_eq_true]

/-- The destinations whose unloading has still to tear them down, after an action. They are out of the
table already. -/
def Action.leaving (c : Client T) (leaving : List Nat) : Action T → List Nat
  | .removeFromTable name =>
    leaving ++ ((c.table.filter (·.1 == name)).map (·.2)).filter (¬c.OutOfService ·)
  | .disconnect i =>
    if (c.destinations[i]?).any (·.retired) then leaving.filter (· != i) else leaving
  | _ => leaving

/-- Every destination is loaded, on its way out, or out of service. -/
def Housed (leaving : List Nat) (c : Client T) : Prop :=
  ∀ i < c.destinations.length, i ∈ c.loaded ∨ i ∈ leaving ∨ c.OutOfService i

/-- A destination that is on its way out stays so until it is out of service. -/
theorem leaves {c : Client T} {leaving : List Nat} {i : Nat} (listed : i ∈ leaving) (a : Action T) :
    i ∈ a.leaving c leaving ∨ (c.act a).OutOfService i := by
  cases a with
  | removeFromTable name => exact .inl (List.mem_append_left _ listed)
  | disconnect j =>
    have rest : (Action.disconnect j : Action T).leaving c leaving =
        if (c.destinations[j]?).any (·.retired) then leaving.filter (· != j) else leaving := rfl
    rw [rest]
    split
    case isFalse => exact .inl listed
    case isTrue down =>
      by_cases here : i = j
      · subst here
        obtain ⟨d, found, retired⟩ := (Option.any_eq_true _ _).mp down
        exact .inr (outOfService_disconnect found retired)
      · exact .inl (List.mem_filter.mpr ⟨listed, bne_iff_ne.mpr here⟩)
  | _ => exact .inl listed

/-- What is loaded stays loaded, or is taken out of the table. -/
theorem Acted.loaded {c c' : Client T} {a : Action T} (acted : Acted c a c') {leaving : List Nat}
    {i : Nat} (there : i ∈ c.loaded) (on : ¬c.OutOfService i) :
    i ∈ c'.loaded ∨ i ∈ a.leaving c leaving := by
  have same (table : c'.table = c.table) : i ∈ c'.loaded := by
    unfold Client.loaded
    rwa [table]
  cases acted with
  | moved moves => exact .inl (same (Aloof.of_moves (moves none)).table)
  | attempted running moves => exact .inl (same (Aloof.of_moves moves).table)
  | @called id call => exact .inl (same (registry_stepCall c id call).2)
  | requested => exact .inl there
  | @abandoned id call calling =>
    left
    apply same
    simp only [abandonCall, calling]
    cases call.sending? <;> rfl
  | added =>
    left
    unfold Client.loaded
    rw [List.map_append]
    exact List.mem_append_left _ there
  | @removed name =>
    obtain ⟨p, listed, rfl⟩ := List.mem_map.mp there
    by_cases named : p.1 = name
    · right
      have taken : p.2 ∈ (c.table.filter (·.1 == name)).map (·.2) :=
        List.mem_map_of_mem (List.mem_filter.mpr ⟨listed, beq_iff_eq.mpr named⟩)
      exact List.mem_append_right _ (List.mem_filter.mpr ⟨taken, decide_eq_true on⟩)
    · left
      refine List.mem_map.mpr ⟨p, ?_, rfl⟩
      exact List.mem_filter.mpr ⟨listed, bne_iff_ne.mpr named⟩
  | registered => exact .inl there
  | unregistered => exact .inl there

/-- A destination that was not there before is loaded. -/
theorem Acted.loaded_new {c c' : Client T} {a : Action T} (acted : Acted c a c')
    (numbered : c.Numbered) {i : Nat} (late : c.destinations.length ≤ i)
    (within : i < c'.destinations.length) : i ∈ c'.loaded := by
  have unknown : c.ledger i = none := by
    rw [ledger, List.getElem?_eq_none late, Option.map_none]
  have impossible (unmoved : c'.ledger i = none) : i ∈ c'.loaded := by
    rw [ledger, List.getElem?_eq_getElem within] at unmoved
    cases unmoved
  cases acted with
  | moved moves => exact impossible ((ledger_moves (moves none) numbered i).1 unknown)
  | attempted running moves => exact impossible ((ledger_moves moves numbered i).1 unknown)
  | @called id call =>
    have moves := moves_advance c id call
    have stays := (ledger_moves moves numbered i).1 unknown
    apply impossible
    unfold stepCall
    generalize c.advance id call = r at stays
    obtain ⟨c₁, call | result⟩ := r
    · exact stays
    · exact stays
  | requested => exact impossible unknown
  | @abandoned id call calling =>
    exact impossible ((ledger_unmoved (unmoved_abandonCall c id) i).trans unknown)
  | @added d new =>
    have last : i = c.destinations.length := by
      rw [List.length_append, List.length_singleton] at within
      omega
    refine List.mem_map.mpr ⟨(d.name, c.destinations.length), ?_, last.symm⟩
    exact List.mem_append_right _ (List.mem_singleton_self _)
  | removed => exact impossible unknown
  | registered => exact impossible unknown
  | unregistered => exact impossible unknown

theorem Housed.act {c : Client T} {leaving : List Nat} (housed : c.Housed leaving)
    (numbered : c.Numbered) (a : Action T) : (c.act a).Housed (a.leaving c leaving) := by
  intro i within
  have acted := acted_act numbered a
  rcases Nat.lt_or_ge i c.destinations.length with known | new
  · by_cases out : c.OutOfService i
    · exact .inr (.inr (out.act numbered a))
    rcases housed i known with there | listed | out'
    · exact (acted.loaded there out).imp_right .inl
    · exact .inr (leaves listed a)
    · exact absurd out' out
  · exact .inl (acted.loaded_new numbered new within)

theorem housed_create (name : String) (transport : T) (policy : Reconnect.Policy) :
    (create name transport policy).Housed [] :=
  fun _ within => absurd within (Nat.not_lt_zero _)

/-! ### What a turn is to the destinations -/

/-- Neither a destination nor the table notices anything. -/
structure Besides (c c' : Client T) : Prop extends Unmoved c c' where
  table : c'.table = c.table

theorem Besides.refl (c : Client T) : Besides c c := ⟨.refl c, rfl⟩

theorem Besides.loaded {c c' : Client T} (besides : Besides c c') : c'.loaded = c.loaded := by
  unfold Client.loaded
  rw [besides.table]

/-- Something that is known of the destinations, those on their way out given, is kept. -/
structure Stable (P : List Nat → Client T → Prop) : Prop where
  besides : ∀ {leaving c c'}, Besides c c' → P leaving c → P leaving c'
  act : ∀ {leaving c}, c.Numbered → P leaving c → ∀ a, P (a.leaving c leaving) (c.act a)

/-- What the steps of a ledger keep is kept. -/
theorem stable_ledger {Q : Ledger → Prop} (kept : ∀ l l', Ledger.Steps l l' → Q l → Q l') (i : Nat) :
    Stable (T := T) fun _ c => ∃ l, c.ledger i = some l ∧ Q l where
  besides besides := by
    rintro ⟨l, held, q⟩
    exact ⟨l, (ledger_unmoved besides.toUnmoved i).trans held, q⟩
  act numbered := by
    rintro ⟨l, held, q⟩ a
    obtain ⟨l', held', steps⟩ := (ledger_act numbered a i).2 l held
    exact ⟨l', held', kept l l' steps q⟩

/-- A destination that is not loaded is not loaded again. -/
theorem stable_unloaded (i : Nat) :
    Stable (T := T) fun _ c => (∃ d, c.destinations[i]? = some d) ∧ i ∉ c.loaded where
  besides besides := by
    rintro ⟨⟨d, found⟩, gone⟩
    refine ⟨⟨d, by rw [besides.destinations, found]⟩, ?_⟩
    rwa [besides.loaded]
  act numbered := by
    rintro ⟨⟨d, found⟩, gone⟩ a
    obtain ⟨l', held', -⟩ := (ledger_act numbered a i).2 _ (ledger_of_found found)
    obtain ⟨d', found', -⟩ := Option.map_eq_some_iff.mp held'
    exact ⟨⟨d', found'⟩, fun there => gone (loaded_act numbered a found there)⟩

/-- Every destination is accounted for, and so are its handles. -/
structure InHand (leaving : List Nat) (c : Client T) : Prop where
  every : c.Every fun l => l.Consistent ∧ l.Balanced
  housed : c.Housed leaving

theorem stable_inHand : Stable (T := T) InHand where
  besides besides inHand := by
    refine ⟨inHand.every.unmoved besides.toUnmoved, fun i within => ?_⟩
    rw [besides.destinations] at within
    rw [besides.loaded]
    refine (inHand.housed i within).imp_right (.imp_right ?_)
    rintro ⟨d, found, out⟩
    exact ⟨d, by rw [besides.destinations, found], out⟩
  act numbered inHand a := by
    refine ⟨inHand.every.act ?_ ?_ a, inHand.housed.act numbered a⟩
    · exact fun d created => ⟨.blank d created, rfl⟩
    · rintro l l' ⟨consistent, balanced⟩ step
      exact ⟨consistent.step step, balanced.step consistent step⟩

theorem inHand_create (name : String) (transport : T) (policy : Reconnect.Policy) :
    (create name transport policy).InHand [] :=
  ⟨every_create name transport policy, housed_create name transport policy⟩

/-- Nothing of a destination that is out of service is open. -/
theorem InHand.closed {leaving : List Nat} {c : Client T} (inHand : c.InHand leaving) {i : Nat}
    (out : c.OutOfService i) : c.deliveries i = c.closures i := by
  obtain ⟨d, found, -, off, -⟩ := out
  have balanced := (inHand.every.holds i _ (ledger_of_found found)).2
  rw [Ledger.Balanced] at balanced
  simpa [off] using balanced

namespace Watched

/-- The action that a turn is to the destinations: that of another, or an attempt that the supervisor
begins. -/
def action? (w : Watched T) : Turn T → Option (Action T)
  | .act a => if a.isSupervisor then none else some a
  | .late a => if a.isSupervisor then none else some a
  | .goOn => match w.phase with
    | .asking (i :: _) => some (.beginConnect i)
    | _ => none
  | _ => none

theorem besides_take (w : Watched T) (t : Turn T) :
    Besides ((w.action? t).elim w.client w.client.act) (w.take t).client := by
  have same (c : Client T) : Besides c c := .refl c
  -- `Took` does not say when a turn comes to nothing, so the turns are opened one by one.
  cases t with
  | act a =>
    cases other : a.isSupervisor <;> simp only [action?, take, other] <;> exact same _
  | late a =>
    cases other : a.isSupervisor <;> simp only [action?, take, other]
    · exact ⟨⟨rfl, rfl, rfl, rfl, rfl⟩, rfl⟩
    · exact same _
  | report =>
    simp only [action?, take]
    split
    · exact same _
    · exact ⟨⟨rfl, rfl, rfl, rfl, rfl⟩, rfl⟩
  | wake permit =>
    simp only [action?, take]
    split
    · next s phase supervisor =>
      obtain ⟨unmoved, table, -⟩ := unmoved_hear permit s w.client
      split
      · exact same _
      · split
        · exact ⟨⟨unmoved.1, unmoved.2, unmoved.3, unmoved.4, unmoved.5⟩, table⟩
        · exact ⟨unmoved, table⟩
    · exact same _
  | look i =>
    simp only [action?, take]
    split
    · split <;> exact same _
    · exact same _
  | meet i =>
    simp only [action?, take]
    split
    · split <;> exact same _
    · exact same _
  | goOn =>
    cases phase : w.phase with
    | waiting =>
      simp only [action?, take, phase]
      exact same _
    | looking now unseen due =>
      cases unseen <;> simp only [action?, take, phase] <;> exact same _
    | asking due =>
      cases due <;> simp only [action?, take, phase]
      · exact ⟨⟨rfl, rfl, rfl, rfl, rfl⟩, rfl⟩
      · exact same _

/-- The destinations on their way out after a turn, and after several. -/
def leavingAt (w : Watched T) (leaving : List Nat) (t : Turn T) : List Nat :=
  (w.action? t).elim leaving (Action.leaving w.client leaving)

def leaving (w : Watched T) (before : List Nat) : List (Turn T) → List Nat
  | [] => before
  | t :: rest => (w.take t).leaving (w.leavingAt before t) rest

theorem numbered_take {w : Watched T} (numbered : w.client.Numbered) (t : Turn T) :
    (w.take t).client.Numbered := by
  refine Numbered.unmoved ?_ (w.besides_take t).toUnmoved
  cases w.action? t with
  | none => exact numbered
  | some a => exact numbered.act a

theorem numbered_run {w : Watched T} (numbered : w.client.Numbered) (turns : List (Turn T)) :
    (w.run turns).client.Numbered := by
  induction turns generalizing w with
  | nil => exact numbered
  | cons t rest ih => exact ih (numbered_take numbered t)

section Kept

variable {P : List Nat → Client T → Prop}

theorem kept_take (stable : Stable P) {w : Watched T} (numbered : w.client.Numbered)
    {before : List Nat} (known : P before w.client) (t : Turn T) :
    P (w.leavingAt before t) (w.take t).client := by
  refine stable.besides (w.besides_take t) ?_
  unfold leavingAt
  cases w.action? t with
  | none => exact known
  | some a => exact stable.act numbered known a

theorem kept_run (stable : Stable P) {w : Watched T} (numbered : w.client.Numbered)
    (before : List Nat) (known : P before w.client) (turns : List (Turn T)) :
    P (w.leaving before turns) (w.run turns).client := by
  induction turns generalizing w before with
  | nil => exact known
  | cons t rest ih => exact ih (numbered_take numbered t) _ (kept_take stable numbered known t)

end Kept

theorem held_run {Q : Ledger → Prop} (kept : ∀ l l', Ledger.Steps l l' → Q l → Q l')
    {w : Watched T} (numbered : w.client.Numbered) {i : Nat} {l : Ledger}
    (held : w.client.ledger i = some l) (q : Q l) (turns : List (Turn T)) :
    ∃ l', (w.run turns).client.ledger i = some l' ∧ Q l' :=
  kept_run (stable_ledger kept i) numbered [] ⟨l, held, q⟩ turns

theorem placed_run {w : Watched T} (numbered : w.client.Numbered) {i : Nat}
    (there : i < w.client.destinations.length) (turns : List (Turn T)) :
    i < (w.run turns).client.destinations.length := by
  have held := ledger_of_found (List.getElem?_eq_getElem there)
  obtain ⟨l, held', -⟩ := held_run (Q := fun _ => True) (fun _ _ _ _ => trivial) numbered held
    trivial turns
  obtain ⟨d, found, -⟩ := Option.map_eq_some_iff.mp held'
  exact length_of_found found

theorem outOfService_run {w : Watched T} (numbered : w.client.Numbered) {i : Nat}
    (out : w.client.OutOfService i) (turns : List (Turn T)) :
    (w.run turns).client.OutOfService i := by
  obtain ⟨l, held, out⟩ := out.ledger
  obtain ⟨l', held', out'⟩ :=
    held_run (fun _ _ steps out => (steps.staysOut out).out) numbered held out turns
  exact .of_ledger held' out'

theorem loaded_run {w : Watched T} (numbered : w.client.Numbered) {i : Nat}
    (there : i < w.client.destinations.length) (turns : List (Turn T))
    (loaded : i ∈ (w.run turns).client.loaded) : i ∈ w.client.loaded := by
  by_contra gone
  have kept := kept_run (stable_unloaded i) numbered []
    ⟨⟨_, List.getElem?_eq_getElem there⟩, gone⟩ turns
  exact kept.2 loaded

end Watched

end Client

end Switchboard
