import Switchboard.Proofs.Client.Calls
import Switchboard.Proofs.Connection.State

/-!
What an invocation may rely on while others go on: a destination keeps its name, a receiver has the
name of its destination, and the failure of an attempt that was joined carries the name of the
destination where it was joined, whenever it is heard of.
-/
namespace Switchboard

namespace Client

open Text (Bytes)

variable {T : Type} [Transport T]

/-! ### Names -/

theorem Ledger.Step.descriptor {l l' : Ledger} (step : Ledger.Step l l') :
    l'.destination.descriptor = l.destination.descriptor := by
  cases step with
  | published running kept => simp [Destination.publish, kept]
  | discarded running retired => simp [Destination.publish, retired]
  | revoked on down => simp [Destination.revoke, on]
  | begun => rfl
  | failed => rfl
  | tornDown => rfl
  | retired => rfl
  | counted => rfl

theorem Ledger.Steps.descriptor {l l' : Ledger} (steps : Ledger.Steps l l') :
    l'.destination.descriptor = l.destination.descriptor := by
  induction steps with
  | refl => rfl
  | tail _ last ih => rw [last.descriptor, ih]

/-- A destination with a name is at a number. -/
def NamedAt (i : Nat) (name : String) (c : Client T) : Prop :=
  ∃ d, c.destinations[i]? = some d ∧ d.name = name

theorem NamedAt.of_ledger {c c' : Client T} {i : Nat} {name : String} (named : c.NamedAt i name)
    (goesOn : ∀ l, c.ledger i = some l → ∃ l', c'.ledger i = some l' ∧ Ledger.Steps l l') :
    c'.NamedAt i name := by
  obtain ⟨d, found, rfl⟩ := named
  obtain ⟨l', held, steps⟩ := goesOn _ (ledger_of_found found)
  obtain ⟨d', found', rfl⟩ := Option.map_eq_some_iff.mp held
  exact ⟨d', found', congrArg Descriptor.name steps.descriptor⟩

theorem NamedAt.moves {k : Option Nat} {c c' : Client T} {i : Nat} {name : String}
    (named : c.NamedAt i name) (numbered : c.Numbered) (m : Moves k c c') : c'.NamedAt i name :=
  named.of_ledger (ledger_moves m numbered i).2

theorem NamedAt.act {c : Client T} {i : Nat} {name : String} (named : c.NamedAt i name)
    (numbered : c.Numbered) (a : Action T) : (c.act a).NamedAt i name :=
  named.of_ledger (ledger_act numbered a i).2

/-! ### Receivers -/

theorem registry_stepCall (c : Client T) (id : Nat) (call : Call T) :
    (c.stepCall id call).registry = c.registry ∧ (c.stepCall id call).table = c.table := by
  have aloof := Aloof.of_moves (moves_advance c id call)
  unfold stepCall
  generalize c.advance id call = r at aloof ⊢
  obtain ⟨c₁, call | result⟩ := r <;> exact ⟨aloof.registry, aloof.table⟩

/-- No task touches the receivers or the table. -/
theorem registry_step {c : Client T} (numbered : c.Numbered) (task : TaskId) :
    (c.step task).registry = c.registry ∧ (c.step task).table = c.table := by
  have acted := acted_step numbered task
  generalize c.step task = c' at acted ⊢
  cases acted with
  | moved moves =>
    exact ⟨(Aloof.of_moves (moves none)).registry, (Aloof.of_moves (moves none)).table⟩
  | attempted running moves =>
    exact ⟨(Aloof.of_moves moves).registry, (Aloof.of_moves moves).table⟩
  | called => exact registry_stepCall c _ _

/-- A receiver comes with the name of its destination. -/
theorem Acted.registry {c c' : Client T} {a : Action T} (acted : Acted c a c') {r : Receiver}
    (there : r ∈ c'.registry) : r ∈ c.registry ∨ c.NamedAt r.destination r.name := by
  cases acted with
  | moved moves =>
    rw [(Aloof.of_moves (moves none)).registry] at there
    exact .inl there
  | attempted running moves =>
    rw [(Aloof.of_moves moves).registry] at there
    exact .inl there
  | @called id call =>
    rw [(registry_stepCall c id call).1] at there
    exact .inl there
  | requested => exact .inl there
  | @abandoned id call calling =>
    left
    simp only [abandonCall, calling] at there
    cases sending : call.sending? <;> rw [sending] at there <;> exact there
  | added => exact .inl there
  | removed => exact .inl there
  | @registered i selectors d registry found accepted =>
    unfold Registry.register at accepted
    split at accepted
    · cases accepted
    · split at accepted
      · cases accepted
      · cases accepted
        rcases List.mem_append.mp there with old | new
        · exact .inl old
        · rw [List.mem_singleton] at new
          subst new
          exact .inr ⟨d, found, rfl⟩
  | unregistered => exact .inl (List.mem_filter.mp there).1

theorem Reachable.named {c : Client T} (reachable : c.Reachable) :
    ∀ r ∈ c.registry, c.NamedAt r.destination r.name := by
  suffices both : c.Numbered ∧ ∀ r ∈ c.registry, c.NamedAt r.destination r.name from both.2
  refine Reachable.induction
    (P := fun c => c.Numbered ∧ ∀ r ∈ c.registry, c.NamedAt r.destination r.name) ?_ ?_ reachable
  · intro name transport policy
    have new : (create name transport policy).Reachable := ⟨name, transport, policy, [], rfl⟩
    refine ⟨new.numbered, ?_⟩
    intro r registered
    cases registered
  · rintro c a ⟨numbered, named⟩
    refine ⟨numbered.act a, ?_⟩
    intro r registered
    rcases (acted_act numbered a).registry registered with old | new
    · exact (named r old).act numbered a
    · exact new.act numbered a

/-! ### Outcomes -/

/-- An attempt is under way at a destination, or its failure carries that destination's name. -/
def Owned (id : AttemptId) (i : Nat) (c : Client T) : Prop :=
  (id, i) ∈ c.underWay ∨
    ∃ outcome, c.outcomes.lookup id = some outcome ∧
      ∀ f, outcome = some (.error f) → c.NamedAt i f.destination

/-- An attempt that has ended is not under way, and its number is not given again. -/
def OutcomesNumbered (c : Client T) : Prop :=
  ∀ id outcome, c.outcomes.lookup id = some outcome → id < c.nextAttempt ∧ ∀ i, (id, i) ∉ c.underWay

/-- What a move does to attempts: it leaves them alone and may begin one, or it ends one. -/
inductive Attempted (c c' : Client T) : Prop
  | kept (outcomes : c'.outcomes = c.outcomes) (later : c.nextAttempt ≤ c'.nextAttempt)
      (still : ∀ p ∈ c.underWay, p ∈ c'.underWay)
      (new : ∀ p ∈ c'.underWay, p ∈ c.underWay ∨ c.nextAttempt ≤ p.1)
  | ended (a : Attempt T) (outcome : ConnectOutcome) (running : a ∈ c.attempts)
      (outcomes : c'.outcomes = (a.id, some outcome) :: c.outcomes)
      (underWay : c'.underWay = c.underWay.filter (·.1 != a.id))
      (nextAttempt : c'.nextAttempt = c.nextAttempt)
      (named : ∀ f, outcome = .error f → c.NamedAt a.destination f.destination)
      (kept : outcome = .ok () → ∃ d, c.destinations[a.destination]? = some d ∧ d.retired = false)

theorem Attempted.of_same {c c' : Client T} (outcomes : c'.outcomes = c.outcomes)
    (nextAttempt : c'.nextAttempt = c.nextAttempt) (underWay : c'.underWay = c.underWay) :
    Attempted c c' := by
  refine .kept outcomes (Nat.le_of_eq nextAttempt.symm) ?_ ?_
  · intro p there
    rw [underWay]
    exact there
  · intro p there
    rw [underWay] at there
    exact .inl there

theorem Move.attempted {k : Option Nat} {c c' : Client T} (m : Move k c c') : Attempted c c' := by
  cases m with
  | aside alike => exact .of_same alike.outcomes alike.nextAttempt alike.underWay
  | noted => exact .of_same rfl rfl rfl
  | opened => exact .of_same rfl rfl rfl
  | @waits _ id opening => exact .of_same rfl rfl (underWay_attemptWaits c id opening)
  | @begun _ _ i d =>
    refine .kept rfl (Nat.le_succ _) ?_ ?_
    · intro p there
      rw [underWay_attemptBegun]
      exact List.mem_append_left _ there
    · intro p there
      rw [underWay_attemptBegun, List.mem_append, List.mem_singleton] at there
      rcases there with old | rfl
      · exact .inl old
      · exact .inr (Nat.le_refl _)
  | @failed _ a d f found running named =>
    refine .ended a (.error f) running rfl (underWay_endAttempt _ a.id _) rfl ?_ (by rintro ⟨⟩)
    rintro g ⟨⟩
    exact ⟨d, found, named.symm⟩
  | @published _ a d h found running kept =>
    refine .ended a (.ok ()) running rfl (underWay_handlePublished c a h d) rfl ?_ ?_
    · rintro g ⟨⟩
    · exact fun _ => ⟨d, found, kept⟩
  | @discarded _ a d h found running retired =>
    refine .ended a (.error d.removedWhileConnecting) running rfl
      (underWay_handleDiscarded c a h d) rfl ?_ (by rintro ⟨⟩)
    rintro g ⟨⟩
    exact ⟨d, found, rfl⟩
  | revoked => exact .of_same rfl rfl rfl
  | @tornDown _ _ i d found => cases d.disconnect.2 <;> exact .of_same rfl rfl rfl
  | retired => exact .of_same rfl rfl rfl
  | counted => exact .of_same rfl rfl rfl

theorem OutcomesNumbered.move {k : Option Nat} {c c' : Client T} (ended : c.OutcomesNumbered)
    (numbered : c.Numbered) (m : Move k c c') : c'.OutcomesNumbered := by
  intro id outcome known
  cases m.attempted with
  | kept outcomes later still new =>
    rw [outcomes] at known
    obtain ⟨used, gone⟩ := ended id outcome known
    refine ⟨Nat.lt_of_lt_of_le used later, ?_⟩
    intro i there
    rcases new _ there with old | late
    · exact gone i old
    · exact Nat.not_le_of_lt used late
  | ended a o running outcomes underWay nextAttempt named kept =>
    rw [outcomes, lookup_cons_if] at known
    rw [nextAttempt]
    by_cases own : id = a.id
    · subst own
      refine ⟨numbered.fresh _ (mem_underWay running), ?_⟩
      intro i there
      rw [underWay, List.mem_filter] at there
      simp at there
    · rw [if_neg own] at known
      obtain ⟨used, gone⟩ := ended id outcome known
      refine ⟨used, ?_⟩
      intro i there
      rw [underWay, List.mem_filter] at there
      exact gone i there.1

theorem Owned.move {k : Option Nat} {c c' : Client T} {id : AttemptId} {i : Nat}
    (owned : c.Owned id i)
    (numbered : c.Numbered) (ended : c.OutcomesNumbered) (m : Move k c c') : c'.Owned id i := by
  cases m.attempted with
  | kept outcomes later still new =>
    rcases owned with running | ⟨outcome, known, named⟩
    · exact .inl (still _ running)
    · right
      rw [outcomes]
      exact ⟨outcome, known, fun f failed => (named f failed).moves numbered m.moves⟩
  | ended a o running outcomes underWay nextAttempt named kept =>
    rcases owned with there | ⟨outcome, known, named⟩
    · by_cases own : id = a.id
      · subst own
        have same := List.inj_on_of_nodup_map numbered.distinct there (mem_underWay running) rfl
        obtain rfl : i = a.destination := congrArg Prod.snd same
        right
        refine ⟨some o, by rw [outcomes, lookup_cons_if, if_pos rfl], ?_⟩
        intro f failed
        exact (named f (Option.some.inj failed)).moves numbered m.moves
      · left
        rw [underWay, List.mem_filter]
        exact ⟨there, by simpa using own⟩
    · right
      have other : id ≠ a.id := by
        rintro rfl
        exact (ended _ outcome known).2 _ (mem_underWay running)
      refine ⟨outcome, by rw [outcomes, lookup_cons_if, if_neg other]; exact known, ?_⟩
      intro f failed
      exact (named f failed).moves numbered m.moves

theorem moves_owned {k : Option Nat} {c c' : Client T} (m : Moves k c c') (numbered : c.Numbered)
    (ended : c.OutcomesNumbered) :
    c'.OutcomesNumbered ∧ ∀ id i, c.Owned id i → c'.Owned id i := by
  induction m with
  | refl => exact ⟨ended, fun _ _ owned => owned⟩
  | tail first last ih =>
    obtain ⟨ended', owned'⟩ := ih
    have numbered' := numbered.moves first
    exact ⟨ended'.move numbered' last,
      fun id i owned => (owned' id i owned).move numbered' ended' last⟩

theorem act_owned {c : Client T} (numbered : c.Numbered) (ended : c.OutcomesNumbered)
    (a : Action T) :
    (c.act a).OutcomesNumbered ∧ ∀ id i, c.Owned id i → (c.act a).Owned id i := by
  have changed := changed_act numbered a
  have named {i : Nat} {name : String} (n : c.NamedAt i name) : (c.act a).NamedAt i name :=
    n.act numbered a
  generalize c.act a = c' at changed named
  cases changed with
  | @moved k c₁ _ moves unmoved =>
    obtain ⟨ended', owned'⟩ := moves_owned moves numbered ended
    constructor
    · unfold OutcomesNumbered
      rw [unmoved.outcomes, unmoved.underWay, unmoved.nextAttempt]
      exact ended'
    · intro id i owned
      unfold Owned NamedAt
      rw [unmoved.outcomes, unmoved.underWay, unmoved.destinations]
      exact owned' id i owned
  | added destinations underWay nextAttempt outcomes journal =>
    constructor
    · unfold OutcomesNumbered
      rw [outcomes, underWay, nextAttempt]
      exact ended
    · intro id i owned
      unfold Owned
      rw [outcomes, underWay]
      rcases owned with running | ⟨outcome, known, failed⟩
      · exact .inl running
      · exact .inr ⟨outcome, known, fun f failure => named (failed f failure)⟩

theorem Reachable.outcomesNumbered {c : Client T} (reachable : c.Reachable) :
    c.OutcomesNumbered := by
  suffices both : c.Reachable ∧ c.OutcomesNumbered from both.2
  refine Reachable.induction (P := fun c => c.Reachable ∧ c.OutcomesNumbered) ?_ ?_ reachable
  · intro name transport policy
    refine ⟨⟨name, transport, policy, [], rfl⟩, ?_⟩
    intro id outcome known
    cases known
  · rintro c a ⟨reachable, ended⟩
    exact ⟨reachable.act a, (act_owned reachable.numbered ended a).1⟩

/-! ### What an invocation is told -/

section Told

variable {c : Client T} {i : Nat} {name : String}

theorem NamedAt.name_eq (named : c.NamedAt i name) {d : Destination}
    (found : c.destinations[i]? = some d) : d.name = name := by
  obtain ⟨d', found', rfl⟩ := named
  rw [found] at found'
  cases found'
  rfl

/-- The attempt that a destination lets others wait for is its own. -/
theorem beginConnect_owned (reachable : c.Reachable) (named : c.NamedAt i name) {c₁ : Client T}
    {j : Joining} (asked : c.beginConnect i = (c₁, j)) :
    (∀ f, j = .refused f → f.destination = name) ∧
      ∀ a, j = .joined a ∨ j = .started a → c₁.Owned a i := by
  obtain ⟨d, found, rfl⟩ := named
  have asking := beginConnect_asked found
  rw [asked] at asking
  cases asking with
  | connected =>
    refine ⟨by rintro f ⟨⟩, ?_⟩
    rintro a (⟨⟨⟩⟩ | ⟨⟨⟩⟩)
  | @joined a off running =>
    refine ⟨by rintro f ⟨⟩, ?_⟩
    rintro a' (⟨⟨⟩⟩ | ⟨⟨⟩⟩)
    have attempts : c.attemptsOf i = d.inFlight.toList :=
      (reachable.consistent (ledger_of_found found)).attempts
    rw [running] at attempts
    have there : a ∈ c.attemptsOf i := by
      rw [attempts]
      exact List.mem_singleton_self a
    simp only [attemptsOf, List.mem_map, List.mem_filter, beq_iff_eq] at there
    obtain ⟨p, ⟨underWay, rfl⟩, rfl⟩ := there
    exact .inl underWay
  | refused =>
    constructor
    · rintro f ⟨⟩
      rfl
    · rintro a (⟨⟨⟩⟩ | ⟨⟨⟩⟩)
  | started =>
    refine ⟨by rintro f ⟨⟩, ?_⟩
    rintro a (⟨⟨⟩⟩ | ⟨⟨⟩⟩)
    left
    rw [underWay_attemptBegun]
    exact List.mem_append_right _ (List.mem_singleton_self _)

theorem outcome?_named (ended : c.OutcomesNumbered) {a : AttemptId} (owned : c.Owned a i)
    (named : c.NamedAt i name) {f : AttemptFailure} (failed : c.outcome? i a = some (.error f)) :
    f.destination = name := by
  obtain ⟨d, found, rfl⟩ := named
  unfold outcome? at failed
  rw [found] at failed
  cases known : c.outcomes.lookup a with
  | none =>
    rw [known] at failed
    cases failed
  | some outcome =>
    rcases owned with running | ⟨outcome', known', ofName⟩
    · exact absurd running ((ended a outcome known).2 i)
    · rw [known] at failed known'
      cases known'
      cases outcome with
      | none =>
        cases failed
        rfl
      | some outcome =>
        cases failed
        exact ((ofName f rfl).name_eq found).symm

theorem startDispatch_named (named : c.NamedAt i name) {call : Nat} {target : Target}
    {payload : Bytes}
    {c₁ : Client T} {f : AttemptFailure} {e : DispatchError}
    (began : c.startDispatch call i target payload = (c₁, .done (.error e)))
    (failed : e = .notConnected f ∨ e = .connectivity f) : f.destination = name := by
  obtain ⟨d, found, rfl⟩ := named
  have begun := startDispatch_begun c call i target payload
  rw [began] at begun
  cases begun with
  | absent missing =>
    rw [found] at missing
    cases missing
  | @notConnected d' found' off =>
    rw [found] at found'
    cases found'
    rcases failed with ⟨⟨⟩⟩ | ⟨⟨⟩⟩
    rfl
  | sent _ _ went =>
    rcases failed with rfl | rfl
    · exact absurd rfl (went.heard _ rfl f)
    · exact went.named f d rfl found

theorem resumeDispatch_named (named : c.NamedAt i name) {sent : Nat} {s : PendingSend T}
    {c₁ : Client T} {f : AttemptFailure} {e : DispatchError}
    (resumed : c.resumeDispatch i sent s = (c₁, .done (.error e)))
    (failed : e = .notConnected f ∨ e = .connectivity f) : f.destination = name := by
  obtain ⟨d, found, rfl⟩ := named
  have went := resumeDispatch_sent c i sent s
  rw [resumed] at went
  rcases failed with rfl | rfl
  · exact absurd rfl (went.heard _ rfl f)
  · exact went.named f d rfl found

end Told

end Client

end Switchboard
