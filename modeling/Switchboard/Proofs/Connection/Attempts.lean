import Switchboard.Proofs.Client.Outcomes

/-!
The course of a connect attempt. Nothing but its own steps touches it: the first of them opens, once,
and the one that ends it records how it ended, for good.
-/
namespace Switchboard

/-- The failure is not that of an attempt that was cut off before its end. -/
def AttemptFailure.Genuine (f : AttemptFailure) : Prop := f.detail ≠ "connect attempt abandoned"

theorem Destination.not_genuine_abandoned (d : Destination) : ¬ d.abandoned.Genuine :=
  fun genuine => genuine rfl

namespace Client

variable {T : Type} [Transport T]

@[simp] def Event.opening? : Event → Option (Nat × AttemptId)
  | .openStarted i a => some (i, a)
  | _ => none

/-- What was opened, by destination and attempt, the last one first. -/
def openings (c : Client T) : List (Nat × AttemptId) := c.journal.filterMap Event.opening?

/-- How often an attempt has opened. -/
def opens (a : AttemptId) (c : Client T) : Nat := (c.openings.map (·.2)).count a

/-- What the next step of an attempt opens. -/
def Attempt.newOpenings (b : Attempt T) : List (Nat × AttemptId) :=
  if b.opening.isNone then [(b.destination, b.id)] else []

/-- Two clients between which no attempt has made a step. -/
structure Unopened (c c' : Client T) : Prop where
  openings : c'.openings = c.openings
  attempts : ∃ new, c'.attempts = c.attempts ++ new ∧
    ∀ b ∈ new, b.opening = none ∧ c.nextAttempt ≤ b.id
  outcomes : c'.outcomes = c.outcomes
  nextAttempt : c.nextAttempt ≤ c'.nextAttempt

/-- What a step of an attempt comes to, with what it opens and the moment by which it has to be done. -/
inductive Tried (b : Attempt T) (opened : List (Nat × AttemptId)) (deadline : Instant)
    (c c' : Client T) : Prop
  | ended (outcome : ConnectOutcome) (attempts : c'.attempts = c.attempts.filter (·.id != b.id))
      (outcomes : c'.outcomes = (b.id, some outcome) :: c.outcomes)
      (openings : c'.openings = opened ++ c.openings) (nextAttempt : c'.nextAttempt = c.nextAttempt)
      (genuine : ∀ f, outcome = .error f → f.Genuine)
  | waits (o : Transport.Opening T) (early : c.now < deadline)
      (attempts : c'.attempts = c.attempts.map fun b' =>
        if b'.id = b.id then { b' with opening := some (o, deadline) } else b')
      (outcomes : c'.outcomes = c.outcomes) (openings : c'.openings = opened ++ c.openings)
      (nextAttempt : c'.nextAttempt = c.nextAttempt)

/-! ### Where no attempt makes a step -/

theorem Unopened.refl (c : Client T) : Unopened c c :=
  ⟨rfl, ⟨[], (List.append_nil _).symm, by simp⟩, rfl, Nat.le_refl _⟩

theorem Unopened.trans {c c' c'' : Client T} (first : Unopened c c') (second : Unopened c' c'') :
    Unopened c c'' := by
  obtain ⟨new, attempts, fresh⟩ := first.attempts
  obtain ⟨newer, attempts', fresh'⟩ := second.attempts
  refine ⟨second.openings.trans first.openings, ⟨new ++ newer, ?_, ?_⟩,
    second.outcomes.trans first.outcomes, Nat.le_trans first.nextAttempt second.nextAttempt⟩
  · rw [attempts', attempts, List.append_assoc]
  · intro b there
    obtain there | there := List.mem_append.mp there
    · exact fresh b there
    · exact ⟨(fresh' b there).1, Nat.le_trans first.nextAttempt (fresh' b there).2⟩

theorem Unopened.of_same {c c' : Client T} (journal : c'.journal = c.journal)
    (attempts : c'.attempts = c.attempts) (outcomes : c'.outcomes = c.outcomes)
    (nextAttempt : c'.nextAttempt = c.nextAttempt) : Unopened c c' :=
  ⟨by simp only [Client.openings, journal], ⟨[], by rw [attempts, List.append_nil], by simp⟩, outcomes,
    Nat.le_of_eq nextAttempt.symm⟩

theorem Move.unopened {k : Nat} {c c' : Client T} (m : Move (some k) c c') : Unopened c c' := by
  cases m with
  | aside alike => exact .of_same alike.journal alike.attempts alike.outcomes alike.nextAttempt
  | @noted _ _ e own =>
    refine ⟨?_, ⟨[], (List.append_nil _).symm, by simp⟩, rfl, Nat.le_refl _⟩
    cases e <;> first | rfl | cases own
  | @begun _ _ i d found off idle kept =>
    refine ⟨rfl, ⟨[{ id := c.nextAttempt, destination := i }], rfl, ?_⟩, rfl, Nat.le_succ _⟩
    intro b there
    obtain rfl := List.mem_singleton.mp there
    exact ⟨rfl, Nat.le_refl _⟩
  | revoked => exact ⟨rfl, ⟨[], (List.append_nil _).symm, by simp⟩, rfl, Nat.le_refl _⟩
  | @tornDown _ _ i d found =>
    cases d.disconnect.2 <;>
      exact ⟨rfl, ⟨[], (List.append_nil _).symm, by simp⟩, rfl, Nat.le_refl _⟩
  | retired => exact .of_same rfl rfl rfl rfl
  | counted => exact .of_same rfl rfl rfl rfl

theorem unopened_of_moves {k : Nat} {c c' : Client T} (m : Moves (some k) c c') : Unopened c c' := by
  induction m with
  | refl => exact .refl _
  | tail _ last ih => exact ih.trans last.unopened

/-! ### Steps of an attempt -/

theorem append_ne {opening whole : String} (differ : ¬ opening.toList <+: whole.toList)
    (rest : String) : opening ++ rest ≠ whole := by
  rintro rfl
  apply differ
  rw [String.toList_append]
  exact List.prefix_append _ _

theorem ofTransport_genuine (name : String) (e : TransportError) :
    (AttemptFailure.ofTransport name e).Genuine := by
  cases e <;> exact append_ne (by decide) _

theorem connectTimedOut_genuine (d : Destination) : d.connectTimedOut.Genuine :=
  append_ne (by decide) _

theorem removedWhileConnecting_genuine (d : Destination) : d.removedWhileConnecting.Genuine := by
  show "destination removed while connecting" ≠ "connect attempt abandoned"
  decide

theorem removed_genuine (d : Destination) : d.removed.Genuine := by
  show "destination has been removed" ≠ "connect attempt abandoned"
  decide

section

variable {c : Client T} {b : Attempt T} {d : Destination}
  (found : c.destinations[b.destination]? = some d)

include found

theorem failAttempt_tried (deadline : Instant) {failure : Destination → AttemptFailure}
    (genuine : (failure d).Genuine) :
    Tried b [] deadline c (c.failAttempt b failure) := by
  rw [failAttempt, onDestination_of_found found]
  refine .ended (.error (failure d)) rfl rfl rfl rfl ?_
  rintro f ⟨⟩
  exact genuine

theorem deliver_tried (deadline : Instant) (h : Handle) : Tried b [] deadline c (c.deliver b h) := by
  have logged : (c.log (.delivered b.destination b.id h)).destinations[b.destination]? = some d := found
  unfold deliver
  simp only [onDestination_of_found logged]
  cases retired : d.retired with
  | false =>
    simp only [Destination.publish, retired, Bool.false_eq_true, if_false]
    exact .ended (.ok ()) rfl rfl rfl rfl (by rintro f ⟨⟩)
  | true =>
    simp only [Destination.publish, retired, if_true]
    refine .ended (.error d.removedWhileConnecting) rfl rfl rfl rfl ?_
    rintro f ⟨⟩
    exact removedWhileConnecting_genuine d

theorem continueAttempt_tried (deadline : Instant)
    (p : Progress (Transport.Opening T) (Except TransportError Handle)) :
    Tried b [] deadline c (c.continueAttempt b deadline p) := by
  cases p with
  | done result =>
    cases result with
    | ok h => exact deliver_tried found deadline h
    | error e => exact failAttempt_tried found deadline (ofTransport_genuine _ e)
  | waiting o =>
    unfold continueAttempt
    dsimp only
    split
    · exact failAttempt_tried found deadline (connectTimedOut_genuine d)
    · rename_i early
      exact .waits o (Nat.lt_of_not_le early) rfl rfl rfl rfl

end

/-- What has been opened before the rest of a step counts for the step. -/
theorem Tried.opening {b : Attempt T} {opened : List (Nat × AttemptId)} {deadline : Instant}
    {c c₁ c' : Client T} (tried : Tried b [] deadline c₁ c')
    (openings : c₁.openings = opened ++ c.openings) (attempts : c₁.attempts = c.attempts) (outcomes : c₁.outcomes = c.outcomes)
    (nextAttempt : c₁.nextAttempt = c.nextAttempt) (now : c₁.now = c.now) :
    Tried b opened deadline c c' := by
  cases tried with
  | ended outcome attempts' outcomes' openings' nextAttempt' genuine =>
    exact .ended outcome (by rw [attempts', attempts]) (by rw [outcomes', outcomes])
      (by rw [openings', openings]; rfl) (by rw [nextAttempt', nextAttempt]) genuine
  | waits o early attempts' outcomes' openings' nextAttempt' =>
    exact .waits o (by rwa [now] at early) (by rw [attempts', attempts]) (by rw [outcomes', outcomes])
      (by rw [openings', openings]; rfl) (by rw [nextAttempt', nextAttempt])

theorem stepAttempt_tried {c : Client T} {b : Attempt T} {d : Destination}
    (found : c.destinations[b.destination]? = some d) :
    ∃ deadline, Tried b b.newOpenings deadline c (c.stepAttempt b) ∧
      ∀ o, b.opening = some o → deadline = o.2 := by
  unfold stepAttempt Attempt.newOpenings
  cases opening : b.opening with
  | none =>
    simp only [found]
    refine ⟨c.now + d.descriptor.connectTimeout.nanos, ?_, by simp⟩
    apply Tried.opening
    · apply continueAttempt_tried (d := d)
      exact found
    all_goals rfl
  | some waiting =>
    obtain ⟨o, deadline⟩ := waiting
    refine ⟨deadline, ?_, ?_⟩
    · apply Tried.opening
      · apply continueAttempt_tried (d := d)
        exact found
      all_goals rfl
    · rintro o' ⟨⟩
      rfl

/-! ### Actions -/

theorem act_tried {c : Client T} (numbered : c.Numbered) (a : Action T) :
    Unopened c (c.act a) ∨ ∃ b ∈ c.attempts, ∃ deadline,
      Tried b b.newOpenings deadline c (c.act a) := by
  have acted := acted_act numbered a
  generalize c.act a = c' at acted
  cases acted with
  | moved moves => exact .inl (unopened_of_moves (moves (some 0)))
  | attempted running moves =>
    obtain ⟨d, found⟩ := numbered.found running
    obtain ⟨deadline, tried, -⟩ := stepAttempt_tried found
    exact .inr ⟨_, running, deadline, tried⟩
  | @called id call calling =>
    left
    have moves := moves_advance c id call
    unfold stepCall
    generalize c.advance id call = r at moves
    obtain ⟨c₁, call | result⟩ := r <;> exact (unopened_of_moves moves).trans (.of_same rfl rfl rfl rfl)
  | requested => exact .inl (.of_same rfl rfl rfl rfl)
  | @abandoned id call calling =>
    left
    simp only [abandonCall, calling]
    cases call.sending? <;> exact .of_same rfl rfl rfl rfl
  | added => exact .inl (.of_same rfl rfl rfl rfl)
  | removed => exact .inl (.of_same rfl rfl rfl rfl)
  | registered => exact .inl (.of_same rfl rfl rfl rfl)
  | unregistered => exact .inl (.of_same rfl rfl rfl rfl)

/-! ### Runs -/

theorem outcome_act {c : Client T} (numbered : c.Numbered) (past : c.OutcomesNumbered) {id : AttemptId}
    {outcome : Option ConnectOutcome} (known : c.outcomes.lookup id = some outcome) (a : Action T) :
    (c.act a).outcomes.lookup id = some outcome := by
  obtain unopened | ⟨b, running, deadline, tried⟩ := act_tried numbered a
  · rw [unopened.outcomes, known]
  · have other : id ≠ b.id := by
      rintro rfl
      exact (past _ outcome known).2 _ (mem_underWay running)
    cases tried with
    | ended o attempts outcomes => rw [outcomes, lookup_cons_if, if_neg other, known]
    | waits o early attempts outcomes => rw [outcomes, known]

/-- How an attempt ended is recorded for good. -/
theorem outcome_run {c : Client T} (reachable : c.Reachable) {id : AttemptId}
    {outcome : Option ConnectOutcome} (known : c.outcomes.lookup id = some outcome)
    (actions : List (Action T)) : (c.run actions).outcomes.lookup id = some outcome := by
  induction actions generalizing c with
  | nil => exact known
  | cons a rest ih =>
    exact ih (reachable.act a) (outcome_act reachable.numbered reachable.outcomesNumbered known a)

/-- Attempts under way have opened at most once, those that have ended exactly once, and of those it is
known how they ended. -/
structure OpenedOnce (c : Client T) : Prop where
  running : ∀ b ∈ c.attempts, c.opens b.id = if b.opening.isSome then 1 else 0
  ended : ∀ id outcome, c.outcomes.lookup id = some outcome → c.opens id = 1 ∧
    ∃ o, outcome = some o ∧ ∀ f, o = .error f → f.Genuine
  known : ∀ p ∈ c.openings, (∃ b ∈ c.attempts, b.id = p.2) ∨
    ∃ outcome, c.outcomes.lookup p.2 = some outcome

theorem opens_congr {c c' : Client T} (same : c'.openings = c.openings) (a : AttemptId) :
    c'.opens a = c.opens a := by
  rw [opens, opens, same]

theorem opens_eq_zero {c : Client T} {a : AttemptId} (unknown : ∀ p ∈ c.openings, p.2 ≠ a) :
    c.opens a = 0 := by
  refine List.count_eq_zero.mpr fun there => ?_
  obtain ⟨p, opened, same⟩ := List.mem_map.mp there
  exact unknown p opened same

theorem OpenedOnce.unopened {c c' : Client T} (once : c.OpenedOnce) (numbered : c.Numbered)
    (past : c.OutcomesNumbered) (unopened : Unopened c c') : c'.OpenedOnce := by
  obtain ⟨new, attempts, fresh⟩ := unopened.attempts
  constructor
  · intro b there
    rw [opens_congr unopened.openings]
    rw [attempts] at there
    obtain there | there := List.mem_append.mp there
    · exact once.running b there
    · obtain ⟨closed, late⟩ := fresh b there
      have unknown : ∀ p ∈ c.openings, p.2 ≠ b.id := by
        rintro p opened same
        obtain ⟨b', running, own⟩ | ⟨outcome, ended⟩ := once.known p opened
        · have early := numbered.fresh _ (mem_underWay running)
          rw [own, same] at early
          exact Nat.not_lt_of_le late early
        · rw [same] at ended
          exact Nat.not_lt_of_le late (past _ outcome ended).1
      rw [opens_eq_zero unknown, closed]
      rfl
  · intro id outcome ended
    rw [unopened.outcomes] at ended
    rw [opens_congr unopened.openings]
    exact once.ended id outcome ended
  · rw [unopened.outcomes, unopened.openings, attempts]
    intro p opened
    obtain ⟨b, running, same⟩ | ended := once.known p opened
    · exact .inl ⟨b, List.mem_append_left _ running, same⟩
    · exact .inr ended

theorem mem_newOpenings {b : Attempt T} {p : Nat × AttemptId} (there : p ∈ b.newOpenings) :
    p = (b.destination, b.id) := by
  unfold Attempt.newOpenings at there
  split at there
  · exact List.mem_singleton.mp there
  · cases there

/-- The next step of an attempt opens if the attempt has not opened yet. -/
theorem opens_step {c c' : Client T} {b : Attempt T}
    (openings : c'.openings = b.newOpenings ++ c.openings) :
    c'.opens b.id = (if b.opening.isSome then 0 else 1) + c.opens b.id := by
  rw [opens, openings, List.map_append, List.count_append, Attempt.newOpenings, opens]
  cases b.opening <;> simp

theorem opens_step_other {c c' : Client T} {b : Attempt T} {id : AttemptId} (other : id ≠ b.id)
    (openings : c'.openings = b.newOpenings ++ c.openings) : c'.opens id = c.opens id := by
  rw [opens, openings, List.map_append, List.count_append, Attempt.newOpenings, opens]
  cases b.opening <;> simp [Ne.symm other]

theorem OpenedOnce.tried {c c' : Client T} (once : c.OpenedOnce) (past : c.OutcomesNumbered)
    {b : Attempt T} (running : b ∈ c.attempts) {deadline : Instant}
    (tried : Tried b b.newOpenings deadline c c') : c'.OpenedOnce := by
  have opened (openings : c'.openings = b.newOpenings ++ c.openings) : c'.opens b.id = 1 := by
    rw [opens_step openings, once.running b running]
    cases b.opening <;> rfl
  have unended {id outcome} (ended : c.outcomes.lookup id = some outcome) : id ≠ b.id := by
    rintro rfl
    exact (past _ outcome ended).2 _ (mem_underWay running)
  cases tried with
  | ended outcome attempts outcomes openings nextAttempt genuine =>
    constructor
    · intro b' there
      rw [attempts] at there
      obtain ⟨there, other⟩ := List.mem_filter.mp there
      rw [opens_step_other (by simpa using other) openings]
      exact once.running b' there
    · intro id o ended
      rw [outcomes, lookup_cons_if] at ended
      split at ended
      · rename_i same
        cases ended
        rw [same]
        exact ⟨opened openings, outcome, rfl, genuine⟩
      · rename_i other
        rw [opens_step_other other openings]
        exact once.ended id o ended
    · intro p there
      rw [outcomes, lookup_cons_if]
      rw [openings] at there
      by_cases same : p.2 = b.id
      · exact .inr ⟨_, if_pos same⟩
      · rw [if_neg same, attempts]
        obtain there | there := List.mem_append.mp there
        · exact absurd (congrArg Prod.snd (mem_newOpenings there)) same
        · obtain ⟨b', running', own⟩ | ended := once.known p there
          · exact .inl ⟨b', List.mem_filter.mpr ⟨running', by simpa [own] using same⟩, own⟩
          · exact .inr ended
  | waits o early attempts outcomes openings nextAttempt =>
    constructor
    · intro b' there
      rw [attempts] at there
      obtain ⟨b'', earlier, rfl⟩ := List.mem_map.mp there
      by_cases same : b''.id = b.id
      · rw [if_pos same]
        show c'.opens b''.id = 1
        rw [same]
        exact opened openings
      · rw [if_neg same, opens_step_other same openings]
        exact once.running b'' earlier
    · intro id o ended
      rw [outcomes] at ended
      rw [opens_step_other (unended ended) openings]
      exact once.ended id o ended
    · intro p there
      rw [outcomes, attempts]
      rw [openings] at there
      have still {b'} (there : b' ∈ c.attempts) : ∃ b'' ∈ c.attempts.map fun b' : Attempt T =>
          if b'.id = b.id then { b' with opening := some (o, deadline) } else b', b''.id = b'.id := by
        refine ⟨_, List.mem_map_of_mem there, ?_⟩
        split <;> rfl
      obtain there | there := List.mem_append.mp there
      · rw [mem_newOpenings there]
        exact .inl (still running)
      · obtain ⟨b', running', own⟩ | ended := once.known p there
        · rw [← own]
          exact .inl (still running')
        · exact .inr ended

theorem Reachable.openedOnce {c : Client T} (reachable : c.Reachable) : c.OpenedOnce := by
  suffices both : c.Reachable ∧ c.OpenedOnce from both.2
  refine Reachable.induction (P := fun c => c.Reachable ∧ c.OpenedOnce) ?_ ?_ reachable
  · intro name transport policy
    refine ⟨⟨name, transport, policy, [], rfl⟩, ?_, ?_, ?_⟩
    · intro b there
      cases there
    · intro id outcome ended
      cases ended
    · intro id there
      cases there
  · rintro c a ⟨reachable, once⟩
    refine ⟨reachable.act a, ?_⟩
    obtain unopened | ⟨b, running, deadline, tried⟩ := act_tried reachable.numbered a
    · exact once.unopened reachable.numbered reachable.outcomesNumbered unopened
    · exact once.tried reachable.outcomesNumbered running tried

/-! ### The end of an attempt -/

theorem mem_attemptsOf_iff {c : Client T} {i : Nat} {a : AttemptId} :
    a ∈ c.attemptsOf i ↔ (a, i) ∈ c.underWay := by
  simp [attemptsOf]

theorem find?_running {c : Client T} (numbered : c.Numbered) {id : AttemptId} {i : Nat}
    (running : (id, i) ∈ c.underWay) :
    ∃ b ∈ c.attempts, c.attempts.find? (·.id == id) = some b ∧ b.id = id ∧ b.destination = i := by
  obtain ⟨b, there, same⟩ := List.mem_map.mp running
  cases same
  cases looked : c.attempts.find? (·.id == b.id) with
  | none =>
    have absent := List.find?_eq_none.mp looked b there
    simp at absent
  | some b' =>
    have there' := List.mem_of_find?_eq_some looked
    have same : b'.id = b.id := by simpa using List.find?_some looked
    have pair := List.inj_on_of_nodup_map numbered.distinct (mem_underWay there') (mem_underWay there)
      same
    exact ⟨b', there', rfl, same, congrArg Prod.snd pair⟩

/-- An attempt has an end: once its time is over, its next step ends it. -/
theorem attempt_ends {c : Client T} (reachable : c.Reachable) {id : AttemptId} {i : Nat}
    (running : (id, i) ∈ c.underWay) :
    ∃ t outcome, (c.run [.step (.attempt id), .passTo t, .step (.attempt id)]).outcomes.lookup id =
      some (some outcome) := by
  obtain ⟨b, there, looked, rfl, rfl⟩ := find?_running reachable.numbered running
  obtain ⟨d, found⟩ := reachable.numbered.found there
  have first : c.act (.step (.attempt b.id)) = c.stepAttempt b := by
    simp only [act, step, looked]
  obtain ⟨deadline, tried, -⟩ := stepAttempt_tried found
  rw [← first] at tried
  cases tried with
  | ended outcome attempts outcomes openings nextAttempt genuine =>
    have known : (c.act (.step (.attempt b.id))).outcomes.lookup b.id = some (some outcome) := by
      rw [outcomes, lookup_cons_if, if_pos rfl]
    exact ⟨0, outcome, outcome_run (reachable.act _) known [.passTo 0, .step (.attempt b.id)]⟩
  | waits o early attempts outcomes openings nextAttempt =>
    refine ⟨deadline, ?_⟩
    have passed := (reachable.act (.step (.attempt b.id))).act (.passTo deadline)
    generalize later : (c.act (.step (.attempt b.id))).act (.passTo deadline) = c₂ at passed
    have attempts₂ : c₂.attempts = c.attempts.map fun b' =>
        if b'.id = b.id then { b' with opening := some (o, deadline) } else b' := by
      rw [← attempts, ← later]
      rfl
    have late : deadline ≤ c₂.now := by
      rw [← later]
      exact Nat.le_max_right _ _
    have looked₂ : c₂.attempts.find? (·.id == b.id) =
        some { b with opening := some (o, deadline) } := by
      have same : ((fun b' : Attempt T => b'.id == b.id) ∘ fun b' : Attempt T =>
          if b'.id = b.id then { b' with opening := some (o, deadline) } else b') =
          fun b' => b'.id == b.id := by
        funext b'
        by_cases own : b'.id = b.id <;> simp [own]
      rw [attempts₂, List.find?_map, same, looked, Option.map_some, if_pos rfl]
    obtain ⟨d₂, found₂⟩ := passed.numbered.found (List.mem_of_find?_eq_some looked₂)
    have second : c₂.act (.step (.attempt b.id)) =
        c₂.stepAttempt { b with opening := some (o, deadline) } := by
      simp only [act, step, looked₂]
    obtain ⟨deadline₂, tried, bound⟩ := stepAttempt_tried found₂
    obtain rfl : deadline₂ = deadline := bound _ rfl
    have whole : c.run [.step (.attempt b.id), .passTo deadline₂, .step (.attempt b.id)] =
        c₂.act (.step (.attempt b.id)) := by
      rw [← later]
      rfl
    rw [whole, second]
    cases tried with
    | ended outcome attempts outcomes openings nextAttempt genuine =>
      exact ⟨outcome, by rw [outcomes, lookup_cons_if, if_pos rfl]⟩
    | waits o' early => exact absurd early (Nat.not_lt_of_le late)

end Client

end Switchboard
