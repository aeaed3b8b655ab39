import Switchboard.Proofs.Client.History

/-!
What an action can do to a call. A call goes on only by its own steps; whatever else happens leaves
it, what was noted of it and the receivers alone, or gives it up. What a property of all calls needs
to know beyond that is what the steps of a call do, one by one.
-/
namespace Switchboard

namespace Client

variable {T : Type} [Transport T]

/-- What was noted of a call, the last first. -/
def callEvents (id : Nat) (c : Client T) : List Event := c.journal.filter (·.caller? == some id)

/-- How a call ended, if it has; one entry at most. -/
def endings (id : Nat) (c : Client T) : List CallResult :=
  (c.results.filter (·.1 == id)).map (·.2)

/-- Two clients between which a call has made no progress. -/
structure CallKept (id : Nat) (c c' : Client T) : Prop where
  call : c'.calls.lookup id = c.calls.lookup id
  events : c'.callEvents id = c.callEvents id
  endings : c'.endings id = c.endings id
  nextCall : c.nextCall ≤ c'.nextCall

/-- Nothing is known of a call that has not been made, and a call that has ended is gone. -/
structure CallsNumbered (c : Client T) : Prop where
  fresh : ∀ id, c.nextCall ≤ id →
    c.calls.lookup id = none ∧ c.callEvents id = [] ∧ c.endings id = []
  ended : ∀ id, c.endings id ≠ [] → c.calls.lookup id = none

theorem CallKept.trans {id : Nat} {c c' c'' : Client T} (first : CallKept id c c')
    (second : CallKept id c' c'') : CallKept id c c'' :=
  ⟨second.call.trans first.call, second.events.trans first.events,
    second.endings.trans first.endings,
    Nat.le_trans first.nextCall second.nextCall⟩

/-! ### Moves -/

/-- What moves leave alone: calls, results, receivers. -/
structure Aloof (c c' : Client T) : Prop where
  calls : c'.calls = c.calls
  results : c'.results = c.results
  nextCall : c'.nextCall = c.nextCall
  registry : c'.registry = c.registry
  table : c'.table = c.table

theorem Aloof.refl (c : Client T) : Aloof c c := ⟨rfl, rfl, rfl, rfl, rfl⟩

theorem Aloof.trans {c c' c'' : Client T} (first : Aloof c c') (second : Aloof c' c'') :
    Aloof c c'' :=
  ⟨second.calls.trans first.calls, second.results.trans first.results,
    second.nextCall.trans first.nextCall, second.registry.trans first.registry,
    second.table.trans first.table⟩

theorem Move.aloof {k : Option Nat} {c c' : Client T} (m : Move k c c') : Aloof c c' := by
  cases m with
  | aside alike => exact ⟨alike.calls, alike.results, alike.nextCall, alike.registry, alike.table⟩
  | @tornDown _ _ _ d found => cases h : d.disconnect.2 <;> exact ⟨rfl, rfl, rfl, rfl, rfl⟩
  | noted => exact ⟨rfl, rfl, rfl, rfl, rfl⟩
  | opened => exact ⟨rfl, rfl, rfl, rfl, rfl⟩
  | waits => exact ⟨rfl, rfl, rfl, rfl, rfl⟩
  | begun => exact ⟨rfl, rfl, rfl, rfl, rfl⟩
  | failed => exact ⟨rfl, rfl, rfl, rfl, rfl⟩
  | published => exact ⟨rfl, rfl, rfl, rfl, rfl⟩
  | discarded => exact ⟨rfl, rfl, rfl, rfl, rfl⟩
  | revoked => exact ⟨rfl, rfl, rfl, rfl, rfl⟩
  | retired => exact ⟨rfl, rfl, rfl, rfl, rfl⟩
  | counted => exact ⟨rfl, rfl, rfl, rfl, rfl⟩

theorem Aloof.of_moves {k : Option Nat} {c c' : Client T} (m : Moves k c c') : Aloof c c' := by
  induction m with
  | refl => exact .refl _
  | tail _ last ih => exact ih.trans last.aloof

/-- A move on behalf of one call, or of none, notes nothing of another. -/
theorem Move.callEvents {k : Option Nat} {c c' : Client T} (m : Move k c c') {id : Nat}
    (other : k ≠ some id) : c'.callEvents id = c.callEvents id := by
  cases m with
  | aside alike => simp only [Client.callEvents, alike.journal]
  | @noted _ _ e own =>
    have unrelated : (e.caller? == some id) = false := by
      simpa [own] using other
    simp [Client.callEvents, log, unrelated]
  | @tornDown _ _ _ d found => cases h : d.disconnect.2 <;> rfl
  | opened => rfl
  | waits => rfl
  | begun => rfl
  | failed => rfl
  | published => rfl
  | discarded => rfl
  | revoked => rfl
  | retired => rfl
  | counted => rfl

theorem callEvents_of_moves {k : Option Nat} {c c' : Client T} (m : Moves k c c') {id : Nat}
    (other : k ≠ some id) : c'.callEvents id = c.callEvents id := by
  induction m with
  | refl => rfl
  | tail _ last ih => exact (last.callEvents other).trans ih

theorem CallKept.of_moves {k : Option Nat} {c c' : Client T} (m : Moves k c c') {id : Nat}
    (other : k ≠ some id) : CallKept id c c' := by
  have aloof := Aloof.of_moves m
  exact ⟨by rw [aloof.calls],
    callEvents_of_moves m other, by simp only [Client.endings, aloof.results],
    Nat.le_of_eq aloof.nextCall.symm⟩

/-! ### The table of calls -/

theorem lookup_cons_if {α : Type} (k : Nat) (a : α) (rest : List (Nat × α)) (j : Nat) :
    ((k, a) :: rest).lookup j = if j = k then some a else rest.lookup j := by
  by_cases h : j = k
  · simp [h]
  · simp [List.lookup_cons, h, beq_eq_false_iff_ne.mpr h]

theorem lookup_replaceCall (c : Client T) (id : Nat) (call : Call T) (j : Nat) :
    (c.replaceCall id call).calls.lookup j =
      if j = id then (c.calls.lookup id).map fun _ => call else c.calls.lookup j := by
  unfold replaceCall
  dsimp only
  induction c.calls with
  | nil => simp
  | cons p rest ih =>
    obtain ⟨k, old⟩ := p
    by_cases hk : k = id
    · subst hk
      simp only [List.map_cons, if_true, lookup_cons_if, ih]
      by_cases hj : j = k <;> simp [hj]
    · simp only [List.map_cons, hk, if_false, lookup_cons_if, ih, Ne.symm hk]
      by_cases hj : j = id
      · simp [hj, Ne.symm hk]
      · simp [hj]

theorem lookup_endCall (c : Client T) (id : Nat) (result : CallResult) (j : Nat) :
    (c.endCall id result).calls.lookup j = if j = id then none else c.calls.lookup j := by
  unfold endCall
  dsimp only
  induction c.calls with
  | nil => simp
  | cons p rest ih =>
    obtain ⟨k, old⟩ := p
    by_cases hk : k = id
    · subst hk
      have dropped : (k != k) = false := by simp
      simp only [List.filter_cons, dropped, Bool.false_eq_true, if_false, ih, lookup_cons_if]
      by_cases hj : j = k <;> simp [hj]
    · have kept : (k != id) = true := by simpa using hk
      simp only [List.filter_cons, kept, if_true, lookup_cons_if, ih]
      by_cases hj : j = id
      · simp [hj, Ne.symm hk]
      · simp [hj]

@[simp] theorem endings_endCall (c : Client T) (id : Nat) (result : CallResult) :
    (c.endCall id result).endings id = result :: c.endings id := by
  simp [endings, endCall]

theorem lookup_startCall (c : Client T) (call : Call T) (j : Nat) :
    (c.startCall call).1.calls.lookup j =
      (c.calls.lookup j).or (if j = c.nextCall then some call else none) := by
  unfold startCall
  dsimp only
  induction c.calls with
  | nil => simp [lookup_cons_if]
  | cons p rest ih =>
    obtain ⟨k, old⟩ := p
    simp only [List.cons_append, lookup_cons_if, ih]
    by_cases hk : j = k <;> simp [hk]

/-! ### Actions -/

theorem CallKept.of_replaceCall (c : Client T) {id j : Nat} (other : j ≠ id) (call : Call T) :
    CallKept id c (c.replaceCall j call) where
  call := by
    rw [lookup_replaceCall, if_neg (Ne.symm other)]
  events := rfl
  endings := rfl
  nextCall := Nat.le_refl _

theorem CallKept.of_endCall (c : Client T) {id j : Nat} (other : j ≠ id) (result : CallResult) :
    CallKept id c (c.endCall j result) where
  call := by
    rw [lookup_endCall, if_neg (Ne.symm other)]
  events := rfl
  endings := by
    simp [Client.endings, endCall, other]
  nextCall := Nat.le_refl _

/-- What an action does to a call. -/
inductive CallStep (id : Nat) (c : Client T) (a : Action T) : Client T → Prop
  | kept {c'} (kept : CallKept id c c') : CallStep id c a c'
  /-- It is made. -/
  | made (r : Request) (new : id = c.nextCall) (own : a = .request r) :
      CallStep id c a (c.startCall r.call).1
  /-- It goes on. -/
  | advanced {call} (own : a = .step (.call id)) (calling : c.calls.lookup id = some call) :
      CallStep id c a (c.stepCall id call)
  | abandoned {call} (calling : c.calls.lookup id = some call) (own : a = .abandon id) :
      CallStep id c a (c.abandonCall id)

theorem CallStep.of_moves {k : Option Nat} {c c' : Client T} {a : Action T} (m : Moves k c c')
    {id : Nat}
    (other : k ≠ some id) : CallStep id c a c' :=
  .kept (.of_moves m other)

theorem callStep_stepCall {c : Client T} {j : Nat} {call : Call T}
    (calling : c.calls.lookup j = some call)
    (id : Nat) : CallStep id c (.step (.call j)) (c.stepCall j call) := by
  by_cases own : j = id
  · subst own
    exact .advanced rfl calling
  · have moved : CallKept id c (c.advance j call).1 :=
      .of_moves (moves_advance c j call) (by simpa using own)
    unfold stepCall
    generalize c.advance j call = r at moved ⊢
    obtain ⟨c₁, call | result⟩ := r
    · exact .kept (moved.trans (.of_replaceCall c₁ own call))
    · exact .kept (moved.trans (.of_endCall c₁ own result))

theorem callStep_abandonCall {c : Client T} {j : Nat} {call : Call T}
    (calling : c.calls.lookup j = some call) (id : Nat) :
    CallStep id c (.abandon j) (c.abandonCall j) := by
  by_cases own : j = id
  · subst own
    exact .abandoned calling rfl
  · simp only [abandonCall, calling]
    cases call.sending? with
    | none => exact .kept (.of_endCall c own .aborted)
    | some s =>
      have given : CallKept id c { c with transport := Transport.abandonSend s c.transport } :=
        ⟨rfl, rfl, rfl, Nat.le_refl _⟩
      exact .kept (given.trans (.of_endCall _ own .aborted))

theorem Acted.callStep {c c' : Client T} {a : Action T} (acted : Acted c a c') (id : Nat) :
    CallStep id c a c' := by
  cases acted with
  | moved moves => exact .of_moves (moves none) (by simp)
  | attempted running moves => exact .of_moves moves (by simp)
  | called calling => exact callStep_stepCall calling id
  | @requested r =>
    by_cases new : id = c.nextCall
    · exact .made r new rfl
    · refine .kept ⟨?_, rfl, rfl, Nat.le_succ _⟩
      rw [lookup_startCall, if_neg new, Option.or_none]
  | abandoned calling => exact callStep_abandonCall calling id
  | added => exact .kept ⟨rfl, rfl, rfl, Nat.le_refl _⟩
  | removed => exact .kept ⟨rfl, rfl, rfl, Nat.le_refl _⟩
  | registered => exact .kept ⟨rfl, rfl, rfl, Nat.le_refl _⟩
  | unregistered => exact .kept ⟨rfl, rfl, rfl, Nat.le_refl _⟩

theorem callStep_act {c : Client T} (numbered : c.Numbered) (id : Nat) (a : Action T) :
    CallStep id c a (c.act a) :=
  (acted_act numbered a).callStep id

/-! ### Numbers of calls -/

/-- What a step of a call leaves: the call as it goes on, or its result. -/
inductive Stepped (id : Nat) (call : Call T) (c : Client T) : Client T → Prop
  | goesOn {c₁ next} (advanced : c.advance id call = (c₁, .waiting next))
      (moves : Moves (some id) c c₁) :
      Stepped id call c (c₁.replaceCall id next)
  | ends {c₁ result} (advanced : c.advance id call = (c₁, .done result))
      (moves : Moves (some id) c c₁) :
      Stepped id call c (c₁.endCall id result)

theorem stepCall_stepped (c : Client T) (id : Nat) (call : Call T) :
    Stepped id call c (c.stepCall id call) := by
  have moved := moves_advance c id call
  unfold stepCall
  cases advanced : c.advance id call with
  | mk c₁ next =>
    rw [advanced] at moved
    cases next with
    | waiting next => exact .goesOn advanced moved
    | done result => exact .ends advanced moved

theorem nextCall_stepCall (c : Client T) (id : Nat) (call : Call T) :
    (c.stepCall id call).nextCall = c.nextCall := by
  have stepped := stepCall_stepped c id call
  generalize c.stepCall id call = c' at stepped
  cases stepped with
  | goesOn _ moves => exact (Aloof.of_moves moves).nextCall
  | ends _ moves => exact (Aloof.of_moves moves).nextCall

theorem nextCall_abandonCall (c : Client T) (id : Nat) :
    (c.abandonCall id).nextCall = c.nextCall := by
  unfold abandonCall
  cases c.calls.lookup id with
  | none => rfl
  | some call =>
    dsimp only
    cases call.sending? <;> rfl

theorem lookup_abandonCall (c : Client T) (id : Nat) :
    (c.abandonCall id).calls.lookup id = none := by
  unfold abandonCall
  cases calling : c.calls.lookup id with
  | none => exact calling
  | some call => rw [lookup_endCall, if_pos rfl]

theorem endings_abandonCall {c : Client T} {id : Nat} {call : Call T}
    (calling : c.calls.lookup id = some call) :
    (c.abandonCall id).endings id = .aborted :: c.endings id := by
  unfold abandonCall
  rw [calling]
  dsimp only
  rw [endings_endCall]
  cases call.sending? <;> rfl

theorem callEvents_abandonCall (c : Client T) (id j : Nat) :
    (c.abandonCall id).callEvents j = c.callEvents j := by
  unfold abandonCall
  cases c.calls.lookup id with
  | none => rfl
  | some call =>
    dsimp only
    cases call.sending? <;> rfl

theorem CallsNumbered.made {c : Client T} (numbered : c.CallsNumbered) {id : Nat} {call : Call T}
    (calling : c.calls.lookup id = some call) : id < c.nextCall ∧ c.endings id = [] := by
  constructor
  · by_contra late
    rw [(numbered.fresh id (Nat.le_of_not_lt late)).1] at calling
    cases calling
  · by_contra past
    rw [numbered.ended id past] at calling
    cases calling

theorem CallsNumbered.act {c : Client T} (calls : c.CallsNumbered) (numbered : c.Numbered)
    (a : Action T) : (c.act a).CallsNumbered := by
  constructor
  · intro id late
    have step := callStep_act numbered id a
    generalize c.act a = c' at step late
    cases step with
    | kept kept =>
      have fresh := calls.fresh id (Nat.le_trans kept.nextCall late)
      rw [kept.call, kept.events, kept.endings]
      exact fresh
    | made r new =>
      subst new
      exact absurd late (Nat.not_succ_le_self _)
    | advanced own calling =>
      rw [nextCall_stepCall] at late
      exact absurd late (Nat.not_le_of_lt (calls.made calling).1)
    | abandoned calling =>
      rw [nextCall_abandonCall] at late
      exact absurd late (Nat.not_le_of_lt (calls.made calling).1)
  · intro id past
    have step := callStep_act numbered id a
    generalize c.act a = c' at step past
    cases step with
    | kept kept =>
      rw [kept.endings] at past
      rw [kept.call]
      exact calls.ended id past
    | made r new => exact absurd (calls.fresh id (Nat.le_of_eq new.symm)).2.2 past
    | @advanced call own calling =>
      have none := (calls.made calling).2
      have stepped := stepCall_stepped c id call
      generalize c.stepCall id call = c' at stepped past
      cases stepped with
      | goesOn _ moves =>
        refine absurd ?_ past
        simpa only [endings, replaceCall, (Aloof.of_moves moves).results] using none
      | ends => rw [lookup_endCall, if_pos rfl]
    | abandoned => exact lookup_abandonCall c id

theorem Reachable.callsNumbered {c : Client T} (reachable : c.Reachable) : c.CallsNumbered := by
  suffices both : c.Numbered ∧ c.CallsNumbered from both.2
  refine Reachable.induction (P := fun c => c.Numbered ∧ c.CallsNumbered) ?_ ?_ reachable
  · intro name transport policy
    have new : (create name transport policy).Reachable := ⟨name, transport, policy, [], rfl⟩
    exact ⟨new.numbered, by constructor <;> simp [create, callEvents, endings]⟩
  · rintro c a ⟨numbered, calls⟩
    exact ⟨numbered.act a, calls.act numbered a⟩

end Client

end Switchboard
