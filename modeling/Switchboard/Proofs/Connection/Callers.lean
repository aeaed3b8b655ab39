import Switchboard.Proofs.Connection.Attempts

/-!
The callers of an attempt. Whoever asks a destination for a connection while an attempt is in flight
joins it, and hears how that attempt ended and nothing of any other.
-/
namespace Switchboard

namespace Client

variable {T : Type} [Transport T]

/-- A call is about to ask a destination for a connection. -/
inductive Call.Asks (i : Nat) : Call T → Prop
  | connect : Asks i (.connect i none)
  | connectAll {rest n} : Asks i (.connectAll (i :: rest) n none)
  | invoke {w r} (place : w.place = .connecting r) (visited : r.destination = i) : Asks i (.invoke w)

/-- A call waits for the end of an attempt. -/
inductive Call.Joined (i : Nat) (a : AttemptId) : Call T → Prop
  | connect : Joined i a (.connect i (some a))
  | connectAll {rest n} : Joined i a (.connectAll (i :: rest) n (some a))
  | invoke {w r} (place : w.place = .waiting r a) (visited : r.destination = i) : Joined i a (.invoke w)

/-- A call that asked, once it has joined an attempt. -/
def Call.joining (a : AttemptId) : Call T → Call T
  | .connect i _ => .connect i (some a)
  | .connectAll is n _ => .connectAll is n (some a)
  | .invoke w => match w.place with
    | .connecting r => .invoke { w with place := .waiting r a }
    | _ => .invoke w
  | call => call

/-- How a call goes on when it hears how the attempt ended. -/
def Call.heard (outcome : ConnectOutcome) : Call T → Progress (Call T) CallResult
  | .connect _ _ => .done (.connected outcome)
  | .connectAll (_ :: rest) n _ => match outcome with
    | .ok () => .waiting (.connectAll rest (n + 1) none)
    | .error _ => .waiting (.connectAll rest n none)
  | .invoke w => match w.place with
    | .waiting r _ => match w.connectEnded r outcome with
      | .waiting w => .waiting (.invoke w)
      | .done result => .done (.invoked result)
    | _ => .waiting (.invoke w)
  | call => .waiting call

theorem Call.Asks.joined {call : Call T} {i : Nat} (asks : call.Asks i) (a : AttemptId) :
    (call.joining a).Joined i a := by
  cases asks with
  | connect => exact .connect
  | connectAll => exact .connectAll
  | invoke place visited =>
    simp only [joining, place]
    exact .invoke rfl visited

theorem Call.Joined.sending? {call : Call T} {i : Nat} {a : AttemptId} (joined : call.Joined i a) :
    call.sending? = none := by
  cases joined with
  | connect => rfl
  | connectAll => rfl
  | invoke place => simp only [Call.sending?, place]

/-! ### Steps -/

/-- What a step of a call leaves when it does nothing to the rest of the client. -/
inductive Untouched (id : Nat) (c : Client T) : Client T → Prop
  | nothing : Untouched id c c
  | told (answer : Invocation.Answer) : Untouched id c (c.tell id answer)

theorem advance_asking {c : Client T} {i : Nat} {a : AttemptId}
    (asked : c.beginConnect i = (c, .joined a)) {call : Call T} (asks : call.Asks i) (id : Nat) :
    ∃ c₁, c.advance id call = (c₁, .waiting (call.joining a)) ∧ Untouched id c c₁ := by
  cases asks with
  | connect =>
    refine ⟨c, ?_, .nothing⟩
    simp only [advance, stepConnect, asked, Call.joining]
  | connectAll =>
    refine ⟨c, ?_, .nothing⟩
    simp only [advance, stepConnect, asked, Call.joining]
  | @invoke w r place visited =>
    subst visited
    refine ⟨c.tell id (.joining r (.joined a)), ?_, .told _⟩
    simp only [advance, stepInvocation, place, asked, Call.joining, Invocation.joining]

theorem advance_waiting {c : Client T} {i : Nat} {a : AttemptId} (unheard : c.outcome? i a = none)
    {call : Call T} (joined : call.Joined i a) (id : Nat) : c.advance id call = (c, .waiting call) := by
  cases joined with
  | connect => simp only [advance, stepConnect, unheard]
  | connectAll => simp only [advance, stepConnect, unheard]
  | invoke place visited =>
    subst visited
    simp only [advance, stepInvocation, place, unheard]

theorem advance_hearing {c : Client T} {i : Nat} {a : AttemptId} {outcome : ConnectOutcome}
    (heard : c.outcome? i a = some outcome) {call : Call T} (joined : call.Joined i a) (id : Nat) :
    ∃ c₁, c.advance id call = (c₁, call.heard outcome) ∧ Untouched id c c₁ := by
  cases joined with
  | connect =>
    refine ⟨c, ?_, .nothing⟩
    simp only [advance, stepConnect, heard, Call.heard]
  | connectAll =>
    refine ⟨c, ?_, .nothing⟩
    cases outcome <;> simp only [advance, stepConnect, heard, Call.heard]
  | @invoke w r place visited =>
    subst visited
    refine ⟨c.tell id (.outcome r a outcome), ?_, .told _⟩
    simp only [advance, stepInvocation, place, heard, Call.heard]
    generalize w.connectEnded r outcome = next
    cases next <;> rfl

/-- A call has gone on, or ended, in a certain way. -/
def Went (id : Nat) (next : Progress (Call T) CallResult) (c : Client T) : Prop :=
  match next with
  | .waiting call => c.calls.lookup id = some call ∧ c.endings id = []
  | .done result => c.calls.lookup id = none ∧ c.endings id = [result]

theorem act_call {c : Client T} {id : Nat} {call : Call T} (calling : c.calls.lookup id = some call) :
    c.act (.step (.call id)) = c.stepCall id call := by
  simp only [Client.act, step, calling]

theorem act_went {c : Client T} (reachable : c.Reachable) {id : Nat} {call : Call T}
    (calling : c.calls.lookup id = some call) :
    (c.act (.step (.call id))).Went id (c.advance id call).2 := by
  have unended := (reachable.callsNumbered.made calling).2
  have stepped := stepCall_stepped c id call
  rw [act_call calling]
  generalize c.stepCall id call = c' at stepped
  cases stepped with
  | @goesOn c₁ next advanced moves =>
    have aloof := Aloof.of_moves moves
    rw [advanced]
    refine ⟨?_, ?_⟩
    · rw [lookup_replaceCall, if_pos rfl, aloof.calls, calling]
      rfl
    · show c₁.endings id = []
      rw [endings, aloof.results]
      exact unended
  | @ends c₁ result advanced moves =>
    have aloof := Aloof.of_moves moves
    rw [advanced]
    refine ⟨?_, ?_⟩
    · rw [lookup_endCall, if_pos rfl]
    · have none : c₁.endings id = [] := by
        rw [endings, aloof.results]
        exact unended
      rw [endings_endCall, none]

/-- What an action does to a call: nothing, or it is the call's own step, or it gives the call up. -/
inductive Fared (id : Nat) (call : Call T) (c : Client T) (x : Action T) : Prop
  | kept (calling : (c.act x).calls.lookup id = some call)
  | stepped (own : x = .step (.call id)) (went : (c.act x).Went id (c.advance id call).2)
  | abandoned (own : x = .abandon id) (went : (c.act x).Went id (.done .aborted))

theorem act_fared {c : Client T} (reachable : c.Reachable) {id : Nat} {call : Call T}
    (calling : c.calls.lookup id = some call) (x : Action T) : Fared id call c x := by
  have step := callStep_act reachable.numbered id x
  generalize after : c.act x = c' at step
  cases step with
  | kept kept => exact .kept (by rw [after, kept.call, calling])
  | made r new =>
    rw [(reachable.callsNumbered.fresh id (Nat.le_of_eq new.symm)).1] at calling
    cases calling
  | advanced own _ =>
    subst own
    exact .stepped rfl (act_went reachable calling)
  | abandoned _ own =>
    refine .abandoned own ?_
    rw [after]
    refine ⟨lookup_abandonCall c id, ?_⟩
    rw [endings_abandonCall calling, (reachable.callsNumbered.made calling).2]

/-- What a call has ended with stays. -/
theorem Went.done_act {c : Client T} {id : Nat} {result : CallResult}
    (went : c.Went id (.done result)) (reachable : c.Reachable) (a : Action T) :
    (c.act a).Went id (.done result) := by
  obtain ⟨gone, ending⟩ := went
  have step := callStep_act reachable.numbered id a
  generalize c.act a = c' at step
  cases step with
  | kept kept => exact ⟨kept.call.trans gone, kept.endings.trans ending⟩
  | made r new =>
    rw [(reachable.callsNumbered.fresh id (Nat.le_of_eq new.symm)).2.2] at ending
    cases ending
  | advanced own calling =>
    rw [gone] at calling
    cases calling
  | abandoned calling =>
    rw [gone] at calling
    cases calling

/-! ### Runs -/

/-- What has become of a call that waited for an attempt: it waits still, or it was abandoned, or it has
heard how the attempt ended, which then is known. -/
inductive Followed (id : Nat) (call : Call T) (known : Option ConnectOutcome) (c : Client T)
    (actions : List (Action T)) : Prop
  | waits (calling : (c.run actions).calls.lookup id = some call)
  | abandoned (before after : List (Action T)) (split : actions = before ++ .abandon id :: after)
      (waiting : (c.run before).calls.lookup id = some call)
      (ended : (c.run actions).Went id (.done .aborted))
  | heard (before after : List (Action T)) (split : actions = before ++ .step (.call id) :: after)
      (waiting : (c.run before).calls.lookup id = some call) (outcome : ConnectOutcome)
      (known : known = some outcome)
      (went : ((c.run before).act (.step (.call id))).Went id (call.heard outcome))
      (ended : ∀ result, call.heard outcome = .done result → (c.run actions).Went id (.done result))

theorem outcome?_eq_some {c : Client T} (reachable : c.Reachable) {i : Nat} {a : AttemptId}
    {outcome : ConnectOutcome} :
    c.outcome? i a = some outcome ↔ c.outcomes.lookup a = some (some outcome) := by
  unfold outcome?
  cases known : c.outcomes.lookup a with
  | none => simp
  | some known' =>
    obtain ⟨-, o, rfl, -⟩ := reachable.openedOnce.ended a known' known
    simp

theorem outcome?_run {c : Client T} (reachable : c.Reachable) {i : Nat} {a : AttemptId}
    {outcome : ConnectOutcome} (heard : c.outcome? i a = some outcome) (actions : List (Action T)) :
    (c.run actions).outcome? i a = some outcome := by
  rw [outcome?_eq_some reachable] at heard
  rw [outcome?_eq_some (reachable.run actions)]
  exact outcome_run reachable heard actions

theorem Followed.snoc {c : Client T} {id : Nat} {call : Call T} (reachable : c.Reachable) {i : Nat}
    {a : AttemptId} (joined : call.Joined i a) {actions : List (Action T)}
    (followed : Followed id call ((c.run actions).outcome? i a) c actions) (x : Action T) :
    Followed id call ((c.run (actions ++ [x])).outcome? i a) c (actions ++ [x]) := by
  have there := reachable.run actions
  have last : c.run (actions ++ [x]) = (c.run actions).act x := by rw [run_append, run_cons, run_nil]
  have stays {result} (went : (c.run actions).Went id (.done result)) :
      (c.run (actions ++ [x])).Went id (.done result) := by
    rw [last]
    exact went.done_act there x
  cases followed with
  | waits calling =>
    cases act_fared there calling x with
    | kept calling => exact .waits (by rw [last, calling])
    | stepped own went =>
      subst own
      cases known : (c.run actions).outcome? i a with
      | none =>
        rw [advance_waiting known joined] at went
        exact .waits (by rw [last]; exact went.1)
      | some outcome =>
        obtain ⟨c₁, advanced, -⟩ := advance_hearing known joined id
        rw [advanced] at went
        refine .heard actions [] rfl calling outcome ?_ went ?_
        · rw [run_append]
          exact outcome?_run there known _
        · intro result ends
          rw [last, ← ends]
          exact went
    | abandoned own went =>
      subst own
      exact .abandoned actions [] rfl calling (by rw [last]; exact went)
  | abandoned before after split waiting ended =>
    exact .abandoned before (after ++ [x]) (by rw [split]; simp) waiting (stays ended)
  | heard before after split waiting outcome known went ended =>
    refine .heard before (after ++ [x]) (by rw [split]; simp) waiting outcome ?_ went ?_
    · rw [run_append]
      exact outcome?_run there known [x]
    · intro result ends
      exact stays (ended result ends)

/-- In every run a caller that has joined an attempt waits until it is abandoned or hears how this
attempt ended. -/
theorem followed_run {c : Client T} {id : Nat} {call : Call T} (reachable : c.Reachable) {i : Nat}
    {a : AttemptId} (joined : call.Joined i a) (calling : c.calls.lookup id = some call)
    (actions : List (Action T)) :
    Followed id call ((c.run actions).outcome? i a) c actions := by
  induction actions using List.reverseRecOn with
  | nil => exact .waits calling
  | append_singleton before x ih => exact ih.snoc reachable joined x

/-! ### The end of the wait -/

/-- What has to go on for a call that waits for an attempt to end: the call itself, attempts, the
clock. -/
def Action.drives (id : Nat) : Action T → Prop
  | .step (.call k) => k = id
  | .step (.attempt _) => True
  | .passTo _ => True
  | _ => False

theorem callKept_attempt {c : Client T} (numbered : c.Numbered) (id : Nat) (a : AttemptId) :
    CallKept id c (c.act (.step (.attempt a))) := by
  have acted := acted_act numbered (.step (.attempt a))
  generalize c.act (.step (.attempt a)) = c' at acted
  cases acted with
  | moved moves => exact .of_moves (moves none) (by simp)
  | attempted running moves => exact .of_moves moves (by simp)

/-- A caller that waits for an attempt under way, or for one that has ended, hears how it ended once the
attempt, the clock and the caller itself have gone on. -/
theorem hears {c : Client T} (reachable : c.Reachable) {id : Nat} {call : Call T} {i : Nat}
    {a : AttemptId} (joined : call.Joined i a) (calling : c.calls.lookup id = some call)
    (there : (a, i) ∈ c.underWay ∨ ∃ outcome, c.outcome? i a = some outcome) :
    ∃ (rest : List (Action T)) (outcome : ConnectOutcome), (∀ x ∈ rest, x.drives id) ∧
      (c.run rest).outcome? i a = some outcome ∧ (c.run rest).Went id (call.heard outcome) := by
  have ended : ∃ (rest : List (Action T)) (outcome : ConnectOutcome), (∀ x ∈ rest, x.drives id) ∧
      (c.run rest).calls.lookup id = some call ∧ (c.run rest).outcome? i a = some outcome := by
    obtain running | ⟨outcome, known⟩ := there
    · obtain ⟨t, outcome, known⟩ := attempt_ends reachable running
      refine ⟨_, outcome, ?_, ?_, (outcome?_eq_some (reachable.run _)).mpr known⟩
      · simp [Action.drives]
      · have first := callKept_attempt reachable.numbered id a
        have passed : CallKept id (c.act (.step (.attempt a)))
            ((c.act (.step (.attempt a))).act (.passTo t)) := ⟨rfl, rfl, rfl, Nat.le_refl _⟩
        have later := (reachable.act (.step (.attempt a))).act (.passTo t)
        have second := callKept_attempt later.numbered id a
        exact ((first.trans passed).trans second).call.trans calling
    · exact ⟨[], outcome, by simp, calling, known⟩
  obtain ⟨rest, outcome, drives, waiting, known⟩ := ended
  obtain ⟨c₁, advanced, -⟩ := advance_hearing known joined id
  have went := act_went (reachable.run rest) waiting
  rw [advanced] at went
  refine ⟨rest ++ [.step (.call id)], outcome, ?_, ?_, ?_⟩
  · intro x there
    obtain there | there := List.mem_append.mp there
    · exact drives x there
    · obtain rfl := List.mem_singleton.mp there
      exact rfl
  · rw [run_append]
    exact outcome?_run (reachable.run rest) known _
  · rw [run_append]
    exact went

end Client

end Switchboard
