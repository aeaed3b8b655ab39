import Switchboard.Proofs.Client.Calls

/-!
Nothing in a client looks at the calls of its users but the steps of these calls, and those only at the
call that takes the step. What happens to the rest is the same whoever else is calling.
-/
namespace Switchboard

namespace Client

open Text (Bytes)

variable {T : Type} [Transport T] {α : Type}

/-- The same client with other calls and results. -/
def among (calls : List (Nat × Call T)) (results : List (Nat × CallResult)) (c : Client T) : Client T :=
  { c with calls := calls, results := results }

/-- A change that does not look at the calls, and leaves them alone. -/
def Heedless (f : Client T → Client T) : Prop :=
  ∀ calls results c, f (c.among calls results) = (f c).among calls results

/-- The same of a change that gives an answer. -/
def Impartial (f : Client T → Client T × α) : Prop :=
  ∀ calls results c, f (c.among calls results) = ((f c).1.among calls results, (f c).2)

theorem Heedless.andThen {f g : Client T → Client T} (first : Heedless f) (second : Heedless g) :
    Heedless fun c => g (f c) := by
  intro calls results c
  simp only [first calls, second calls]

theorem Impartial.andThen {f : Client T → Client T × α} {g : α → Client T → Client T}
    (first : Impartial f) (second : ∀ a, Heedless (g a)) : Heedless fun c => g (f c).2 (f c).1 := by
  intro calls results c
  simp only [first calls, second _ calls]

theorem Impartial.fst {f : Client T → Client T × α} (impartial : Impartial f) :
    Heedless fun c => (f c).1 := by
  intro calls results c
  simp only [impartial calls]

theorem Heedless.foldl {f : α → Client T → Client T} (heedless : ∀ a, Heedless (f a)) (as : List α) :
    Heedless fun c => as.foldl (fun c a => f a c) c := by
  induction as with
  | nil => exact fun _ _ _ => rfl
  | cons a rest ih => exact (heedless a).andThen ih

/-! ### Destinations -/

theorem impartial_onDestination (i : Nat) (absent : α) (f : Destination → Destination × α) :
    Impartial (T := T) (onDestination i absent f) := by
  intro calls results c
  unfold onDestination among
  cases c.destinations[i]? <;> rfl

theorem heedless_release (i : Nat) (h : Option Handle) : Heedless (T := T) (release i h) := by
  intro calls results c
  cases h <;> rfl

theorem heedless_releaseLost (i : Nat) (h : Option Handle) : Heedless (T := T) (releaseLost i h) := by
  intro calls results c
  cases h <;> rfl

theorem impartial_beginConnect (i : Nat) : Impartial (T := T) (beginConnect i) := by
  intro calls results c
  simp only [beginConnect, onDestination, among]
  cases c.destinations[i]? with
  | none => rfl
  | some d =>
    dsimp only
    generalize d.beginConnect c.now c.nextAttempt = r
    obtain ⟨d', _ | _ | _ | _⟩ := r <;> rfl

theorem heedless_handleLost (i generation : Nat) : Heedless (T := T) (handleLost i generation) :=
  (impartial_onDestination i none _).andThen fun h => heedless_releaseLost i h

theorem heedless_markFailed (i generation : Nat) : Heedless (T := T) (markFailed i generation) :=
  (impartial_onDestination i none _).andThen fun h => heedless_releaseLost i h

theorem heedless_disconnect (i : Nat) : Heedless (T := T) (disconnect i) :=
  (impartial_onDestination i none _).andThen fun h => heedless_release i h

theorem heedless_flagRetired (i : Nat) : Heedless (T := T) (flagRetired i) :=
  (impartial_onDestination i () _).fst

theorem heedless_retire (i : Nat) : Heedless (T := T) (retire i) :=
  (heedless_flagRetired i).andThen (heedless_disconnect i)

/-! ### Tasks -/

theorem heedless_failAttempt (a : Attempt T) (failure : Destination → AttemptFailure) :
    Heedless (failAttempt a failure) := by
  intro calls results c
  simp only [failAttempt, impartial_onDestination a.destination _ _ calls]
  rfl

theorem heedless_deliver (a : Attempt T) (h : Handle) : Heedless (deliver a h) := by
  intro calls results c
  simp only [deliver, onDestination, among, log]
  cases c.destinations[a.destination]? with
  | none => rfl
  | some d =>
    dsimp only
    generalize d.publish h = r
    obtain ⟨d', _ | _⟩ := r <;> rfl

theorem heedless_continueAttempt (a : Attempt T) (deadline : Instant)
    (p : Progress (Transport.Opening T) (Except TransportError Handle)) :
    Heedless (continueAttempt a deadline p) := by
  intro calls results c
  cases p with
  | done result =>
    cases result with
    | ok h => exact heedless_deliver a h calls results c
    | error e => exact heedless_failAttempt a _ calls results c
  | waiting o =>
    have failed := heedless_failAttempt a Destination.connectTimedOut calls results c
    by_cases late : deadline ≤ c.now
    · simpa only [continueAttempt, among, late, if_true] using failed
    · simp only [continueAttempt, among, late, if_false]

theorem heedless_stepAttempt (a : Attempt T) : Heedless (stepAttempt a) := by
  intro calls results c
  simp only [stepAttempt]
  cases a.opening with
  | none =>
    cases found : c.destinations[a.destination]? with
    | none => simp only [among, found]; rfl
    | some d =>
      simp only [among, found]
      exact heedless_continueAttempt a _ _ calls results
        { c.log (.openStarted a.destination a.id) with
          transport := (Transport.startOpen c.now d.descriptor c.transport).1 }
  | some o =>
    exact heedless_continueAttempt a _ _ calls results
      { c with transport := (Transport.resumeOpen c.now o.1 c.transport).1 }

theorem heedless_stepWatcher (w : Watcher) : Heedless (T := T) (stepWatcher w) := by
  intro calls results c
  exact heedless_handleLost w.destination w.generation calls results
    { c with watchers := c.watchers.filter (·.id != w.id) }

theorem impartial_scan (policy : Reconnect.Policy) : Impartial (T := T) (scan policy) := by
  intro calls results c
  have asked := Heedless.foldl (fun i => (impartial_beginConnect (T := T) i).fst) (c.due policy)
    calls results c
  exact congrArg (·, (c.due policy).length) asked

theorem heedless_stepSupervisor (s : Supervisor) : Heedless (T := T) (stepSupervisor s) := by
  intro calls results c
  have heard (c₁ : Client T) : (c₁.among calls results).scan s.policy =
      ((c₁.scan s.policy).1.among calls results, (c₁.scan s.policy).2) :=
    impartial_scan s.policy calls results c₁
  simp only [stepSupervisor]
  cases s.next.isSome with
  | false =>
    cases s.running with
    | false => rfl
    | true => simp only [heard, Bool.not_true, Bool.false_eq_true, if_false]; rfl
  | true =>
    cases s.running with
    | false => rfl
    | true =>
      have signalled : { c.among calls results with signal := false } =
        ({ c with signal := false } : Client T).among calls results := rfl
      simp only [signalled, heard, Bool.not_true, Bool.false_eq_true, if_false, if_true]
      rfl

theorem heedless_stopSupervisor : Heedless (T := T) stopSupervisor := by
  intro calls results c
  cases set : c.supervisor <;> simp only [stopSupervisor, among, set]

theorem heedless_shutdown : Heedless (T := T) shutdown := by
  intro calls results c
  cases down : c.shutDown with
  | true => simp only [shutdown, among, down, if_true]
  | false =>
    have down' : (c.among calls results).shutDown = false := down
    have stopped : ({ c.among calls results with shutDown := true } : Client T).stopSupervisor =
        ({ c with shutDown := true } : Client T).stopSupervisor.among calls results :=
      heedless_stopSupervisor calls results { c with shutDown := true }
    simp only [shutdown, down, down', stopped, Bool.false_eq_true, if_false]
    exact Heedless.foldl heedless_retire _ calls results _

/-! ### Calls -/

theorem impartial_stepConnect (i : Nat) (attempt : Option AttemptId) :
    Impartial (T := T) (stepConnect i attempt) := by
  intro calls results c
  cases attempt with
  | none =>
    simp only [stepConnect, impartial_beginConnect i calls results c]
    generalize c.beginConnect i = r
    obtain ⟨c₁, _ | _ | _ | _⟩ := r <;> rfl
  | some a =>
    have same : (c.among calls results).outcome? i a = c.outcome? i a := rfl
    simp only [stepConnect, same]
    cases c.outcome? i a <;> rfl

theorem impartial_settle (i generation sent : Nat) (outcome : SendOutcome) :
    Impartial (T := T) (settle i generation sent outcome) := by
  intro calls results c
  have settled := impartial_onDestination i (none, .error (.invalidRequest ""))
    (Destination.settle generation sent outcome) calls results c
  simp only [settle, settled, heedless_releaseLost _ _ calls]

theorem impartial_continueSend (i generation sent : Nat) (deadline : Instant)
    (p : Progress (Transport.Sending T) (Except TransportError Bytes)) :
    Impartial (continueSend i generation sent deadline p) := by
  intro calls results c
  cases p with
  | done result => simp only [continueSend, impartial_settle _ _ _ _ calls]
  | waiting s =>
    have settled := impartial_settle i generation sent .timedOut calls results
      { c with transport := Transport.abandonSend s c.transport }
    by_cases late : deadline ≤ c.now
    · simpa only [continueSend, among, late, if_true] using
        congrArg (fun r => (r.1, Progress.done r.2)) settled
    · simp only [continueSend, among, late, if_false]

theorem impartial_startDispatch (call i : Nat) (target : Target) (payload : Bytes) :
    Impartial (T := T) (startDispatch call i target payload) := by
  intro calls results c
  simp only [startDispatch]
  cases found : c.destinations[i]? with
  | none => simp only [among, found]
  | some d =>
    cases on : d.current with
    | none => simp only [among, found, on]
    | some live =>
      simp only [among, found, on]
      exact impartial_continueSend i live.generation payload.length _ _ calls results
        { c.log (.sendStarted call i live.handle) with
          transport := (Transport.startSend c.now live.handle target payload c.transport).1 }

theorem impartial_resumeDispatch (i sent : Nat) (s : PendingSend T) :
    Impartial (resumeDispatch i sent s) := by
  intro calls results c
  exact impartial_continueSend i s.generation sent s.deadline _ calls results
    { c with transport := (Transport.resumeSend c.now s.sending c.transport).1 }

theorem impartial_stepInvocation (id : Nat) (w : Invocation (PendingSend T)) :
    Impartial (stepInvocation id w) := by
  intro calls results c
  unfold stepInvocation
  cases w.place with
  | start => rfl
  | choosing => rfl
  | checking r => rfl
  | connecting r =>
    simp only [impartial_beginConnect r.destination calls results c]
    rfl
  | waiting r a =>
    have same : (c.among calls results).outcome? r.destination a = c.outcome? r.destination a := rfl
    simp only [same]
    cases c.outcome? r.destination a <;> rfl
  | dispatching r =>
    simp only [impartial_startDispatch id r.destination w.target w.payload calls results c]
    generalize c.startDispatch id r.destination w.target w.payload = p
    obtain ⟨c₁, _ | _⟩ := p <;> rfl
  | sending r s =>
    simp only [impartial_resumeDispatch r.destination w.payload.length s calls results c]
    generalize c.resumeDispatch r.destination w.payload.length s = p
    obtain ⟨c₁, _ | _⟩ := p <;> rfl

theorem impartial_advance (id : Nat) (call : Call T) : Impartial (advance id call) := by
  intro calls results c
  cases call with
  | connect i attempt =>
    simp only [advance, impartial_stepConnect i attempt calls results c]
    generalize c.stepConnect i attempt = p
    obtain ⟨c₁, _ | _⟩ := p <;> rfl
  | dispatch i target payload send =>
    cases send with
    | none =>
      simp only [advance, impartial_startDispatch id i target payload calls results c]
      generalize c.startDispatch id i target payload = p
      obtain ⟨c₁, _ | _⟩ := p <;> rfl
    | some s =>
      simp only [advance, impartial_resumeDispatch i payload.length s calls results c]
      generalize c.resumeDispatch i payload.length s = p
      obtain ⟨c₁, _ | _⟩ := p <;> rfl
  | invoke w =>
    simp only [advance, impartial_stepInvocation id w calls results c]
    generalize c.stepInvocation id w = p
    obtain ⟨c₁, _ | _⟩ := p <;> rfl
  | connectAll is n attempt =>
    cases is with
    | nil => rfl
    | cons i rest =>
      simp only [advance, impartial_stepConnect i attempt calls results c]
      generalize c.stepConnect i attempt = p
      obtain ⟨c₁, _ | _ | _⟩ := p <;> rfl
  | openHandle d opening =>
    cases opening with
    | none =>
      simp only [advance, among]
      generalize Transport.startOpen c.now d c.transport = p
      obtain ⟨t, _ | _⟩ := p <;> rfl
    | some o =>
      simp only [advance, among]
      generalize Transport.resumeOpen c.now o c.transport = p
      obtain ⟨t, _ | _⟩ := p <;> rfl
  | sendOn h target payload sending =>
    cases sending with
    | none =>
      simp only [advance, among]
      generalize Transport.startSend c.now h target payload c.transport = p
      obtain ⟨t, _ | _⟩ := p <;> rfl
    | some s =>
      simp only [advance, among]
      generalize Transport.resumeSend c.now s c.transport = p
      obtain ⟨t, _ | _⟩ := p <;> rfl
  | awaitClosed h deadline =>
    cases closed : Transport.isClosed h c.transport with
    | true => simp only [advance, among, closed, if_true]
    | false =>
      by_cases late : deadline ≤ c.now <;>
        simp only [advance, among, closed, late, Bool.false_eq_true, if_true, if_false]
  | sleep deadline =>
    by_cases late : deadline ≤ c.now <;> simp only [advance, among, late, if_true, if_false]

/-! ### Actions -/

/-- An action makes a call, takes it a step further or gives it up. -/
def Action.concernsCalls : Action T → Bool
  | .request _ => true
  | .step (.call _) => true
  | .abandon _ => true
  | _ => false

theorem heedless_step {task : TaskId} (other : ∀ id, task ≠ .call id) :
    Heedless (T := T) (step task) := by
  intro calls results c
  cases task with
  | attempt id =>
    cases looked : c.attempts.find? (·.id == id) with
    | none => simp only [step, among, looked]
    | some a => simpa only [step, among, looked] using heedless_stepAttempt a calls results c
  | watcher id =>
    cases looked : c.watchers.find? (·.id == id) with
    | none => simp only [step, among, looked]
    | some w =>
      have same : (c.among calls results).watcherReady w = c.watcherReady w := rfl
      have looked' : (c.among calls results).watchers.find? (·.id == id) = some w := looked
      simp only [step, looked, looked', same]
      split
      · exact heedless_stepWatcher w calls results c
      · rfl
  | supervisor =>
    cases set : c.supervisor with
    | none => simp only [step, among, set]
    | some s =>
      have same : (c.among calls results).supervisorReady s = c.supervisorReady s := rfl
      have set' : (c.among calls results).supervisor = some s := set
      simp only [step, set, set', same]
      split
      · exact heedless_stepSupervisor s calls results c
      · rfl
  | call id => exact absurd rfl (other id)

theorem heedless_act {x : Action T} (aside : x.concernsCalls = false) :
    Heedless fun c : Client T => c.act x := by
  intro calls results c
  cases x with
  | step task =>
    refine heedless_step ?_ calls results c
    rintro id rfl
    cases aside
  | request r => cases aside
  | abandon id => cases aside
  | beginConnect i => exact (impartial_beginConnect i).fst calls results c
  | handleLost i generation => exact heedless_handleLost i generation calls results c
  | markFailed i generation => exact heedless_markFailed i generation calls results c
  | disconnect i => exact heedless_disconnect i calls results c
  | flagRetired i => exact heedless_flagRetired i calls results c
  | addDestination d =>
    cases new : (c.table.lookup d.name).isSome <;>
      simp only [act, addDestination, among, new, Bool.false_eq_true, if_true, if_false, orSame]
  | removeFromTable name =>
    cases named : c.table.lookup name <;>
      simp only [act, removeFromTable, lookup, among, named, orSame] <;> rfl
  | register i selectors =>
    cases found : c.destinations[i]? with
    | none => simp only [act, among, found]
    | some d =>
      cases accepted : c.registry.register ⟨i, d.name, selectors⟩ <;>
        simp only [act, register, among, found, accepted, orSame]
  | unregister name => rfl
  | scan policy => exact (impartial_scan policy).fst calls results c
  | wake => rfl
  | stopSupervisor => exact heedless_stopSupervisor calls results c
  | shutdown => exact heedless_shutdown calls results c
  | transport f => rfl
  | passTo t => rfl

end Client

end Switchboard
