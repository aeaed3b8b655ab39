import Switchboard.Proofs.Connection.Deeds

/-!
What each function of a client may do to destinations, and from it what each action may. The kinds of
deeds that an action is allowed are said once for each action.
-/
namespace Switchboard

open Text (Bytes)

namespace Client

variable {T : Type} [Transport T]

section Functions

variable {A : List Deed}

theorem effects_aside {c c' : Client T} (destinations : c'.destinations = c.destinations)
    (supervisor : c'.supervisor = c.supervisor) (signal : c'.signal = c.signal) : Effects A c c' :=
  .single (.aside destinations supervisor fun on => signal.trans on)

theorem effects_setDestination {c : Client T} {i : Nat} {d d' : Destination} {δ : Deed}
    (found : c.destinations[i]? = some d) (allowed : δ ∈ A) (deed : d.Undergoes δ d')
    (unheard : δ ≠ .revoked) : Effects A c (c.setDestination i d') :=
  .single (.did found allowed deed rfl rfl (fun on => on) fun lost => absurd lost unheard)

theorem effects_foldl {α : Type} {f : Client T → α → Client T}
    (effects : ∀ c a, Effects A c (f c a)) (as : List α) (c : Client T) : Effects A c (as.foldl f c) := by
  induction as generalizing c with
  | nil => exact .refl
  | cons a rest ih => exact (effects c a).trans (ih (f c a))

theorem effects_beginConnect (allowed : Deed.begun ∈ A) (c : Client T) (i : Nat) :
    Effects A c (c.beginConnect i).1 := by
  cases found : c.destinations[i]? with
  | none => rw [beginConnect_of_absent found]
  | some d =>
    have asked := beginConnect_asked found
    generalize c.beginConnect i = asking at asked ⊢
    cases asked with
    | connected => exact .refl
    | joined => exact .refl
    | refused => exact .refl
    | started off idle kept =>
      exact .single (.did found allowed (.begun off idle kept) rfl rfl (fun on => on) (by simp))

/-! ### Connections taken back and torn down -/

theorem effects_revoke (allowed : Deed.revoked ∈ A) {c : Client T} {i : Nat} {d : Destination}
    (found : c.destinations[i]? = some d) (generation : Nat) {next : ConnectionState}
    (down : next = .disconnected ∨ next = .failed) :
    Effects A c ((c.setDestination i (d.revoke generation next).1).releaseLost i
      (d.revoke generation next).2) := by
  by_cases published : d.live.map (·.generation) = some generation
  · obtain ⟨live, on, rfl⟩ := Option.map_eq_some_iff.mp published
    rw [Destination.revoke_handle on]
    exact .single (.did found allowed (.revoked on down) rfl rfl (fun _ => rfl) fun _ => rfl)
  · rw [Destination.revoke_of_stale published, setDestination_self found]
    exact .refl

theorem effects_onDestination_revoke (allowed : Deed.revoked ∈ A) (c : Client T) (i generation : Nat)
    {next : ConnectionState} (down : next = .disconnected ∨ next = .failed) :
    Effects A c ((c.onDestination i none fun d => d.revoke generation next).1.releaseLost i
      (c.onDestination i none fun d => d.revoke generation next).2) := by
  cases found : c.destinations[i]? with
  | none =>
    rw [onDestination_of_absent found]
    exact .refl
  | some d =>
    rw [onDestination_of_found found]
    exact effects_revoke allowed found generation down

theorem effects_handleLost (allowed : Deed.revoked ∈ A) (c : Client T) (i generation : Nat) :
    Effects A c (c.handleLost i generation) :=
  effects_onDestination_revoke allowed c i generation (.inl rfl)

theorem effects_markFailed (allowed : Deed.revoked ∈ A) (c : Client T) (i generation : Nat) :
    Effects A c (c.markFailed i generation) :=
  effects_onDestination_revoke allowed c i generation (.inr rfl)

theorem effects_disconnect (allowed : Deed.tornDown ∈ A) (c : Client T) (i : Nat) :
    Effects A c (c.disconnect i) := by
  unfold disconnect
  cases found : c.destinations[i]? with
  | none =>
    rw [onDestination_of_absent found]
    exact .refl
  | some d =>
    rw [onDestination_of_found found]
    refine (effects_setDestination found allowed .tornDown (by simp)).trans ?_
    cases d.disconnect.2 with
    | none => exact .refl
    | some h => exact effects_aside rfl rfl rfl

theorem effects_flagRetired (allowed : Deed.retired ∈ A) (c : Client T) (i : Nat) :
    Effects A c (c.flagRetired i) := by
  unfold flagRetired
  cases found : c.destinations[i]? with
  | none => rw [onDestination_of_absent found]
  | some d =>
    rw [onDestination_of_found found]
    exact effects_setDestination found allowed .retired (by simp)

theorem effects_stopSupervisor (allowed : Deed.stopped ∈ A) (c : Client T) :
    Effects A c c.stopSupervisor := by
  unfold stopSupervisor
  cases supervisor : c.supervisor with
  | none => exact .refl
  | some s =>
    exact .single (.stopped allowed rfl (by simp [supervisor]) fun _ => rfl)

theorem effects_shutdown (retired : Deed.retired ∈ A) (tornDown : Deed.tornDown ∈ A)
    (stopped : Deed.stopped ∈ A) (c : Client T) : Effects A c c.shutdown := by
  unfold shutdown
  split
  · exact .refl
  · have flagged : Effects A c { c with shutDown := true } := effects_aside rfl rfl rfl
    refine flagged.trans ((effects_stopSupervisor stopped _).trans (effects_foldl ?_ _ _))
    intro c i
    exact (effects_flagRetired retired c i).trans (effects_disconnect tornDown _ i)

/-! ### Attempts, watchers and the supervisor -/

/-- The destination of an attempt under way, which has nothing published. -/
theorem running_of_sound {c : Client T} (sound : c.Sound) {a : Attempt T}
    (running : a ∈ c.attempts) :
    ∃ d, c.destinations[a.destination]? = some d ∧ d.inFlight.isSome ∧ d.live = none := by
  obtain ⟨d, found⟩ := sound.numbered.found running
  obtain ⟨-, inFlight, live⟩ :=
    (sound.holds _ _ (ledger_of_found found)).running (mem_attemptsOf running)
  exact ⟨d, found, by rw [inFlight]; rfl, live⟩

theorem effects_failAttempt (allowed : Deed.failed ∈ A) {c : Client T} {a : Attempt T}
    {d : Destination} (found : c.destinations[a.destination]? = some d) (running : d.inFlight.isSome)
    (failure : Destination → AttemptFailure) : Effects A c (c.failAttempt a failure) := by
  unfold failAttempt
  rw [onDestination_of_found found]
  exact .single (.did found allowed (.failed running) rfl rfl (fun on => on) (by simp))

theorem effects_deliver (allowed : Deed.delivered ∈ A) {c : Client T} {a : Attempt T}
    {d : Destination} (found : c.destinations[a.destination]? = some d) (running : d.inFlight.isSome)
    (off : d.live = none) (h : Handle) : Effects A c (c.deliver a h) := by
  have logged : (c.log (.delivered a.destination a.id h)).destinations[a.destination]? = some d :=
    found
  have delivered {c' : Client T}
      (destinations : c'.destinations = c.destinations.set a.destination (d.publish h).1)
      (supervisor : c'.supervisor = c.supervisor) (signal : c'.signal = c.signal) :
      Effects A c c' :=
    .single (.did found allowed (.delivered running off) destinations supervisor
      (fun on => signal.trans on) (by simp))
  unfold deliver
  simp only [onDestination_of_found logged]
  cases (d.publish h).2 <;> exact delivered rfl rfl rfl

theorem effects_continueAttempt (failed : Deed.failed ∈ A) (delivered : Deed.delivered ∈ A)
    {c : Client T} {a : Attempt T} {d : Destination} (found : c.destinations[a.destination]? = some d)
    (running : d.inFlight.isSome) (off : d.live = none) (deadline : Instant)
    (p : Progress (Transport.Opening T) (Except TransportError Handle)) :
    Effects A c (c.continueAttempt a deadline p) := by
  cases p with
  | done result =>
    cases result with
    | ok h => exact effects_deliver delivered found running off h
    | error e => exact effects_failAttempt failed found running _
  | waiting o =>
    unfold continueAttempt
    dsimp only
    split
    · exact effects_failAttempt failed found running _
    · exact effects_aside rfl rfl rfl

theorem effects_stepAttempt (failed : Deed.failed ∈ A) (delivered : Deed.delivered ∈ A)
    {c : Client T} (sound : c.Sound) {a : Attempt T} (running : a ∈ c.attempts) :
    Effects A c (c.stepAttempt a) := by
  obtain ⟨d, found, inFlight, off⟩ := running_of_sound sound running
  unfold stepAttempt
  cases a.opening with
  | none =>
    simp only [found]
    have started : Effects A c { c.log (.openStarted a.destination a.id) with
        transport := (Transport.startOpen c.now d.descriptor c.transport).1 } :=
      effects_aside rfl rfl rfl
    refine started.trans ?_
    apply effects_continueAttempt failed delivered (d := d)
    · exact found
    · exact inFlight
    · exact off
  | some waiting =>
    obtain ⟨o, deadline⟩ := waiting
    have resumed : Effects A c { c with
        transport := (Transport.resumeOpen c.now o c.transport).1 } :=
      effects_aside rfl rfl rfl
    refine resumed.trans ?_
    apply effects_continueAttempt failed delivered (d := d)
    · exact found
    · exact inFlight
    · exact off

theorem effects_stepWatcher (allowed : Deed.revoked ∈ A) (c : Client T) (w : Watcher) :
    Effects A c (c.stepWatcher w) := by
  have unwatched : Effects A c { c with watchers := c.watchers.filter (·.id != w.id) } :=
    effects_aside rfl rfl rfl
  exact unwatched.trans (effects_handleLost allowed _ w.destination w.generation)

theorem effects_scan (allowed : Deed.begun ∈ A) (c : Client T) (policy : Reconnect.Policy) :
    Effects A c (c.scan policy).1 :=
  effects_foldl (effects_beginConnect allowed) (c.due policy) c

theorem effects_stepSupervisor (begun : Deed.begun ∈ A) (supervised : Deed.supervised ∈ A)
    (c : Client T) (s : Supervisor) : Effects A c (c.stepSupervisor s) := by
  unfold stepSupervisor
  have heard : Effects A c (if s.next.isSome then { c with signal := false } else c) := by
    split
    · exact .single (.supervised supervised rfl)
    · exact .refl
  refine heard.trans ?_
  generalize (if s.next.isSome then { c with signal := false } else c) = c₁
  dsimp only
  split
  · exact .single (.supervised supervised rfl)
  · exact (effects_scan begun c₁ s.policy).trans (.single (.supervised supervised rfl))

/-! ### Sends -/

theorem effects_settle (counted : Deed.counted ∈ A) (revoked : Deed.revoked ∈ A) (c : Client T)
    (i generation sent : Nat) (outcome : SendOutcome) :
    Effects A c (c.settle i generation sent outcome).1 := by
  unfold settle
  cases found : c.destinations[i]? with
  | none =>
    rw [onDestination_of_absent found]
    exact .refl
  | some d =>
    rw [onDestination_of_found found]
    have settled := d.settle_settled generation sent outcome
    generalize d.settle generation sent outcome = r at settled
    cases settled with
    | answered attempts failures disconnects =>
      exact effects_setDestination found counted (.counted attempts failures disconnects) (by simp)
    | @lost next f down named =>
      have back := effects_revoke revoked (found_setDestination found d.dispatchFailed) generation
        down
      rw [setDestination_setDestination] at back
      have failed : d.Undergoes .counted d.dispatchFailed := .counted rfl rfl rfl
      exact (effects_setDestination found counted failed (by simp)).trans back

theorem effects_continueSend (counted : Deed.counted ∈ A) (revoked : Deed.revoked ∈ A)
    (c : Client T) (i generation sent : Nat) (deadline : Instant)
    (p : Progress (Transport.Sending T) (Except TransportError Bytes)) :
    Effects A c (c.continueSend i generation sent deadline p).1 := by
  cases p with
  | done result => exact effects_settle counted revoked c i generation sent (.answered result)
  | waiting s =>
    unfold continueSend
    dsimp only
    split
    · have abandoned : Effects A c { c with transport := Transport.abandonSend s c.transport } :=
        effects_aside rfl rfl rfl
      exact abandoned.trans (effects_settle counted revoked _ i generation sent .timedOut)
    · exact .refl

theorem effects_resumeDispatch (counted : Deed.counted ∈ A) (revoked : Deed.revoked ∈ A)
    (c : Client T) (i sent : Nat) (s : PendingSend T) : Effects A c (c.resumeDispatch i sent s).1 := by
  have resumed : Effects A c { c with
      transport := (Transport.resumeSend c.now s.sending c.transport).1 } :=
    effects_aside rfl rfl rfl
  exact resumed.trans (effects_continueSend counted revoked _ i s.generation sent s.deadline _)

theorem effects_startDispatch (counted : Deed.counted ∈ A) (revoked : Deed.revoked ∈ A)
    (c : Client T) (call i : Nat) (target : Target) (payload : Bytes) :
    Effects A c (c.startDispatch call i target payload).1 := by
  unfold startDispatch
  cases found : c.destinations[i]? with
  | none => exact .refl
  | some d =>
    cases on : d.current with
    | none =>
      simp only [on]
      exact .refl
    | some live =>
      simp only [on]
      have started : Effects A c { c.log (.sendStarted call i live.handle) with
          transport := (Transport.startSend c.now live.handle target payload c.transport).1 } :=
        effects_aside rfl rfl rfl
      exact started.trans
        (effects_continueSend counted revoked _ i live.generation payload.length _ _)

/-! ### Calls -/

theorem effects_stepConnect (begun : Deed.begun ∈ A) (c : Client T) (i : Nat)
    (attempt : Option AttemptId) : Effects A c (c.stepConnect i attempt).1 := by
  unfold stepConnect
  cases attempt with
  | none =>
    have effects := effects_beginConnect begun c i
    dsimp only
    generalize c.beginConnect i = asking at effects
    obtain ⟨c₁, _ | _ | _ | _⟩ := asking <;> exact effects
  | some id =>
    dsimp only
    cases c.outcome? i id <;> exact .refl

theorem effects_tell (c : Client T) (id : Nat) (answer : Invocation.Answer) :
    Effects A c (c.tell id answer) :=
  effects_aside rfl rfl rfl

theorem effects_stepInvocation (begun : Deed.begun ∈ A) (counted : Deed.counted ∈ A)
    (revoked : Deed.revoked ∈ A) (c : Client T) (id : Nat) (w : Invocation (PendingSend T)) :
    Effects A c (c.stepInvocation id w).1 := by
  have walked := stepInvocation_walked c id w
  generalize c.stepInvocation id w = next at walked ⊢
  cases walked with
  | found => exact effects_tell c id _
  | chose => exact .refl
  | checked => exact effects_tell c id _
  | @joined r c₁ j place asked =>
    have effects := effects_beginConnect begun c r.destination
    rw [asked] at effects
    exact effects.trans (effects_tell c₁ id _)
  | waits => exact .refl
  | connectEnded => exact effects_tell c id _
  | @sent r c₁ s place began =>
    have effects := effects_startDispatch counted revoked c id r.destination w.target w.payload
    rw [began] at effects
    exact effects
  | @dispatched r c₁ result place began =>
    have effects := effects_startDispatch counted revoked c id r.destination w.target w.payload
    rw [began] at effects
    exact effects.trans (effects_tell c₁ id _)
  | @resumed r s c₁ s' place resumed =>
    have effects := effects_resumeDispatch counted revoked c r.destination w.payload.length s
    rw [resumed] at effects
    exact effects
  | @answered r s c₁ result place resumed =>
    have effects := effects_resumeDispatch counted revoked c r.destination w.payload.length s
    rw [resumed] at effects
    exact effects.trans (effects_tell c₁ id _)

theorem effects_advance (begun : Deed.begun ∈ A) (counted : Deed.counted ∈ A)
    (revoked : Deed.revoked ∈ A) (c : Client T) (id : Nat) (call : Call T) : Effects A c (c.advance id call).1 := by
  have connect {i attempt c₁ p} (stepped : c.stepConnect i attempt = (c₁, p)) : Effects A c c₁ := by
    have effects := effects_stepConnect begun c i attempt
    rwa [stepped] at effects
  have start {i target payload c₁ p}
      (began : c.startDispatch id i target payload = (c₁, p)) : Effects A c c₁ := by
    have effects := effects_startDispatch counted revoked c id i target payload
    rwa [began] at effects
  have resume {i sent s c₁ p} (resumed : c.resumeDispatch i sent s = (c₁, p)) : Effects A c c₁ := by
    have effects := effects_resumeDispatch counted revoked c i sent s
    rwa [resumed] at effects
  have walk {w c₁ p} (stepped : c.stepInvocation id w = (c₁, p)) : Effects A c c₁ := by
    have effects := effects_stepInvocation begun counted revoked c id w
    rwa [stepped] at effects
  have carry (transport : T) : Effects A c { c with transport := transport } :=
    effects_aside rfl rfl rfl
  have advanced := advance_advanced c id call
  generalize c.advance id call = next at advanced ⊢
  cases advanced with
  | connecting stepped => exact connect stepped
  | connected stepped => exact connect stepped
  | sent began => exact start began
  | dispatched began => exact start began
  | resumed resumed => exact resume resumed
  | answered resumed => exact resume resumed
  | walks stepped => exact walk stepped
  | walked stepped => exact walk stepped
  | counted => exact .refl
  | joining stepped => exact connect stepped
  | joined stepped => exact connect stepped
  | missed stepped => exact connect stepped
  | opening => exact carry _
  | opened => exact carry _
  | carries => exact carry _
  | carried => exact carry _
  | closed => exact .refl
  | stillOpen => exact .refl
  | watches => exact .refl
  | slept => exact .refl
  | sleeps => exact .refl

theorem effects_stepCall (begun : Deed.begun ∈ A) (counted : Deed.counted ∈ A)
    (revoked : Deed.revoked ∈ A) (c : Client T) (id : Nat) (call : Call T) :
    Effects A c (c.stepCall id call) := by
  have advanced := effects_advance begun counted revoked c id call
  unfold stepCall
  generalize c.advance id call = r at advanced ⊢
  obtain ⟨c₁, next | result⟩ := r <;> exact advanced.tail (.aside rfl rfl fun on => on)

theorem effects_abandonCall (c : Client T) (id : Nat) : Effects A c (c.abandonCall id) := by
  unfold abandonCall
  cases c.calls.lookup id with
  | none => exact .refl
  | some call =>
    dsimp only
    cases call.sending? <;> exact effects_aside rfl rfl rfl

end Functions

/-! ### Actions -/

/-- What an action may do to destinations. -/
def Action.deeds : Action T → List Deed
  | .step (.attempt _) => [.failed, .delivered]
  | .step (.watcher _) => [.revoked]
  | .step .supervisor => [.begun, .supervised]
  | .step (.call _) => [.begun, .counted, .revoked]
  | .beginConnect _ => [.begun]
  | .handleLost _ _ => [.revoked]
  | .markFailed _ _ => [.revoked]
  | .disconnect _ => [.tornDown]
  | .flagRetired _ => [.retired]
  | .addDestination _ => [.added]
  | .scan _ => [.begun]
  | .stopSupervisor => [.stopped]
  | .shutdown => [.retired, .tornDown, .stopped]
  | _ => []

theorem effects_step {c : Client T} (sound : c.Sound) (task : TaskId) :
    Effects (Action.step (T := T) task).deeds c (c.step task) := by
  unfold step
  cases task with
  | attempt id =>
    dsimp only
    cases looked : c.attempts.find? (·.id == id) with
    | none => exact .refl
    | some a =>
      have running := List.mem_of_find?_eq_some looked
      exact effects_stepAttempt (by simp [Action.deeds]) (by simp [Action.deeds]) sound running
  | watcher id =>
    dsimp only
    cases c.watchers.find? (·.id == id) with
    | none => exact .refl
    | some w =>
      dsimp only
      split
      · exact effects_stepWatcher (by simp [Action.deeds]) c w
      · exact .refl
  | supervisor =>
    dsimp only
    cases c.supervisor with
    | none => exact .refl
    | some s =>
      dsimp only
      split
      · exact effects_stepSupervisor (by simp [Action.deeds]) (by simp [Action.deeds]) c s
      · exact .refl
  | call id =>
    dsimp only
    cases c.calls.lookup id with
    | none => exact .refl
    | some call =>
      exact effects_stepCall (by simp [Action.deeds]) (by simp [Action.deeds])
        (by simp [Action.deeds]) c id call

/-- An action has no other effects than its deeds. -/
theorem effects_act {c : Client T} (sound : c.Sound) (a : Action T) :
    Effects a.deeds c (c.act a) := by
  cases a with
  | step task => exact effects_step sound task
  | request r => exact effects_aside rfl rfl rfl
  | abandon id => exact effects_abandonCall c id
  | beginConnect i => exact effects_beginConnect (by simp [Action.deeds]) c i
  | handleLost i generation => exact effects_handleLost (by simp [Action.deeds]) c i generation
  | markFailed i generation => exact effects_markFailed (by simp [Action.deeds]) c i generation
  | disconnect i => exact effects_disconnect (by simp [Action.deeds]) c i
  | flagRetired i => exact effects_flagRetired (by simp [Action.deeds]) c i
  | addDestination d =>
    dsimp only [act, addDestination]
    split
    · exact .refl
    · exact .single (.added (by simp [Action.deeds]) rfl rfl fun on => on)
  | removeFromTable name =>
    dsimp only [act, removeFromTable, lookup]
    cases c.table.lookup name with
    | none => exact .refl
    | some i => exact effects_aside rfl rfl rfl
  | register i selectors =>
    dsimp only [act]
    cases c.destinations[i]? with
    | none => exact .refl
    | some d =>
      dsimp only [register]
      cases c.registry.register ⟨i, d.name, selectors⟩ with
      | error e => exact .refl
      | ok registry => exact effects_aside rfl rfl rfl
  | unregister name => exact effects_aside rfl rfl rfl
  | scan policy => exact effects_scan (by simp [Action.deeds]) c policy
  | wake => exact .single (.aside rfl rfl fun _ => rfl)
  | stopSupervisor => exact effects_stopSupervisor (by simp [Action.deeds]) c
  | shutdown =>
    exact effects_shutdown (by simp [Action.deeds]) (by simp [Action.deeds])
      (by simp [Action.deeds]) c
  | transport f => exact effects_aside rfl rfl rfl
  | passTo t => exact effects_aside rfl rfl rfl

end Client

end Switchboard
