import Switchboard.Proofs.Client.Move

/-!
What attempts, watchers, the supervisor and sends do is made of moves. The functions of a client are
taken one by one, from those of one destination to the step of a task, so that none of them has to
be opened again.
-/
namespace Switchboard

open Text (Bytes)

namespace Destination

theorem revoke_of_stale {d : Destination} {generation : Nat}
    (stale : d.live.map (·.generation) ≠ some generation) (next : ConnectionState) :
    d.revoke generation next = (d, none) := by
  cases on : d.live with
  | none => simp [revoke, on]
  | some live =>
    have other : live.generation ≠ generation := by
      simpa [on] using stale
    simp [revoke, on, other]

theorem revoke_handle {d : Destination} {live : Live} (on : d.live = some live)
    (next : ConnectionState) : (d.revoke live.generation next).2 = some live.handle := by
  simp [revoke, on]

/-- The destination that has counted a failed dispatch. -/
def dispatchFailed (d : Destination) : Destination :=
  { d with stats := d.stats.recordDispatchFailure }

/-- What accounting for a send comes to: the remote side or the transport answered, or the
connection is taken back. -/
inductive Settled (generation : Nat) (d : Destination) :
    Destination × Option Handle × Except DispatchError Bytes → Prop
  | answered {stats result} (attempts : stats.connectAttempts = d.stats.connectAttempts)
      (failures : stats.connectFailures = d.stats.connectFailures)
      (disconnects : stats.disconnects = d.stats.disconnects)
      (heard : ∀ f, result ≠ .error (.notConnected f) ∧ result ≠ .error (.connectivity f)) :
      Settled generation d ({ d with stats := stats }, none, result)
  | lost {next f} (down : next = .disconnected ∨ next = .failed) (named : f.destination = d.name) :
      Settled generation d ((d.dispatchFailed.revoke generation next).1,
        (d.dispatchFailed.revoke generation next).2, .error (.connectivity f))

theorem settle_settled (generation sent : Nat) (outcome : SendOutcome) (d : Destination) :
    Settled generation d (d.settle generation sent outcome) := by
  cases outcome with
  | timedOut => exact .lost (.inr rfl) rfl
  | answered result =>
    cases result with
    | ok reply => exact .answered rfl rfl rfl (by simp)
    | error e =>
      cases e with
      | application message => exact .answered rfl rfl rfl (by simp)
      | invalidRequest reason => exact .answered (Eq.refl d.stats.connectAttempts) rfl rfl (by simp)
      | refused reason => exact .lost (.inl rfl) rfl
      | closed reason => exact .lost (.inl rfl) rfl
      | timeout bound => exact .lost (.inl rfl) rfl
      | rejected reason => exact .lost (.inl rfl) rfl
      | io reason => exact .lost (.inl rfl) rfl
      | protocol reason => exact .lost (.inl rfl) rfl

end Destination

namespace Client

variable {T : Type} [Transport T]

theorem found_setDestination {c : Client T} {i : Nat} {d : Destination}
    (found : c.destinations[i]? = some d) (d' : Destination) :
    (c.setDestination i d').destinations[i]? = some d' := by
  obtain ⟨h, _⟩ := List.getElem?_eq_some_iff.mp found
  simp [setDestination, h]

@[simp] theorem setDestination_setDestination (c : Client T) (i : Nat) (d d' : Destination) :
    (c.setDestination i d).setDestination i d' = c.setDestination i d' := by
  simp [setDestination]

/-! ### Connections taken back and torn down -/

theorem moves_revoke (k : Option Nat) {c : Client T} {i : Nat} {d : Destination}
    (found : c.destinations[i]? = some d) (generation : Nat) {next : ConnectionState}
    (down : next = .disconnected ∨ next = .failed) :
    Moves k c ((c.setDestination i (d.revoke generation next).1).releaseLost i
      (d.revoke generation next).2) := by
  by_cases published : d.live.map (·.generation) = some generation
  · obtain ⟨live, on, rfl⟩ := Option.map_eq_some_iff.mp published
    rw [Destination.revoke_handle on]
    exact (Move.revoked found on down).moves
  · rw [Destination.revoke_of_stale published, setDestination_self found]
    exact .refl

theorem moves_handleLost (k : Option Nat) (c : Client T) (i generation : Nat) :
    Moves k c (c.handleLost i generation) := by
  unfold handleLost
  cases found : c.destinations[i]? with
  | none =>
    rw [onDestination_of_absent found]
    exact .refl
  | some d =>
    rw [onDestination_of_found found]
    exact moves_revoke k found generation (.inl rfl)

theorem moves_markFailed (k : Option Nat) (c : Client T) (i generation : Nat) :
    Moves k c (c.markFailed i generation) := by
  unfold markFailed
  cases found : c.destinations[i]? with
  | none =>
    rw [onDestination_of_absent found]
    exact .refl
  | some d =>
    rw [onDestination_of_found found]
    exact moves_revoke k found generation (.inr rfl)

theorem moves_disconnect (k : Option Nat) (c : Client T) (i : Nat) :
    Moves k c (c.disconnect i) := by
  unfold disconnect
  cases found : c.destinations[i]? with
  | none =>
    rw [onDestination_of_absent found]
    exact .refl
  | some d =>
    rw [onDestination_of_found found]
    exact (Move.tornDown found).moves

theorem moves_flagRetired (k : Option Nat) (c : Client T) (i : Nat) :
    Moves k c (c.flagRetired i) := by
  unfold flagRetired
  cases found : c.destinations[i]? with
  | none => rw [onDestination_of_absent found]
  | some d =>
    rw [onDestination_of_found found]
    exact (Move.retired found).moves

theorem moves_foldl {α : Type} {k : Option Nat} {f : Client T → α → Client T}
    (moves : ∀ c a, Moves k c (f c a)) (as : List α) (c : Client T) : Moves k c (as.foldl f c) := by
  induction as generalizing c with
  | nil => exact .refl
  | cons a rest ih => exact (moves c a).trans (ih (f c a))

theorem moves_retire (k : Option Nat) (c : Client T) (i : Nat) : Moves k c (c.retire i) :=
  (moves_flagRetired k c i).trans (moves_disconnect k _ i)

theorem moves_stopSupervisor (k : Option Nat) (c : Client T) : Moves k c c.stopSupervisor := by
  unfold stopSupervisor
  cases c.supervisor with
  | none => exact .refl
  | some s => exact Alike.moves ⟨rfl, rfl, rfl, rfl, rfl, rfl, rfl, rfl, rfl, rfl⟩

theorem moves_shutdown (k : Option Nat) (c : Client T) : Moves k c c.shutdown := by
  unfold shutdown
  split
  · exact .refl
  · have flagged : Moves k c { c with shutDown := true } :=
      Alike.moves ⟨rfl, rfl, rfl, rfl, rfl, rfl, rfl, rfl, rfl, rfl⟩
    exact flagged.trans ((moves_stopSupervisor k _).trans (moves_foldl (moves_retire k) _ _))

/-! ### Attempts, watchers and the supervisor -/

theorem moves_failAttempt {c : Client T} {a : Attempt T} {d : Destination}
    (found : c.destinations[a.destination]? = some d) (running : a ∈ c.attempts)
    {failure : Destination → AttemptFailure} (named : (failure d).destination = d.name) :
    Moves none c (c.failAttempt a failure) := by
  unfold failAttempt
  rw [onDestination_of_found found]
  exact (Move.failed found running named).moves

theorem moves_deliver {c : Client T} {a : Attempt T} {d : Destination}
    (found : c.destinations[a.destination]? = some d) (running : a ∈ c.attempts) (h : Handle) :
    Moves none c (c.deliver a h) := by
  have logged : (c.log (.delivered a.destination a.id h)).destinations[a.destination]? = some d :=
    found
  unfold deliver
  simp only [onDestination_of_found logged]
  cases retired : d.retired with
  | false =>
    have kept := Move.published (h := h) found running retired
    simpa [Destination.publish, retired, handlePublished] using kept.moves
  | true =>
    have late := Move.discarded (h := h) found running retired
    simpa [Destination.publish, retired, handleDiscarded] using late.moves

theorem alike_transport (c : Client T) (transport : T) :
    Alike c { c with transport := transport } :=
  ⟨rfl, rfl, rfl, rfl, rfl, rfl, rfl, rfl, rfl, rfl⟩

theorem moves_continueAttempt {c : Client T} {a : Attempt T} {d : Destination}
    (found : c.destinations[a.destination]? = some d) (running : a ∈ c.attempts)
    (deadline : Instant)
    (p : Progress (Transport.Opening T) (Except TransportError Handle)) :
    Moves none c (c.continueAttempt a deadline p) := by
  cases p with
  | done result =>
    cases result with
    | ok h => exact moves_deliver found running h
    | error e => exact moves_failAttempt found running rfl
  | waiting o =>
    unfold continueAttempt
    dsimp only
    split
    · exact moves_failAttempt found running rfl
    · exact Move.waits.moves

theorem moves_stepAttempt {c : Client T} {a : Attempt T} {d : Destination}
    (found : c.destinations[a.destination]? = some d) (running : a ∈ c.attempts) :
    Moves none c (c.stepAttempt a) := by
  unfold stepAttempt
  cases a.opening with
  | none =>
    simp only [found]
    have opened : Moves none c (c.log (.openStarted a.destination a.id)) := Move.opened.moves
    have started := (alike_transport (c.log (.openStarted a.destination a.id))
      (Transport.startOpen c.now d.descriptor c.transport).1).moves (k := none)
    refine opened.trans (started.trans ?_)
    apply moves_continueAttempt (d := d)
    · exact found
    · exact running
  | some waiting =>
    obtain ⟨o, deadline⟩ := waiting
    have resumed := (alike_transport c (Transport.resumeOpen c.now o c.transport).1).moves (k := none)
    refine resumed.trans ?_
    apply moves_continueAttempt (d := d)
    · exact found
    · exact running

theorem moves_stepWatcher (k : Option Nat) (c : Client T) (w : Watcher) :
    Moves k c (c.stepWatcher w) := by
  have unwatched : Moves k c { c with watchers := c.watchers.filter (·.id != w.id) } :=
    Alike.moves ⟨rfl, rfl, rfl, rfl, rfl, rfl, rfl, rfl, rfl, rfl⟩
  exact unwatched.trans (moves_handleLost k _ w.destination w.generation)

theorem moves_scan (k : Option Nat) (c : Client T) (policy : Reconnect.Policy) :
    Moves k c (c.scan policy).1 :=
  moves_foldl (moves_beginConnect k) (c.due policy) c

theorem moves_stepSupervisor (k : Option Nat) (c : Client T) (s : Supervisor) :
    Moves k c (c.stepSupervisor s) := by
  unfold stepSupervisor
  have heard : Moves k c (if s.next.isSome then { c with signal := false } else c) := by
    split
    · exact Alike.moves ⟨rfl, rfl, rfl, rfl, rfl, rfl, rfl, rfl, rfl, rfl⟩
    · exact .refl
  refine heard.trans ?_
  generalize (if s.next.isSome then { c with signal := false } else c) = c₁
  dsimp only
  split
  · exact Alike.moves ⟨rfl, rfl, rfl, rfl, rfl, rfl, rfl, rfl, rfl, rfl⟩
  · have paused (c₂ : Client T) (next : Option Instant) :
        Alike c₂ { c₂ with supervisor := some { s with next := next } } :=
      ⟨rfl, rfl, rfl, rfl, rfl, rfl, rfl, rfl, rfl, rfl⟩
    exact (moves_scan k c₁ s.policy).trans (paused _ _).moves

/-! ### Sends -/

/-- What becomes of a send over the connection of a generation: it waits, or the destination has
accounted for it. No other destination changes, and if that connection is no longer published,
nothing of its own destination changes but what the dispatch counts. -/
structure Sent (i generation : Nat) (c : Client T) (r : Client T × Dispatch T) : Prop where
  moves : ∀ k, Moves k c r.1
  attempts : r.1.underWay = c.underWay ∧ r.1.nextAttempt = c.nextAttempt
  elsewhere : ∀ j, j ≠ i → r.1.destinations[j]? = c.destinations[j]?
  heard : ∀ result, r.2 = .done result → ∀ f, result ≠ .error (.notConnected f)
  named : ∀ f d, r.2 = .done (.error (.connectivity f)) → c.destinations[i]? = some d →
    f.destination = d.name
  stale : ∀ d, c.destinations[i]? = some d → d.live.map (·.generation) ≠ some generation →
    ∃ stats, stats.disconnects = d.stats.disconnects ∧
      r.1.destinations[i]? = some { d with stats := stats } ∧ r.1.journal = c.journal

/-- It does not matter to the destinations what the transport has done before. -/
theorem Sent.of_transport {i generation : Nat} {c : Client T} {transport : T}
    {r : Client T × Dispatch T}
    (sent : Sent i generation { c with transport := transport } r) : Sent i generation c r :=
  ⟨fun k => (alike_transport c transport).moves.trans (sent.moves k), sent.attempts, sent.elsewhere,
    sent.heard, sent.named, sent.stale⟩

theorem elsewhere_setDestination (c : Client T) {i j : Nat} (other : j ≠ i) (d : Destination) :
    (c.setDestination i d).destinations[j]? = c.destinations[j]? := by
  simp [setDestination, List.getElem?_set_ne (Ne.symm other)]

@[simp] theorem destinations_releaseLost (c : Client T) (i : Nat) (h : Option Handle) :
    (c.releaseLost i h).destinations = c.destinations := by
  cases h <;> rfl

theorem moves_dispatchFailed (k : Option Nat) {c : Client T} {i : Nat} {d : Destination}
    (found : c.destinations[i]? = some d) : Moves k c (c.setDestination i d.dispatchFailed) := by
  have counted : Move k c (c.setDestination i { d with stats := d.stats.recordDispatchFailure }) :=
    .counted found rfl rfl rfl
  exact counted.moves

theorem settle_sent (c : Client T) (i generation sent : Nat) (outcome : SendOutcome) :
    Sent i generation c ((c.settle i generation sent outcome).1,
      .done (c.settle i generation sent outcome).2) := by
  unfold settle
  cases found : c.destinations[i]? with
  | none =>
    rw [onDestination_of_absent found]
    exact ⟨fun _ => .refl, ⟨rfl, rfl⟩, fun _ _ => rfl, by simp, by simp, by simp [found]⟩
  | some d =>
    rw [onDestination_of_found found]
    have settled := d.settle_settled generation sent outcome
    generalize d.settle generation sent outcome = r at settled
    cases settled with
    | answered attempts failures disconnects heard =>
      refine ⟨fun k => ?_, ⟨rfl, rfl⟩, fun j other => ?_, ?_, ?_, ?_⟩
      · exact (Move.counted found attempts failures disconnects).moves
      · exact elsewhere_setDestination c other _
      · rintro result ⟨⟩ f
        exact (heard f).1
      · rintro f _ ended _
        injection ended with ended
        exact absurd ended (heard f).2
      · rintro d' found' _
        obtain rfl : d = d' := by simpa [found] using found'
        exact ⟨_, disconnects, found_setDestination found _, rfl⟩
    | @lost next f down named =>
      refine ⟨fun k => ?_, ?_, fun j other => ?_, by simp, ?_, ?_⟩
      · have back := moves_revoke k (found_setDestination found d.dispatchFailed) generation down
        rw [setDestination_setDestination] at back
        exact (moves_dispatchFailed k found).trans back
      · generalize (d.dispatchFailed.revoke generation next).2 = lost
        cases lost <;> exact ⟨rfl, rfl⟩
      · rw [destinations_releaseLost]
        exact elsewhere_setDestination c other _
      · rintro g d' ended found'
        obtain rfl : d = d' := by simpa [found] using found'
        cases ended
        exact named
      · rintro d' found' stale
        obtain rfl : d = d' := by simpa [found] using found'
        rw [Destination.revoke_of_stale (d := d.dispatchFailed) stale]
        exact ⟨d.stats.recordDispatchFailure, rfl, found_setDestination found d.dispatchFailed, rfl⟩

theorem continueSend_sent (c : Client T) (i generation sent : Nat) (deadline : Instant)
    (p : Progress (Transport.Sending T) (Except TransportError Bytes)) :
    Sent i generation c (c.continueSend i generation sent deadline p) := by
  cases p with
  | done result => exact settle_sent c i generation sent (.answered result)
  | waiting s =>
    unfold continueSend
    dsimp only
    split
    · exact (settle_sent _ i generation sent .timedOut).of_transport
    · refine ⟨fun _ => .refl, ⟨rfl, rfl⟩, fun _ _ => rfl, by simp, by simp, ?_⟩
      intro d found _
      exact ⟨d.stats, rfl, found, rfl⟩

theorem resumeDispatch_sent (c : Client T) (i sent : Nat) (s : PendingSend T) :
    Sent i s.generation c (c.resumeDispatch i sent s) :=
  (continueSend_sent _ i s.generation sent s.deadline _).of_transport

/-- How a dispatch begins: without a connection nothing is sent. -/
inductive Begun (call i : Nat) (c : Client T) : Client T × Dispatch T → Prop
  | absent (missing : c.destinations[i]? = none) :
      Begun call i c (c, .done (.error (.invalidRequest "")))
  | notConnected {d} (found : c.destinations[i]? = some d) (off : d.current = none) :
      Begun call i c (c, .done (.error (.notConnected d.notConnected)))
  | sent {d live r} (found : c.destinations[i]? = some d) (on : d.current = some live)
      (went : Sent i live.generation (c.log (.sendStarted call i live.handle)) r) : Begun call i c r

theorem startDispatch_begun (c : Client T) (call i : Nat) (target : Target) (payload : Bytes) :
    Begun call i c (c.startDispatch call i target payload) := by
  unfold startDispatch
  cases found : c.destinations[i]? with
  | none => exact .absent found
  | some d =>
    cases on : d.current with
    | none =>
      simp only [on]
      exact .notConnected found on
    | some live =>
      simp only [on]
      exact .sent found on (continueSend_sent _ i live.generation payload.length _ _).of_transport

theorem moves_startDispatch (c : Client T) (call i : Nat) (target : Target) (payload : Bytes) :
    Moves (some call) c (c.startDispatch call i target payload).1 := by
  have begun := startDispatch_begun c call i target payload
  generalize c.startDispatch call i target payload = r at begun
  cases begun with
  | absent => exact .refl
  | notConnected => exact .refl
  | sent _ _ went => exact .head (Move.noted rfl) (went.moves _)

end Client

end Switchboard
