import Switchboard.Proofs.Connection.Notes
import Switchboard.Transport.Scripted

/-!
The count of failures is a matter of history. It says how many attempts have failed since a connection
was last published, and one more if that connection was given up since it did not answer. So nothing is
waited for after a loss, and after a failure the wait is that of the count.
-/
namespace Switchboard

namespace Client

variable {T : Type} [Transport T]

/-- A destination that is no longer disconnected or has counted a failure has begun an attempt, and one
that has failed has counted it. -/
structure Ledger.Tried (l : Ledger) : Prop where
  begun : l.destination.state ≠ .disconnected → l.destination.lastAttempt.isSome
  counted : 0 < l.destination.failures → l.destination.lastAttempt.isSome
  failed : l.destination.state = .failed → 0 < l.destination.failures

theorem Ledger.Tried.step {l l' : Ledger} (tried : l.Tried) (consistent : l.Consistent)
    (step : Ledger.Step l l') : l'.Tried := by
  obtain ⟨begun, counted, failed⟩ := tried
  have running {a : AttemptId} (running : a ∈ l.attempts) : l.destination.lastAttempt.isSome := by
    have inFlight := (consistent.running running).2.1
    have state : l.destination.state = .connecting :=
      consistent.connecting.mpr (by rw [inFlight]; rfl)
    exact begun (by simp [state])
  have more (n : Nat) : 0 < min (n + 1) Destination.maxFailures := by
    simp only [Destination.maxFailures]
    omega
  cases step with
  | begun => constructor <;> simp [Destination.connecting]
  | failed there =>
    exact ⟨fun _ => running there, fun _ => running there, fun _ => more l.destination.failures⟩
  | published there kept =>
    have := running there
    constructor <;> simp [Destination.publish, kept, this]
  | discarded _ retired =>
    constructor
    · simp [Destination.publish, retired]
    · simpa [Destination.publish, retired] using counted
    · simp [Destination.publish, retired]
  | revoked on down =>
    have state : l.destination.state = .connected := consistent.connected.mpr (by rw [on]; rfl)
    have := begun (by simp [state])
    rcases down with rfl | rfl <;> constructor <;> simp [Destination.revoke, on, this, more]
  | tornDown =>
    by_cases on : l.destination.state = .connected
    · refine ⟨?_, counted, ?_⟩ <;> simp [Destination.disconnect, on]
    · refine ⟨?_, counted, ?_⟩
      · simpa [Destination.disconnect, on] using begun
      · simpa [Destination.disconnect, on] using failed
  | retired => exact ⟨begun, counted, failed⟩
  | counted => exact ⟨begun, counted, failed⟩

theorem Chronicle.tried {c : Client T} {i : Nat} {notes : List Note} (chronicle : Chronicle i c notes)
    {l : Ledger} (held : c.ledger i = some l) : l.Tried := by
  have every : c.Every fun l => l.Consistent ∧ l.Tried := by
    refine chronicle.every ?_ ?_
    · intro d created
      exact ⟨.blank d created, by constructor <;> simp [Ledger.blank]⟩
    · rintro l l' ⟨consistent, tried⟩ step
      exact ⟨consistent.step step, tried.step consistent step⟩
  exact (every.holds i l held).2

/-- After a failure the wait is that of the count, from the start of the last attempt on. -/
theorem reconnectDue_failed {d : Destination} {last : Instant} (state : d.state = .failed)
    (idle : d.inFlight = none) (kept : d.retired = false) (failed : 0 < d.failures)
    (begun : d.lastAttempt = some last) (now : Instant) (policy : Reconnect.Policy) :
    d.reconnectDue now policy = true ↔ (policy.backoff d.failures).nanos ≤ now - last := by
  simp [Destination.reconnectDue, state, idle, kept, begun, Nat.ne_of_gt failed]

/-- The count of failures in every run: the attempts that have failed since a connection was last
published, and one for that connection if it was given up since it did not answer. -/
theorem failures_counted (name : String) (transport : T) (policy : Reconnect.Policy)
    (actions : List (Action T)) {i : Nat} {d : Destination}
    (found : ((create name transport policy).run actions).destinations[i]? = some d) :
    let notes := (create name transport policy).history i actions
    d.failures = min Destination.maxFailures (failedAttempts notes + (gaveUp notes).toNat) ∧
    (d.state = .connected → d.failures = 0) ∧
    (d.state = .failed → 1 ≤ d.failures) ∧
    (d.state = .disconnected → d.retired = false →
      d.failures = 0 ∧ ∀ now policy, d.reconnectDue now policy = true) ∧
    (d.state = .failed → d.retired = false → ∃ last, lastBegun notes = some last ∧
      ∀ now policy, d.reconnectDue now policy = true ↔
        (policy.backoff d.failures).nanos ≤ now - last) := by
  intro notes
  have new : (create name transport policy).Reachable := ⟨name, transport, policy, [], rfl⟩
  have chronicle := chronicle_run name transport policy i actions
  have tracked := chronicle.tracked found
  have held := ledger_of_found found
  have reachable := new.run actions
  have consistent := reachable.consistent held
  have unfailed := (reachable.watchable.holds i _ held).unfailed
  have tried := chronicle.tried held
  have idle (other : d.state ≠ .connecting) : d.inFlight = none := by
    simpa [consistent.connecting] using other
  refine ⟨tracked.counted, unfailed.connected, tried.failed, ?_, ?_⟩
  · intro state kept
    have zero := unfailed.disconnected state kept
    have off : d.live = none := by
      have := consistent.connected
      simpa [state] using this
    have down : d.Down := ⟨state, idle (by simp [state]), off⟩
    exact ⟨zero, down.reconnectDue kept zero⟩
  · intro state kept
    obtain ⟨last, begun⟩ := Option.isSome_iff_exists.mp (tried.begun (by simp [state]))
    have still := idle (by simp [state])
    refine ⟨last, ?_, reconnectDue_failed state still kept (tried.failed state) begun⟩
    rw [← tracked.lastAttempt, begun]

/-- A send that is not answered, and then an attempt that is refused. -/
def refusedAfterSilence : List (Action Scripted) :=
  [.addDestination { name := "a", host := "h", port := 1 }, .beginConnect 0, .step (.attempt 0),
    .request (.dispatch 0 ⟨"m", "c", "i"⟩ [1]), .step (.call 0), .passTo 30000000000, .step (.call 0),
    .beginConnect 0, .step (.attempt 1)]

def silent : Scripted where
  opens := [{}, { failure := some (.refused "busy") }]
  sends := [{ delay := .ofSecs 60 }]

theorem history_refusedAfterSilence :
    (create "client" silent {}).history 0 refusedAfterSilence =
      [⟨.failed, 30000000000, false⟩, ⟨.begun, 30000000000, false⟩, ⟨.timedOut, 30000000000, false⟩,
        ⟨.published, 0, false⟩, ⟨.begun, 0, false⟩] := by
  rfl

/-- Both count, and the wait is two seconds. -/
theorem failures_counted_refusedAfterSilence :
    ∃ d, ((create "client" silent {}).run refusedAfterSilence).destinations[0]? = some d ∧
      d.failures = 2 ∧ d.reconnectDue 31999999999 {} = false ∧
      d.reconnectDue 32000000000 {} = true := by
  have found : ∃ d, ((create "client" silent {}).run refusedAfterSilence).destinations[0]? = some d ∧
      d.state = .failed ∧ d.retired = false := ⟨_, rfl, rfl, rfl⟩
  obtain ⟨d, found, state, kept⟩ := found
  obtain ⟨count, -, -, -, waits⟩ := failures_counted "client" silent {} refusedAfterSilence found
  rw [history_refusedAfterSilence] at count waits
  have two : d.failures = 2 := count
  obtain ⟨last, begun, due⟩ := waits state kept
  obtain rfl : 30000000000 = last := Option.some.inj begun
  refine ⟨d, found, two, ?_, ?_⟩
  · rw [← Bool.not_eq_true, due, two]
    decide
  · rw [due, two]
    decide

end Client

end Switchboard
