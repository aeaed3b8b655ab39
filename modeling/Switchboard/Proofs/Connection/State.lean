import Switchboard.Proofs.Client.History
import Switchboard.Transport.Scripted

/-!
State, handle, attempt and generation of a destination agree at every moment: it is connected
exactly when a connection is published, and connecting exactly when an attempt is recorded, which
then is the only one under way. The generation counts the publications.
-/
namespace Switchboard

namespace Client

variable {T : Type} [Transport T]

/-- The two equivalences hold together or not at all: an attempt leaves the state alone that it
finds, so it has to be known that nothing is published while it is under way. -/
structure Ledger.Consistent (l : Ledger) : Prop where
  connected : l.destination.state = .connected ↔ l.destination.live.isSome
  connecting : l.destination.state = .connecting ↔ l.destination.inFlight.isSome
  attempts : l.attempts = l.destination.inFlight.toList
  generation : l.destination.generation = l.publications.length
  latest : ∀ live, l.destination.live = some live →
    live.generation = l.destination.generation ∧ l.publications.head? = some live

theorem Ledger.Consistent.blank (d : Descriptor) (created : Instant) :
    (Ledger.blank d created).Consistent := by
  constructor <;> simp [Ledger.blank]

/-- An attempt under way is the one that is recorded, and nothing is published meanwhile. -/
theorem Ledger.Consistent.running {l : Ledger} (consistent : l.Consistent) {a : AttemptId}
    (running : a ∈ l.attempts) :
    l.attempts = [a] ∧ l.destination.inFlight = some a ∧ l.destination.live = none := by
  rw [consistent.attempts] at running ⊢
  have inFlight : l.destination.inFlight = some a := by simpa using running
  have connecting : l.destination.state = .connecting := by
    rw [consistent.connecting, inFlight]
    rfl
  have off : ¬ l.destination.live.isSome := by
    rw [← consistent.connected, connecting]
    decide
  exact ⟨by rw [inFlight]; rfl, inFlight, by simpa using off⟩

theorem Ledger.Consistent.step {l l' : Ledger} (consistent : l.Consistent)
    (step : Ledger.Step l l') :
    l'.Consistent := by
  cases step with
  | begun off idle kept =>
    have live : l.destination.live = none := by
      simpa [consistent.connected] using off
    have attempts : l.attempts = [] := by
      rw [consistent.attempts, idle]
      rfl
    constructor
    · simp [Destination.connecting, live]
    · simp [Destination.connecting]
    · simp [Destination.connecting, attempts]
    · exact consistent.generation
    · exact consistent.latest
  | failed running =>
    obtain ⟨attempts, inFlight, live⟩ := consistent.running running
    constructor
    · simp [Destination.recordFailure, live]
    · simp [Destination.recordFailure]
    · simp [Destination.recordFailure, attempts]
    · exact consistent.generation
    · exact consistent.latest
  | published running kept =>
    obtain ⟨attempts, inFlight, live⟩ := consistent.running running
    constructor
    · simp [Destination.publish, kept]
    · simp [Destination.publish, kept]
    · simp [Destination.publish, kept, attempts]
    · simp [Destination.publish, kept, consistent.generation]
    · simp [Destination.publish, kept]
  | discarded running retired =>
    obtain ⟨attempts, inFlight, live⟩ := consistent.running running
    constructor
    · simp [Destination.publish, retired, live]
    · simp [Destination.publish, retired]
    · simp [Destination.publish, retired, attempts]
    · simp [Destination.publish, retired, consistent.generation]
    · simp [Destination.publish, retired, live]
  | @revoked live next on down =>
    have state : l.destination.state = .connected := by
      rw [consistent.connected, on]
      rfl
    have idle : l.destination.inFlight = none := by
      have := consistent.connecting
      simpa [state] using this
    constructor
    · rcases down with rfl | rfl <;> simp [Destination.revoke, on]
    · rcases down with rfl | rfl <;> simp [Destination.revoke, on, idle]
    · simp [Destination.revoke, on, consistent.attempts]
    · simp [Destination.revoke, on, consistent.generation]
    · simp [Destination.revoke, on]
  | tornDown =>
    -- An attempt may be under way; a destination that is connecting keeps its state then.
    have connected := consistent.connected
    have connecting := consistent.connecting
    constructor
    · by_cases on : l.destination.state = .connected <;> simp [Destination.disconnect, on]
    · by_cases on : l.destination.state = .connected <;> simp_all [Destination.disconnect]
    · exact consistent.attempts
    · exact consistent.generation
    · simp [Destination.disconnect]
  | retired =>
    exact ⟨consistent.connected, consistent.connecting, consistent.attempts, consistent.generation,
      consistent.latest⟩
  | counted =>
    exact ⟨consistent.connected, consistent.connecting, consistent.attempts, consistent.generation,
      consistent.latest⟩

theorem Reachable.consistent {c : Client T} (reachable : c.Reachable) {i : Nat} {l : Ledger}
    (held : c.ledger i = some l) : l.Consistent :=
  reachable.ledger Ledger.Consistent.blank (fun _ _ consistent step => consistent.step step) held

theorem Ledger.Step.publications {l l' : Ledger} (step : Ledger.Step l l') :
    ∃ new, l'.publications = new ++ l.publications := by
  cases step with
  | @published a h => exact ⟨[⟨h, l.destination.generation + 1⟩], rfl⟩
  | begun => exact ⟨[], rfl⟩
  | failed => exact ⟨[], rfl⟩
  | discarded => exact ⟨[], rfl⟩
  | revoked => exact ⟨[], rfl⟩
  | tornDown => exact ⟨[], rfl⟩
  | retired => exact ⟨[], rfl⟩
  | counted => exact ⟨[], rfl⟩

/-- What is published is added to what was published before. -/
theorem Ledger.Steps.publications {l l' : Ledger} (steps : Ledger.Steps l l') :
    ∃ new, l'.publications = new ++ l.publications := by
  induction steps with
  | refl => exact ⟨[], rfl⟩
  | tail _ last ih =>
    obtain ⟨earlier, same⟩ := ih
    obtain ⟨new, added⟩ := last.publications
    exact ⟨new ++ earlier, by rw [added, same, List.append_assoc]⟩

/-- State, handle, attempt and generation agree in every client that can be reached, and from there
on the generation grows by one with every publication. -/
theorem connection_agrees {c : Client T} (reachable : c.Reachable) {i : Nat} {d : Destination}
    (found : c.destinations[i]? = some d) :
    (d.state = .connected ↔ d.live.isSome) ∧
    (d.state = .connecting ↔ d.inFlight.isSome) ∧
    c.attemptsOf i = d.inFlight.toList ∧
    (∀ live, d.live = some live → live.generation = d.generation) ∧
    d.current = (if d.state = .connected then (c.publications i).head? else none) ∧
    ∀ actions, ∃ d' new, (c.run actions).destinations[i]? = some d' ∧
      (c.run actions).publications i = new ++ c.publications i ∧
      d'.generation = d.generation + new.length := by
  have held := ledger_of_found found
  have consistent := reachable.consistent held
  refine ⟨consistent.connected, consistent.connecting, consistent.attempts, ?_, ?_, ?_⟩
  · intro live on
    exact (consistent.latest live on).1
  · unfold Destination.current
    split
    · next state =>
      obtain ⟨live, on⟩ := Option.isSome_iff_exists.mp (consistent.connected.mp state)
      rw [on]
      exact (consistent.latest live on).2.symm
    · rfl
  · intro actions
    obtain ⟨l', held', steps⟩ := ledger_run reachable.numbered held actions
    have consistent' := (reachable.run actions).consistent held'
    obtain ⟨new, added⟩ := steps.publications
    obtain ⟨d', found', rfl⟩ := Option.map_eq_some_iff.mp held'
    refine ⟨d', new, found', added, ?_⟩
    have before : d.generation = (c.publications i).length := consistent.generation
    have after : d'.generation = ((c.run actions).publications i).length := consistent'.generation
    calc d'.generation = (new ++ c.publications i).length := by rw [after, ← added]
      _ = d.generation + new.length := by rw [List.length_append, before, Nat.add_comm]

/-- A destination that was connected, lost its connection and is connected again, while a late
report about the first connection came in between and another destination is still connecting. -/
def reconnected : Client Scripted :=
  (create "client" {} {}).run
    [.addDestination { name := "a", host := "h", port := 1 },
      .addDestination { name := "b", host := "h", port := 2 },
      .beginConnect 0, .step (.attempt 0), .handleLost 0 1, .beginConnect 1, .beginConnect 0,
      .step (.attempt 2), .markFailed 0 1]

theorem found_reconnected :
    reconnected.destinations[0]? = some {
      descriptor := { name := "a", host := "h", port := 1 }
      created := 0
      state := .connected
      live := some ⟨1, 2⟩
      generation := 2
      lastAttempt := some 0
      stats := { connectAttempts := 2, disconnects := 1 } } := by
  rfl

theorem connection_agrees_reconnected :
    reconnected.publications 0 = [⟨1, 2⟩, ⟨0, 1⟩] ∧
      ∃ d, reconnected.destinations[0]? = some d ∧
        d.current = (reconnected.publications 0).head? := by
  have agrees := connection_agrees (c := reconnected) ⟨_, _, _, _, rfl⟩ found_reconnected
  exact ⟨rfl, _, found_reconnected, agrees.2.2.2.2.1⟩

end Client

end Switchboard
