import Switchboard.Proofs.Client.Outcomes

/-!
A destination that was taken out of service: it is marked retired, and nothing is published. From then
on its ledger takes only steps that keep it so: no attempt begins, and what attempts still deliver is
closed.
-/
namespace Switchboard

def Destination.OutOfService (d : Destination) : Prop :=
  d.retired = true ∧ d.live = none ∧ d.state ≠ .connected

theorem Destination.OutOfService.current {d : Destination} (out : d.OutOfService) : d.current = none :=
  if_neg out.2.2

theorem Destination.OutOfService.reconnectDue {d : Destination} (out : d.OutOfService) (now : Instant)
    (policy : Reconnect.Policy) : d.reconnectDue now policy = false := by
  simp [Destination.reconnectDue, out.1]

namespace Client

open Text (Bytes)

variable {T : Type} [Transport T]

/-- What happens to a destination that is out of service is that attempts end. -/
structure Ledger.StaysOut (l l' : Ledger) : Prop where
  out : l'.destination.OutOfService
  connectAttempts : l'.destination.stats.connectAttempts = l.destination.stats.connectAttempts
  attempts : l'.attempts ⊆ l.attempts
  publications : l'.publications = l.publications
  closed : ∃ late, l'.deliveries = late ++ l.deliveries ∧ l'.closures = late ++ l.closures

theorem Ledger.StaysOut.refl {l : Ledger} (out : l.destination.OutOfService) : l.StaysOut l :=
  ⟨out, rfl, List.Subset.refl _, rfl, [], rfl, rfl⟩

theorem Ledger.StaysOut.trans {l l' l'' : Ledger} (first : l.StaysOut l') (second : l'.StaysOut l'') :
    l.StaysOut l'' := by
  obtain ⟨late, delivered, closed⟩ := first.closed
  obtain ⟨later, delivered', closed'⟩ := second.closed
  exact {
    out := second.out
    connectAttempts := second.connectAttempts.trans first.connectAttempts
    attempts := List.Subset.trans second.attempts first.attempts
    publications := second.publications.trans first.publications
    closed := ⟨later ++ late, by rw [delivered', delivered, List.append_assoc],
      by rw [closed', closed, List.append_assoc]⟩ }

theorem Ledger.Step.staysOut {l l' : Ledger} (step : Ledger.Step l l')
    (out : l.destination.OutOfService) : l.StaysOut l' := by
  obtain ⟨retired, live, off⟩ := out
  cases step with
  | begun _ _ kept =>
    rw [retired] at kept
    cases kept
  | @failed a running =>
    exact ⟨⟨retired, live, by simp [Destination.recordFailure]⟩, rfl, List.filter_subset_self _, rfl,
      [], rfl, rfl⟩
  | published _ kept =>
    rw [retired] at kept
    cases kept
  | @discarded a h running _ =>
    refine ⟨⟨?_, ?_, ?_⟩, ?_, List.filter_subset_self _, rfl, [h], rfl, rfl⟩
    all_goals simp [Destination.publish, retired, live]
  | revoked on _ =>
    rw [live] at on
    cases on
  | tornDown =>
    refine ⟨⟨retired, rfl, ?_⟩, rfl, List.Subset.refl _, rfl, [], rfl, ?_⟩
    · simp [Destination.disconnect, off]
    · simp [Destination.disconnect, live]
  | retired =>
    exact ⟨⟨rfl, live, off⟩, rfl, List.Subset.refl _, rfl, [], rfl, rfl⟩
  | counted attempts failures disconnects =>
    exact ⟨⟨retired, live, off⟩, attempts, List.Subset.refl _, rfl, [], rfl, rfl⟩

theorem Ledger.Steps.staysOut {l l' : Ledger} (steps : Ledger.Steps l l')
    (out : l.destination.OutOfService) : l.StaysOut l' := by
  induction steps with
  | refl => exact .refl out
  | tail _ last ih => exact ih.trans (last.staysOut ih.out)

/-- The mark stays. -/
theorem Ledger.Step.retired_of_retired {l l' : Ledger} (step : Ledger.Step l l')
    (retired : l.destination.retired = true) : l'.destination.retired = true := by
  cases step with
  | published _ kept =>
    rw [retired] at kept
    cases kept
  | discarded running _ => simp [Destination.publish, retired]
  | revoked on down => simp [Destination.revoke, on, retired]
  | retired => rfl
  | begun => exact retired
  | failed => exact retired
  | tornDown => exact retired
  | counted => exact retired

theorem Ledger.Steps.retired {l l' : Ledger} (steps : Ledger.Steps l l')
    (retired : l.destination.retired = true) : l'.destination.retired = true := by
  induction steps with
  | refl => exact retired
  | tail _ last ih => exact last.retired_of_retired ih

def OutOfService (i : Nat) (c : Client T) : Prop :=
  ∃ d, c.destinations[i]? = some d ∧ d.OutOfService

theorem OutOfService.ledger {c : Client T} {i : Nat} (out : c.OutOfService i) :
    ∃ l, c.ledger i = some l ∧ l.destination.OutOfService := by
  obtain ⟨d, found, out⟩ := out
  exact ⟨_, ledger_of_found found, out⟩

theorem OutOfService.of_ledger {c : Client T} {i : Nat} {l : Ledger} (held : c.ledger i = some l)
    (out : l.destination.OutOfService) : c.OutOfService i := by
  obtain ⟨d, found, rfl⟩ := Option.map_eq_some_iff.mp held
  exact ⟨d, found, out⟩

theorem OutOfService.moves {k : Option Nat} {c c' : Client T} {i : Nat} (out : c.OutOfService i)
    (numbered : c.Numbered) (m : Moves k c c') : c'.OutOfService i := by
  obtain ⟨l, held, out⟩ := out.ledger
  obtain ⟨l', held', steps⟩ := (ledger_moves m numbered i).2 l held
  exact .of_ledger held' (steps.staysOut out).out

theorem OutOfService.act {c : Client T} {i : Nat} (out : c.OutOfService i) (numbered : c.Numbered)
    (a : Action T) : (c.act a).OutOfService i := by
  obtain ⟨l, held, out⟩ := out.ledger
  obtain ⟨l', held', steps⟩ := (ledger_act numbered a i).2 l held
  exact .of_ledger held' (steps.staysOut out).out

theorem OutOfService.run {c : Client T} {i : Nat} (out : c.OutOfService i) (numbered : c.Numbered)
    (actions : List (Action T)) : (c.run actions).OutOfService i := by
  obtain ⟨l, held, out⟩ := out.ledger
  obtain ⟨l', held', steps⟩ := ledger_run numbered held actions
  exact .of_ledger held' (steps.staysOut out).out

/-! ### Ways out of service -/

theorem outOfService_disconnect {c : Client T} {i : Nat} {d : Destination}
    (found : c.destinations[i]? = some d) (retired : d.retired = true) :
    (c.disconnect i).OutOfService i := by
  refine ⟨d.disconnect.1, ?_, retired, rfl, ?_⟩
  · rw [disconnect, onDestination_of_found found, destinations_release]
    exact found_setDestination found _
  · by_cases on : d.state = .connected <;> simp [Destination.disconnect, on]

theorem found_flagRetired {c : Client T} {i : Nat} {d : Destination}
    (found : c.destinations[i]? = some d) :
    (c.flagRetired i).destinations[i]? = some d.markRetired := by
  rw [flagRetired, onDestination_of_found found]
  exact found_setDestination found _

@[simp] def Event.send? (i : Nat) : Event → Option (Nat × Handle)
  | .sendStarted call j h => if j = i then some (call, h) else none
  | _ => none

end Client

end Switchboard
