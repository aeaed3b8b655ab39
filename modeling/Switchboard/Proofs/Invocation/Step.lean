import Switchboard.Proofs.Client.Calls
import Switchboard.Proofs.Invocation.Walk

/-!
What the steps of an invocation leave behind: what is noted of the call, and that nothing changes
but the destination of the receiver that is being visited.
-/
namespace Switchboard

namespace Client

variable {T : Type} [Transport T]

theorem stepCall_invoke (c : Client T) (id : Nat) (w : Invocation (PendingSend T)) :
    c.stepCall id (.invoke w) = match c.stepInvocation id w with
      | (c₁, .waiting w') => c₁.replaceCall id (.invoke w')
      | (c₁, .done result) => c₁.endCall id (.invoked result) := by
  unfold stepCall advance
  dsimp only
  generalize c.stepInvocation id w = next
  obtain ⟨c₁, _ | _⟩ := next <;> rfl

/-! ### What is noted -/

@[simp] theorem callEvents_tell (c : Client T) (id : Nat) (answer : Invocation.Answer) :
    (c.tell id answer).callEvents id = .told id answer :: c.callEvents id := by
  simp [callEvents, tell, Event.caller?]

@[simp] theorem callEvents_sendStarted (c : Client T) (id i : Nat) (h : Handle) :
    (c.log (.sendStarted id i h)).callEvents id = .sendStarted id i h :: c.callEvents id := by
  simp [callEvents, Event.caller?]

theorem callEvents_beginConnect (c : Client T) (i id : Nat) :
    (c.beginConnect i).1.callEvents id = c.callEvents id :=
  callEvents_of_moves (moves_beginConnect none c i) (by simp)

theorem callEvents_stepConnect (c : Client T) (i : Nat) (attempt : Option AttemptId) (id : Nat) :
    (c.stepConnect i attempt).1.callEvents id = c.callEvents id :=
  callEvents_of_moves (moves_stepConnect none c i attempt) (by simp)

theorem callEvents_resumeDispatch (c : Client T) (i sent id : Nat) (s : PendingSend T) :
    (c.resumeDispatch i sent s).1.callEvents id = c.callEvents id :=
  callEvents_of_moves ((resumeDispatch_sent c i sent s).moves none) (by simp)

theorem Sent.callEvents {i generation : Nat} {c : Client T} {r : Client T × Dispatch T}
    (sent : Sent i generation c r) (id : Nat) : r.1.callEvents id = c.callEvents id :=
  callEvents_of_moves (sent.moves none) (by simp)

/-! ### Other destinations -/

theorem elsewhere_beginConnect (c : Client T) {i j : Nat} (other : j ≠ i) :
    (c.beginConnect i).1.destinations[j]? = c.destinations[j]? := by
  cases found : c.destinations[i]? with
  | none => rw [beginConnect_of_absent found]
  | some d =>
    have asked := beginConnect_asked found
    generalize c.beginConnect i = asking at asked ⊢
    cases asked with
    | connected => rfl
    | joined => rfl
    | refused => rfl
    | started => rw [destinations_attemptBegun, List.getElem?_set_ne (Ne.symm other)]

theorem elsewhere_startDispatch (c : Client T) (id : Nat) {i j : Nat} (other : j ≠ i)
    (target : Target)
    (payload : Text.Bytes) :
    (c.startDispatch id i target payload).1.destinations[j]? = c.destinations[j]? := by
  have begun := startDispatch_begun c id i target payload
  generalize c.startDispatch id i target payload = r at begun ⊢
  cases begun with
  | absent => rfl
  | notConnected => rfl
  | sent _ _ went => exact went.elsewhere j other

/-- A step of an invocation changes no destination but the one it visits. -/
theorem elsewhere_stepInvocation (c : Client T) (id : Nat)
    (w : Invocation (PendingSend T)) {j : Nat}
    (other : ∀ r, w.place.visiting? = some r → j ≠ r.destination) :
    (c.stepInvocation id w).1.destinations[j]? = c.destinations[j]? := by
  have walked := stepInvocation_walked c id w
  generalize c.stepInvocation id w = next at walked ⊢
  cases walked with
  | found => rfl
  | chose => rfl
  | checked => rfl
  | @joined r c₁ j' place asked =>
    have same := elsewhere_beginConnect c (other r (by rw [place]; rfl))
    rw [asked] at same
    exact same
  | waits => rfl
  | connectEnded => rfl
  | @sent r c₁ s place began =>
    have same := elsewhere_startDispatch c id (other r (by rw [place]; rfl)) w.target w.payload
    rw [began] at same
    exact same
  | @dispatched r c₁ result place began =>
    have same := elsewhere_startDispatch c id (other r (by rw [place]; rfl)) w.target w.payload
    rw [began] at same
    exact same
  | @resumed r s c₁ s' place resumed =>
    have same := (resumeDispatch_sent c r.destination w.payload.length s).elsewhere j
      (other r (by rw [place]; rfl))
    rw [resumed] at same
    exact same
  | @answered r s c₁ result place resumed =>
    have same := (resumeDispatch_sent c r.destination w.payload.length s).elsewhere j
      (other r (by rw [place]; rfl))
    rw [resumed] at same
    exact same

end Client

end Switchboard
