import Switchboard.Client.Setup
import Switchboard.Client.Task
import Mathlib.Data.List.Induction

/-!
Runs of a client. An action is one step of one task, of one user, of the transport or of the clock,
and a run is any sequence of them: nothing is said about who comes first or how often.

A change that takes several steps (to unload a destination, to add a receiver, to retire) comes as
those steps, so that other actions may fall between them. A connect attempt is never cut off; it
ends when its transport or its timeout ends it.
-/
namespace Switchboard.Client

open Text (Bytes)

/-- What a user can ask a client for. -/
inductive Request
  | connect (destination : Nat)
  | dispatch (destination : Nat) (target : Target) (payload : Bytes)
  | invoke (target : Target) (payload : Bytes)
  | connectAll (destinations : List Nat)
  | openHandle (d : Descriptor)
  | sendOn (handle : Handle) (target : Target) (payload : Bytes)
  | awaitClosed (handle : Handle) (deadline : Instant)
  | sleep (deadline : Instant)

inductive Action (T : Type)
  /-- A task goes on, or looks in vain whether it can. -/
  | step (task : TaskId)
  | request (r : Request)
  /-- The user of a call does not wait for it any longer. -/
  | abandon (call : Nat)
  /-- Ask for a connection without waiting for it. -/
  | beginConnect (destination : Nat)
  /-- Reports about the connection of a generation, from wherever. -/
  | handleLost (destination generation : Nat)
  | markFailed (destination generation : Nat)
  | disconnect (destination : Nat)
  | flagRetired (destination : Nat)
  | addDestination (d : Descriptor)
  | removeFromTable (name : String)
  /-- Register a receiver for a destination that is at hand, loaded or not. -/
  | register (destination : Nat) (selectors : List Selector)
  | unregister (name : String)
  | scan (policy : Reconnect.Policy)
  | wake
  | stopSupervisor
  | shutdown
  /-- Anything happens to the transport. -/
  | transport (f : T → T)
  | passTo (t : Instant)

variable {T : Type} [Transport T]

/-- A call that has not taken its first step. -/
def Request.call : Request → Call T
  | .connect i => .connect i none
  | .dispatch i target payload => .dispatch i target payload none
  | .invoke target payload => .invoke { target := target, payload := payload }
  | .connectAll is => .connectAll is 0 none
  | .openHandle d => .openHandle d none
  | .sendOn h target payload => .sendOn h target payload none
  | .awaitClosed h deadline => .awaitClosed h deadline
  | .sleep deadline => .sleep deadline

/-- The client after a change that may be refused. -/
def orSame {ε α : Type} (c : Client T) : Except ε (Client T × α) → Client T
  | .ok (after, _) => after
  | .error _ => c

def act (c : Client T) : Action T → Client T
  | .step task => c.step task
  | .request r => (c.startCall r.call).1
  | .abandon call => c.abandonCall call
  | .beginConnect i => (c.beginConnect i).1
  | .handleLost i generation => c.handleLost i generation
  | .markFailed i generation => c.markFailed i generation
  | .disconnect i => c.disconnect i
  | .flagRetired i => c.flagRetired i
  | .addDestination d => c.orSame (c.addDestination d)
  | .removeFromTable name => c.orSame (c.removeFromTable name)
  | .register i selectors => match c.destinations[i]? with
    | some d => c.orSame (c.register i d.name selectors)
    | none => c
  | .unregister name => (c.unregister name).1
  | .scan policy => (c.scan policy).1
  | .wake => c.wake
  | .stopSupervisor => c.stopSupervisor
  | .shutdown => c.shutdown
  | .transport f => { c with transport := f c.transport }
  | .passTo t => c.passTo t

def run (c : Client T) (actions : List (Action T)) : Client T := actions.foldl act c

@[simp] theorem run_nil (c : Client T) : c.run [] = c := rfl

@[simp] theorem run_cons (c : Client T) (a : Action T) (rest : List (Action T)) :
    c.run (a :: rest) = (c.act a).run rest := rfl

@[simp] theorem run_append (c : Client T) (first rest : List (Action T)) :
    c.run (first ++ rest) = (c.run first).run rest := by
  simp [run]

/-- What a client that was set up without destinations can come to. -/
def Reachable (c : Client T) : Prop :=
  ∃ name transport policy actions, c = (create name transport policy).run actions

theorem Reachable.run {c : Client T} (reachable : c.Reachable) (actions : List (Action T)) :
    (c.run actions).Reachable := by
  obtain ⟨name, transport, policy, first, rfl⟩ := reachable
  exact ⟨name, transport, policy, first ++ actions, by rw [run_append]⟩

theorem Reachable.act {c : Client T} (reachable : c.Reachable) (a : Action T) :
    (c.act a).Reachable :=
  reachable.run [a]

/-- What a new client satisfies and every action keeps holds of every client that can be reached. -/
theorem Reachable.induction {P : Client T → Prop}
    (created : ∀ name transport policy, P (create name transport policy))
    (kept : ∀ c a, P c → P (c.act a)) {c : Client T} (reachable : c.Reachable) : P c := by
  obtain ⟨name, transport, policy, actions, rfl⟩ := reachable
  induction actions using List.reverseRecOn with
  | nil => exact created name transport policy
  | append_singleton before a ih =>
    rw [run_append]
    exact kept _ a ih

end Switchboard.Client
