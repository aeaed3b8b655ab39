import Switchboard.Registry
import Switchboard.Transport

/-!
The walk of one invocation over the receivers that claim its target. Destinations are tried in the
order of their receivers, each once: one that is not connected is asked to connect, and the first that
is connected gets the request. From then on the invocation is settled, whatever the answer; it goes on
to the next destination only when nothing was sent.

The functions here are the walk's own steps, each taking the answer to what the walk asked last.
-/
namespace Switchboard

open Text (Bytes)

namespace Invocation

/-- What an invocation waits to be told; `σ` is what is known of a send under way. -/
inductive Place (σ : Type)
  | start
  | choosing
  | checking (r : Receiver)
  | connecting (r : Receiver)
  | waiting (r : Receiver) (attempt : AttemptId)
  | dispatching (r : Receiver)
  | sending (r : Receiver) (send : σ)

/-- An answer to what an invocation asked last. -/
inductive Answer
  | receivers (rs : List Receiver)
  | usable (r : Receiver) (usable : Bool)
  | joining (r : Receiver) (j : Joining)
  /-- What the attempt that was waited for came to. -/
  | outcome (r : Receiver) (attempt : AttemptId) (outcome : ConnectOutcome)
  | dispatched (r : Receiver) (result : Except DispatchError Bytes)

end Invocation

open Invocation in
structure Invocation (σ : Type) where
  target : Target
  payload : Bytes
  place : Place σ := .start
  /-- The receivers that have not been looked at. -/
  candidates : List Receiver := []
  tried : List String := []
  attempts : List AttemptFailure := []

namespace Invocation

abbrev Next (σ : Type) := Progress (Invocation σ) (Except InvokeError Bytes)

variable {σ : Type}

def found (receivers : List Receiver) (w : Invocation σ) : Next σ :=
  if receivers = [] then .done (.error (.noReceiver w.target))
  else .waiting { w with place := .choosing, candidates := receivers }

/-- Turn to the next destination that has not been tried. -/
def choose (w : Invocation σ) : Next σ :=
  match w.candidates with
  | [] => .done (.error (.connectivity w.target w.attempts))
  | r :: rest =>
    if r.name ∈ w.tried then .waiting { w with candidates := rest }
    else .waiting { w with place := .checking r, candidates := rest, tried := r.name :: w.tried }

def checked (r : Receiver) (usable : Bool) (w : Invocation σ) : Next σ :=
  .waiting { w with place := if usable then .dispatching r else .connecting r }

/-- Leave a destination to which nothing was sent. -/
def giveUp (f : AttemptFailure) (w : Invocation σ) : Next σ :=
  .waiting { w with place := .choosing, attempts := w.attempts ++ [f] }

def joining (r : Receiver) (j : Joining) (w : Invocation σ) : Next σ :=
  match j with
  | .connected => .waiting { w with place := .dispatching r }
  | .refused f => w.giveUp f
  | .joined attempt | .started attempt => .waiting { w with place := .waiting r attempt }

def connectEnded (r : Receiver) (outcome : ConnectOutcome) (w : Invocation σ) : Next σ :=
  match outcome with
  | .ok () => .waiting { w with place := .dispatching r }
  | .error f => w.giveUp f

def sendStarted (r : Receiver) (send : σ) (w : Invocation σ) : Next σ :=
  .waiting { w with place := .sending r send }

/-- The dispatch has ended, possibly before anything was sent. -/
def dispatchEnded (result : Except DispatchError Bytes) (w : Invocation σ) : Next σ :=
  match result with
  | .ok reply => .done (.ok reply)
  | .error (.notConnected f) => w.giveUp f
  | .error (.connectivity f) => .done (.error (.connectivity w.target (w.attempts ++ [f])))
  | .error (.remote destination message) => .done (.error (.remote destination message))
  | .error (.invalidRequest reason) => .done (.error (.invalidRequest w.target reason))

end Invocation

end Switchboard
