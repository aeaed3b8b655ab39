import Switchboard.Config
import Switchboard.Invocation

/-!
A client: its destinations, its registry of receivers, the supervisor that connects lost destinations
again, and everything that is under way, over one transport and one clock.

What is under way are tasks: connect attempts, watchers of published connections, the supervisor, and
the calls of the client's users. A task takes one step at a time, and the steps of different tasks may
come in any order. `canStep` says which tasks can go on now, and `step` is what they do.
-/
namespace Switchboard

open Text (Bytes)

namespace Client

structure PendingSend (T : Type) [Transport T] where
  generation : Nat
  sending : Transport.Sending T
  deadline : Instant

/-- A connect attempt; before its first step nothing has been opened. -/
structure Attempt (T : Type) [Transport T] where
  id : AttemptId
  destination : Nat
  opening : Option (Transport.Opening T × Instant) := none

/-- Waits for the loss of a published connection, or for its end from this side. -/
structure Watcher where
  id : Nat
  destination : Nat
  handle : Handle
  generation : Nat
deriving DecidableEq, Repr

structure Supervisor where
  policy : Reconnect.Policy
  running : Bool := true
  /-- It has not seen yet that it was stopped. -/
  alive : Bool := true
  /-- When it scans again; it has not scanned yet if there is none. -/
  next : Option Instant := none
deriving DecidableEq

inductive Call (T : Type) [Transport T]
  | connect (destination : Nat) (attempt : Option AttemptId)
  | dispatch (destination : Nat) (target : Target) (payload : Bytes) (send : Option (PendingSend T))
  | invoke (w : Invocation (PendingSend T))
  | connectAll (remaining : List Nat) (connected : Nat) (attempt : Option AttemptId)
  /-- The transport's own operations, without a destination. -/
  | openHandle (d : Descriptor) (opening : Option (Transport.Opening T))
  | sendOn (handle : Handle) (target : Target) (payload : Bytes) (send : Option (Transport.Sending T))
  | awaitClosed (handle : Handle) (deadline : Instant)
  | sleep (deadline : Instant)

inductive CallResult
  | connected (outcome : ConnectOutcome)
  | dispatched (result : Except DispatchError Bytes)
  | invoked (result : Except InvokeError Bytes)
  | connectedCount (n : Nat)
  | opened (result : Except TransportError Handle)
  | sent (result : Except TransportError Bytes)
  | closed (inTime : Bool)
  | slept
  | aborted

inductive TaskId
  | attempt (id : AttemptId)
  | watcher (id : Nat)
  | supervisor
  | call (id : Nat)
deriving DecidableEq, Repr

/-- What happened between a client and its transport, and what its invocations were told. -/
inductive Event
  | openStarted (destination : Nat) (attempt : AttemptId)
  | delivered (destination : Nat) (attempt : AttemptId) (handle : Handle)
  | published (destination : Nat) (handle : Handle) (generation : Nat)
  | closed (destination : Nat) (handle : Handle)
  | sendStarted (call : Nat) (destination : Nat) (handle : Handle)
  | told (call : Nat) (answer : Invocation.Answer)

end Client

open Client in
structure Client (T : Type) [Transport T] where
  name : String
  transport : T
  now : Instant := 0
  /-- Every destination ever added, by its number. -/
  destinations : List Destination := []
  /-- The loaded ones by name. -/
  table : List (String × Nat) := []
  registry : Registry := []
  supervisor : Option Supervisor := none
  /-- A loss that the supervisor has not heard of. -/
  signal : Bool := false
  shutDown : Bool := false
  attempts : List (Attempt T) := []
  watchers : List Watcher := []
  calls : List (Nat × Call T) := []
  /-- How attempts ended, the last one first; one that was cut off has no outcome. -/
  outcomes : List (AttemptId × Option ConnectOutcome) := []
  results : List (Nat × CallResult) := []
  nextAttempt : AttemptId := 0
  nextWatcher : Nat := 0
  nextCall : Nat := 0
  /-- The last event first. -/
  journal : List Event := []

namespace Client

variable {T : Type} [Transport T]

/-- A client without destinations. It has a supervisor if the policy says so. -/
def create (name : String) (transport : T) (policy : Reconnect.Policy) : Client T where
  name := name
  transport := transport
  supervisor := if policy.enabled then some { policy := policy } else none

def log (e : Event) (c : Client T) : Client T := { c with journal := e :: c.journal }

def onDestination {α : Type} (i : Nat) (absent : α) (f : Destination → Destination × α)
    (c : Client T) : Client T × α :=
  match c.destinations[i]? with
  | none => (c, absent)
  | some d => ({ c with destinations := c.destinations.set i (f d).1 }, (f d).2)

def closeHandle (i : Nat) (h : Handle) (c : Client T) : Client T :=
  ({ c with transport := Transport.close h c.transport }).log (.closed i h)

def release (i : Nat) (h : Option Handle) (c : Client T) : Client T :=
  match h with
  | some h => c.closeHandle i h
  | none => c

/-- Close a handle that was lost, if there was one, and tell the supervisor. -/
def releaseLost (i : Nat) (h : Option Handle) (c : Client T) : Client T :=
  match h with
  | some h => { c.closeHandle i h with signal := true }
  | none => c

/-- The clock never goes back. -/
def passTo (t : Instant) (c : Client T) : Client T := { c with now := max c.now t }

end Client

end Switchboard
