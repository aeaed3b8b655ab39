import Switchboard.Descriptor
import Switchboard.Failure
import Switchboard.Reconnect.Policy
import Switchboard.Stats
import Switchboard.Target
import Switchboard.Text.Bytes

/-!
One destination and its connection. Each function is one step that nothing else can come between: it
changes state, handle, generation and counters together and gives back what the transport and the
supervisor have to be told.

A destination has at most one connect attempt in flight, and whoever asks to connect meanwhile joins
it. A published connection carries a generation, and a report about an earlier one changes nothing. A
retired destination is not connected again.
-/
namespace Switchboard

open Text (Bytes)

/-- Nanoseconds since the start of the clock. -/
abbrev Instant := Nat

abbrev Handle := Nat

/-- The number of a connect attempt, unique in a client. -/
abbrev AttemptId := Nat

inductive ConnectionState
  | disconnected
  | connecting
  | connected
  | failed
deriving DecidableEq, Repr

namespace ConnectionState

/-- Only a connected destination takes invocations. -/
def isUsable : ConnectionState → Bool
  | .connected => true
  | _ => false

def text : ConnectionState → String
  | .disconnected => "Disconnected"
  | .connecting => "Connecting"
  | .connected => "Connected"
  | .failed => "Failed"

end ConnectionState

structure Live where
  handle : Handle
  generation : Nat
deriving DecidableEq, Repr

structure Destination where
  descriptor : Descriptor
  created : Instant := 0
  state : ConnectionState := .disconnected
  live : Option Live := none
  /-- How many connections have been published: fewer than `2^64`, so that a count of 64 bits is this one. -/
  generation : Nat := 0
  /-- Failures since a connection was last published, at most `2^32 - 1`. -/
  failures : Nat := 0
  lastAttempt : Option Instant := none
  inFlight : Option AttemptId := none
  stats : Stats := {}
  retired : Bool := false
deriving DecidableEq

abbrev ConnectOutcome := Except AttemptFailure Unit

inductive DispatchError
  /-- There was no connection, and nothing was sent. -/
  | notConnected (failure : AttemptFailure)
  | connectivity (failure : AttemptFailure)
  | remote (destination message : String)
  /-- The transport refused the request, and nothing was sent. -/
  | invalidRequest (reason : String)
deriving DecidableEq

inductive Joining
  | connected
  | refused (failure : AttemptFailure)
  | joined (attempt : AttemptId)
  | started (attempt : AttemptId)
deriving DecidableEq

/-- What came of a send: the transport's answer, or none in time. -/
inductive SendOutcome
  | answered (result : Except TransportError Bytes)
  | timedOut

namespace Destination

def name (d : Destination) : String := d.descriptor.name

def isUsable (d : Destination) : Bool := d.state.isUsable

def maxFailures : Nat := 0xffffffff

private def fail (d : Destination) (kind : Connectivity) (detail : String) : AttemptFailure :=
  ⟨d.name, kind, detail⟩

def removed (d : Destination) : AttemptFailure := d.fail .closed "destination has been removed"

def removedWhileConnecting (d : Destination) : AttemptFailure :=
  d.fail .closed "destination removed while connecting"

def abandoned (d : Destination) : AttemptFailure := d.fail .closed "connect attempt abandoned"

def notConnected (d : Destination) : AttemptFailure := d.fail .closed "not connected"

def connectTimedOut (d : Destination) : AttemptFailure :=
  d.fail .timeout ("connect timed out after " ++ d.descriptor.connectTimeout.text)

def invocationTimedOut (d : Destination) : AttemptFailure :=
  d.fail .timeout ("invocation timed out after " ++ d.descriptor.invokeTimeout.text)

/-- Ask to connect: join the attempt in flight, or start one under the given number. -/
def beginConnect (now : Instant) (attempt : AttemptId) (d : Destination) : Destination × Joining :=
  if d.state = .connected then (d, .connected)
  else match d.inFlight with
    | some running => (d, .joined running)
    | none =>
      if d.retired then (d, .refused d.removed)
      else
        ({ d with
          state := .connecting
          lastAttempt := some now
          inFlight := some attempt
          stats := d.stats.recordConnectAttempt }, .started attempt)

def recordFailure (d : Destination) : Destination :=
  { d with
    inFlight := none
    state := .failed
    failures := min (d.failures + 1) maxFailures
    stats := d.stats.recordConnectFailure }

/-- The attempt in flight delivered a handle. It is published under the next generation, unless the
destination was retired meanwhile; then there is no generation and the handle is to be closed. -/
def publish (handle : Handle) (d : Destination) : Destination × Option Nat :=
  if d.retired then ({ d with inFlight := none, state := .disconnected }, none)
  else
    ({ d with
      inFlight := none
      generation := d.generation + 1
      live := some ⟨handle, d.generation + 1⟩
      state := .connected
      failures := 0 }, some (d.generation + 1))

def current (d : Destination) : Option Live :=
  if d.state = .connected then d.live else none

/-- Take back the connection of a generation, if it is the one published, and give its handle, which
is to be closed. The loss is one for the supervisor to hear of. -/
def revoke (generation : Nat) (next : ConnectionState) (d : Destination) :
    Destination × Option Handle :=
  match d.live with
  | some live =>
    if live.generation = generation then
      ({ d with
        live := none
        state := next
        failures := if next = .failed then min (d.failures + 1) maxFailures else d.failures
        stats := d.stats.recordDisconnect }, some live.handle)
    else (d, none)
  | none => (d, none)

def handleLost (generation : Nat) : Destination → Destination × Option Handle :=
  revoke generation .disconnected

def markFailed (generation : Nat) : Destination → Destination × Option Handle :=
  revoke generation .failed

def disconnect (d : Destination) : Destination × Option Handle :=
  ({ d with
    live := none
    state := if d.state = .connected then .disconnected else d.state }, d.live.map (·.handle))

/-- Take the destination out of service; its connection is torn down by a step of its own. -/
def markRetired (d : Destination) : Destination := { d with retired := true }

def reconnectDue (now : Instant) (policy : Reconnect.Policy) (d : Destination) : Bool :=
  !d.retired && d.inFlight.isNone && (d.state == .disconnected || d.state == .failed) &&
    match d.lastAttempt with
    | some last => d.failures == 0 || (policy.backoff d.failures).nanos ≤ now - last
    | none => true

/-- Account for what came of a send over the connection of a generation. A failed or unanswered send
takes that connection back; the handle to be closed comes second. -/
def settle (generation sent : Nat) (outcome : SendOutcome) (d : Destination) :
    Destination × Option Handle × Except DispatchError Bytes :=
  match outcome with
  | .answered (.ok reply) =>
    ({ d with stats := d.stats.recordInvocation sent reply.length }, none, .ok reply)
  | .answered (.error (.application message)) =>
    ({ d with stats := d.stats.recordRemoteError sent }, none, .error (.remote d.name message))
  | .answered (.error (.invalidRequest reason)) => (d, none, .error (.invalidRequest reason))
  | .answered (.error e) =>
    let (after, handle) := handleLost generation { d with stats := d.stats.recordDispatchFailure }
    (after, handle, .error (.connectivity (.ofTransport d.name e)))
  | .timedOut =>
    let (after, handle) := markFailed generation { d with stats := d.stats.recordDispatchFailure }
    (after, handle, .error (.connectivity d.invocationTimedOut))

def describe (d : Destination) : String :=
  "Destination \x7b name: " ++ Text.quoted d.name ++ ", state: " ++ d.state.text ++ " \x7d"

end Destination

end Switchboard
