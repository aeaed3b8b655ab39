import Switchboard.Duration
import Switchboard.Target

/-!
What can go wrong with an invocation. A transport error says what the connection or the remote
component did; an attempt failure is one such error against one destination; and the caller is told
whether nobody claims the target, nobody could be reached, the component itself failed, or the request
was refused before anything was sent.
-/
namespace Switchboard

inductive IoFault
  | notFound | permissionDenied | connectionRefused | connectionReset | connectionAborted
  | notConnected | addressInUse | addressNotAvailable | brokenPipe | alreadyExists | wouldBlock
  | invalidInput | invalidData | timedOut | writeZero | interrupted | unexpectedEnd
  | hostUnreachable | networkUnreachable | outOfMemory | other
deriving DecidableEq, Repr

def IoFault.text : IoFault → String
  | .notFound => "entity not found"
  | .permissionDenied => "permission denied"
  | .connectionRefused => "connection refused"
  | .connectionReset => "connection reset"
  | .connectionAborted => "connection aborted"
  | .notConnected => "not connected"
  | .addressInUse => "address in use"
  | .addressNotAvailable => "address not available"
  | .brokenPipe => "broken pipe"
  | .alreadyExists => "entity already exists"
  | .wouldBlock => "operation would block"
  | .invalidInput => "invalid input parameter"
  | .invalidData => "invalid data"
  | .timedOut => "timed out"
  | .writeZero => "write zero"
  | .interrupted => "operation interrupted"
  | .unexpectedEnd => "unexpected end of file"
  | .hostUnreachable => "host unreachable"
  | .networkUnreachable => "network unreachable"
  | .outOfMemory => "out of memory"
  | .other => "other error"

inductive Connectivity
  | refused | closed | timeout | rejected | io
deriving DecidableEq, Repr

def Connectivity.text : Connectivity → String
  | .refused => "refused"
  | .closed => "closed"
  | .timeout => "timeout"
  | .rejected => "rejected"
  | .io => "io"

inductive TransportError
  | refused (reason : String)
  | closed (reason : String)
  | timeout (bound : Duration)
  | rejected (reason : String)
  | io (reason : String)
  | protocol (reason : String)
  /-- The request was not sent, and the connection is as it was. -/
  | invalidRequest (reason : String)
  | application (message : String)
deriving DecidableEq

namespace TransportError

def message : TransportError → String
  | .refused reason => "connection refused: " ++ reason
  | .closed reason => "connection closed: " ++ reason
  | .timeout bound => "timed out after " ++ bound.text
  | .rejected reason => "handshake rejected: " ++ reason
  | .io reason => "I/O error: " ++ reason
  | .protocol reason => "protocol error: " ++ reason
  | .invalidRequest reason => "invalid request: " ++ reason
  | .application message => "remote application error: " ++ message

def ofIo (fault : IoFault) (text : String) : TransportError :=
  match fault with
  | .connectionRefused => .refused text
  | .connectionReset | .connectionAborted | .brokenPipe | .unexpectedEnd => .closed text
  | _ => .io text

/-- The kind of connectivity failure; errors of the request and of the component are none. -/
def connectivity? : TransportError → Option Connectivity
  | .refused _ => some .refused
  | .closed _ => some .closed
  | .timeout _ => some .timeout
  | .rejected _ => some .rejected
  | .io _ | .protocol _ => some .io
  | .invalidRequest _ | .application _ => none

end TransportError

structure AttemptFailure where
  destination : String
  kind : Connectivity
  detail : String
deriving DecidableEq, Repr

namespace AttemptFailure

def text (f : AttemptFailure) : String :=
  f.destination ++ " (" ++ f.kind.text ++ "): " ++ f.detail

def ofTransport (destination : String) (e : TransportError) : AttemptFailure :=
  ⟨destination, e.connectivity?.getD .io, e.message⟩

end AttemptFailure

inductive InvokeError
  | noReceiver (target : Target)
  | connectivity (target : Target) (attempts : List AttemptFailure)
  | remote (destination message : String)
  | invalidRequest (target : Target) (reason : String)
deriving DecidableEq

namespace InvokeError

def attemptsText : List AttemptFailure → String
  | [] => ""
  | attempts => ": " ++ "; ".intercalate (attempts.map AttemptFailure.text)

def message : InvokeError → String
  | .noReceiver target => "no receiver available for " ++ target.text
  | .connectivity target attempts =>
    "connectivity failure: no connected receiver for " ++ target.text ++ attemptsText attempts
  | .remote destination message => "remote error from " ++ destination ++ ": " ++ message
  | .invalidRequest target reason => "invalid request for " ++ target.text ++ ": " ++ reason

def isConnectivity : InvokeError → Bool
  | .connectivity _ _ => true
  | _ => false

def isTimeout : InvokeError → Bool
  | .connectivity _ attempts => attempts.any (·.kind == .timeout)
  | _ => false

def isNoReceiver : InvokeError → Bool
  | .noReceiver _ => true
  | _ => false

def isInvalidRequest : InvokeError → Bool
  | .invalidRequest _ _ => true
  | _ => false

end InvokeError

end Switchboard
