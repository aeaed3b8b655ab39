import Switchboard.Number.Binary64
import Switchboard.Duration

/-!
Counters of one destination. They are 64-bit words and wrap.
-/
namespace Switchboard

structure Stats where
  /-- Invocations that the remote side answered, application errors included. -/
  invocations : UInt64 := 0
  bytesSent : UInt64 := 0
  bytesReceived : UInt64 := 0
  remoteErrors : UInt64 := 0
  /-- Dispatches that failed or ran out of time after the request was handed over. -/
  dispatchFailures : UInt64 := 0
  connectAttempts : UInt64 := 0
  connectFailures : UInt64 := 0
  disconnects : UInt64 := 0
deriving DecidableEq, Repr, Inhabited

namespace Stats

def recordInvocation (s : Stats) (sent received : Nat) : Stats :=
  { s with
    invocations := s.invocations + 1
    bytesSent := s.bytesSent + UInt64.ofNat sent
    bytesReceived := s.bytesReceived + UInt64.ofNat received }

def recordRemoteError (s : Stats) (sent : Nat) : Stats :=
  { s with
    invocations := s.invocations + 1
    remoteErrors := s.remoteErrors + 1
    bytesSent := s.bytesSent + UInt64.ofNat sent }

def recordDispatchFailure (s : Stats) : Stats := { s with dispatchFailures := s.dispatchFailures + 1 }

def recordConnectAttempt (s : Stats) : Stats := { s with connectAttempts := s.connectAttempts + 1 }

def recordConnectFailure (s : Stats) : Stats := { s with connectFailures := s.connectFailures + 1 }

def recordDisconnect (s : Stats) : Stats := { s with disconnects := s.disconnects + 1 }

/-- Invocations for each second of uptime, none when there is no uptime yet. -/
def rate (invocations uptime : Nat) : Number.Binary64 :=
  if uptime = 0 then .finite false 0 else .ratio invocations uptime

def quantityText (n : Nat) : String :=
  if n < 1024 then toString n ++ " B"
  else if n < 1048576 then (Number.Binary64.ratio n 1024).onePlace ++ " KB"
  else if n < 1073741824 then (Number.Binary64.ratio n 1048576).onePlace ++ " MB"
  else (Number.Binary64.ratio n 1073741824).onePlace ++ " GB"

end Stats

end Switchboard
