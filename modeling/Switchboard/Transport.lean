import Switchboard.Destination

/-!
What a client needs of a transport: open a connection, send one invocation over it, close it, and say
when it is gone. Opening and sending may take time. The transport keeps no clock of its own; it is told
the time, and says when it wants to go on.
-/
namespace Switchboard

open Text (Bytes)

inductive Progress (ω α : Type)
  | waiting (w : ω)
  | done (a : α)
deriving DecidableEq

/-- A transport whose whole state is a value of `T`. -/
class Transport (T : Type) where
  Opening : Type
  Sending : Type
  startOpen : Instant → Descriptor → T → T × Progress Opening (Except TransportError Handle)
  resumeOpen : Instant → Opening → T → T × Progress Opening (Except TransportError Handle)
  openReady : Instant → Opening → T → Bool
  /-- When it goes on by itself. -/
  openDue : Opening → Option Instant
  startSend : Instant → Handle → Target → Bytes → T → T × Progress Sending (Except TransportError Bytes)
  resumeSend : Instant → Sending → T → T × Progress Sending (Except TransportError Bytes)
  sendReady : Instant → Sending → T → Bool
  sendDue : Sending → Option Instant
  /-- Give up waiting for a send. -/
  abandonSend : Sending → T → T
  close : Handle → T → T
  /-- Whether the connection is known to be gone. -/
  isClosed : Handle → T → Bool

end Switchboard
