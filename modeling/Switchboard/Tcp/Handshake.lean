import Switchboard.Descriptor
import Switchboard.Frame.Codec

/-!
How a connection begins. The client says hello and waits for one frame: a welcome makes the connection,
and anything else ends it. What comes in behind that frame is left for the connection.
-/
namespace Switchboard.Tcp

open Text (Bytes)

structure Fault where
  kind : IoFault
  text : String
deriving DecidableEq, Repr

def Fault.error (f : Fault) : TransportError := .ofIo f.kind f.text

/-- How a stream ends: the other side has sent all it wanted to, or the socket failed. -/
inductive Ending
  | clean
  | broken (f : Fault)
deriving DecidableEq, Repr

structure Incoming where
  bytes : Bytes := []
  /-- Nothing comes after the bytes. -/
  ending : Option Ending := none
deriving DecidableEq, Repr

namespace Incoming

/-- Bytes that come after the end of a stream are not seen. -/
def receive (more : Bytes) (i : Incoming) : Incoming :=
  match i.ending with
  | none => { i with bytes := i.bytes ++ more }
  | some _ => i

def finish (ending : Ending) (i : Incoming) : Incoming :=
  match i.ending with
  | none => { i with ending := some ending }
  | some _ => i

/-- Read the next frame, or the end, if that much has come in. -/
def read? (limit : Nat) (i : Incoming) : Option (Frame.Reading ServerFrame × Incoming) :=
  match Frame.next? limit i.bytes, i.ending with
  | some (r, rest), _ => some (r, { i with bytes := rest })
  | none, none => none
  | none, some .clean => some (Frame.atEnd limit i.bytes, { i with bytes := [] })
  | none, some (.broken f) => some (.failure f.error, { i with bytes := [] })

end Incoming

def hello (client : String) (d : Descriptor) : ClientFrame :=
  .hello client (d.credentials.map (·.username)) (d.credentials.bind (·.password))

def welcomed : Frame.Reading ServerFrame → Except TransportError Unit
  | .frame .welcome => .ok ()
  | .frame (.rejected reason) => .error (.rejected reason)
  | .frame other => .error (.protocol ("unexpected handshake reply: " ++ other.describe))
  | .failure e => .error e
  | .finished => .error (.closed "server closed connection during handshake")

/-- The end of a handshake, once the answer is there: what it came to, and what is left unread. -/
def conclude? (limit : Nat) (i : Incoming) : Option (Except TransportError Unit × Incoming) :=
  (i.read? limit).map fun (r, rest) => (welcomed r, rest)

end Switchboard.Tcp
