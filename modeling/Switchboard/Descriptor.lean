import Switchboard.Duration
import Switchboard.Text.Quoted

/-!
What is known about a destination from the start: its name, where it listens, what it is told in the
handshake, and how long connecting and invoking may take.
-/
namespace Switchboard

structure Credentials where
  username : String
  password : Option String
deriving DecidableEq, Repr

/-- The credentials in a message, which shows only whether there is a password. -/
def Credentials.maskedText (c : Credentials) : String :=
  let password := if c.password.isSome then "Some(\"***\")" else "None"
  "Credentials \x7b username: " ++ Text.quoted c.username ++ ", password: " ++ password ++ " \x7d"

structure Descriptor where
  name : String
  host : String
  port : UInt16
  credentials : Option Credentials := none
  connectTimeout : Duration := .ofSecs 5
  invokeTimeout : Duration := .ofSecs 30
  /-- The time between two heartbeats, if there are any. -/
  heartbeat : Option Duration := none
deriving DecidableEq

namespace Descriptor

def authority (d : Descriptor) : String := d.host ++ ":" ++ toString d.port.toNat

end Descriptor

end Switchboard
