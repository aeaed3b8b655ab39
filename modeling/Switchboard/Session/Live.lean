import Switchboard.Session
import Switchboard.Transport.Tcp

/-!
A session over real sockets. Its clock is set from outside, and it takes in what the network has to say
as it comes.
-/
namespace Switchboard.Session

open Tcp (News)

/-- Let connections and tasks go on in turn, as often as given. -/
def alternate : Nat → Session Tcp → Session Tcp
  | 0, s => s
  | rounds + 1, s =>
    alternate rounds (s.perform fun c => { c with transport := c.transport.settle c.now })

/-- Bring a session up to a moment. -/
def catchUp (now : Instant) (s : Session Tcp) : Session Tcp :=
  alternate 3 ({ s with client := s.client.passTo now }.refresh true)

def hear (socket : Handle) (news : News) (s : Session Tcp) : Session Tcp :=
  { s with client := { s.client with transport := s.client.transport.hear socket news } }

def isDue (now : Instant) (s : Session Tcp) : Bool :=
  s.client.nextDue.any (· ≤ now) || s.client.transport.nextDue.any (· ≤ now)

end Switchboard.Session
