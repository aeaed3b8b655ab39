import Switchboard.Tcp.Connection

/-!
Runs of a connection: any sequence of events, whoever they come from, with the numbers that are used up
on the way.
-/
namespace Switchboard.Tcp

/-- Whether the next step of the heartbeat numbers a ping. -/
def Connection.pingDue (now : Instant) (c : Connection) : Bool :=
  !c.closed && c.heartbeat.any fun h =>
    match h.beat with
    | .sleeping wakes => wakes ≤ now
    | _ => false

/-- The invocations and the pings that an event numbers. -/
def Event.invocations : Event → Nat
  | .begin _ _ => 1
  | _ => 0

def Event.pings (c : Connection) : Event → Nat
  | .stepBeat now => if c.pingDue now then 1 else 0
  | _ => 0

namespace Connection

def run (c : Connection) (events : List Event) : Connection :=
  events.foldl (fun c e => e.apply c) c

/-- The invocations and the pings that a run numbers. -/
def invocations : List Event → Nat
  | [] => 0
  | e :: rest => e.invocations + invocations rest

def pings : Connection → List Event → Nat
  | _, [] => 0
  | c, e :: rest => e.pings c + pings (e.apply c) rest

end Connection

end Switchboard.Tcp
