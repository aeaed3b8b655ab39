import Switchboard.Client.Setup
import Switchboard.Client.Task

/-!
A client run by one thread on a clock that stands still while anything can run. Tasks that can go on
wait in a queue, first come first served; those that become able to go on at the same moment enter it
in the order in which they began to wait, new ones before them. One call may be in the foreground: it
runs first when it is made and when the clock has moved, and otherwise only when the queue is empty.
The clock moves to the next moment at which something goes on by itself, and only while the foreground
waits.
-/
namespace Switchboard

open Text (Bytes)

namespace Session

/-- Enough steps for everything that can happen at one moment. -/
def patience : Nat := 10000000

end Session

structure Session (T : Type) [Transport T] where
  client : Client T
  queue : List Client.TaskId := []
  /-- All tasks in the order in which they began to wait. -/
  order : List Client.TaskId := []
  foreground : Option Client.TaskId := none
  spawned : List (String × Nat) := []

namespace Session

open Client (TaskId)

variable {T : Type} [Transport T]

/-- Whether a task never waits: a supervisor that pauses for no time between two scans. A scan that
follows another one at the same moment finds nothing new unless something else has run between them. -/
def isRestless (c : Client T) : TaskId → Bool
  | .supervisor => c.supervisor.any fun s => s.next.isSome && s.policy.scanInterval.nanos == 0
  | _ => false

/-- Note which tasks are new or gone, and queue those that have become able to go on, unless it is the
one that has just had its turn and never waits. After a move of the clock the order of waiting decides;
otherwise the supervisor comes last. -/
def refresh (clockMoved : Bool) (s : Session T) (ran : Option TaskId := none) : Session T :=
  let all := s.client.tasks.filter fun t => s.foreground != some t
  let fresh := all.filter fun t => !s.order.contains t
  let known := s.order.filter all.contains
  let woken := known.filter fun t => s.client.canStep t && !s.queue.contains t
    && !(ran == some t && isRestless s.client t)
  let woken := if clockMoved then woken
    else woken.filter (· != .supervisor) ++ woken.filter (· == .supervisor)
  { s with
    order := known ++ fresh
    queue := s.queue.filter all.contains ++ fresh.filter (fun t => s.client.canStep t) ++ woken }

/-- Let a task go on until it waits; one that never waits takes one step. -/
def runTask : Nat → TaskId → Client T → Client T
  | 0, _, c => c
  | fuel + 1, t, c =>
    if c.canStep t then
      let c := c.step t
      if isRestless c t then c else runTask fuel t c
    else c

def turn (t : TaskId) (s : Session T) : Session T :=
  ({ s with client := runTask patience t s.client, order := s.order.filter (· != t) ++ [t] }).refresh
    false (some t)

/-- Let everything happen that can happen without the clock. -/
def drain : Nat → Session T → Session T
  | 0, s => s
  | fuel + 1, s =>
    match s.queue with
    | [] => s
    | t :: rest => drain fuel (({ s with queue := rest }).turn t)

def settle (s : Session T) : Session T := drain patience s

def act (f : Client T → Client T) (s : Session T) : Session T :=
  ({ s with client := f s.client }).refresh false

def turnForeground (s : Session T) : Session T :=
  match s.foreground with
  | some t => ({ s with client := runTask patience t s.client }).refresh false
  | none => s

def foregroundReady (s : Session T) : Bool := s.foreground.any fun t => s.client.canStep t

/-- Run until a call has ended, moving the clock when nothing else can be done. -/
def runUntilEnded : Nat → Nat → Session T → Session T
  | 0, _, s => s
  | fuel + 1, id, s =>
    if (s.client.results.lookup id).isSome then s
    else match s.queue with
      | t :: rest => runUntilEnded fuel id (({ s with queue := rest }).turn t)
      | [] =>
        if s.foregroundReady then runUntilEnded fuel id s.turnForeground
        else match s.client.nextDue with
          | none => s
          | some due =>
            let s := ({ s with client := s.client.passTo due }).refresh true
            runUntilEnded fuel id (if s.foregroundReady then s.turnForeground else s)

def call (call : Client.Call T) (s : Session T) : Session T × Option Client.CallResult :=
  let (c, id) := s.client.startCall call
  let s := ({ s with client := c, foreground := some (.call id) }).refresh false
  let s := runUntilEnded patience id s.turnForeground
  let s := ({ s with foreground := none }).settle
  (s, s.client.results.lookup id)

def others (name : String) (s : Session T) : List (String × Nat) := s.spawned.filter fun p => p.1 != name

def spawn (name : String) (call : Client.Call T) (s : Session T) : Session T :=
  let (c, id) := s.client.startCall call
  (({ s with client := c, spawned := s.others name ++ [(name, id)] }).refresh false).settle

/-- Wait for a background call; each can be waited for once. -/
def join (name : String) (s : Session T) : Session T × Option Client.CallResult :=
  match s.spawned.lookup name with
  | none => (s, none)
  | some id =>
    let s := { s with spawned := s.others name }
    let s := (runUntilEnded patience id s).settle
    (s, s.client.results.lookup id)

def finished? (name : String) (s : Session T) : Option Bool :=
  (s.spawned.lookup name).map fun id => (s.client.results.lookup id).isSome

def abort (name : String) (s : Session T) : Session T :=
  match s.spawned.lookup name with
  | some id => (s.act (·.abandonCall id)).settle
  | none => s

def advance (d : Duration) (s : Session T) : Session T :=
  (s.call (.sleep (s.client.now + d.nanos))).1

/-- Do something to the client, and let everything happen that follows at the same moment. -/
def perform (f : Client T → Client T) (s : Session T) : Session T := (s.act f).settle

def performWith {α : Type} (f : Client T → Client T × α) (s : Session T) : Session T × α :=
  let (c, a) := f s.client
  ((({ s with client := c }).refresh false).settle, a)

/-- As `perform`, for something that may fail and then changes nothing. -/
def tryWith {ε α : Type} (f : Client T → Except ε (Client T × α)) (s : Session T) :
    Session T × Except ε α :=
  match f s.client with
  | .ok (c, a) => ((({ s with client := c }).refresh false).settle, .ok a)
  | .error e => (s.settle, .error e)

/-- Start a session with a client; its supervisor looks at the destinations first. -/
def start (c : Client T) : Session T := (({ client := c } : Session T).refresh false).settle

/-- The number of the destination that was last added under a name. -/
def find? (name : String) (s : Session T) : Option Nat :=
  (List.range s.client.destinations.length).reverse.find? fun i =>
    (s.client.destinations[i]?).any (·.name == name)

end Session

end Switchboard
