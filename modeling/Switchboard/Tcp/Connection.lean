import Switchboard.Tcp.Handshake
import Switchboard.Transport

/-!
An established connection. Requests carry numbers: invocations count up from one, pings count down from
the largest word. A request is entered in the table of pending requests and its frame is queued for the
writer; the reader hands each answer to the one who waits for its number. The heartbeat sends a ping,
waits for the answer, and sleeps before the next.

The connection is closed by its owner, by the end of the incoming stream or a frame that cannot be read,
by a write that fails, and by a ping that is not answered. That empties the table, and everybody who
waits is told.

Each function is one step of one party, as long as that party needs not wait.
-/
namespace Switchboard.Tcp

open Text (Bytes)

/-- The frames that may be queued for the writer at a time. -/
def queueDepth : Nat := 64

inductive Waiter
  | send (number : Nat)
  | heartbeat
deriving DecidableEq, Repr

inductive Reply
  | awaited
  | given (frame : ServerFrame)
  /-- It has lost its place in the table, and no answer will come. -/
  | lost
deriving DecidableEq

/-- Only the first news counts. -/
def Reply.learn : Reply → Reply → Reply
  | .awaited, news => news
  | known, _ => known

/-- A frame for the writer, and who had it queued under which number. -/
structure Outgoing where
  origin : Waiter
  id : UInt64
  bytes : Bytes
deriving DecidableEq, Repr

inductive SendPlace
  | begun
  /-- It is in the table and waits for room in the queue. -/
  | queueing (bytes : Bytes)
  | queued
deriving DecidableEq, Repr

structure Send where
  number : Nat
  id : UInt64
  target : Target
  payload : Bytes
  place : SendPlace := .begun
  reply : Reply := .awaited
deriving DecidableEq

inductive Beat
  | sleeping (wakes : Instant)
  | queueing (bytes : Bytes)
  | awaiting (deadline : Instant)
  | stopped
deriving DecidableEq, Repr

structure Heartbeat where
  interval : Duration
  /-- How long a ping may stay unanswered. -/
  patience : Duration
  id : UInt64 := 0xffffffffffffffff
  beat : Beat
  reply : Reply := .awaited
deriving DecidableEq

structure Connection where
  destination : String
  limit : Nat
  closed : Bool := false
  nextId : UInt64 := 1
  nextNumber : Nat := 0
  sends : List Send := []
  pending : List (UInt64 × Waiter) := []
  queue : List Outgoing := []
  /-- What the writer still has to write of the frame it took last. -/
  writing : Bytes := []
  writerRuns : Bool := true
  readerRuns : Bool := true
  heartbeat : Option Heartbeat := none
  incoming : Incoming := {}
  /-- Everything written, from the hello on. -/
  written : Bytes := []
  queued : List Outgoing := []
  taken : List ServerFrame := []
deriving DecidableEq

namespace Connection

/-- The connection behind a handshake that ended well: the hello has been written, and what came in
behind the welcome is unread. -/
def establish (now : Instant) (d : Descriptor) (limit : Nat) (greeting : Bytes) (unread : Incoming) :
    Connection where
  destination := d.name
  limit := limit
  incoming := unread
  written := greeting
  heartbeat := d.heartbeat.map fun interval =>
    { interval := interval, patience := d.invokeTimeout, beat := .sleeping (now + interval.nanos) }

/-! ### The table of pending requests -/

def inform (news : Reply) (w : Waiter) (c : Connection) : Connection :=
  match w with
  | .send number => { c with sends := c.sends.map fun s =>
      if s.number = number then { s with reply := s.reply.learn news } else s }
  | .heartbeat => { c with heartbeat := c.heartbeat.map fun h => { h with reply := h.reply.learn news } }

def remove (news : Reply) (id : UInt64) (c : Connection) : Connection :=
  match c.pending.lookup id with
  | none => c
  | some w => ({ c with pending := c.pending.filter (·.1 != id) }).inform news w

/-- Enter a request under its number, in place of an earlier one. -/
def enter (id : UInt64) (w : Waiter) (c : Connection) : Connection :=
  let c := c.remove .lost id
  { c with pending := (id, w) :: c.pending }

/-- Mark the connection closed. Everybody in the table is told that no answer will come. -/
def markClosed (c : Connection) : Connection :=
  let waiters := c.pending.map (·.2)
  waiters.foldl (fun c w => c.inform .lost w) { c with closed := true, pending := [] }

def pendingRequests (c : Connection) : Nat := c.pending.length

/-! ### The queue -/

def hasRoom (c : Connection) : Bool := c.queue.length < queueDepth

def accept (o : Outgoing) (c : Connection) : Connection :=
  { c with queue := c.queue ++ [o], queued := c.queued ++ [o] }

/-! ### Sends -/

def alreadyClosed : TransportError := .closed "connection already closed"

def writerStopped : TransportError := .closed "writer stopped"

def closedWhileWaiting : TransportError := .closed "connection closed while awaiting reply"

def invocationReply : ServerFrame → Except TransportError Bytes
  | .reply _ payload => .ok payload
  | .appError _ message => .error (.application message)
  | other => .error (.protocol ("unexpected reply to invoke: " ++ other.describe))

abbrev SendProgress := Progress Unit (Except TransportError Bytes)

/-- Begin a send: it takes the next number, and nothing else happens yet. -/
def begin (target : Target) (payload : Bytes) (c : Connection) : Connection × Nat :=
  ({ c with
    nextId := c.nextId + 1
    nextNumber := c.nextNumber + 1
    sends := c.sends ++ [{ number := c.nextNumber, id := c.nextId, target := target, payload := payload }] },
    c.nextNumber)

def send? (number : Nat) (c : Connection) : Option Send := c.sends.find? (·.number == number)

def dropSend (number : Nat) (c : Connection) : Connection :=
  { c with sends := c.sends.filter (·.number != number) }

def setPlace (number : Nat) (place : SendPlace) (c : Connection) : Connection :=
  { c with sends := c.sends.map fun s => if s.number = number then { s with place := place } else s }

def finish (s : Send) (result : Except TransportError Bytes) (c : Connection) : Connection × SendProgress :=
  ((c.remove .lost s.id).dropSend s.number, .done result)

def collect (s : Send) (c : Connection) : Connection × SendProgress :=
  match s.reply with
  | .awaited => (c.setPlace s.number .queued, .waiting ())
  | .given frame => c.finish s (invocationReply frame)
  | .lost => c.finish s (.error closedWhileWaiting)

def offer (s : Send) (bytes : Bytes) (c : Connection) : Connection × SendProgress :=
  if !c.writerRuns then c.finish s (.error writerStopped)
  else if c.hasRoom then (c.accept ⟨.send s.number, s.id, bytes⟩).collect s
  else (c.setPlace s.number (.queueing bytes), .waiting ())

/-- Let a send go on. A frame over the limit is refused before anything else is looked at. -/
def stepSend (number : Nat) (c : Connection) : Connection × SendProgress :=
  match c.send? number with
  | none => (c, .waiting ())
  | some s =>
    match s.place with
    | .begun =>
      match Frame.encode c.limit (.invoke s.id s.target s.payload : ClientFrame) with
      | .error e => (c.dropSend number, .done (.error e))
      | .ok bytes =>
        let c := c.enter s.id (.send number)
        if c.closed then c.finish s (.error alreadyClosed) else c.offer s bytes
    | .queueing bytes => c.offer s bytes
    | .queued => c.collect s

def sendReady (number : Nat) (c : Connection) : Bool :=
  (c.send? number).any fun s =>
    match s.place with
    | .begun => true
    | .queueing _ => !c.writerRuns || c.hasRoom
    | .queued => s.reply != .awaited

/-- Give a send up. A frame that was queued is still written. -/
def cancel (number : Nat) (c : Connection) : Connection :=
  match c.send? number with
  | none => c
  | some s => if s.place = .begun then c.dropSend number else (c.remove .lost s.id).dropSend number

/-! ### Reader and writer -/

def receive (bytes : Bytes) (c : Connection) : Connection :=
  { c with incoming := c.incoming.receive bytes }

def finishIncoming (ending : Ending) (c : Connection) : Connection :=
  { c with incoming := c.incoming.finish ending }

def deliver (frame : ServerFrame) (c : Connection) : Connection :=
  match frame.requestId? with
  | none => c
  | some id => c.remove (.given frame) id

def read (c : Connection) : Connection :=
  if !c.readerRuns then c
  else match c.incoming.read? c.limit with
    | none => c
    | some (.frame frame, rest) =>
      ({ c with incoming := rest, taken := c.taken ++ [frame] }).deliver frame
    | some (_, rest) => ({ c with incoming := rest, readerRuns := false }).markClosed

def readReady (c : Connection) : Bool := c.readerRuns && (c.incoming.read? c.limit).isSome

def takeOutgoing (c : Connection) : Connection :=
  match c.writerRuns && c.writing.isEmpty, c.queue with
  | true, o :: rest => { c with queue := rest, writing := o.bytes }
  | _, _ => c

def takeReady (c : Connection) : Bool := c.writerRuns && c.writing.isEmpty && !c.queue.isEmpty

def write (count : Nat) (c : Connection) : Connection :=
  { c with written := c.written ++ c.writing.take count, writing := c.writing.drop count }

/-- The writer stops, and what is queued is lost. -/
def stopWriter (c : Connection) : Connection :=
  { c with writerRuns := false, queue := [], writing := [] }

def failWrite (c : Connection) : Connection :=
  if c.writerRuns then c.markClosed.stopWriter else c

/-! ### Heartbeat -/

def setBeat (beat : Beat) (c : Connection) : Connection :=
  { c with heartbeat := c.heartbeat.map fun h => { h with beat := beat } }

def giveUp (c : Connection) : Connection := (c.markClosed).setBeat .stopped

def offerPing (now : Instant) (h : Heartbeat) (bytes : Bytes) (c : Connection) : Connection :=
  if !c.writerRuns then c.giveUp
  else if c.hasRoom then
    (c.accept ⟨.heartbeat, h.id, bytes⟩).setBeat (.awaiting (now + h.patience.nanos))
  else c.setBeat (.queueing bytes)

/-- The answer to the ping that is sent next has not come. -/
def awaitPong (c : Connection) : Connection :=
  { c with heartbeat := c.heartbeat.map fun (h : Heartbeat) => { h with reply := .awaited } }

def ping (now : Instant) (h : Heartbeat) (c : Connection) : Connection :=
  match Frame.encode c.limit (.ping h.id : ClientFrame) with
  | .error _ => c.giveUp
  | .ok bytes =>
    ((c.enter h.id .heartbeat).awaitPong).offerPing now h bytes

/-- The ping was answered: sleep, then send one with the next lower number. -/
def restBeat (now : Instant) (h : Heartbeat) (c : Connection) : Connection :=
  { c with heartbeat := some { h with
      id := h.id - 1
      beat := .sleeping (now + h.interval.nanos)
      reply := .awaited } }

/-- Let the heartbeat go on. An answer that is there counts even when it is late. -/
def stepBeat (now : Instant) (c : Connection) : Connection :=
  match c.heartbeat with
  | none => c
  | some h =>
    match h.beat with
    | .stopped => c
    | .sleeping wakes =>
      if now < wakes then c
      else if c.closed then c.setBeat .stopped
      else c.ping now h
    | .queueing bytes => c.offerPing now h bytes
    | .awaiting deadline =>
      match h.reply with
      | .given _ => c.restBeat now h
      | .lost => c.setBeat .stopped
      | .awaited => if now < deadline then c else c.giveUp

def beatReady (now : Instant) (c : Connection) : Bool :=
  c.heartbeat.any fun h =>
    match h.beat with
    | .stopped => false
    | .sleeping wakes => wakes ≤ now
    | .queueing _ => !c.writerRuns || c.hasRoom
    | .awaiting deadline => h.reply != .awaited || deadline ≤ now

def beatDue (c : Connection) : Option Instant :=
  c.heartbeat.bind fun h =>
    match h.beat with
    | .sleeping wakes => some wakes
    | .awaiting deadline => some deadline
    | _ => none

/-! ### The owner -/

def stopAll (c : Connection) : Connection :=
  { c.stopWriter with readerRuns := false, heartbeat := none }

def close (c : Connection) : Connection := if c.closed then c else c.markClosed.stopAll

def describe (c : Connection) : String :=
  "TcpHandle \x7b destination: " ++ Text.quoted c.destination ++ ", closed: " ++ toString c.closed ++ " \x7d"

/-- Everything that reader, writer and heartbeat can do at a moment, in as many rounds as given. -/
def settle (now : Instant) : Nat → Connection → Connection
  | 0, c => c
  | rounds + 1, c =>
    if c.readReady then settle now rounds c.read
    else if c.beatReady now then settle now rounds (c.stepBeat now)
    else if c.takeReady then settle now rounds c.takeOutgoing
    else c

end Connection

/-- What can happen to a connection: a step of one of its parties, or something from outside. -/
inductive Event
  | begin (target : Target) (payload : Bytes)
  | stepSend (number : Nat)
  | cancel (number : Nat)
  | receive (bytes : Bytes)
  | finishIncoming (ending : Ending)
  | read
  | takeOutgoing
  | write (count : Nat)
  | failWrite
  | stepBeat (now : Instant)
  | close
deriving DecidableEq, Repr

def Event.apply (e : Event) (c : Connection) : Connection :=
  match e with
  | .begin target payload => (c.begin target payload).1
  | .stepSend number => (c.stepSend number).1
  | .cancel number => c.cancel number
  | .receive bytes => c.receive bytes
  | .finishIncoming ending => c.finishIncoming ending
  | .read => c.read
  | .takeOutgoing => c.takeOutgoing
  | .write count => c.write count
  | .failWrite => c.failWrite
  | .stepBeat now => c.stepBeat now
  | .close => c.close

end Switchboard.Tcp
