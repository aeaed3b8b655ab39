import Switchboard.Client

/-!
How the destinations of a client are connected and lost. An attempt opens a connection and delivers it or
fails; a watcher reports the loss of a published connection; the supervisor looks now and then, and after
every loss, for destinations that are due for an attempt.
-/
namespace Switchboard.Client

variable {T : Type} [Transport T]

/-- Ask a destination to connect, and start the attempt if there has to be a new one. -/
def beginConnect (i : Nat) (c : Client T) : Client T × Joining :=
  let (c, j) := c.onDestination i .connected (Destination.beginConnect c.now c.nextAttempt)
  match j with
  | .started id =>
    ({ c with
      nextAttempt := id + 1
      attempts := c.attempts ++ [{ id := id, destination := i }] }, j)
  | j => (c, j)

/-- An attempt is over: everybody who waits for it learns how it ended. -/
def endAttempt (id : AttemptId) (outcome : ConnectOutcome) (c : Client T) : Client T :=
  { c with
    attempts := c.attempts.filter (·.id != id)
    outcomes := (id, some outcome) :: c.outcomes }

def failAttempt (a : Attempt T) (failure : Destination → AttemptFailure) (c : Client T) : Client T :=
  let (c, outcome) := c.onDestination a.destination (.ok ())
    fun d => (d.recordFailure, .error (failure d))
  c.endAttempt a.id outcome

/-- Publish the handle that an attempt opened and watch it, or close it if nobody wants it any more. -/
def deliver (a : Attempt T) (h : Handle) (c : Client T) : Client T :=
  let c := c.log (.delivered a.destination a.id h)
  let (c, generation, failure) := c.onDestination a.destination (none, none) fun d =>
    let (after, generation) := d.publish h
    (after, generation, some d.removedWhileConnecting)
  match generation, failure with
  | some generation, _ =>
    let c := c.log (.published a.destination h generation)
    let watcher := ⟨c.nextWatcher, a.destination, h, generation⟩
    ({ c with nextWatcher := c.nextWatcher + 1, watchers := c.watchers ++ [watcher] }).endAttempt a.id (.ok ())
  | none, some failure => (c.closeHandle a.destination h).endAttempt a.id (.error failure)
  | none, none => (c.closeHandle a.destination h).endAttempt a.id (.ok ())

/-- An open has come as far as it can: it is done, out of time, or still waiting. -/
def continueAttempt (a : Attempt T) (deadline : Instant)
    (p : Progress (Transport.Opening T) (Except TransportError Handle)) (c : Client T) : Client T :=
  match p with
  | .done (.ok h) => c.deliver a h
  | .done (.error e) => c.failAttempt a fun d => .ofTransport d.name e
  | .waiting o =>
    if deadline ≤ c.now then c.failAttempt a Destination.connectTimedOut
    else { c with attempts := c.attempts.map fun b =>
      if b.id = a.id then { b with opening := some (o, deadline) } else b }

def stepAttempt (a : Attempt T) (c : Client T) : Client T :=
  match a.opening with
  | none =>
    match c.destinations[a.destination]? with
    | none => c.endAttempt a.id (.ok ())
    | some d =>
      let c := c.log (.openStarted a.destination a.id)
      let (transport, p) := Transport.startOpen c.now d.descriptor c.transport
      ({ c with transport := transport }).continueAttempt a (c.now + d.descriptor.connectTimeout.nanos) p
  | some (o, deadline) =>
    let (transport, p) := Transport.resumeOpen c.now o c.transport
    ({ c with transport := transport }).continueAttempt a deadline p

def attemptReady (a : Attempt T) (c : Client T) : Bool :=
  match a.opening with
  | none => true
  | some (o, deadline) => Transport.openReady c.now o c.transport || deadline ≤ c.now

def isPublished (i generation : Nat) (c : Client T) : Bool :=
  (c.destinations[i]?).any fun d => d.live.any (·.generation == generation)

def watcherReady (w : Watcher) (c : Client T) : Bool :=
  Transport.isClosed w.handle c.transport || !c.isPublished w.destination w.generation

def handleLost (i generation : Nat) (c : Client T) : Client T :=
  let (c, h) := c.onDestination i none (Destination.handleLost generation)
  c.releaseLost i h

def markFailed (i generation : Nat) (c : Client T) : Client T :=
  let (c, h) := c.onDestination i none (Destination.markFailed generation)
  c.releaseLost i h

def stepWatcher (w : Watcher) (c : Client T) : Client T :=
  ({ c with watchers := c.watchers.filter (·.id != w.id) }).handleLost w.destination w.generation

def due (policy : Reconnect.Policy) (c : Client T) : List Nat :=
  (c.table.map (·.2)).filter fun i => (c.destinations[i]?).any (·.reconnectDue c.now policy)

def scan (policy : Reconnect.Policy) (c : Client T) : Client T × Nat :=
  let is := c.due policy
  (is.foldl (fun c i => (c.beginConnect i).1) c, is.length)

def supervisorReady (s : Supervisor) (c : Client T) : Bool :=
  s.alive && match s.next with
    | none => true
    | some next => c.signal || next ≤ c.now

/-- The supervisor starts, or hears of a loss, or its interval is over. -/
def stepSupervisor (s : Supervisor) (c : Client T) : Client T :=
  let c := if s.next.isSome then { c with signal := false } else c
  if !s.running then { c with supervisor := some { s with alive := false } }
  else
    let (c, _) := c.scan s.policy
    { c with supervisor := some { s with next := some (c.now + s.policy.scanInterval.nanos) } }

end Switchboard.Client
