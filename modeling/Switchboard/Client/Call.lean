import Switchboard.Client.Connecting

/-!
The calls of a client's users. A call takes steps until it has a result, and waits in between for an
attempt, for an answer or for the clock.
-/
namespace Switchboard.Client

open Text (Bytes)

variable {T : Type} [Transport T]

def settle (i generation sent : Nat) (outcome : SendOutcome) (c : Client T) :
    Client T × Except DispatchError Bytes :=
  let (c, h, result) := c.onDestination i (none, .error (.invalidRequest ""))
    (Destination.settle generation sent outcome)
  (c.releaseLost i h, result)

abbrev Dispatch (T : Type) [Transport T] := Progress (PendingSend T) (Except DispatchError Bytes)

/-- A send has come as far as it can: it is answered, out of time, or still waiting. -/
def continueSend (i generation sent : Nat) (deadline : Instant)
    (p : Progress (Transport.Sending T) (Except TransportError Bytes)) (c : Client T) :
    Client T × Dispatch T :=
  match p with
  | .done result =>
    let (c, result) := c.settle i generation sent (.answered result)
    (c, .done result)
  | .waiting s =>
    if deadline ≤ c.now then
      let c := { c with transport := Transport.abandonSend s c.transport }
      let (c, result) := c.settle i generation sent .timedOut
      (c, .done result)
    else (c, .waiting ⟨generation, s, deadline⟩)

def startDispatch (call i : Nat) (target : Target) (payload : Bytes) (c : Client T) :
    Client T × Dispatch T :=
  match c.destinations[i]? with
  | none => (c, .done (.error (.invalidRequest "")))
  | some d =>
    match d.current with
    | none => (c, .done (.error (.notConnected d.notConnected)))
    | some live =>
      let c := c.log (.sendStarted call i live.handle)
      let (transport, p) := Transport.startSend c.now live.handle target payload c.transport
      ({ c with transport := transport }).continueSend i live.generation payload.length
        (c.now + d.descriptor.invokeTimeout.nanos) p

def resumeDispatch (i sent : Nat) (s : PendingSend T) (c : Client T) : Client T × Dispatch T :=
  let (transport, p) := Transport.resumeSend c.now s.sending c.transport
  ({ c with transport := transport }).continueSend i s.generation sent s.deadline p

def sendReady (s : PendingSend T) (c : Client T) : Bool :=
  Transport.sendReady c.now s.sending c.transport || s.deadline ≤ c.now

/-- How an attempt ended, if it has; the failure of one that was cut off is its destination's. -/
def outcome? (i : Nat) (id : AttemptId) (c : Client T) : Option ConnectOutcome :=
  match c.outcomes.lookup id, c.destinations[i]? with
  | some (some outcome), _ => some outcome
  | some none, some d => some (.error d.abandoned)
  | _, _ => none

def tell (call : Nat) (answer : Invocation.Answer) (c : Client T) : Client T :=
  c.log (.told call answer)

def stepInvocation (call : Nat) (w : Invocation (PendingSend T)) (c : Client T) :
    Client T × Invocation.Next (PendingSend T) :=
  match w.place with
  | .start =>
    let receivers := c.registry.candidates w.target
    (c.tell call (.receivers receivers), w.found receivers)
  | .choosing => (c, w.choose)
  | .checking r =>
    let usable := (c.destinations[r.destination]?).any (·.isUsable)
    (c.tell call (.usable r usable), w.checked r usable)
  | .connecting r =>
    let (c, j) := c.beginConnect r.destination
    (c.tell call (.joining r j), w.joining r j)
  | .waiting r attempt =>
    match c.outcome? r.destination attempt with
    | some outcome => (c.tell call (.outcome r attempt outcome), w.connectEnded r outcome)
    | none => (c, .waiting w)
  | .dispatching r =>
    match c.startDispatch call r.destination w.target w.payload with
    | (c, .waiting s) => (c, w.sendStarted r s)
    | (c, .done result) => (c.tell call (.dispatched r result), w.dispatchEnded result)
  | .sending r s =>
    match c.resumeDispatch r.destination w.payload.length s with
    | (c, .waiting s) => (c, w.sendStarted r s)
    | (c, .done result) => (c.tell call (.dispatched r result), w.dispatchEnded result)

def invocationReady (w : Invocation (PendingSend T)) (c : Client T) : Bool :=
  match w.place with
  | .waiting r attempt => (c.outcome? r.destination attempt).isSome
  | .sending _ s => c.sendReady s
  | _ => true

def stepConnect (i : Nat) (attempt : Option AttemptId) (c : Client T) :
    Client T × Progress AttemptId ConnectOutcome :=
  match attempt with
  | none =>
    match c.beginConnect i with
    | (c, .connected) => (c, .done (.ok ()))
    | (c, .refused f) => (c, .done (.error f))
    | (c, .joined id) | (c, .started id) => (c, .waiting id)
  | some id =>
    match c.outcome? i id with
    | some outcome => (c, .done outcome)
    | none => (c, .waiting id)

def connectReady (i : Nat) (attempt : Option AttemptId) (c : Client T) : Bool :=
  match attempt with
  | none => true
  | some id => (c.outcome? i id).isSome

def advance (id : Nat) (call : Call T) (c : Client T) : Client T × Progress (Call T) CallResult :=
  match call with
  | .connect i attempt =>
    match c.stepConnect i attempt with
    | (c, .waiting attempt) => (c, .waiting (.connect i (some attempt)))
    | (c, .done outcome) => (c, .done (.connected outcome))
  | .dispatch i target payload none =>
    match c.startDispatch id i target payload with
    | (c, .waiting s) => (c, .waiting (.dispatch i target payload (some s)))
    | (c, .done result) => (c, .done (.dispatched result))
  | .dispatch i target payload (some s) =>
    match c.resumeDispatch i payload.length s with
    | (c, .waiting s) => (c, .waiting (.dispatch i target payload (some s)))
    | (c, .done result) => (c, .done (.dispatched result))
  | .invoke w =>
    match c.stepInvocation id w with
    | (c, .waiting w) => (c, .waiting (.invoke w))
    | (c, .done result) => (c, .done (.invoked result))
  | .connectAll [] n _ => (c, .done (.connectedCount n))
  | .connectAll (i :: rest) n attempt =>
    match c.stepConnect i attempt with
    | (c, .waiting attempt) => (c, .waiting (.connectAll (i :: rest) n (some attempt)))
    | (c, .done (.ok ())) => (c, .waiting (.connectAll rest (n + 1) none))
    | (c, .done (.error _)) => (c, .waiting (.connectAll rest n none))
  | .openHandle d opening =>
    let (transport, p) := match opening with
      | none => Transport.startOpen c.now d c.transport
      | some o => Transport.resumeOpen c.now o c.transport
    let c := { c with transport := transport }
    match p with
    | .waiting o => (c, .waiting (.openHandle d (some o)))
    | .done result => (c, .done (.opened result))
  | .sendOn h target payload sending =>
    let (transport, p) := match sending with
      | none => Transport.startSend c.now h target payload c.transport
      | some s => Transport.resumeSend c.now s c.transport
    let c := { c with transport := transport }
    match p with
    | .waiting s => (c, .waiting (.sendOn h target payload (some s)))
    | .done result => (c, .done (.sent result))
  | .awaitClosed h deadline =>
    if Transport.isClosed h c.transport then (c, .done (.closed true))
    else if deadline ≤ c.now then (c, .done (.closed false))
    else (c, .waiting (.awaitClosed h deadline))
  | .sleep deadline => if deadline ≤ c.now then (c, .done .slept) else (c, .waiting (.sleep deadline))

def callReady (call : Call T) (c : Client T) : Bool :=
  match call with
  | .connect i attempt => c.connectReady i attempt
  | .dispatch _ _ _ send => send.all fun s => c.sendReady s
  | .invoke w => c.invocationReady w
  | .connectAll [] _ _ => true
  | .connectAll (i :: _) _ attempt => c.connectReady i attempt
  | .openHandle _ opening => opening.all fun o => Transport.openReady c.now o c.transport
  | .sendOn _ _ _ sending => sending.all fun s => Transport.sendReady c.now s c.transport
  | .awaitClosed h deadline => Transport.isClosed h c.transport || deadline ≤ c.now
  | .sleep deadline => deadline ≤ c.now

def replaceCall (id : Nat) (call : Call T) (c : Client T) : Client T :=
  { c with calls := c.calls.map fun (other, old) => if other = id then (id, call) else (other, old) }

def endCall (id : Nat) (result : CallResult) (c : Client T) : Client T :=
  { c with calls := c.calls.filter (·.1 != id), results := (id, result) :: c.results }

def stepCall (id : Nat) (call : Call T) (c : Client T) : Client T :=
  match c.advance id call with
  | (c, .waiting call) => c.replaceCall id call
  | (c, .done result) => c.endCall id result

/-- Make a call; it takes its first step like any other task. -/
def startCall (call : Call T) (c : Client T) : Client T × Nat :=
  ({ c with calls := c.calls ++ [(c.nextCall, call)], nextCall := c.nextCall + 1 }, c.nextCall)

def Call.sending? : Call T → Option (Transport.Sending T)
  | .dispatch _ _ _ send => send.map (·.sending)
  | .invoke w => match w.place with
    | .sending _ s => some s.sending
    | _ => none
  | .sendOn _ _ _ sending => sending
  | _ => none

/-- Drop a call. What it waited for goes on without it. -/
def abandonCall (id : Nat) (c : Client T) : Client T :=
  match c.calls.lookup id with
  | none => c
  | some call =>
    let c := match call.sending? with
      | some s => { c with transport := Transport.abandonSend s c.transport }
      | none => c
    c.endCall id .aborted

end Switchboard.Client
