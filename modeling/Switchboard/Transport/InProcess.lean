import Switchboard.Transport

/-!
Endpoints inside the process. An endpoint is registered under an authority and can be started, stopped
and slowed down. It is in an epoch, and every stop begins a new one: a handle belongs to the epoch in
which it was opened and is of no use in a later one.
-/
namespace Switchboard

open Text (Bytes)

/-- What an endpoint replies: bytes, or the message of an application error. -/
abbrev Handler := Target → Bytes → Except String Bytes

namespace InProcess

structure Endpoint where
  handler : Handler
  up : Bool := false
  /-- How many epochs are over: fewer than `2^64`, so that a count of 64 bits is this one. -/
  epoch : Nat := 0
  openDelay : Duration := .zero
  replyDelay : Duration := .zero
  openCount : UInt64 := 0
  /-- The handles that a stop closes. -/
  live : List Handle := []

structure Connection where
  authority : String
  epoch : Nat
  closed : Bool := false
  /-- Nobody holds the handle any more. -/
  dropped : Bool := false
deriving DecidableEq, Repr

structure Served where
  handle : Handle
  target : Target
  payload : Bytes

structure Opening where
  authority : String
  due : Instant

structure Sending where
  handle : Handle
  target : Target
  payload : Bytes
  due : Instant

end InProcess

open InProcess in
structure InProcess where
  endpoints : List (String × Endpoint) := []
  connections : List Connection := []
  served : List Served := []

namespace InProcess

def find (t : InProcess) (authority : String) : Option Endpoint := t.endpoints.lookup authority

def connection (t : InProcess) (h : Handle) : Option Connection := t.connections[h]?

/-- Set the endpoint of an authority, in its place if there is one. -/
def setIn (authority : String) (e : Endpoint) : List (String × Endpoint) → List (String × Endpoint)
  | [] => [(authority, e)]
  | (other, old) :: rest =>
    if other = authority then (other, e) :: rest else (other, old) :: setIn authority e rest

def set (authority : String) (e : Endpoint) (t : InProcess) : InProcess :=
  { t with endpoints := setIn authority e t.endpoints }

def update (authority : String) (f : Endpoint → Endpoint) (t : InProcess) : InProcess :=
  match t.find authority with
  | some e => t.set authority (f e)
  | none => t

def close (h : Handle) (t : InProcess) : InProcess :=
  { t with connections := t.connections.modify h fun c => { c with closed := true } }

def closeAll (hs : List Handle) (t : InProcess) : InProcess := hs.foldl (fun t h => t.close h) t

def drop (h : Handle) (t : InProcess) : InProcess :=
  { t with connections := t.connections.modify h fun c => { c with dropped := true } }

def isClosed (h : Handle) (t : InProcess) : Bool := (t.connection h).any (·.closed)

/-- Register an endpoint, in place of an earlier one of the authority. It is stopped. -/
def register (authority : String) (handler : Handler) (t : InProcess) : InProcess :=
  t.set authority { handler := handler }

def start (authority : String) (t : InProcess) : InProcess :=
  t.update authority fun e => { e with up := true }

/-- Begin a new epoch and close every handle of the old one. -/
def endEpoch (up : Bool → Bool) (authority : String) (t : InProcess) : InProcess :=
  match t.find authority with
  | some e => (t.set authority { e with up := up e.up, epoch := e.epoch + 1, live := [] }).closeAll e.live
  | none => t

def stop (authority : String) (t : InProcess) : InProcess := t.endEpoch (fun _ => false) authority

/-- Stop without telling the open handles; they find out on their next send. -/
def stopSilently (authority : String) (t : InProcess) : InProcess :=
  t.update authority fun e => { e with up := false, epoch := e.epoch + 1, live := [] }

def dropConnections (authority : String) (t : InProcess) : InProcess := t.endEpoch id authority

def setOpenDelay (authority : String) (delay : Duration) (t : InProcess) : InProcess :=
  t.update authority fun e => { e with openDelay := delay }

def setReplyDelay (authority : String) (delay : Duration) (t : InProcess) : InProcess :=
  t.update authority fun e => { e with replyDelay := delay }

def openCount (authority : String) (t : InProcess) : UInt64 :=
  ((t.find authority).map (·.openCount)).getD 0

def noEndpoint (authority : String) : TransportError := .refused ("no endpoint at " ++ authority)

def isDown (authority : String) : TransportError := .refused (authority ++ " is down")

def reset (authority : String) : TransportError := .closed ("connection to " ++ authority ++ " reset")

def closedMidCall (authority : String) : TransportError :=
  .closed ("connection to " ++ authority ++ " closed mid-call")

/-- Make the connection that was asked for, if the endpoint is up by now. -/
def connect (authority : String) (t : InProcess) : InProcess × Except TransportError Handle :=
  match t.find authority with
  | none => (t, .error (noEndpoint authority))
  | some e =>
    if !e.up then (t, .error (isDown authority))
    else
      let h := t.connections.length
      let held := e.live.filter fun h => (t.connection h).any (!·.dropped)
      let t := t.set authority { e with live := held ++ [h] }
      ({ t with connections := t.connections ++ [⟨authority, e.epoch, false, false⟩] }, .ok h)

def startOpen (now : Instant) (d : Descriptor) (t : InProcess) :
    InProcess × Progress Opening (Except TransportError Handle) :=
  let authority := d.authority
  match t.find authority with
  | none => (t, .done (.error (noEndpoint authority)))
  | some e =>
    let t := t.set authority { e with openCount := e.openCount + 1 }
    if e.openDelay.isZero then
      let (t, result) := t.connect authority
      (t, .done result)
    else (t, .waiting ⟨authority, now + e.openDelay.nanos⟩)

def resumeOpen (now : Instant) (o : Opening) (t : InProcess) :
    InProcess × Progress Opening (Except TransportError Handle) :=
  if o.due ≤ now then
    let (t, result) := t.connect o.authority
    (t, .done result)
  else (t, .waiting o)

def reachable (h : Handle) (t : InProcess) : Except TransportError Endpoint :=
  match t.connection h with
  | none => .error (reset "")
  | some c =>
    match t.find c.authority with
    | some e => if e.up && e.epoch == c.epoch && !c.closed then .ok e else .error (reset c.authority)
    | none => .error (reset c.authority)

def serve (h : Handle) (target : Target) (payload : Bytes) (t : InProcess) :
    InProcess × Except TransportError Bytes :=
  match t.reachable h with
  | .error e => (t, .error e)
  | .ok e =>
    ({ t with served := t.served ++ [⟨h, target, payload⟩] },
      (e.handler target payload).mapError .application)

def startSend (now : Instant) (h : Handle) (target : Target) (payload : Bytes) (t : InProcess) :
    InProcess × Progress Sending (Except TransportError Bytes) :=
  match t.reachable h with
  | .error e => (t, .done (.error e))
  | .ok e =>
    if e.replyDelay.isZero then
      let (t, result) := t.serve h target payload
      (t, .done result)
    else (t, .waiting ⟨h, target, payload, now + e.replyDelay.nanos⟩)

/-- A close ends the wait for a delayed reply at once. -/
def resumeSend (now : Instant) (s : Sending) (t : InProcess) :
    InProcess × Progress Sending (Except TransportError Bytes) :=
  if t.isClosed s.handle then
    (t, .done (.error (closedMidCall (((t.connection s.handle).map (·.authority)).getD ""))))
  else if s.due ≤ now then
    let (t, result) := t.serve s.handle s.target s.payload
    (t, .done result)
  else (t, .waiting s)

instance : Transport InProcess where
  Opening := Opening
  Sending := Sending
  startOpen := startOpen
  resumeOpen := resumeOpen
  openReady now o _ := o.due ≤ now
  openDue o := some o.due
  startSend := startSend
  resumeSend := resumeSend
  sendReady now s t := t.isClosed s.handle || s.due ≤ now
  sendDue s := some s.due
  abandonSend _ t := t
  close := close
  isClosed := isClosed

end InProcess

end Switchboard
