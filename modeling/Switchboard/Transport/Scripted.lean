import Switchboard.Transport

/-!
A transport that follows a script. Two queues hold what the next opens and the next sends come to; with
an empty queue both succeed at once. It reports the calls made on it, and its handles die when they are
told to.
-/
namespace Switchboard

open Text (Bytes)

namespace Scripted

/-- What a call comes to after a delay. -/
structure Outcome where
  delay : Duration := .zero
  failure : Option TransportError := none
  reply : Bytes := []
  /-- The handle of an open is dead on arrival. -/
  dead : Bool := false

inductive Call
  | opened (destination : String) (timeout : Duration)
  | sent (handle : Handle) (target : Target) (payload : Bytes)
  | closed (handle : Handle)

structure Pending where
  outcome : Outcome
  due : Instant

end Scripted

open Scripted in
structure Scripted where
  opens : List Outcome := []
  sends : List Outcome := []
  calls : List Call := []
  /-- For each handle, whether it is closed. -/
  handles : List Bool := []

namespace Scripted

def close (h : Handle) (t : Scripted) : Scripted :=
  { t with calls := t.calls ++ [.closed h], handles := t.handles.set h true }

def kill (h : Handle) (t : Scripted) : Option Scripted :=
  if h < t.handles.length then some { t with handles := t.handles.set h true } else none

def finishOpen (o : Outcome) (t : Scripted) : Scripted × Except TransportError Handle :=
  match o.failure with
  | some e => (t, .error e)
  | none => ({ t with handles := t.handles ++ [o.dead] }, .ok t.handles.length)

def finishSend (o : Outcome) : Except TransportError Bytes :=
  match o.failure with
  | some e => .error e
  | none => .ok o.reply

def startOpen (now : Instant) (d : Descriptor) (t : Scripted) :
    Scripted × Progress Pending (Except TransportError Handle) :=
  let o := t.opens.headD {}
  let t := { t with opens := t.opens.tail, calls := t.calls ++ [.opened d.name d.connectTimeout] }
  if o.delay.isZero then
    let (t, result) := t.finishOpen o
    (t, .done result)
  else (t, .waiting ⟨o, now + o.delay.nanos⟩)

def resumeOpen (now : Instant) (p : Pending) (t : Scripted) :
    Scripted × Progress Pending (Except TransportError Handle) :=
  if p.due ≤ now then
    let (t, result) := t.finishOpen p.outcome
    (t, .done result)
  else (t, .waiting p)

def startSend (now : Instant) (h : Handle) (target : Target) (payload : Bytes) (t : Scripted) :
    Scripted × Progress Pending (Except TransportError Bytes) :=
  let o := t.sends.headD {}
  let t := { t with sends := t.sends.tail, calls := t.calls ++ [.sent h target payload] }
  if o.delay.isZero then (t, .done (finishSend o)) else (t, .waiting ⟨o, now + o.delay.nanos⟩)

def resumeSend (now : Instant) (p : Pending) (t : Scripted) :
    Scripted × Progress Pending (Except TransportError Bytes) :=
  if p.due ≤ now then (t, .done (finishSend p.outcome)) else (t, .waiting p)

instance : Transport Scripted where
  Opening := Pending
  Sending := Pending
  startOpen := startOpen
  resumeOpen := resumeOpen
  openReady now p _ := p.due ≤ now
  openDue p := some p.due
  startSend := startSend
  resumeSend := resumeSend
  sendReady now p _ := p.due ≤ now
  sendDue p := some p.due
  abandonSend _ t := t
  close := close
  isClosed h t := t.handles.getD h true

def Call.text : Call → String
  | .opened destination timeout => "open " ++ destination ++ " " ++ toString timeout.millis
  | .sent handle target payload =>
    "send " ++ toString handle ++ " " ++ target.text ++ " " ++ Text.hex payload
  | .closed handle => "close " ++ toString handle

def takeReport (t : Scripted) : List String × Scripted := (t.calls.map Call.text, { t with calls := [] })

end Scripted

end Switchboard
