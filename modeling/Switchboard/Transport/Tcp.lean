import Switchboard.Tcp.Connection

/-!
The transport over sockets. What the network does comes in from outside: a socket that is connecting is
told whether it got through, bytes are received, streams end, writes are done. On a host without a
network no connect gets through.
-/
namespace Switchboard

open Text (Bytes)
open Tcp (Fault Incoming Ending Connection)

namespace Tcp

/-- A socket on its way from the first connect to its end. -/
inductive Socket
  /-- It waits to be told whether it got through, and something may come in right behind that. -/
  | connecting (host : String) (port : UInt16) (result : Option (Except Fault Unit)) (incoming : Incoming)
  /-- The hello is being written, and the answer may come in. -/
  | greeting (hello unwritten : Bytes) (broken : Option Fault) (incoming : Incoming)
  | established (c : Connection)
  | gone

inductive OpeningPlace
  | connecting (deadline : Instant)
  | writing
  | reading (deadline : Instant)
deriving DecidableEq, Repr

structure Opening where
  socket : Handle
  descriptor : Descriptor
  place : OpeningPlace
deriving DecidableEq

def noNetwork : Fault := ⟨.networkUnreachable, "Network is unreachable (os error 101)"⟩

end Tcp

structure Tcp where
  clientName : String := "hdds-remote"
  limit : Nat := Frame.defaultLimit
  /-- Why nothing can be connected to, if that is so. -/
  outage : Option Fault := none
  sockets : List Tcp.Socket := []

namespace Tcp

abbrev OpenProgress := Progress Opening (Except TransportError Handle)

def setSocket (i : Handle) (s : Socket) (t : Tcp) : Tcp := { t with sockets := t.sockets.set i s }

def failOpen (o : Opening) (e : TransportError) (t : Tcp) : Tcp × OpenProgress :=
  (t.setSocket o.socket .gone, .done (.error e))

def waitUntil (now deadline : Instant) (o : Opening) (t : Tcp) : Tcp × OpenProgress :=
  if deadline ≤ now then t.failOpen o (.timeout o.descriptor.connectTimeout) else (t, .waiting o)

def readWelcome (now deadline : Instant) (o : Opening) (hello : Bytes) (incoming : Incoming) (t : Tcp) :
    Tcp × OpenProgress :=
  match conclude? t.limit incoming with
  | none => t.waitUntil now deadline { o with place := .reading deadline }
  | some (.error e, _) => t.failOpen o e
  | some (.ok (), unread) =>
    (t.setSocket o.socket (.established (.establish now o.descriptor t.limit hello unread)),
      .done (.ok o.socket))

def writeHello (now : Instant) (o : Opening) (hello unwritten : Bytes) (broken : Option Fault)
    (incoming : Incoming) (t : Tcp) : Tcp × OpenProgress :=
  match broken, o.place with
  | some f, _ => t.failOpen o f.error
  | none, .reading deadline => t.readWelcome now deadline o hello incoming
  | none, _ =>
    if unwritten = [] then t.readWelcome now (now + o.descriptor.connectTimeout.nanos) o hello incoming
    else (t, .waiting { o with place := .writing })

def resumeOpen (now : Instant) (o : Opening) (t : Tcp) : Tcp × OpenProgress :=
  match t.sockets[o.socket]? with
  | some (.connecting _ _ none _) => match o.place with
    | .connecting deadline => t.waitUntil now deadline o
    | _ => (t, .waiting o)
  | some (.connecting _ _ (some (.error f)) _) => t.failOpen o f.error
  | some (.connecting _ _ (some (.ok ())) incoming) =>
    match Frame.encode t.limit (Tcp.hello t.clientName o.descriptor) with
    | .error e => t.failOpen o e
    | .ok bytes =>
      (t.setSocket o.socket (.greeting bytes bytes none incoming)).writeHello now o bytes bytes none incoming
  | some (.greeting hello unwritten broken incoming) => t.writeHello now o hello unwritten broken incoming
  | _ => (t, .waiting o)

def startOpen (now : Instant) (d : Descriptor) (t : Tcp) : Tcp × OpenProgress :=
  match t.outage with
  | some f => (t, .done (.error f.error))
  | none =>
    let o : Opening := ⟨t.sockets.length, d, .connecting (now + d.connectTimeout.nanos)⟩
    resumeOpen now o { t with sockets := t.sockets ++ [.connecting d.host d.port none {}] }

def openDue (o : Opening) : Option Instant :=
  match o.place with
  | .connecting deadline | .reading deadline => some deadline
  | .writing => none

def openReady (now : Instant) (o : Opening) (t : Tcp) : Bool :=
  (openDue o).any (· ≤ now) ||
    match t.sockets[o.socket]? with
    | some (.connecting _ _ result _) => result.isSome
    | some (.greeting _ unwritten broken incoming) => broken.isSome ||
      match o.place with
      | .reading _ => (incoming.read? t.limit).isSome
      | _ => unwritten.isEmpty
    | _ => false

def connection? (h : Handle) (t : Tcp) : Option Connection :=
  match t.sockets[h]? with
  | some (.established c) => some c
  | _ => none

def onConnection (h : Handle) (f : Connection → Connection) (t : Tcp) : Tcp :=
  match t.connection? h with
  | some c => t.setSocket h (.established (f c))
  | none => t

structure Sending where
  handle : Handle
  number : Nat
deriving DecidableEq, Repr

abbrev SendProgress := Progress Sending (Except TransportError Bytes)

def resumeSend (s : Sending) (t : Tcp) : Tcp × SendProgress :=
  match t.connection? s.handle with
  | none => (t, .done (.error Connection.alreadyClosed))
  | some c =>
    let (c, p) := c.stepSend s.number
    let t := t.setSocket s.handle (.established c)
    match p with
    | .done result => (t, .done result)
    | .waiting () => (t, .waiting s)

def startSend (h : Handle) (target : Target) (payload : Bytes) (t : Tcp) : Tcp × SendProgress :=
  match t.connection? h with
  | none => (t, .done (.error Connection.alreadyClosed))
  | some c =>
    let (c, number) := c.begin target payload
    (t.setSocket h (.established c)).resumeSend ⟨h, number⟩

def close (h : Handle) (t : Tcp) : Tcp := t.onConnection h (·.close)

/-- Whether a connection is closed; there is none where a socket is gone. -/
def isClosed (h : Handle) (t : Tcp) : Bool := (t.connection? h).all (·.closed)

instance : Transport Tcp where
  Opening := Opening
  Sending := Sending
  startOpen := startOpen
  resumeOpen := resumeOpen
  openReady := openReady
  openDue := openDue
  startSend _ := startSend
  resumeSend _ := resumeSend
  sendReady _ s t := (t.connection? s.handle).all (·.sendReady s.number)
  sendDue _ := none
  abandonSend s t := t.onConnection s.handle (·.cancel s.number)
  close := close
  isClosed := isClosed

/-! ### The network -/

def answerConnect (i : Handle) (result : Except Fault Unit) (t : Tcp) : Tcp :=
  match t.sockets[i]? with
  | some (.connecting host port none incoming) =>
    t.setSocket i (.connecting host port (some result) incoming)
  | _ => t

def receive (i : Handle) (bytes : Bytes) (t : Tcp) : Tcp :=
  match t.sockets[i]? with
  | some (.connecting host port result incoming) =>
    t.setSocket i (.connecting host port result (incoming.receive bytes))
  | some (.greeting hello unwritten broken incoming) =>
    t.setSocket i (.greeting hello unwritten broken (incoming.receive bytes))
  | _ => t.onConnection i (·.receive bytes)

def endIncoming (i : Handle) (ending : Ending) (t : Tcp) : Tcp :=
  match t.sockets[i]? with
  | some (.connecting host port result incoming) =>
    t.setSocket i (.connecting host port result (incoming.finish ending))
  | some (.greeting hello unwritten broken incoming) =>
    t.setSocket i (.greeting hello unwritten broken (incoming.finish ending))
  | _ => t.onConnection i (·.finishIncoming ending)

def unwritten (i : Handle) (t : Tcp) : Bytes :=
  match t.sockets[i]? with
  | some (.greeting _ unwritten none _) => unwritten
  | some (.established c) => c.writing
  | _ => []

def wrote (i : Handle) (count : Nat) (t : Tcp) : Tcp :=
  match t.sockets[i]? with
  | some (.greeting hello unwritten broken incoming) =>
    t.setSocket i (.greeting hello (unwritten.drop count) broken incoming)
  | _ => t.onConnection i (·.write count)

def failWrite (i : Handle) (f : Fault) (t : Tcp) : Tcp :=
  match t.sockets[i]? with
  | some (.greeting hello unwritten none incoming) =>
    t.setSocket i (.greeting hello unwritten (some f) incoming)
  | _ => t.onConnection i (·.failWrite)

/-- Whether a socket is of no more use in either direction. -/
def isFinished (i : Handle) (t : Tcp) : Bool :=
  match t.sockets[i]? with
  | some (.established c) => !c.writerRuns && !c.readerRuns
  | some .gone => true
  | _ => false

inductive News
  | connected (result : Except Fault Unit)
  | received (bytes : Bytes)
  | ended (ending : Ending)
  | wrote (count : Nat)
  | writeFailed (f : Fault)

def hear (i : Handle) (news : News) (t : Tcp) : Tcp :=
  match news with
  | .connected result => t.answerConnect i result
  | .received bytes => t.receive i bytes
  | .ended ending => t.endIncoming i ending
  | .wrote count => t.wrote i count
  | .writeFailed f => t.failWrite i f

def settle (now : Instant) (t : Tcp) : Tcp :=
  { t with sockets := t.sockets.map fun s =>
      match s with
      | .established c => .established (c.settle now (c.incoming.bytes.length + 8))
      | s => s }

/-- The next moment at which a heartbeat goes on by itself. -/
def nextDue (t : Tcp) : Option Instant :=
  (t.sockets.filterMap fun s =>
    match s with
    | .established c => c.beatDue
    | _ => none).min?

end Tcp

end Switchboard
