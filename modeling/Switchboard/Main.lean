import Std.Async.DNS
import Std.Async.Signal
import Std.Async.TCP
import Switchboard.Cli.Plan
import Switchboard.Cli.SystemError
import Switchboard.Session.Live

/-!
The program: carries out the plan for its arguments with the files, the sockets and the clock of the
machine it runs on.
-/
namespace Switchboard.Cli

open Text (Bytes)
open Tcp (Fault News)
open Std.Async (Async)
open Std.Net (IPAddr IPv4Addr SocketAddress)

def errorParts : IO.Error → UInt32 × String
  | .alreadyExists _ code details | .noFileOrDirectory _ code details
  | .permissionDenied _ code details | .resourceExhausted _ code details
  | .inappropriateType _ code details | .noSuchThing _ code details
  | .invalidArgument _ code details | .interrupted _ code details
  | .otherError code details | .resourceBusy code details | .resourceVanished code details
  | .unsupportedOperation code details | .hardwareFault code details
  | .unsatisfiedConstraints code details | .illegalOperation code details
  | .protocolError code details | .timeExpired code details => (code, details)
  | .unexpectedEof => (0, "unexpected end of file")
  | .userError text => (0, text)

/-- An error of the system as a fault; sockets report their numbers negated. -/
def faultOf (e : IO.Error) : Fault :=
  let (code, details) := errorParts e
  let n := if code.toNat < 0x80000000 then code.toNat else 0x100000000 - code.toNat
  if n = 0 then ⟨.other, details⟩ else faultOfNumber n details

abbrev Wire := Std.Async.TCP.Socket.Client

structure Host where
  started : Nat
  /-- What the network has said and nobody has heard yet. -/
  news : IO.Ref (Array (Handle × News))
  wires : IO.Ref (List (Handle × Wire))
  asked : IO.Ref (List Handle)
  writing : IO.Ref (List Handle)

namespace Host

def create : IO Host := do
  return ⟨← IO.monoNanosNow, ← IO.mkRef #[], ← IO.mkRef [], ← IO.mkRef [], ← IO.mkRef []⟩

def now (h : Host) : IO Instant := do return (← IO.monoNanosNow) - h.started

def tell (h : Host) (socket : Handle) (news : News) : BaseIO Unit := h.news.modify (·.push (socket, news))

/-- The addresses of a host name, or the one it spells out. -/
def resolve (name : String) : Async (List IPAddr) := do
  match IPv4Addr.ofString name with
  | some ip => return [.v4 ip]
  | none => return (← Std.Async.DNS.getAddrInfo name "").toList

def addressOf (ip : IPAddr) (port : UInt16) : SocketAddress :=
  match ip with
  | .v4 ip => .v4 ⟨ip, port⟩
  | .v6 ip => .v6 ⟨ip, port⟩

partial def receiveAll (h : Host) (socket : Handle) (wire : Wire) : Async Unit := do
  match ← wire.recv? 65536 with
  | some data =>
    h.tell socket (.received data.toList)
    receiveAll h socket wire
  | none => h.tell socket (.ended .clean)

def receive (h : Host) (socket : Handle) (wire : Wire) : Async Unit := do
  try receiveAll h socket wire
  catch e => h.tell socket (.ended (.broken (faultOf e)))

def connectFirst (port : UInt16) : List IPAddr → Async Wire
  | [] => throw (.userError "no address")
  | ip :: rest => do
    let wire ← Std.Async.TCP.Socket.Client.mk
    try
      wire.connect (addressOf ip port)
      wire.noDelay
      return wire
    catch e => if rest.isEmpty then throw e else connectFirst port rest

def connect (h : Host) (socket : Handle) (name : String) (port : UInt16) : Async Unit := do
  try
    let wire ← connectFirst port (← resolve name)
    h.wires.modify ((socket, wire) :: ·)
    h.tell socket (.connected (.ok ()))
    receive h socket wire
  catch e => h.tell socket (.connected (.error (faultOf e)))

def write (h : Host) (socket : Handle) (wire : Wire) (bytes : Bytes) : Async Unit := do
  try
    wire.send ⟨bytes.toArray⟩
    h.tell socket (.wrote bytes.length)
  catch e => h.tell socket (.writeFailed (faultOf e))

def shut (wire : Wire) : Async Unit := do
  try wire.shutdown
  catch _ => return

def serve (h : Host) (t : Tcp) (socket : Handle) : IO Unit := do
  match t.sockets[socket]? with
  | some (.connecting name port none _) =>
    unless (← h.asked.get).contains socket do
      h.asked.modify (socket :: ·)
      discard (connect h socket name port).toIO
  | _ =>
    match (← h.wires.get).lookup socket with
    | none => return
    | some wire =>
      let bytes := t.unwritten socket
      if !bytes.isEmpty && !(← h.writing.get).contains socket then
        h.writing.modify (socket :: ·)
        discard (write h socket wire bytes).toIO
      if t.isFinished socket then
        h.wires.modify (·.filter (·.1 != socket))
        discard (shut wire).toIO

/-- Hear what the network has said. A socket that is done with a write may write again. -/
def hear (h : Host) (s : Session Tcp) : IO (Session Tcp) := do
  let mut s := s
  for (socket, news) in ← h.news.swap #[] do
    s := s.hear socket news
    match news with
    | .wrote _ | .writeFailed _ => h.writing.modify (·.filter (· != socket))
    | _ => pure ()
  return s

/-- Let a session go on until something is the case, doing for it what its sockets want. -/
partial def keepGoing (h : Host) (stop : Session Tcp → IO Bool) (s : Session Tcp) : IO (Session Tcp) := do
  let s := (← h.hear s).catchUp (← h.now)
  for socket in List.range s.client.transport.sockets.length do
    h.serve s.client.transport socket
  if ← stop s then return s
  if (← h.news.get).isEmpty then IO.sleep 1
  keepGoing h stop s

partial def keepUp (h : Host) (seconds : Nat) (report : Session Tcp → String) (s : Session Tcp) :
    IO (Session Tcp) := do
  let signal ← (← Std.Async.Signal.Waiter.mk .sigint false).wait
  let rec rounds (next : Nat) (s : Session Tcp) : IO (Session Tcp) := do
    let s ← h.keepGoing (fun _ => do
      return (← IO.hasFinished signal) || (seconds != 0 && next ≤ (← h.now))) s
    if ← IO.hasFinished signal then return s
    IO.print (report s)
    rounds (next + seconds * 1000000000) s
  rounds ((← h.now) + seconds * 1000000000) s

/-- What an operation on a file came to, with the system's own words where it failed. -/
def attemptFile {α : Type} (act : IO α) : IO (Except String α) := do
  try return .ok (← act)
  catch e => return .error (faultOf e).text

def carryOut (h : Host) : Plan → IO Nat
  | .exit code => return code
  | .print text next => do
    IO.print text
    carryOut h next
  | .complain text next => do
    IO.eprint text
    carryOut h next
  | .readFile path next => do
    carryOut h (next (← attemptFile (return (← IO.FS.readBinFile path).toList)))
  | .writeFile path text next => do
    carryOut h (next (← attemptFile (IO.FS.writeFile path text)))
  | .call s what next => do
    let s := s.spawn "call" what
    let s ← h.keepGoing (fun s => return s.finished? "call" == some true) s
    let (s, result) := s.join "call"
    carryOut h (next s result)
  | .keepUp s seconds report next => do carryOut h (next (← h.keepUp seconds report s))

end Host

end Switchboard.Cli

def main (args : List String) : IO UInt32 := do
  let host ← Switchboard.Cli.Host.create
  return (← host.carryOut (Switchboard.Cli.plan none args)).toUInt32
