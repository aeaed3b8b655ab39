import Switchboard.Proofs.Tcp.Intake
import Switchboard.Transport.Tcp

/-!
Opening a connection over a socket. The client writes its hello, and nothing else, and takes one frame off
what comes in. That frame decides: a welcome makes the connection, which begins with the bytes behind it,
and anything else ends the opening. From there the reader of the connection goes on through the same stream.
-/
namespace Switchboard.Tcp

open Text (Bytes)
open Switchboard.Frame (Reading)

/-! ### The answer of a server -/

/-- What the first thing that can be read makes of an opening, and the bytes behind it. -/
inductive Verdict (limit : Nat) (i : Incoming) : Except TransportError Unit → Bytes → Prop
  | welcome {rest} (gives : Gives limit i (.frame .welcome) rest) : Verdict limit i (.ok ()) rest
  | rejected {reason rest} (gives : Gives limit i (.frame (.rejected reason)) rest) :
      Verdict limit i (.error (.rejected reason)) rest
  | other {frame rest} (gives : Gives limit i (.frame frame) rest)
      (other : frame ≠ .welcome ∧ ∀ reason, frame ≠ .rejected reason) :
      Verdict limit i (.error (.protocol ("unexpected handshake reply: " ++ frame.describe))) rest
  | unreadable {e rest} (gives : Gives limit i (.failure e) rest) : Verdict limit i (.error e) rest
  | ended {rest} (gives : Gives limit i .finished rest) :
      Verdict limit i (.error (.closed "server closed connection during handshake")) rest

theorem conclude?_verdict {limit : Nat} {i : Incoming} {result : Except TransportError Unit} {rest : Bytes}
    (verdict : Verdict limit i result rest) : conclude? limit i = some (result, ⟨rest, i.ending⟩) := by
  cases verdict with
  | welcome gives => rw [conclude?, read?_gives gives]; rfl
  | rejected gives => rw [conclude?, read?_gives gives]; rfl
  | unreadable gives => rw [conclude?, read?_gives gives]; rfl
  | ended gives => rw [conclude?, read?_gives gives]; rfl
  | @other frame _ gives other =>
    rw [conclude?, read?_gives gives]
    cases frame with
    | welcome => exact absurd rfl other.1
    | rejected reason => exact absurd rfl (other.2 reason)
    | _ => rfl

theorem verdict_of_gives {limit : Nat} {i : Incoming} {r : Reading ServerFrame} {rest : Bytes}
    (gives : Gives limit i r rest) : Verdict limit i (welcomed r) rest := by
  cases r with
  | failure e => exact .unreadable gives
  | finished => exact .ended gives
  | frame frame =>
    cases frame with
    | welcome => exact .welcome gives
    | rejected reason => exact .rejected gives
    | _ => exact .other gives ⟨nofun, nofun⟩

theorem verdict_of_conclude? {limit : Nat} {i i' : Incoming} {result : Except TransportError Unit}
    (concluded : conclude? limit i = some (result, i')) :
    Verdict limit i result i'.bytes ∧ i' = ⟨i'.bytes, i.ending⟩ := by
  obtain ⟨⟨r, rest⟩, read, same⟩ := Option.map_eq_some_iff.mp concluded
  cases same
  obtain ⟨gives, ending⟩ := gives_of_read? read
  exact ⟨verdict_of_gives gives, ending ▸ rfl⟩

/-! ### Openings and what happens to them -/

/-- An opening, with what its socket has heard and written. -/
structure Dialog where
  transport : Tcp
  progress : OpenProgress
  heard : Incoming := {}
  written : Bytes := []

def News.brings : News → Incoming → Incoming
  | .received bytes, i => i.receive bytes
  | .ended ending, i => i.finish ending
  | _, i => i

/-- What is written with a piece of news, of what there is to write. -/
def News.writes (unwritten : Bytes) : News → Bytes
  | .wrote count => unwritten.take count
  | _ => []

namespace Dialog

/-- The socket of an opening hears news. -/
def hear (i : Handle) (news : News) (s : Dialog) : Dialog :=
  { s with
    transport := s.transport.hear i news
    heard := news.brings s.heard
    written := s.written ++ news.writes (s.transport.unwritten i) }

def resume (now : Instant) (o : Opening) (s : Dialog) : Dialog :=
  { s with
    transport := (s.transport.resumeOpen now o).1
    progress := (s.transport.resumeOpen now o).2 }

/-- One thing that happens while an opening is under way: its socket hears news, it is let go on, or
something else happens to the transport. -/
inductive Step (i : Handle) : Dialog → Dialog → Prop
  | hears {s o} (waits : s.progress = .waiting o) (news : News) : Step i s (s.hear i news)
  | resumes {s o} (waits : s.progress = .waiting o) (now : Instant) : Step i s (s.resume now o)
  | aside {s o} (waits : s.progress = .waiting o) (t : Tcp) (limit : t.limit = s.transport.limit)
      (client : t.clientName = s.transport.clientName)
      (socket : t.sockets[i]? = s.transport.sockets[i]?) : Step i s { s with transport := t }

def start (now : Instant) (d : Descriptor) (t : Tcp) : Dialog where
  transport := (t.startOpen now d).1
  progress := (t.startOpen now d).2

/-- What may become of an opening, up to its end. -/
inductive Course (now : Instant) (d : Descriptor) (t : Tcp) : Dialog → Prop
  | starts : Course now d t (start now d t)
  | goesOn {s s'} (before : Course now d t s) (step : Step t.sockets.length s s') : Course now d t s'

/-- The socket of an opening has failed to write. -/
def Faulty (i : Handle) (s : Dialog) : Prop :=
  ∃ hello unwritten f incoming, s.transport.sockets[i]? = some (.greeting hello unwritten (some f) incoming)

/-- Where an opening stands. -/
inductive Stage (i : Handle) (d : Descriptor) (limit : Nat) (hello : Bytes) : Dialog → Prop
  | connecting {t o host port result heard}
      (socket : t.sockets[i]? = some (.connecting host port result heard))
      (mine : o.socket = i ∧ o.descriptor = d) (place : ∃ deadline, o.place = .connecting deadline) :
      Stage i d limit hello ⟨t, .waiting o, heard, []⟩
  | greeting {t o unwritten heard written}
      (socket : t.sockets[i]? = some (.greeting hello unwritten none heard))
      (mine : o.socket = i ∧ o.descriptor = d) (all : written ++ unwritten = hello)
      (place : ∀ deadline, o.place = .reading deadline → unwritten = []) :
      Stage i d limit hello ⟨t, .waiting o, heard, written⟩
  | faulty {t o unwritten f heard written}
      (socket : t.sockets[i]? = some (.greeting hello unwritten (some f) heard))
      (mine : o.socket = i ∧ o.descriptor = d) (part : ∃ unsent, written ++ unsent = hello) :
      Stage i d limit hello ⟨t, .waiting o, heard, written⟩
  | agreed {t now rest heard} (verdict : Verdict limit heard (.ok ()) rest)
      (socket : t.sockets[i]? =
        some (.established (.establish now d limit hello ⟨rest, heard.ending⟩))) :
      Stage i d limit hello ⟨t, .done (.ok i), heard, hello⟩
  | refused {t e rest heard} (verdict : Verdict limit heard (.error e) rest) :
      Stage i d limit hello ⟨t, .done (.error e), heard, hello⟩
  | late {t heard written} (part : ∃ unsent, written ++ unsent = hello)
      (unanswered : written = hello → ∀ result rest, ¬ Verdict limit heard result rest) :
      Stage i d limit hello ⟨t, .done (.error (.timeout d.connectTimeout)), heard, written⟩
  | failed {t heard written} (f : Fault) (part : ∃ unsent, written ++ unsent = hello) :
      Stage i d limit hello ⟨t, .done (.error f.error), heard, written⟩

end Dialog

theorem socket_setSocket {t : Tcp} {i : Handle} {before : Socket} (there : t.sockets[i]? = some before)
    (s : Socket) : (t.setSocket i s).sockets[i]? = some s := by
  have below : i < t.sockets.length := (List.getElem?_eq_some_iff.mp there).1
  exact List.getElem?_set_self below

theorem encode_nonempty {limit : Nat} {frame : ClientFrame} {bytes : Bytes}
    (encoded : Frame.encode limit frame = .ok bytes) : bytes ≠ [] := by
  rintro rfl
  rw [Frame.encode] at encoded
  split at encoded <;> cases encoded

namespace Dialog.Stage

variable {i : Handle} {d : Descriptor} {limit : Nat} {hello : Bytes} {t : Tcp} {o : Opening}
  {heard : Incoming} {written : Bytes}

/-! ### Letting an opening go on -/

theorem waitUntil {now deadline : Instant} (mine : o.descriptor = d)
    (part : ∃ unsent, written ++ unsent = hello)
    (unanswered : written = hello → ∀ result rest, ¬ Verdict limit heard result rest)
    (waits : Stage i d limit hello ⟨t, .waiting o, heard, written⟩) :
    Stage i d limit hello
      ⟨(t.waitUntil now deadline o).1, (t.waitUntil now deadline o).2, heard, written⟩ := by
  unfold Tcp.waitUntil
  split
  · rw [mine]
    exact .late part unanswered
  · exact waits

theorem readWelcome {now deadline : Instant} (mine : o.socket = i ∧ o.descriptor = d)
    (socket : t.sockets[i]? = some (.greeting hello [] none heard)) :
    Stage i d t.limit hello ⟨(t.readWelcome now deadline o hello heard).1,
      (t.readWelcome now deadline o hello heard).2, heard, hello⟩ := by
  have all : hello ++ [] = hello := List.append_nil hello
  unfold Tcp.readWelcome
  split
  · next nothing =>
    refine waitUntil mine.2 ⟨[], all⟩ ?_ (.greeting socket mine all fun _ _ => rfl)
    intro _ result rest verdict
    cases nothing.symm.trans (conclude?_verdict verdict)
  · next e rest concluded => exact .refused (verdict_of_conclude? concluded).1
  · next unread concluded =>
    obtain ⟨verdict, same⟩ := verdict_of_conclude? concluded
    rw [mine.1, mine.2, same]
    exact .agreed verdict (socket_setSocket socket _)

theorem resume (stage : Stage i d t.limit hello ⟨t, .waiting o, heard, written⟩)
    (fits : Frame.encode t.limit (Tcp.hello t.clientName d) = .ok hello) (now : Instant) :
    Stage i d t.limit hello ⟨(t.resumeOpen now o).1, (t.resumeOpen now o).2, heard, written⟩ := by
  have nonempty := encode_nonempty fits
  cases stage with
  | connecting socket mine place =>
    obtain ⟨deadline, place⟩ := place
    unfold resumeOpen
    rw [mine.1, socket]
    rename_i result
    match result with
    | none =>
      dsimp only
      rw [place]
      exact waitUntil mine.2 ⟨hello, rfl⟩ (fun nothing => absurd nothing.symm nonempty)
        (.connecting socket mine ⟨deadline, place⟩)
    | some (.error f) => exact .failed f ⟨hello, rfl⟩
    | some (.ok ()) =>
      dsimp only
      rw [mine.2, fits]
      dsimp only [writeHello]
      rw [place, if_neg nonempty]
      exact .greeting (socket_setSocket socket _) mine rfl nofun
  | @greeting _ _ unwritten _ _ socket mine all place =>
    unfold resumeOpen
    rw [mine.1, socket]
    dsimp only [writeHello]
    have written_all (done : unwritten = []) : written = hello := by
      rw [← all, done, List.append_nil]
    -- The answer is read when all of the hello has been written, the first time and whenever it goes on.
    have reads (done : unwritten = []) (deadline : Instant) : Stage i d t.limit hello
        ⟨(t.readWelcome now deadline o hello heard).1, (t.readWelcome now deadline o hello heard).2, heard,
          written⟩ := by
      rw [written_all done]
      exact readWelcome mine (done ▸ socket)
    have writes : Stage i d t.limit hello ⟨t, .waiting { o with place := .writing }, heard, written⟩ :=
      .greeting socket mine all nofun
    split
    · next f _ impossible => cases impossible
    · next deadline at_reading => exact reads (place _ at_reading) _
    · split
      · next done => exact reads done _
      · exact writes
  | faulty socket mine part =>
    unfold resumeOpen
    rw [mine.1, socket]
    exact .failed _ part

/-! ### News -/

theorem hear (stage : Stage i d limit hello ⟨t, .waiting o, heard, written⟩) (news : News) :
    Stage i d limit hello ⟨t.hear i news, .waiting o, news.brings heard,
      written ++ news.writes (t.unwritten i)⟩ := by
  cases stage with
  | @connecting _ _ host port result _ socket mine place =>
    have stays (result' : Option (Except Fault Unit)) (heard' : Incoming) : Stage i d limit hello
        ⟨t.setSocket i (.connecting host port result' heard'), .waiting o, heard', []⟩ :=
      .connecting (socket_setSocket socket _) mine place
    have same : Stage i d limit hello ⟨t, .waiting o, heard, []⟩ := .connecting socket mine place
    have nobody : t.connection? i = none := by rw [connection?, socket]
    cases news with
    | connected answer =>
      simp only [Tcp.hear, answerConnect, socket]
      cases result with
      | none => exact stays _ _
      | some _ => exact same
    | received bytes =>
      simp only [Tcp.hear, receive, socket]
      exact stays result _
    | ended ending =>
      simp only [Tcp.hear, endIncoming, socket]
      exact stays result _
    | wrote count =>
      simp only [Tcp.hear, wrote, News.writes, unwritten, socket, onConnection, nobody, List.take_nil]
      exact same
    | writeFailed f =>
      simp only [Tcp.hear, failWrite, socket, onConnection, nobody]
      exact same
  | @greeting _ _ unwritten _ _ socket mine all place =>
    have all' : written ++ [] ++ unwritten = hello := by rw [List.append_nil, all]
    have stays (heard' : Incoming) : Stage i d limit hello
        ⟨t.setSocket i (.greeting hello unwritten none heard'), .waiting o, heard', written ++ []⟩ :=
      .greeting (socket_setSocket socket _) mine all' place
    cases news with
    | connected answer =>
      simp only [Tcp.hear, answerConnect, socket]
      exact .greeting socket mine all' place
    | received bytes =>
      simp only [Tcp.hear, receive, socket]
      exact stays _
    | ended ending =>
      simp only [Tcp.hear, endIncoming, socket]
      exact stays _
    | wrote count =>
      simp only [Tcp.hear, wrote, News.writes, Tcp.unwritten, socket]
      refine .greeting (socket_setSocket socket _) mine ?_ fun deadline reading => ?_
      · rw [List.append_assoc, List.take_append_drop, all]
      · rw [place deadline reading, List.drop_nil]
    | writeFailed f =>
      simp only [Tcp.hear, failWrite, socket]
      exact .faulty (socket_setSocket socket _) mine ⟨unwritten, all'⟩
  | @faulty _ _ unwritten f _ _ socket mine part =>
    have nobody : t.connection? i = none := by rw [connection?, socket]
    have stays (unwritten' : Bytes) (heard' : Incoming) : Stage i d limit hello
        ⟨t.setSocket i (.greeting hello unwritten' (some f) heard'), .waiting o, heard', written ++ []⟩ :=
      .faulty (socket_setSocket socket _) mine (by rwa [List.append_nil])
    have same : Stage i d limit hello ⟨t, .waiting o, heard, written ++ []⟩ :=
      .faulty socket mine (by rwa [List.append_nil])
    cases news with
    | connected answer =>
      simp only [Tcp.hear, answerConnect, socket]
      exact same
    | received bytes =>
      simp only [Tcp.hear, receive, socket]
      exact stays unwritten _
    | ended ending =>
      simp only [Tcp.hear, endIncoming, socket]
      exact stays unwritten _
    | wrote count =>
      simp only [Tcp.hear, wrote, News.writes, Tcp.unwritten, socket, List.take_nil]
      exact stays _ heard
    | writeFailed g =>
      simp only [Tcp.hear, failWrite, socket, onConnection, nobody]
      exact same

/-! ### The answer -/

theorem readWelcome_answered {limit : Nat} {result : Except TransportError Unit} {rest : Bytes}
    (mine : o.socket = i) (limit' : t.limit = limit) (verdict : Verdict limit heard result rest) (now deadline : Instant) :
    (t.readWelcome now deadline o hello heard).2 = .done (result.map fun _ => i) := by
  rw [Tcp.readWelcome, limit', conclude?_verdict verdict]
  cases result with
  | error e => rfl
  | ok =>
    rw [mine]
    rfl

/-- When all of the hello has been written and the answer is there, an opening goes on to its end at once. -/
theorem answered (stage : Stage i d t.limit hello ⟨t, .waiting o, heard, written⟩) (all : written = hello)
    (nonempty : hello ≠ []) (writes : ¬ Faulty i ⟨t, .waiting o, heard, written⟩)
    {result : Except TransportError Unit} {rest : Bytes} (verdict : Verdict t.limit heard result rest)
    (now : Instant) :
    t.openReady now o = true ∧ (t.resumeOpen now o).2 = .done (result.map fun _ => i) := by
  cases stage with
  | connecting => exact absurd all.symm nonempty
  | faulty socket => exact absurd ⟨_, _, _, _, socket⟩ writes
  | @greeting _ _ unwritten _ _ socket mine whole place =>
    obtain rfl : unwritten = [] := List.append_right_eq_self.mp (whole.trans all.symm)
    have ready : (heard.read? t.limit).isSome = true := by
      have concluded := conclude?_verdict verdict
      obtain ⟨read, there, -⟩ := Option.map_eq_some_iff.mp concluded
      rw [there]
      rfl
    constructor
    · rw [openReady, mine.1, socket]
      cases o.place <;> simp [ready]
    · rw [resumeOpen, mine.1, socket]
      dsimp only [writeHello]
      split
      · next impossible => cases impossible
      · exact readWelcome_answered mine.1 rfl verdict now _
      · rw [if_pos rfl]
        exact readWelcome_answered mine.1 rfl verdict now _

theorem aside (stage : Stage i d limit hello ⟨t, .waiting o, heard, written⟩) {t' : Tcp}
    (socket' : t'.sockets[i]? = t.sockets[i]?) :
    Stage i d limit hello ⟨t', .waiting o, heard, written⟩ := by
  cases stage with
  | connecting socket mine place => exact .connecting (socket'.trans socket) mine place
  | greeting socket mine all place => exact .greeting (socket'.trans socket) mine all place
  | faulty socket mine part => exact .faulty (socket'.trans socket) mine part

end Dialog.Stage

/-! ### What an opening does not change -/

/-- Sockets may change, and nothing else that an opening looks at. -/
structure Alike (t t' : Tcp) : Prop where
  limit : t'.limit = t.limit
  client : t'.clientName = t.clientName

/-- A socket more, which is connecting. -/
def connect (d : Descriptor) (t : Tcp) : Tcp :=
  { t with sockets := t.sockets ++ [.connecting d.host d.port none {}] }

def firstPlace (now : Instant) (d : Descriptor) (t : Tcp) : Opening :=
  ⟨t.sockets.length, d, .connecting (now + d.connectTimeout.nanos)⟩

namespace Dialog

variable {now : Instant} {d : Descriptor} {t : Tcp} {hello : Bytes}
  (fits : Frame.encode t.limit (Tcp.hello t.clientName d) = .ok hello)

include fits

end Dialog

def dialling : Tcp := { clientName := "c", limit := 200 }

def dialled : Descriptor := { name := "far", host := "h", port := 1 }

/-- An answer to the first send, an empty frame and another answer. -/
def behind : Bytes := Connection.wire (.reply 1 [11]) ++ [0, 0, 0, 0] ++ Connection.wire (.reply 2 [22])

def outpour : Bytes := Connection.wire .welcome ++ behind

def calling : Opening := firstPlace 0 dialled dialling

def connected : Dialog := (Dialog.start 0 dialled dialling).hear 0 (.connected (.ok ()))

def spokenTo : Dialog := ((connected.resume 1 calling).hear 0 (.received outpour)).hear 0 (.wrote 200)

def accepted : Dialog := spokenTo.resume 2 { calling with place := .writing }

def reading : List Event := [.begin ⟨"m", "c", "i"⟩ [1], .stepSend 0, .read, .read, .read]

end Switchboard.Tcp
