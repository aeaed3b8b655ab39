import Switchboard.Proofs.Tcp.Alarm
import Switchboard.Proofs.Tcp.Ceasing

/-!
The pings of a connection and its end. Main statement: whatever happens to a connection, its pings are numbered
from the largest word down, one at a time; it is closed for want of an answer exactly when there is none in time;
and once it is closed no ping follows. Two things stand in the way of saying this without a reservation. A ping
may wait for room in the queue while the connection closes, and is queued then. And the invocations, which count
up, may come to the number of a ping and take its place.
-/
namespace Switchboard.Tcp

open Text (Bytes)

namespace Connection

/-- Of the pings, which are numbered down from the largest word, only the last may be without an answer. The
heartbeat closes the connection only when the time for an answer to that is over and there is none, or when a
ping cannot be sent; and when that time is over the connection is closed or will be in the next step of the
heartbeat, as long as invocations and pings together have not used up the numbers. A frame that comes in closes
nothing, and reaches the heartbeat only as the first answer to the last ping. On a closed connection no ping is
numbered, and only the one that waits for room may still be queued. -/
theorem heartbeat_heeds_answers (now : Instant) (d : Descriptor) (interval : Duration)
    (beats : d.heartbeat = some interval) (limit : Nat) (greeting : Bytes) (unread : Incoming)
    (events : List Event)
    (few : (establish now d limit greeting unread).pings events < 0xffffffffffffffff) :
    let start := establish now d limit greeting unread
    let c := start.run events
    let v := ({} : Vigil).after start events
    v.pings.map (·.id.toNat) = (List.range (start.pings events)).map (0xffffffffffffffff - ·) ∧
    c.pingIds = (v.pings.filter (·.queued.isSome)).map (·.id) ∧
    (∀ p ∈ v.pings, ¬ p.Settled c.taken → v.last = some p) ∧
    (∀ moment, c.closed = false → (c.stepBeat moment).closed = true →
      c.Unsendable moment ∨ ∃ p, v.last = some p ∧ p.Overdue d.invokeTimeout moment c.taken) ∧
    (∀ moment, ∀ p ∈ v.pings, p.Overdue d.invokeTimeout moment c.taken →
      c.closed = true ∨ (c.beatReady moment = true ∧ (c.stepBeat moment).closed = true) ∨
        0xffffffffffffffff ≤ invocations events + start.pings events) ∧
    (∀ frame rest, c.readerRuns = true → c.incoming.read? c.limit = some (.frame frame, rest) →
      c.read.closed = c.closed ∧
      ((∀ p ∈ v.last, frame.requestId? = some p.id → p.Answered c.taken) →
        c.read.heartbeat = c.heartbeat)) ∧
    (c.closed = true → ∀ later, c.pings later = 0 ∧ (c.run later).closed = true ∧
      ((c.run later).pingIds = c.pingIds ∨
        ∃ p, v.last = some p ∧ p.queued = none ∧ (c.run later).pingIds = c.pingIds ++ [p.id])) := by
  intro start c v
  replace few : start.pings events < 0xffffffffffffffff := few
  have tracked : Tracked start := Tracked.establish now d limit greeting unread
  have pinging : Pinging start := Pinging.establish now d limit greeting unread
  have attended : Attended v c := (Attended.establish now d limit greeting unread).run tracked pinging
    (Placed.establish now d limit greeting unread) events
  have manned : Manned d.invokeTimeout c :=
    (Manned.establish now beats limit greeting unread).run tracked events
  have carried : Carried greeting c := (Carried.establish now d limit greeting unread).run events
  have count : v.pings.length = start.pings events :=
    (Vigil.length_after start events {}).trans (Nat.zero_add _)
  refine ⟨?_, attended.queued, fun p => attended.last_of_unsettled,
    fun moment => attended.overdue_of_alarm manned carried, ?_, ?_, ?_⟩
  · calc v.pings.map (·.id.toNat)
        = (v.pings.map (·.id)).map UInt64.toNat := by rw [List.map_map]; rfl
      _ = ((List.range (start.pings events)).map pingId).map UInt64.toNat := by rw [attended.ids, count]
      _ = (List.range (start.pings events)).map (0xffffffffffffffff - ·) := map_toNat_pingId (by omega)
  · intro moment p listed overdue
    by_cases used : 0xffffffffffffffff ≤ invocations events + start.pings events
    · exact .inr (.inr used)
    · have orderly : Orderly (0 + start.pings events) c :=
        (Orderly.establish now d limit greeting unread).run events (by
          show 0 + invocations events + (0 + start.pings events) < 0xffffffffffffffff
          omega)
      have placed (h : Heartbeat) (found : c.heartbeat = some h) (lost : h.reply = .lost) :
          c.closed = true := by
        have proper := orderly.heartbeat h found
        rwa [lost] at proper
      cases opened : c.closed with
      | true => exact .inl rfl
      | false => exact .inr (.inl (attended.alarm_of_overdue manned placed listed overdue opened))
  · intro frame rest runs next
    exact ⟨closed_read runs next, attended.heartbeat_read (pinging.run events) runs next⟩
  · intro closed later
    obtain ⟨none, ceased⟩ := (Ceased.refl closed).run later
    exact ⟨none, ceased.closed, attended.ceases ceased⟩

/-! ### An answer, and none -/

def watched : Descriptor :=
  { name := "far", host := "h", port := 1, heartbeat := some (.ofSecs 1), invokeTimeout := .ofSecs 3 }

def beating : Connection := establish 0 watched 1000 [] {}

/-- The first ping is answered twice. The second answer and an answer to something else come in while the
second ping is out. -/
def silenced : List Event :=
  [.stepBeat 1000000000, .receive (wire (.pong 0xffffffffffffffff)), .read, .stepBeat 1000000000,
    .stepBeat 2000000000, .receive (wire (.pong 0xffffffffffffffff)), .receive (wire (.pong 7)), .read, .read]

theorem heartbeat_heeds_answers_silenced :
    watched.heartbeat = some (.ofSecs 1) ∧ beating.pings silenced < 0xffffffffffffffff ∧
      (beating.run silenced).taken.length = 3 ∧ (beating.run silenced).closed = false ∧
      ((beating.run silenced).stepBeat 5000000000).closed = true ∧
      ∃ p, (({} : Vigil).after beating silenced).last = some p ∧ p.id = 0xfffffffffffffffe ∧
        p.Overdue (.ofSecs 3) 5000000000 (beating.run silenced).taken := by
  have few : beating.pings silenced < 0xffffffffffffffff := by decide +kernel
  have opened : (beating.run silenced).closed = false := by decide +kernel
  have alarm : ((beating.run silenced).stepBeat 5000000000).closed = true := by decide +kernel
  have last : (({} : Vigil).after beating silenced).last =
      some { id := 0xfffffffffffffffe, before := 1, queued := some 2000000000 } := by decide +kernel
  have undue : (beating.run silenced).pingDue 5000000000 = false := by decide +kernel
  obtain ⟨-, -, -, justified, -⟩ :=
    heartbeat_heeds_answers 0 watched (.ofSecs 1) rfl 1000 [] {} silenced few
  obtain ⟨due, -⟩ | ⟨p, there, overdue⟩ := justified 5000000000 opened alarm
  · cases due.symm.trans undue
  · obtain rfl := Option.some.inj (last.symm.trans there)
    exact ⟨rfl, few, by decide +kernel, opened, alarm, _, last, rfl, overdue⟩

/-! ### A ping that waits, and a number that is used twice -/

/-- The queue is full when the ping is numbered, and the stream ends before there is room. -/
def crowded : List Event :=
  ((List.range queueDepth).flatMap fun k => [.begin ⟨"m", "c", "i"⟩ [], .stepSend k]) ++
    [.stepBeat 1000000000, .finishIncoming .clean, .read]

/-- Invocations that are given up before they are sent. -/
def abandonments (count : Nat) : List Event :=
  (List.range count).flatMap fun k => [.begin ⟨"m", "c", "i"⟩ [], .cancel k]

theorem run_abandonments {c : Connection} (idle : c.sends = []) (first : c.nextNumber = 0) (count : Nat) :
    c.run (abandonments count) =
      { c with nextId := c.nextId + UInt64.ofNat count, nextNumber := count } := by
  induction count with
  | zero =>
    obtain ⟨⟩ := c
    cases first
    simp [abandonments, run]
  | succ count ih =>
    rw [abandonments, List.range_succ, List.flatMap_append, run, List.foldl_append]
    rw [abandonments, run] at ih
    rw [ih]
    simp [Event.apply, begin, cancel, send?, dropSend, idle, UInt64.add_assoc]

theorem Vigil.after_append (c : Connection) (first later : List Event) (v : Vigil) :
    v.after c (first ++ later) = (v.after c first).after (c.run first) later := by
  induction first generalizing c v with
  | nil => rfl
  | cons e rest ih => exact ih (e.apply c) (v.see c e)

theorem Vigil.after_quiet {events : List Event} (quiet : ∀ e ∈ events, e.concernsHeartbeat = false)
    (c : Connection) (v : Vigil) : v.after c events = v := by
  induction events generalizing c with
  | nil => rfl
  | cons e rest ih =>
    have unseen : v.see c e = v := by
      have quiet := quiet e List.mem_cons_self
      cases e with
      | stepBeat now => cases quiet
      | _ => rfl
    show (v.see c e).after (e.apply c) rest = v
    rw [unseen]
    exact ih (fun e there => quiet e (List.mem_cons_of_mem _ there)) (e.apply c)

theorem quiet_abandonments (count : Nat) : ∀ e ∈ abandonments count, e.concernsHeartbeat = false := by
  intro e there
  obtain ⟨k, -, there⟩ := List.mem_flatMap.mp there
  rcases List.mem_cons.mp there with rfl | last
  · rfl
  · rw [List.mem_singleton.mp last]
    rfl

/-- The next invocation has the number of the first ping. -/
def spent : Connection :=
  { beating with
    nextId := beating.nextId + UInt64.ofNat 0xfffffffffffffffe
    nextNumber := 0xfffffffffffffffe }

theorem run_spent : beating.run (abandonments 0xfffffffffffffffe) = spent := run_abandonments rfl rfl _

/-- An invocation is given the number of the ping that is out. -/
def displacing : List Event :=
  [.begin ⟨"m", "c", "i"⟩ [], .stepBeat 1000000000, .stepSend 0xfffffffffffffffe]

def displaced : List Event := abandonments 0xfffffffffffffffe ++ displacing

/-- A ping is queued on a closed connection; and a connection stays open though its ping is overdue. -/
theorem heartbeat_overtaken :
    ((beating.run crowded).closed = true ∧ (beating.run crowded).pingIds = [] ∧
      ((beating.run crowded).run [.takeOutgoing, .stepBeat 1000000000]).pingIds = [0xffffffffffffffff]) ∧
    (beating.pings displaced < 0xffffffffffffffff ∧ (beating.run displaced).closed = false ∧
      ((beating.run displaced).stepBeat 4000000000).closed = false ∧
      ∃ p ∈ (({} : Vigil).after beating displaced).pings,
        p.Overdue watched.invokeTimeout 4000000000 (beating.run displaced).taken) := by
  have ran : beating.run displaced = spent.run displacing := by
    rw [displaced, run, List.foldl_append]
    exact congrArg (fun c => run c displacing) run_spent
  have seen : ({} : Vigil).after beating displaced = ({} : Vigil).after spent displacing := by
    rw [displaced, Vigil.after_append, Vigil.after_quiet (quiet_abandonments _), run_spent]
  have pings : (({} : Vigil).after spent displacing).pings =
      [{ id := 0xffffffffffffffff, before := 0, queued := some 1000000000 }] := by decide +kernel
  have none : ({} : Vigil).pings.length = 0 := rfl
  have count := Vigil.length_after beating displaced {}
  rw [seen, pings, none, Nat.zero_add, List.length_singleton] at count
  have few : beating.pings displaced < 0xffffffffffffffff := by
    rw [← count]
    decide
  refine ⟨by decide +kernel, few, ?_⟩
  rw [ran, seen, pings]
  refine ⟨by decide +kernel, by decide +kernel, _, List.mem_singleton_self _, 1000000000, rfl,
    by decide +kernel, ?_⟩
  rintro ⟨frame, there, -⟩
  have unread : (spent.run displacing).taken = [] := by decide +kernel
  rw [unread] at there
  cases there

end Connection

end Switchboard.Tcp
