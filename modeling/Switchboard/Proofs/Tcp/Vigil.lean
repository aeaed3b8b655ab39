import Switchboard.Proofs.Tcp.Beside
import Switchboard.Proofs.Tcp.PingTable

/-!
A watch over the pings of a connection. One who sees the heartbeat number a ping, the queue grow by it and
the frames that come in knows which ping is out, since when, and whether it has been answered. This is what
the heartbeat goes by: before it numbers a ping the one before was answered.
-/
namespace Switchboard.Tcp

open Text (Bytes)

structure Ping where
  id : UInt64
  /-- The frames that had been taken when the ping was numbered. -/
  before : Nat
  /-- When its frame was queued. -/
  queued : Option Instant := none
deriving DecidableEq, Repr

/-- A frame with the number of the ping has come in since it was numbered. -/
def Ping.Answered (p : Ping) (taken : List ServerFrame) : Prop :=
  ∃ frame ∈ taken.drop p.before, frame.requestId? = some p.id

/-- The pings of a run: those before the last one, and that. -/
structure Vigil where
  past : List Ping := []
  last : Option Ping := none

namespace Vigil

def pings (v : Vigil) : List Ping := v.past ++ v.last.toList

def number (id : UInt64) (before : Nat) (v : Vigil) : Vigil :=
  ⟨v.pings, some { id := id, before := before }⟩

theorem pings_number (id : UInt64) (before : Nat) (v : Vigil) :
    (v.number id before).pings = v.pings ++ [{ id := id, before := before }] :=
  rfl

def stamp (now : Instant) (v : Vigil) : Vigil :=
  { v with last := v.last.map fun p => { p with queued := some now } }

/-- What there is to see of a step of the heartbeat: a ping that is due is numbered, and one that is queued
then is queued at that time. -/
def see (c : Connection) (v : Vigil) : Event → Vigil
  | .stepBeat now =>
    let v := match c.pingDue now, c.heartbeat with
      | true, some h => v.number h.id c.taken.length
      | _, _ => v
    if (c.stepBeat now).pingIds = c.pingIds then v else v.stamp now
  | _ => v

/-- What there is to see of a run. -/
def after (c : Connection) (v : Vigil) : List Event → Vigil
  | [] => v
  | e :: rest => after (e.apply c) (v.see c e) rest

theorem length_stamp (now : Instant) (v : Vigil) : (v.stamp now).pings.length = v.pings.length := by
  unfold pings stamp
  cases v.last <;> simp

theorem see_undue {c : Connection} {now : Instant} (undue : c.pingDue now = false) (v : Vigil) :
    v.see c (.stepBeat now) = if (c.stepBeat now).pingIds = c.pingIds then v else v.stamp now := by
  rw [see, undue]

theorem see_due {c : Connection} {now : Instant} (due : c.pingDue now = true) {h : Heartbeat}
    (found : c.heartbeat = some h) (v : Vigil) : v.see c (.stepBeat now) =
      if (c.stepBeat now).pingIds = c.pingIds then v.number h.id c.taken.length
      else (v.number h.id c.taken.length).stamp now := by
  rw [see, due, found]

/-- A watch sees every ping that is numbered. -/
theorem length_see (c : Connection) (e : Event) (v : Vigil) :
    (v.see c e).pings.length = v.pings.length + e.pings c := by
  cases e with
  | stepBeat now =>
    cases due : c.pingDue now with
    | false =>
      rw [see_undue due, Event.pings, due]
      split
      · rfl
      · exact length_stamp now v
    | true =>
      obtain ⟨h, found⟩ : ∃ h, c.heartbeat = some h := by
        cases found : c.heartbeat with
        | none => simp [Connection.pingDue, found] at due
        | some h => exact ⟨h, rfl⟩
      rw [see_due due found, Event.pings, due]
      split
      · exact List.length_append
      · exact (length_stamp now _).trans List.length_append
  | _ => rfl

theorem length_after (c : Connection) (events : List Event) (v : Vigil) :
    (v.after c events).pings.length = v.pings.length + c.pings events := by
  induction events generalizing c v with
  | nil => rfl
  | cons e rest ih =>
    show ((v.see c e).after (e.apply c) rest).pings.length = _
    rw [ih, length_see, Connection.pings, Nat.add_assoc]

end Vigil

/-- It was queued, and it has been answered. -/
def Ping.Settled (p : Ping) (taken : List ServerFrame) : Prop := p.queued.isSome ∧ p.Answered taken

/-- It was queued and has not been answered, and the time for an answer is over. -/
def Ping.Overdue (patience : Duration) (now : Instant) (taken : List ServerFrame) (p : Ping) : Prop :=
  ∃ queued, p.queued = some queued ∧ queued + patience.nanos ≤ now ∧ ¬ p.Answered taken

theorem Ping.Answered.more {p : Ping} {taken : List ServerFrame} (answered : p.Answered taken)
    (more : List ServerFrame) : p.Answered (taken ++ more) := by
  obtain ⟨frame, there, same⟩ := answered
  refine ⟨frame, ?_, same⟩
  rw [List.drop_append]
  exact List.mem_append_left _ there

/-! ### What is recorded -/

/-- The pings are numbered in turn, the queue has the ones that were seen to be queued, and each but the last
one is settled. -/
structure Vigil.Recorded (v : Vigil) (c : Connection) : Prop where
  ids : v.pings.map (·.id) = (List.range v.pings.length).map pingId
  queued : c.pingIds = (v.pings.filter (·.queued.isSome)).map (·.id)
  past : ∀ p ∈ v.past, p.Settled c.taken

namespace Vigil.Recorded

variable {v : Vigil} {c : Connection} (r : v.Recorded c)

include r

theorem more {c' : Connection} (pingIds : c'.pingIds = c.pingIds)
    (taken : ∃ more, c'.taken = c.taken ++ more) : v.Recorded c' where
  ids := r.ids
  queued := pingIds.trans r.queued
  past p there := by
    obtain ⟨more, taken⟩ := taken
    exact ⟨(r.past p there).1, taken ▸ (r.past p there).2.more more⟩

theorem number (settled : ∀ p ∈ v.last, p.Settled c.taken) (before : Nat) :
    (v.number (pingId v.pings.length) before).Recorded c where
  ids := by
    rw [pings_number, List.map_append, r.ids, List.length_append, List.length_singleton, List.range_succ,
      List.map_append]
    rfl
  queued := by
    rw [pings_number, r.queued, List.filter_append, List.map_append]
    exact (List.append_nil _).symm
  past p there := by
    rcases List.mem_append.mp there with earlier | last
    · exact r.past p earlier
    · exact settled p (Option.mem_toList.mp last)

theorem stamp {p : Ping} (last : v.last = some p) (unqueued : p.queued = none) {c' : Connection}
    (pingIds : c'.pingIds = c.pingIds ++ [p.id]) (taken : c'.taken = c.taken) (now : Instant) :
    (v.stamp now).Recorded c' := by
  obtain ⟨past, _⟩ := v
  cases last
  have ids := r.ids
  have queued := r.queued
  simp only [Vigil.pings, Option.toList_some, List.filter_append, List.filter_cons, unqueued,
    Option.isSome_none, Bool.false_eq_true, if_false, List.filter_nil, List.append_nil] at ids queued
  refine ⟨?_, ?_, ?_⟩
  · simpa [Vigil.pings, Vigil.stamp] using ids
  · rw [pingIds, queued]
    simp [Vigil.pings, Vigil.stamp]
  · exact taken ▸ r.past

theorem last_id {p : Ping} (last : v.last = some p) :
    ∃ before, v.pings.length = before + 1 ∧ p.id = pingId before := by
  obtain ⟨past, _⟩ := v
  cases last
  have ids := r.ids
  simp only [Vigil.pings, Option.toList_some, List.map_append, List.length_append, List.length_singleton,
    List.range_succ, List.map_cons, List.map_nil] at ids
  refine ⟨past.length, List.length_append, ?_⟩
  have same := List.append_inj_right' ids (by simp only [List.length_singleton])
  exact (List.cons.inj same).1

end Vigil.Recorded

namespace Connection

/-! ### What the heartbeat is told of a ping -/

/-- The heartbeat knows of its ping what has come in since. -/
structure Hearkens (p : Ping) (c : Connection) : Prop where
  since : p.before ≤ c.taken.length
  awaited : ∀ h, c.heartbeat = some h → h.beat.isOut = true → h.id = p.id → h.reply = .awaited →
    ¬ p.Answered c.taken
  given : ∀ h, c.heartbeat = some h → h.beat.isOut = true → h.id = p.id → ∀ frame,
    h.reply = .given frame → p.Answered c.taken

/-- The heartbeat has been told at most that it lost its place. -/
def Hushed (c c' : Connection) : Prop := ∀ h', c'.heartbeat = some h' → ∃ h, c.heartbeat = some h ∧
  (h' = h ∨ h' = { h with reply := h.reply.learn .lost })

theorem hushed_remove (id : UInt64) (c : Connection) : Hushed c (c.remove .lost id) := by
  intro h' found'
  unfold remove at found'
  cases entry : c.pending.lookup id with
  | none =>
    rw [entry] at found'
    exact ⟨h', found', .inl rfl⟩
  | some w =>
    rw [entry] at found'
    cases w with
    | send number => exact ⟨h', found', .inl rfl⟩
    | heartbeat =>
      obtain ⟨h, found, rfl⟩ := Option.map_eq_some_iff.mp found'
      exact ⟨h, found, .inr rfl⟩

theorem hushed_markClosed (c : Connection) : Hushed c c.markClosed := by
  intro h' found'
  rw [heartbeat_markClosed] at found'
  obtain ⟨h, found, rfl⟩ := Option.map_eq_some_iff.mp found'
  refine ⟨h, found, ?_⟩
  split
  · exact .inr rfl
  · exact .inl rfl

theorem hearkens_resting {p : Ping} {c : Connection} (since : p.before ≤ c.taken.length)
    (rests : ∀ h, c.heartbeat = some h → h.beat.isOut = false) : Hearkens p c where
  since := since
  awaited h found out := absurd ((rests h found).symm.trans out) Bool.false_ne_true
  given h found out := absurd ((rests h found).symm.trans out) Bool.false_ne_true

namespace Hearkens

section

variable {p : Ping} {c : Connection} (k : Hearkens p c)

include k

theorem aside {c' : Connection} (taken : c'.taken = c.taken) (heartbeat : c'.heartbeat = c.heartbeat) :
    Hearkens p c' := by
  constructor
  · exact taken ▸ k.since
  · exact heartbeat ▸ taken ▸ k.awaited
  · exact heartbeat ▸ taken ▸ k.given

theorem hushed {c' : Connection} (taken : c'.taken = c.taken) (hushed : Hushed c c') : Hearkens p c' := by
  constructor
  · exact taken ▸ k.since
  · intro h' found' out mine awaited
    rw [taken]
    obtain ⟨h, found, rfl | rfl⟩ := hushed h' found'
    · exact k.awaited h' found out mine awaited
    · exact (awaits_told Reply.noConfusion awaited).elim
  · intro h' found' out mine frame given
    rw [taken]
    obtain ⟨h, found, rfl | rfl⟩ := hushed h' found'
    · exact k.given h' found out mine frame given
    · cases reply : h.reply with
      | given earlier => exact k.given h found out mine earlier reply
      | awaited => cases (congrArg (Reply.learn · .lost) reply).symm.trans given
      | lost => cases (congrArg (Reply.learn · .lost) reply).symm.trans given

theorem stopped {c' : Connection} (taken : c'.taken = c.taken) (c₁ : Connection)
    (stops : c'.heartbeat = (c₁.setBeat .stopped).heartbeat) : Hearkens p c' := by
  refine hearkens_resting (taken ▸ k.since) fun h' found' => ?_
  obtain ⟨h, -, rfl⟩ := Option.map_eq_some_iff.mp (stops.symm.trans found')
  rfl

/-- The heartbeat is handed a frame with the number of its ping. -/
theorem heardOwn {c' : Connection} {frame : ServerFrame} (taken : c'.taken = c.taken ++ [frame])
    (told : c'.heartbeat = c.heartbeat.map fun h => { h with reply := h.reply.learn (.given frame) })
    (own : ∀ h, c.heartbeat = some h → frame.requestId? = some h.id) : Hearkens p c' := by
  refine ⟨?_, ?_, ?_⟩
  · rw [taken, List.length_append]
    exact Nat.le_add_right_of_le k.since
  · intro h' found' _ _ awaited
    obtain ⟨h, -, rfl⟩ := Option.map_eq_some_iff.mp (told.symm.trans found')
    exact (awaits_told Reply.noConfusion awaited).elim
  · intro h' found' _ mine _ _
    obtain ⟨h, found, rfl⟩ := Option.map_eq_some_iff.mp (told.symm.trans found')
    refine ⟨frame, ?_, mine ▸ own h found⟩
    rw [taken, List.drop_append_of_le_length k.since]
    exact List.mem_append_right _ List.mem_cons_self

/-- A frame comes in that is not the one the heartbeat waits for. -/
theorem heardOther {c' : Connection} {frame : ServerFrame} (taken : c'.taken = c.taken ++ [frame])
    (heartbeat : c'.heartbeat = c.heartbeat)
    (other : ∀ h, c.heartbeat = some h → h.beat.isOut = true → h.reply = .awaited →
      frame.requestId? ≠ some h.id) : Hearkens p c' := by
  refine ⟨?_, ?_, ?_⟩
  · rw [taken, List.length_append]
    exact Nat.le_add_right_of_le k.since
  · intro h found out mine awaited answered
    rw [heartbeat] at found
    obtain ⟨frame', there, same⟩ := answered
    rw [taken, List.drop_append_of_le_length k.since] at there
    rcases List.mem_append.mp there with earlier | last
    · exact k.awaited h found out mine awaited ⟨frame', earlier, same⟩
    · rw [List.mem_singleton.mp last, ← mine] at same
      exact other h found out awaited same
  · intro h found out mine earlier given
    rw [heartbeat] at found
    rw [taken]
    exact (k.given h found out mine earlier given).more [frame]

theorem took (t : Tracked c) (listed : Pinging c) (placed : Placed c) (frame : ServerFrame)
    (rest : Incoming) :
    Hearkens p (({ c with incoming := rest, taken := c.taken ++ [frame] }).deliver frame) := by
  have taken := (informed_deliver frame { c with incoming := rest, taken := c.taken ++ [frame] }).taken
  by_cases own : ∃ id, frame.requestId? = some id ∧ (id, .heartbeat) ∈ c.pending
  · obtain ⟨id, number, there⟩ := own
    have told := heartbeat_deliver_own (c := { c with incoming := rest, taken := c.taken ++ [frame] }) t.keys
      number there
    refine k.heardOwn taken told fun h found => ?_
    obtain ⟨h', found', -, mine, -⟩ := listed id there
    obtain rfl := Option.some.inj (found.symm.trans found')
    exact mine ▸ number
  · refine k.heardOther taken (heartbeat_deliver_other fun id number there => own ⟨id, number, there⟩) ?_
    intro h found out awaited number
    exact own ⟨h.id, number, placed h.id ⟨h, found, out, rfl, awaited⟩⟩

theorem turn (t : Tracked c) (listed : Pinging c) (placed : Placed c) {i : Nat} {c' : Connection}
    (turn : Turn i 0 c c') : Hearkens p c' := by
  cases turn with
  | begun => exact k.aside rfl rfl
  | dropped => exact k.aside rfl rfl
  | refused found begun closed =>
    rw [Tracked.refused_eq (t.shut closed)]
    exact k.aside rfl rfl
  | @entered _ s =>
    have entered : Hearkens p (c.enter s.id (.send s.number)) :=
      k.hushed (informed_enter s.id (.send s.number) c).taken (hushed_remove s.id c)
    exact entered.aside rfl rfl
  | accepted => exact k.aside rfl rfl
  | stays => exact k.aside rfl rfl
  | @left _ s =>
    have left : Hearkens p (c.remove .lost s.id) :=
      k.hushed (informed_remove .lost s.id c).taken (hushed_remove s.id c)
    exact left.aside rfl rfl
  | came => exact k.aside rfl rfl
  | took => exact k.took t listed placed _ _
  | @broke _ reading rest =>
    have read : Hearkens p { c with incoming := rest, readerRuns := false } := k.aside rfl rfl
    exact read.hushed (taken_markClosed _) (hushed_markClosed _)
  | unqueued => exact k.aside rfl rfl
  | wrote => exact k.aside rfl rfl
  | writeFailed =>
    have closed : Hearkens p c.markClosed := k.hushed (taken_markClosed c) (hushed_markClosed c)
    exact closed.aside rfl rfl
  | @pingAccepted _ h bytes found queueing =>
    have beats := heartbeat_setBeat (c := c.accept ⟨.heartbeat, h.id, bytes⟩) found
    have out : h.beat.isOut = true := by
      rw [queueing]
      rfl
    refine ⟨k.since, ?_, ?_⟩
    · intro h' found' _ mine awaited
      obtain rfl := Option.some.inj ((beats _).symm.trans found')
      exact k.awaited h found out mine awaited
    · intro h' found' _ mine frame given
      obtain rfl := Option.some.inj ((beats _).symm.trans found')
      exact k.given h found out mine frame given
  | gaveUp => exact k.stopped (taken_markClosed c) c.markClosed rfl
  | rested =>
    refine hearkens_resting k.since fun h' found' => ?_
    cases found'
    rfl
  | stopped => exact k.stopped rfl c rfl
  | ended => exact hearkens_resting (taken_markClosed c ▸ k.since) nofun

theorem turns (t : Tracked c) (listed : Pinging c) (placed : Placed c) {i : Nat} {c' : Connection}
    (turns : Turns i 0 c c') : Hearkens p c' := by
  generalize none : 0 = pings at turns
  induction turns with
  | none => exact k
  | @next i j q r _ c₁ _ before last ih =>
    obtain ⟨rfl, rfl⟩ : q = 0 ∧ r = 0 := by omega
    exact (ih k t listed placed rfl).turn (t.turns before) (listed.turns before) (placed.turns t before) last

end

end Hearkens

end Connection

end Switchboard.Tcp
