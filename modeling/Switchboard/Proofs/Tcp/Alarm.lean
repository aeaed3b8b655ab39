import Switchboard.Proofs.Tcp.Heartbeat
import Switchboard.Proofs.Tcp.Writing

/-!
When the heartbeat closes a connection. It does so in the first step it makes after the time for an answer is
over, and an answer that has come in by then keeps it from doing so. What comes in with another number has no
part in that.
-/
namespace Switchboard.Tcp

open Text (Bytes)

namespace Connection

/-- The ping that is due cannot be sent. -/
def Unsendable (now : Instant) (c : Connection) : Prop :=
  c.pingDue now = true ∧ ∃ h e, c.heartbeat = some h ∧
    Frame.encode c.limit (.ping h.id : ClientFrame) = .error e

/-! ### Whether there is a heartbeat -/

/-- The heartbeat is there until the end, and its patience stays the same. -/
structure Manned (patience : Duration) (c : Connection) : Prop where
  gone : c.heartbeat = none → c.closed = true
  patient : ∀ h, c.heartbeat = some h → h.patience = patience

theorem Informed.patience {c c' : Connection} (informed : Informed c c') :
    c'.heartbeat.map (·.patience) = c.heartbeat.map (·.patience) := by
  have same := congrArg (Option.map (·.patience)) informed.heartbeat
  rwa [Option.map_map, Option.map_map] at same

theorem patience_setBeat (beat : Beat) (c : Connection) :
    (c.setBeat beat).heartbeat.map (·.patience) = c.heartbeat.map (·.patience) := by
  rw [setBeat, Option.map_map]
  rfl

theorem Turn.patience {i p : Nat} {c c' : Connection} (turn : Turn i p c c') :
    c'.heartbeat.map (·.patience) = c.heartbeat.map (·.patience) ∨
      c'.closed = true ∧ c'.heartbeat = none := by
  cases turn with
  | @refused _ s =>
    exact .inl (((informed_enter s.id (.send s.number) c).trans (informed_remove .lost s.id _)).patience)
  | @entered _ s => exact .inl (informed_enter s.id (.send s.number) c).patience
  | @left _ s => exact .inl (informed_remove .lost s.id c).patience
  | @took _ frame rest =>
    exact .inl (informed_deliver frame { c with incoming := rest, taken := c.taken ++ [frame] }).patience
  | @broke _ reading rest =>
    exact .inl (informed_markClosed { c with incoming := rest, readerRuns := false }).patience
  | writeFailed => exact .inl (informed_markClosed c).patience
  | @pinged _ h wakes found sleeping opened bytes =>
    rw [heartbeat_pinged found bytes, found]
    exact .inl rfl
  | unsendable => exact .inl ((patience_setBeat _ _).trans (informed_markClosed c).patience)
  | pingAccepted => exact .inl (patience_setBeat _ _)
  | gaveUp => exact .inl ((patience_setBeat _ _).trans (informed_markClosed c).patience)
  | rested _ found =>
    rw [found]
    exact .inl rfl
  | stopped => exact .inl (patience_setBeat _ _)
  | ended => exact .inr ⟨closed_markClosed c, rfl⟩
  | _ => exact .inl rfl

namespace Manned

variable {patience : Duration} {c : Connection} (m : Manned patience c)

include m

theorem turn (t : Tracked c) {i p : Nat} {c' : Connection} (turn : Turn i p c c') : Manned patience c' := by
  rcases turn.patience with same | ⟨closed, none⟩
  · constructor
    · intro none
      rw [none, Option.map_none] at same
      have closed := m.gone (Option.map_eq_none_iff.mp same.symm)
      exact ((Since.refl t closed).turn t turn).closed
    · intro h' found'
      rw [found', Option.map_some] at same
      obtain ⟨h, found, patience⟩ := Option.map_eq_some_iff.mp same.symm
      rw [← patience]
      exact m.patient h found
  · exact ⟨fun _ => closed, fun h found => by cases none.symm.trans found⟩

theorem turns (t : Tracked c) {i p : Nat} {c' : Connection} (turns : Turns i p c c') :
    Manned patience c' := by
  induction turns with
  | none => exact m
  | next before last ih => exact (ih m t).turn (t.turns before) last

theorem run (t : Tracked c) (events : List Event) : Manned patience (c.run events) := by
  induction events generalizing c with
  | nil => exact m
  | cons e rest ih => exact ih (m.turns t (apply_turns e c)) (t.turns (apply_turns e c))

end Manned

theorem Manned.establish (now : Instant) {d : Descriptor} {interval : Duration}
    (beats : d.heartbeat = some interval) (limit : Nat) (greeting : Bytes) (unread : Incoming) :
    Manned d.invokeTimeout (establish now d limit greeting unread) where
  gone none := by
    have there : (Connection.establish now d limit greeting unread).heartbeat.isSome = true := by
      rw [Connection.establish, beats]
      rfl
    rw [none] at there
    cases there
  patient h found := by
    obtain ⟨interval, -, rfl⟩ := Option.map_eq_some_iff.mp found
    rfl

/-! ### The alarm -/

theorem closed_offerPing {c : Connection} (runs : c.writerRuns = true) (now : Instant) (h : Heartbeat)
    (bytes : Bytes) : (c.offerPing now h bytes).closed = c.closed := by
  unfold offerPing
  rw [runs]
  split
  · contradiction
  · split <;> rfl

namespace Attended

section

variable {v : Vigil} {c : Connection} (a : Attended v c)

include a

/-- The ping that is under way is the last one. -/
theorem out {h : Heartbeat} (found : c.heartbeat = some h) (out : h.beat.isOut = true) :
    ∃ p, v.last = some p ∧ p.id = h.id := by
  have stands := a.stands h found
  unfold Heartbeat.Stands at stands
  cases beat : h.beat with
  | sleeping wakes => rw [beat] at out; cases out
  | stopped => rw [beat] at out; cases out
  | queueing bytes =>
    rw [beat] at stands
    obtain ⟨p, last, id, -⟩ := stands
    exact ⟨p, last, id⟩
  | awaiting deadline =>
    rw [beat] at stands
    obtain ⟨p, -, last, id, -⟩ := stands
    exact ⟨p, last, id⟩

/-- A ping that is not settled is the last one. -/
theorem last_of_unsettled {p : Ping} (listed : p ∈ v.pings) (unsettled : ¬ p.Settled c.taken) :
    v.last = some p := by
  rcases List.mem_append.mp listed with past | last
  · exact absurd (a.past p past) unsettled
  · exact Option.mem_toList.mp last

/-- No false alarm. -/
theorem overdue_of_alarm {patience : Duration} (m : Manned patience c) {greeting : Bytes}
    (w : Carried greeting c) {now : Instant} (opened : c.closed = false) (alarm : (c.stepBeat now).closed = true) :
    c.Unsendable now ∨ ∃ p, v.last = some p ∧ p.Overdue patience now c.taken := by
  have runs := w.runs opened
  have quiet {P : Prop} (same : (c.stepBeat now).closed = c.closed) : P := by
    rw [same, opened] at alarm
    cases alarm
  cases due : c.pingDue now with
  | true =>
    obtain ⟨-, h, wakes, found, -⟩ := pingDue_cases due
    cases sent : Frame.encode c.limit (.ping h.id : ClientFrame) with
    | error e => exact .inl ⟨due, h, e, found, sent⟩
    | ok bytes =>
      have informed := informed_enter h.id .heartbeat c
      refine quiet ?_
      simp only [stepBeat_due due found, ping, sent]
      have still := closed_offerPing (c := (c.enter h.id .heartbeat).awaitPong)
        (informed.writerRuns.trans runs) now h bytes
      exact still.trans (closed_enter h.id .heartbeat c)
  | false =>
    cases found : c.heartbeat with
    | none => exact quiet (by simp only [Connection.stepBeat, found])
    | some h =>
      cases beat : h.beat with
      | stopped => exact quiet (by simp only [Connection.stepBeat, found, beat])
      | sleeping wakes =>
        by_cases early : now < wakes
        · exact quiet (by simp only [Connection.stepBeat, found, beat, if_pos early])
        · simp [pingDue, found, beat, opened, Nat.not_lt.mp early] at due
      | queueing bytes =>
        refine quiet ?_
        simp only [Connection.stepBeat, found, beat]
        exact closed_offerPing runs now h bytes
      | awaiting deadline =>
        cases reply : h.reply with
        | given frame => exact quiet (by simp only [Connection.stepBeat, found, beat, reply, restBeat])
        | lost => exact quiet (by simp only [Connection.stepBeat, found, beat, reply, setBeat])
        | awaited =>
          by_cases early : now < deadline
          · exact quiet (by simp only [Connection.stepBeat, found, beat, reply, if_pos early])
          · have stands := a.stands h found
            rw [Heartbeat.Stands, beat] at stands
            obtain ⟨p, queued, last, id, queuedAt, rfl⟩ := stands
            rw [m.patient h found] at early
            have out : h.beat.isOut = true := by
              rw [beat]
              rfl
            exact .inr ⟨p, last, queued, queuedAt, Nat.not_lt.mp early,
              (a.hearkens p last).awaited h found out id.symm reply⟩

/-- No missed alarm, where the heartbeat loses its place only when the connection is closed. -/
theorem alarm_of_overdue {patience : Duration} (m : Manned patience c)
    (placed : ∀ h, c.heartbeat = some h → h.reply = .lost → c.closed = true) {now : Instant} {p : Ping}
    (listed : p ∈ v.pings) (overdue : p.Overdue patience now c.taken) (opened : c.closed = false) :
    c.beatReady now = true ∧ (c.stepBeat now).closed = true := by
  obtain ⟨queued, queuedAt, late, unanswered⟩ := overdue
  have last := a.last_of_unsettled listed fun settled => unanswered settled.2
  have never {P : Prop} (closed : c.closed = true) : P :=
    absurd (opened.symm.trans closed) Bool.false_ne_true
  cases found : c.heartbeat with
  | none => exact never (m.gone found)
  | some h =>
    have stands := a.stands h found
    unfold Heartbeat.Stands at stands
    cases beat : h.beat with
    | sleeping wakes =>
      rw [beat] at stands
      exact absurd (stands.2 p last).2 unanswered
    | queueing bytes =>
      rw [beat] at stands
      obtain ⟨p', last', -, unqueued⟩ := stands
      obtain rfl := Option.some.inj (last.symm.trans last')
      cases queuedAt.symm.trans unqueued
    | stopped =>
      rw [beat] at stands
      exact never (stands.elim id (placed h found))
    | awaiting deadline =>
      rw [beat] at stands
      obtain ⟨p', queued', last', id, queuedAt', rfl⟩ := stands
      obtain rfl := Option.some.inj (last.symm.trans last')
      obtain rfl := Option.some.inj (queuedAt.symm.trans queuedAt')
      rw [← m.patient h found] at late
      have out : h.beat.isOut = true := by
        rw [beat]
        rfl
      cases reply : h.reply with
      | given frame => exact absurd ((a.hearkens p last).given h found out id.symm frame reply) unanswered
      | lost => exact never (placed h found reply)
      | awaited =>
        constructor
        · simp [beatReady, found, beat, late]
        · simp only [Connection.stepBeat, found, beat, reply, if_neg (Nat.not_lt.mpr late)]
          exact closed_markClosed c

/-- A frame that is no answer, or no first one, to the last ping does not reach the heartbeat. -/
theorem heartbeat_read (listed : Pinging c) {frame : ServerFrame} {rest : Incoming}
    (runs : c.readerRuns = true) (next : c.incoming.read? c.limit = some (.frame frame, rest))
    (other : ∀ p ∈ v.last, frame.requestId? = some p.id → p.Answered c.taken) :
    c.read.heartbeat = c.heartbeat := by
  rw [read_frame runs next]
  refine heartbeat_deliver_other fun id number there => ?_
  obtain ⟨h, found, out, mine, awaited⟩ := listed id there
  obtain ⟨p, last, same⟩ := a.out found out
  have answered := other p last (by rw [number, ← mine, ← same])
  exact (a.hearkens p last).awaited h found out same.symm awaited answered

end

end Attended

theorem closed_read {c : Connection} {frame : ServerFrame} {rest : Incoming} (runs : c.readerRuns = true)
    (next : c.incoming.read? c.limit = some (.frame frame, rest)) : c.read.closed = c.closed := by
  rw [read_frame runs next, deliver]
  split
  · rfl
  · exact closed_remove _ _ _

end Connection

end Switchboard.Tcp
