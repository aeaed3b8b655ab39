import Switchboard.Proofs.Tcp.Vigil

/-!
The heartbeat of a connection over a run. It has one ping out at a time, and closes the connection when that
was not answered in time and for nothing else but a frame that cannot be sent. The watch over the pings tells
at every moment which of its steps comes next.
-/
namespace Switchboard.Tcp

open Text (Bytes)

/-- The heartbeat sleeps when its last ping is settled, and waits for an answer from when that was queued. It
has stopped when the connection is closed or it lost its place in the table. -/
def Heartbeat.Stands (v : Vigil) (c : Connection) (h : Heartbeat) : Prop :=
  match h.beat with
  | .sleeping _ => h.id = pingId v.pings.length ∧ ∀ p ∈ v.last, p.Settled c.taken
  | .queueing _ => ∃ p, v.last = some p ∧ p.id = h.id ∧ p.queued = none
  | .awaiting deadline => ∃ p queued, v.last = some p ∧ p.id = h.id ∧ p.queued = some queued ∧
      deadline = queued + h.patience.nanos
  | .stopped => c.closed = true ∨ h.reply = .lost

/-- The events that are the heartbeat's own, and the end. -/
def Event.concernsHeartbeat : Event → Bool
  | .stepBeat _ | .close => true
  | _ => false

namespace Connection

/-! ### What happens beside the heartbeat -/

/-- The heartbeat did nothing, and was told at most. -/
structure Apart (c c' : Connection) : Prop where
  closed : c.closed = true → c'.closed = true
  taken : ∃ more, c'.taken = c.taken ++ more
  heartbeat : c'.heartbeat.map Heartbeat.untold = c.heartbeat.map Heartbeat.untold
  kept : ∀ h, c.heartbeat = some h → h.reply ≠ .awaited → c'.heartbeat = some h
  pingIds : c'.pingIds = c.pingIds

section

variable {c c' : Connection}

theorem Beside.apart (beside : Beside c c') : Apart c c' where
  closed := beside.closed
  taken := ⟨[], beside.taken.trans (List.append_nil _).symm⟩
  heartbeat := beside.heartbeat
  kept := beside.kept
  pingIds := beside.pingIds

theorem Apart.beat (apart : Apart c c') {h' : Heartbeat} (found' : c'.heartbeat = some h') :
    ∃ h, c.heartbeat = some h ∧ h.patience = h'.patience ∧ h.id = h'.id ∧ h.beat = h'.beat ∧
      (h.reply = .lost → h'.reply = .lost) := by
  have told := apart.heartbeat
  rw [found'] at told
  obtain ⟨h, found, same⟩ := Option.map_eq_some_iff.mp told.symm
  obtain ⟨-, patience, id, beat⟩ : h.interval = h'.interval ∧ h.patience = h'.patience ∧ h.id = h'.id ∧
      h.beat = h'.beat := by
    simpa [Heartbeat.untold] using same
  refine ⟨h, found, patience, id, beat, fun lost => ?_⟩
  have kept := apart.kept h found (by rw [lost]; exact Reply.noConfusion)
  obtain rfl := Option.some.inj (kept.symm.trans found')
  exact lost

theorem apart_read (c : Connection) : Apart c c.read := by
  unfold read
  split
  · exact (Beside.refl c).apart
  · split
    · exact (Beside.refl c).apart
    · next frame rest _ =>
      have delivered := informed_deliver frame { c with incoming := rest, taken := c.taken ++ [frame] }
      exact ⟨delivered.closed, ⟨[frame], delivered.taken⟩, delivered.heartbeat, delivered.kept,
        delivered.beside.pingIds⟩
    · next reading rest _ _ =>
      have closed := (informed_markClosed { c with incoming := rest, readerRuns := false }).beside
      exact { closed.apart with }

theorem apart_apply {e : Event} (other : e.concernsHeartbeat = false) (c : Connection) :
    Apart c (e.apply c) := by
  cases e with
  | begin target payload => exact (beside_begin target payload c).apart
  | stepSend number => exact (beside_stepSend number c).apart
  | cancel number => exact (beside_cancel number c).apart
  | receive bytes => exact { (Beside.refl c).apart with }
  | finishIncoming ending => exact { (Beside.refl c).apart with }
  | read => exact apart_read c
  | takeOutgoing => exact (beside_takeOutgoing c).apart
  | write count => exact { (Beside.refl c).apart with }
  | failWrite => exact (beside_failWrite c).apart
  | stepBeat now => cases other
  | close => cases other

end

/-! ### Steps of the heartbeat -/

section

variable {c : Connection} {now : Instant}

theorem pingDue_cases (due : c.pingDue now = true) : c.closed = false ∧
    ∃ h wakes, c.heartbeat = some h ∧ h.beat = .sleeping wakes ∧ ¬ now < wakes := by
  unfold pingDue at due
  cases found : c.heartbeat with
  | none => simp [found] at due
  | some h => cases beat : h.beat <;> simp_all

theorem stepBeat_due (due : c.pingDue now = true) {h : Heartbeat} (found : c.heartbeat = some h) :
    c.stepBeat now = c.ping now h := by
  obtain ⟨opened, h', wakes, found', sleeping, late⟩ := pingDue_cases due
  obtain rfl := Option.some.inj (found'.symm.trans found)
  simp only [stepBeat, found, sleeping, if_neg late, opened, Bool.false_eq_true, if_false]

/-- A ping that can be sent is numbered first, and offered to the queue in the same step. -/
theorem stepBeat_pinged (due : c.pingDue now = true) {h : Heartbeat} (found : c.heartbeat = some h)
    {bytes : Bytes} (sent : Frame.encode c.limit (.ping h.id : ClientFrame) = .ok bytes) :
    c.stepBeat now = (((c.enter h.id .heartbeat).awaitPong).setBeat (.queueing bytes)).stepBeat now := by
  rw [stepBeat_due due found, ping, sent]
  simp only [stepBeat, heartbeat_pinged found bytes]
  exact (offerPing_setBeat now h bytes (.queueing bytes) _).symm

end

/-! ### The watch keeps up with the heartbeat -/

structure Attended (v : Vigil) (c : Connection) : Prop extends v.Recorded c where
  hearkens : ∀ p ∈ v.last, Hearkens p c
  stands : ∀ h, c.heartbeat = some h → h.Stands v c

theorem attended_stop {v : Vigil} {c c' : Connection} (r : v.Recorded c) (informed : Informed c c')
    (since : ∀ p ∈ v.last, p.before ≤ c.taken.length)
    (why : c'.closed = true ∨ ∀ h, c.heartbeat = some h → h.reply = .lost) :
    Attended v (c'.setBeat .stopped) where
  toRecorded := r.more informed.beside.pingIds informed.beside.apart.taken
  hearkens p last := by
    refine hearkens_resting (c := c'.setBeat .stopped) (informed.taken ▸ since p last) fun h' found' => ?_
    obtain ⟨h, -, rfl⟩ := Option.map_eq_some_iff.mp found'
    rfl
  stands h' found' := by
    obtain ⟨h₁, found₁, rfl⟩ := Option.map_eq_some_iff.mp found'
    obtain ⟨h, found, -, -, -, lost⟩ := informed.beside.apart.beat found₁
    exact why.imp_right fun all => lost (all h found)

namespace Attended

section

variable {v : Vigil} {c : Connection} (a : Attended v c)

include a

theorem apart {c' : Connection} (apart : Apart c c') (hearkens : ∀ p ∈ v.last, Hearkens p c') :
    Attended v c' where
  toRecorded := a.toRecorded.more apart.pingIds apart.taken
  hearkens := hearkens
  stands h' found' := by
    obtain ⟨h, found, patience, id, beat, lost⟩ := apart.beat found'
    have stands := a.stands h found
    unfold Heartbeat.Stands at stands ⊢
    rw [← beat, ← id, ← patience]
    cases place : h.beat with
    | sleeping wakes =>
      rw [place] at stands
      obtain ⟨more, taken⟩ := apart.taken
      refine ⟨stands.1, fun p last => ⟨(stands.2 p last).1, ?_⟩⟩
      rw [taken]
      exact (stands.2 p last).2.more more
    | queueing bytes =>
      rw [place] at stands
      exact stands
    | awaiting deadline =>
      rw [place] at stands
      exact stands
    | stopped =>
      rw [place] at stands
      exact stands.imp apart.closed lost

section

variable {h : Heartbeat} (found : c.heartbeat = some h)

include found

theorem asleep {wakes : Instant} (sleeping : h.beat = .sleeping wakes) :
    h.id = pingId v.pings.length ∧ ∀ p ∈ v.last, p.Settled c.taken := by
  have stands := a.stands h found
  rwa [Heartbeat.Stands, sleeping] at stands

theorem number {wakes : Instant} (sleeping : h.beat = .sleeping wakes) :
    (v.number h.id c.taken.length).Recorded c := by
  obtain ⟨id, settled⟩ := a.asleep found sleeping
  rw [id]
  exact a.toRecorded.number settled c.taken.length

theorem pinged {wakes : Instant} (sleeping : h.beat = .sleeping wakes) (bytes : Bytes) :
    Attended (v.number h.id c.taken.length)
      (((c.enter h.id .heartbeat).awaitPong).setBeat (.queueing bytes)) := by
  have informed := informed_enter h.id .heartbeat c
  have pinged := heartbeat_pinged found bytes
  refine ⟨(a.number found sleeping).more informed.beside.pingIds informed.beside.apart.taken, ?_, ?_⟩
  · rintro p ⟨⟩
    refine ⟨Nat.le_of_eq (congrArg List.length informed.taken.symm), ?_, ?_⟩
    · rintro h' found' - - - ⟨frame, there, -⟩
      have none : (c.enter h.id .heartbeat).taken.drop c.taken.length = [] := by
        rw [informed.taken, List.drop_length]
      exact absurd (none ▸ there) List.not_mem_nil
    · intro h' found' _ _ frame given
      obtain rfl := Option.some.inj (pinged.symm.trans found')
      cases given
  · intro h' found'
    obtain rfl := Option.some.inj (pinged.symm.trans found')
    exact ⟨_, rfl, rfl, rfl⟩

theorem accept {bytes : Bytes} (queueing : h.beat = .queueing bytes) (now : Instant)
    (hearkens : ∀ p ∈ v.last, Hearkens p
      ((c.accept ⟨.heartbeat, h.id, bytes⟩).setBeat (.awaiting (now + h.patience.nanos)))) :
    Attended (v.stamp now)
      ((c.accept ⟨.heartbeat, h.id, bytes⟩).setBeat (.awaiting (now + h.patience.nanos))) := by
  have stands := a.stands h found
  rw [Heartbeat.Stands, queueing] at stands
  obtain ⟨p, last, id, unqueued⟩ := stands
  have stamped : (v.stamp now).last = some { p with queued := some now } := by
    rw [Vigil.stamp, last]
    rfl
  have pingIds (beat : Beat) : ((c.accept ⟨.heartbeat, h.id, bytes⟩).setBeat beat).pingIds =
      c.pingIds ++ [p.id] := by
    rw [pingIds_setBeat, pingIds_accept, if_pos rfl, id]
  refine ⟨a.toRecorded.stamp last unqueued (pingIds _) rfl now, ?_, ?_⟩
  · intro p' last'
    obtain rfl := Option.some.inj (stamped.symm.trans last')
    obtain ⟨since, awaited, given⟩ := hearkens p last
    exact ⟨since, awaited, given⟩
  · intro h' found'
    have beats := heartbeat_setBeat (c := c.accept ⟨.heartbeat, h.id, bytes⟩) found
    obtain rfl := Option.some.inj ((beats _).symm.trans found')
    exact ⟨_, now, stamped, id, rfl, rfl⟩

theorem rest {deadline : Instant} {frame : ServerFrame} (awaiting : h.beat = .awaiting deadline)
    (answered : h.reply = .given frame) (now : Instant) : Attended v (c.restBeat now h) := by
  have stands := a.stands h found
  rw [Heartbeat.Stands, awaiting] at stands
  obtain ⟨p, queued, last, id, queuedAt, -⟩ := stands
  have out : h.beat.isOut = true := by
    rw [awaiting]
    rfl
  have settled : p.Settled c.taken :=
    ⟨by rw [queuedAt]; rfl, (a.hearkens p last).given h found out id.symm frame answered⟩
  obtain ⟨before, count, same⟩ := a.toRecorded.last_id last
  refine ⟨a.toRecorded.more rfl ⟨[], (List.append_nil _).symm⟩, ?_, ?_⟩
  · intro p' last'
    refine hearkens_resting (c := c.restBeat now h) (a.hearkens p' last').since fun h' found' => ?_
    cases found'
    rfl
  · rintro h' ⟨⟩
    refine ⟨?_, fun p' last' => ?_⟩
    · show h.id - 1 = pingId v.pings.length
      rw [count, pingId_succ, ← same, id]
    · obtain rfl := Option.some.inj (last.symm.trans last')
      exact settled

end

/-- A step in which no ping is numbered. -/
theorem undue (t : Tracked c) (listed : Pinging c) (placed : Placed c) {now : Instant}
    (undue : c.pingDue now = false) : Attended (v.see c (.stepBeat now)) (c.stepBeat now) := by
  have hearkens (p : Ping) (last : p ∈ v.last) : Hearkens p (c.stepBeat now) := by
    have turns := stepBeat_turns now c
    rw [undue] at turns
    exact (a.hearkens p last).turns t listed placed turns
  have unseen (same : (c.stepBeat now).pingIds = c.pingIds) : v.see c (.stepBeat now) = v := by
    rw [Vigil.see_undue undue, if_pos same]
  have still (same : c.stepBeat now = c) : Attended (v.see c (.stepBeat now)) (c.stepBeat now) := by
    rw [unseen (congrArg pingIds same), same]
    exact a
  have stops {c₁ : Connection} (informed : Informed c c₁) (step : c.stepBeat now = c₁.setBeat .stopped)
      (why : c₁.closed = true ∨ ∀ h, c.heartbeat = some h → h.reply = .lost) :
      Attended (v.see c (.stepBeat now)) (c.stepBeat now) := by
    rw [unseen (step ▸ informed.beside.pingIds), step]
    exact attended_stop a.toRecorded informed (fun p last => (a.hearkens p last).since) why
  cases found : c.heartbeat with
  | none => exact still (by simp only [stepBeat, found])
  | some h =>
    cases beat : h.beat with
    | stopped => exact still (by simp only [stepBeat, found, beat])
    | sleeping wakes =>
      by_cases early : now < wakes
      · exact still (by simp only [stepBeat, found, beat, if_pos early])
      · have closed : c.closed = true := by simpa [pingDue, found, beat, Nat.not_lt.mp early] using undue
        refine stops (.refl c) ?_ (.inl closed)
        simp only [stepBeat, found, beat, if_neg early, closed, if_true]
    | queueing bytes =>
      have offered : c.stepBeat now = c.offerPing now h bytes := by simp only [stepBeat, found, beat]
      cases runs : c.writerRuns with
      | false =>
        refine stops (informed_markClosed c) ?_ (.inl (closed_markClosed c))
        rw [offered, offerPing, runs]
        rfl
      | true =>
        cases room : c.hasRoom with
        | true =>
          have accepted : c.stepBeat now =
              (c.accept ⟨.heartbeat, h.id, bytes⟩).setBeat (.awaiting (now + h.patience.nanos)) := by
            rw [offered, offerPing, runs, room]
            rfl
          have more : (c.stepBeat now).pingIds ≠ c.pingIds := by
            rw [accepted, pingIds_setBeat, pingIds_accept, if_pos rfl]
            simp
          rw [accepted] at hearkens
          rw [Vigil.see_undue undue, if_neg more, accepted]
          exact a.accept found beat now hearkens
        | false =>
          refine still ?_
          rw [offered, offerPing, runs, room, ← beat]
          exact setBeat_self found
    | awaiting deadline =>
      cases reply : h.reply with
      | given frame =>
        have rested : c.stepBeat now = c.restBeat now h := by simp only [stepBeat, found, beat, reply]
        rw [unseen (by rw [rested]; rfl), rested]
        exact a.rest found beat reply now
      | lost =>
        refine stops (.refl c) (by simp only [stepBeat, found, beat, reply]) (.inr fun h' found' => ?_)
        obtain rfl := Option.some.inj (found.symm.trans found')
        exact reply
      | awaited =>
        by_cases early : now < deadline
        · exact still (by simp only [stepBeat, found, beat, reply, if_pos early])
        · refine stops (informed_markClosed c) ?_ (.inl (closed_markClosed c))
          simp only [stepBeat, found, beat, reply, if_neg early, giveUp]

theorem stepBeat (t : Tracked c) (listed : Pinging c) (placed : Placed c) (now : Instant) :
    Attended (v.see c (.stepBeat now)) (c.stepBeat now) := by
  cases due : c.pingDue now with
  | false => exact a.undue t listed placed due
  | true =>
    obtain ⟨opened, h, wakes, found, sleeping, late⟩ := pingDue_cases due
    cases sent : Frame.encode c.limit (.ping h.id : ClientFrame) with
    | error e =>
      have gaveUp : c.stepBeat now = c.giveUp := by rw [stepBeat_due due found, ping, sent]
      have same : (c.stepBeat now).pingIds = c.pingIds := gaveUp ▸ (informed_markClosed c).beside.pingIds
      rw [Vigil.see_due due found, if_pos same, gaveUp]
      refine attended_stop (a.number found sleeping) (informed_markClosed c) ?_ (.inl (closed_markClosed c))
      rintro p ⟨⟩
      exact Nat.le_refl _
    | ok bytes =>
      have pinged := Turn.pinged found sleeping opened bytes sent
      have numbered := a.pinged found sleeping bytes
      have waits : (((c.enter h.id .heartbeat).awaitPong).setBeat (.queueing bytes)).pingDue now = false := by
        rw [pingDue, heartbeat_pinged found bytes]
        exact Bool.and_false _
      have offered := numbered.undue (t.turn pinged) (listed.turn pinged) (placed.turn t pinged) waits
      have same : (((c.enter h.id .heartbeat).awaitPong).setBeat (.queueing bytes)).pingIds = c.pingIds :=
        (informed_enter h.id .heartbeat c).beside.pingIds
      rw [Vigil.see_undue waits, same] at offered
      rw [Vigil.see_due due found, stepBeat_pinged due found sent]
      exact offered

theorem close : Attended v c.close := by
  unfold Connection.close
  split
  · exact a
  · have informed := informed_markClosed c
    refine ⟨a.toRecorded.more informed.beside.pingIds informed.beside.apart.taken, fun p last => ?_, nofun⟩
    exact hearkens_resting (informed.taken ▸ (a.hearkens p last).since) nofun

theorem apply (t : Tracked c) (listed : Pinging c) (placed : Placed c) (e : Event) :
    Attended (v.see c e) (e.apply c) := by
  cases concerns : e.concernsHeartbeat with
  | true =>
    cases e with
    | stepBeat now => exact a.stepBeat t listed placed now
    | close => exact a.close
    | _ => cases concerns
  | false =>
    have unseen : v.see c e = v ∧ e.pings c = 0 := by
      cases e with
      | stepBeat now => cases concerns
      | _ => exact ⟨rfl, rfl⟩
    have turns := apply_turns e c
    rw [unseen.2] at turns
    rw [unseen.1]
    exact a.apart (apart_apply concerns c) fun p last => (a.hearkens p last).turns t listed placed turns

theorem run (t : Tracked c) (listed : Pinging c) (placed : Placed c) (events : List Event) :
    Attended (v.after c events) (c.run events) := by
  induction events generalizing c v with
  | nil => exact a
  | cons e rest ih =>
    have turns := apply_turns e c
    exact ih (a.apply t listed placed e) (t.turns turns) (listed.turns turns) (placed.turns t turns)

end

theorem establish (now : Instant) (d : Descriptor) (limit : Nat) (greeting : Bytes) (unread : Incoming) :
    Attended {} (establish now d limit greeting unread) where
  ids := rfl
  queued := rfl
  past := nofun
  hearkens := nofun
  stands h found := by
    obtain ⟨interval, -, rfl⟩ := Option.map_eq_some_iff.mp found
    refine ⟨?_, nofun⟩
    show (0xffffffffffffffff : UInt64) = pingId 0
    decide

end Attended

end Connection

end Switchboard.Tcp
