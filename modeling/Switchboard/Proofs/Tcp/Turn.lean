import Switchboard.Proofs.Tcp.Run

/-!
What a step can do to a connection. Every event comes down to a few turns: a send begins, is entered
in the table, has its frame accepted or leaves; a frame is taken in; the connection closes; a ping is
entered, accepted, answered or given up. What a property needs to know about the functions of a
connection it can read off the turns.
-/
namespace Switchboard.Tcp

open Text (Bytes)

/-- A ping is under way. -/
def Beat.isOut : Beat → Bool
  | .queueing _ | .awaiting _ => true
  | .sleeping _ | .stopped => false

namespace Connection

/-- One thing that can happen to a connection, with the invocations and the pings that it numbers. -/
inductive Turn : Nat → Nat → Connection → Connection → Prop
  | begun {c} (target : Target) (payload : Bytes) : Turn 1 0 c (c.begin target payload).1
  /-- A send ends before it was entered. -/
  | dropped {c s} (found : c.send? s.number = some s) (begun : s.place = .begun) :
      Turn 0 0 c (c.dropSend s.number)
  /-- A send is entered, finds the connection closed and leaves. -/
  | refused {c s} (found : c.send? s.number = some s) (begun : s.place = .begun)
      (closed : c.closed = true) :
      Turn 0 0 c (((c.enter s.id (.send s.number)).remove .lost s.id).dropSend s.number)
  | entered {c s} (found : c.send? s.number = some s) (begun : s.place = .begun)
      (opened : c.closed = false) (bytes : Bytes)
      (sent : Frame.encode c.limit (.invoke s.id s.target s.payload : ClientFrame) = .ok bytes) :
      Turn 0 0 c ((c.enter s.id (.send s.number)).setPlace s.number (.queueing bytes))
  | accepted {c s bytes} (found : c.send? s.number = some s) (queueing : s.place = .queueing bytes)
      (runs : c.writerRuns = true) (room : c.hasRoom = true) :
      Turn 0 0 c ((c.accept ⟨.send s.number, s.id, bytes⟩).setPlace s.number .queued)
  | stays {c s} (found : c.send? s.number = some s) (entered : s.place ≠ .begun) :
      Turn 0 0 c (c.setPlace s.number s.place)
  /-- A send that was entered ends. -/
  | left {c s} (found : c.send? s.number = some s) (entered : s.place ≠ .begun) :
      Turn 0 0 c ((c.remove .lost s.id).dropSend s.number)
  /-- Something comes in. -/
  | came {c} (incoming : Incoming) : Turn 0 0 c { c with incoming := incoming }
  | took {c frame rest} (runs : c.readerRuns = true)
      (next : c.incoming.read? c.limit = some (.frame frame, rest)) :
      Turn 0 0 c (({ c with incoming := rest, taken := c.taken ++ [frame] }).deliver frame)
  | broke {c reading rest} (runs : c.readerRuns = true)
      (next : c.incoming.read? c.limit = some (reading, rest)) :
      Turn 0 0 c ({ c with incoming := rest, readerRuns := false }).markClosed
  | unqueued {c o rest} (runs : c.writerRuns = true) (idle : c.writing = [])
      (next : c.queue = o :: rest) : Turn 0 0 c { c with queue := rest, writing := o.bytes }
  | wrote {c} (count : Nat) : Turn 0 0 c (c.write count)
  | writeFailed {c} (runs : c.writerRuns = true) : Turn 0 0 c c.markClosed.stopWriter
  | pinged {c h wakes} (found : c.heartbeat = some h) (sleeping : h.beat = .sleeping wakes)
      (opened : c.closed = false) (bytes : Bytes)
      (sent : Frame.encode c.limit (.ping h.id : ClientFrame) = .ok bytes) :
      Turn 0 1 c (((c.enter h.id .heartbeat).awaitPong).setBeat (.queueing bytes))
  /-- The frame of a ping is over the limit. -/
  | unsendable {c h wakes} (found : c.heartbeat = some h) (sleeping : h.beat = .sleeping wakes)
      (opened : c.closed = false) : Turn 0 1 c c.giveUp
  | pingAccepted {c h bytes} (found : c.heartbeat = some h) (queueing : h.beat = .queueing bytes)
      (runs : c.writerRuns = true) (room : c.hasRoom = true) (deadline : Instant) :
      Turn 0 0 c ((c.accept ⟨.heartbeat, h.id, bytes⟩).setBeat (.awaiting deadline))
  | gaveUp {c h} (found : c.heartbeat = some h) (out : h.beat.isOut = true) : Turn 0 0 c c.giveUp
  | rested {c h deadline frame} (now : Instant) (found : c.heartbeat = some h)
      (awaiting : h.beat = .awaiting deadline) (answered : h.reply = .given frame) :
      Turn 0 0 c (c.restBeat now h)
  /-- The heartbeat finds the connection closed, before a ping or while it waits for an answer. -/
  | stopped {c h} (found : c.heartbeat = some h)
      (finds : c.closed = true ∧ h.beat.isOut = false ∨ h.reply = .lost) :
      Turn 0 0 c (c.setBeat .stopped)
  | ended {c} (opened : c.closed = false) : Turn 0 0 c c.markClosed.stopAll

/-- Any number of turns. -/
inductive Turns : Nat → Nat → Connection → Connection → Prop
  | none (c) : Turns 0 0 c c
  | next {i j p q c c' c''} (before : Turns i p c c') (last : Turn j q c' c'') :
      Turns (i + j) (p + q) c c''

theorem Turn.turns {i p : Nat} {c c' : Connection} (turn : Turn i p c c') : Turns i p c c' := by
  simpa using (Turns.none c).next turn

theorem Turns.append {i j p q : Nat} {c c' c'' : Connection} (first : Turns i p c c')
    (second : Turns j q c' c'') : Turns (i + j) (p + q) c c'' := by
  induction second with
  | none => simpa using first
  | next _ last ih => simpa only [Nat.add_assoc] using (ih first).next last

/-! ### Entries -/

@[simp] theorem closed_inform (news : Reply) (w : Waiter) (c : Connection) :
    (c.inform news w).closed = c.closed := by
  cases w <;> rfl

@[simp] theorem closed_remove (news : Reply) (id : UInt64) (c : Connection) :
    (c.remove news id).closed = c.closed := by
  unfold remove
  cases c.pending.lookup id with
  | none => rfl
  | some w => exact closed_inform news w _

@[simp] theorem closed_enter (id : UInt64) (w : Waiter) (c : Connection) :
    (c.enter id w).closed = c.closed :=
  closed_remove .lost id c

theorem setPlace_setPlace (number : Nat) (place place' : SendPlace) (c : Connection) :
    (c.setPlace number place).setPlace number place' = c.setPlace number place' := by
  have both (s : Send) :
      (if (if s.number = number then { s with place := place } else s).number = number then
          { (if s.number = number then { s with place := place } else s) with place := place' }
        else if s.number = number then { s with place := place } else s) =
        if s.number = number then { s with place := place' } else s := by
    by_cases same : s.number = number <;> simp [same]
  simp only [setPlace, List.map_map, Function.comp_def, both]

/-- What becomes of a send that leaves does not matter. -/
theorem dropSend_change {f : Send → Send} (kept : ∀ s, (f s).number = s.number) (number : Nat)
    (c : Connection) :
    ({ c with sends := c.sends.map fun s : Send => if s.number = number then f s else s }).dropSend
        number =
      c.dropSend number := by
  simp only [dropSend]
  congr 1
  induction c.sends with
  | nil => rfl
  | cons s rest ih =>
    by_cases same : s.number = number <;> simp [same, kept, ih]

theorem dropSend_setPlace (number : Nat) (place : SendPlace) (c : Connection) :
    (c.setPlace number place).dropSend number = c.dropSend number :=
  dropSend_change (f := fun s => { s with place := place }) (fun _ => rfl) number c

theorem dropSend_inform (news : Reply) (number : Nat) (c : Connection) :
    (c.inform news (.send number)).dropSend number = c.dropSend number :=
  dropSend_change (f := fun s => { s with reply := s.reply.learn news }) (fun _ => rfl) number c

theorem inform_setPlace (news : Reply) (w : Waiter) (number : Nat) (place : SendPlace)
    (c : Connection) :
    (c.setPlace number place).inform news w = (c.inform news w).setPlace number place := by
  cases w with
  | heartbeat => rfl
  | send k =>
    simp only [inform, setPlace, List.map_map]
    congr 2
    funext s
    by_cases mine : s.number = number
    · subst mine
      by_cases his : s.number = k <;> simp [his]
    · by_cases his : s.number = k
      · subst his
        simp [mine]
      · simp [mine, his]

theorem remove_setPlace (news : Reply) (id : UInt64) (number : Nat) (place : SendPlace)
    (c : Connection) :
    (c.setPlace number place).remove news id = (c.remove news id).setPlace number place := by
  unfold remove
  have table : (c.setPlace number place).pending = c.pending := rfl
  rw [table]
  cases c.pending.lookup id with
  | none => rfl
  | some w =>
    exact inform_setPlace news w number place { c with pending := c.pending.filter (·.1 != id) }

theorem send?_setPlace (number : Nat) (place : SendPlace) (c : Connection) :
    (c.setPlace number place).send? number =
      (c.send? number).map fun s => { s with place := place } := by
  simp only [send?, setPlace]
  induction c.sends with
  | nil => rfl
  | cons s rest ih =>
    by_cases same : s.number = number <;> simp [same, ih]

theorem send?_inform {number : Nat} {c : Connection} {s : Send} (found : c.send? number = some s)
    (news : Reply) (w : Waiter) :
    ∃ reply, (c.inform news w).send? number = some { s with reply := reply } := by
  cases w with
  | heartbeat => exact ⟨s.reply, found⟩
  | send k =>
    have told : (c.inform news (.send k)).send? number = (c.send? number).map fun s =>
        if s.number = k then { s with reply := s.reply.learn news } else s := by
      simp only [send?, inform, List.find?_map]
      congr 2
      funext s
      by_cases his : s.number = k <;> simp [his]
    rw [told, found, Option.map_some]
    by_cases his : s.number = k
    · exact ⟨s.reply.learn news, by rw [if_pos his]⟩
    · exact ⟨s.reply, by rw [if_neg his]⟩

theorem send?_enter {number : Nat} {c : Connection} {s : Send} (found : c.send? number = some s)
    (id : UInt64) (w : Waiter) :
    ∃ reply, (c.enter id w).send? number = some { s with reply := reply } := by
  simp only [enter, remove]
  cases c.pending.lookup id with
  | none => exact ⟨s.reply, found⟩
  | some other =>
    exact send?_inform (c := { c with pending := c.pending.filter (·.1 != id) }) found .lost other

theorem number_of_found {number : Nat} {c : Connection} {s : Send}
    (found : c.send? number = some s) : s.number = number := by
  simpa using List.find?_some found

theorem finish_setPlace (s : Send) (place : SendPlace) (result : Except TransportError Bytes)
    (c : Connection) :
    ((c.setPlace s.number place).finish s result).1 = (c.finish s result).1 := by
  simp only [finish, remove_setPlace, dropSend_setPlace]

theorem collect_setPlace (s : Send) (place : SendPlace) (c : Connection) :
    ((c.setPlace s.number place).collect s).1 = (c.collect s).1 := by
  unfold collect
  cases s.reply with
  | awaited => exact setPlace_setPlace s.number place .queued c
  | given frame => exact finish_setPlace s place _ c
  | lost => exact finish_setPlace s place _ c

theorem offer_setPlace (s : Send) (bytes : Bytes) (place : SendPlace) (c : Connection) :
    ((c.setPlace s.number place).offer s bytes).1 = (c.offer s bytes).1 := by
  have runs : (c.setPlace s.number place).writerRuns = c.writerRuns := rfl
  have room : (c.setPlace s.number place).hasRoom = c.hasRoom := rfl
  unfold offer
  rw [runs, room]
  split
  · exact finish_setPlace s place _ c
  · split
    · exact collect_setPlace s place (c.accept ⟨.send s.number, s.id, bytes⟩)
    · exact setPlace_setPlace s.number place _ c

section Entered

variable {c : Connection} {s entry : Send} (found : c.send? s.number = some entry)
  (same : entry.id = s.id)

include found same

theorem finish_turn (entered : entry.place ≠ .begun) (result : Except TransportError Bytes) :
    Turn 0 0 c (c.finish s result).1 := by
  have number := number_of_found found
  have left := Turn.left (s := entry) (by rw [number, found]) entered
  rwa [number, same] at left

theorem collect_turns (queued : entry.place = .queued) : Turns 0 0 c (c.collect s).1 := by
  have number := number_of_found found
  have entered : entry.place ≠ .begun := by rw [queued]; decide
  unfold collect
  cases s.reply with
  | awaited =>
    have stays := Turn.stays (s := entry) (by rw [number, found]) entered
    rw [number, queued] at stays
    exact stays.turns
  | given frame => exact (finish_turn found same entered _).turns
  | lost => exact (finish_turn found same entered _).turns

theorem offer_turns {bytes : Bytes} (queueing : entry.place = .queueing bytes) :
    Turns 0 0 c (c.offer s bytes).1 := by
  have number := number_of_found found
  have entered : entry.place ≠ .begun := by rw [queueing]; exact SendPlace.noConfusion
  unfold offer
  split
  · exact (finish_turn found same entered _).turns
  · rename_i runs
    split
    · rename_i room
      have accepted := Turn.accepted (s := entry) (by rw [number, found]) queueing
        (by simpa using runs) room
      rw [number, same] at accepted
      have queued : ((c.accept ⟨.send s.number, s.id, bytes⟩).setPlace s.number .queued).send?
          s.number = some { entry with place := .queued } := by
        rw [send?_setPlace]
        exact congrArg (Option.map _) found
      have collected := collect_turns queued same rfl
      rw [collect_setPlace] at collected
      exact accepted.turns.append collected
    · have stays := Turn.stays (s := entry) (by rw [number, found]) entered
      rw [number, queueing] at stays
      exact stays.turns

end Entered

theorem stepSend_turns (number : Nat) (c : Connection) : Turns 0 0 c (c.stepSend number).1 := by
  unfold stepSend
  cases found : c.send? number with
  | none => exact .none c
  | some s =>
    obtain rfl := number_of_found found
    dsimp only
    cases place : s.place with
    | begun =>
      dsimp only
      cases sent : Frame.encode c.limit (.invoke s.id s.target s.payload : ClientFrame) with
      | error e => exact (Turn.dropped found place).turns
      | ok bytes =>
        dsimp only
        split
        · rename_i closed
          exact (Turn.refused found place (by simpa using closed)).turns
        · rename_i opened
          obtain ⟨reply, inTable⟩ := send?_enter found s.id (.send s.number)
          have entered := Turn.entered found place (by simpa using opened) bytes sent
          have queueing : ((c.enter s.id (.send s.number)).setPlace s.number (.queueing bytes)).send?
              s.number = some { s with reply := reply, place := .queueing bytes } := by
            rw [send?_setPlace, inTable]
            rfl
          have offered := offer_turns (s := s) queueing rfl rfl
          rw [offer_setPlace] at offered
          exact entered.turns.append offered
    | queueing bytes => exact offer_turns found rfl place
    | queued => exact collect_turns found rfl place

theorem cancel_turns (number : Nat) (c : Connection) : Turns 0 0 c (c.cancel number) := by
  unfold cancel
  cases found : c.send? number with
  | none => exact .none c
  | some s =>
    obtain rfl := number_of_found found
    dsimp only
    split
    · rename_i begun
      exact (Turn.dropped found begun).turns
    · rename_i entered
      exact (Turn.left found entered).turns

/-! ### Reader, writer and heartbeat -/

theorem read_turns (c : Connection) : Turns 0 0 c c.read := by
  unfold read
  split
  · exact .none c
  · rename_i runs
    have runs : c.readerRuns = true := by simpa using runs
    split
    · exact .none c
    · rename_i frame rest next
      exact (Turn.took runs next).turns
    · rename_i reading rest _ next
      exact (Turn.broke runs next).turns

theorem takeOutgoing_turns (c : Connection) : Turns 0 0 c c.takeOutgoing := by
  unfold takeOutgoing
  split
  · rename_i o rest free next
    have idle : c.writerRuns = true ∧ c.writing = [] := by simpa using free
    exact (Turn.unqueued idle.1 idle.2 next).turns
  · exact .none c

theorem failWrite_turns (c : Connection) : Turns 0 0 c c.failWrite := by
  unfold failWrite
  split
  · rename_i runs
    exact (Turn.writeFailed runs).turns
  · exact .none c

theorem heartbeat_inform {c : Connection} {h : Heartbeat} (found : c.heartbeat = some h)
    (news : Reply) (w : Waiter) :
    ∃ reply, (c.inform news w).heartbeat = some { h with reply := reply } := by
  cases w with
  | send k => exact ⟨h.reply, found⟩
  | heartbeat => exact ⟨h.reply.learn news, by rw [inform, found]; rfl⟩

theorem heartbeat_enter {c : Connection} {h : Heartbeat} (found : c.heartbeat = some h)
    (id : UInt64) (w : Waiter) :
    ∃ reply, (c.enter id w).heartbeat = some { h with reply := reply } := by
  simp only [enter, remove]
  cases c.pending.lookup id with
  | none => exact ⟨h.reply, found⟩
  | some other =>
    exact heartbeat_inform (c := { c with pending := c.pending.filter (·.1 != id) }) found .lost other

theorem setBeat_setBeat (beat beat' : Beat) (c : Connection) :
    (c.setBeat beat).setBeat beat' = c.setBeat beat' := by
  simp only [setBeat, Option.map_map, Function.comp_def]

theorem setBeat_self {c : Connection} {h : Heartbeat} (found : c.heartbeat = some h) :
    c.setBeat h.beat = c := by
  obtain ⟨⟩ := c
  cases found
  rfl

theorem inform_setBeat (news : Reply) (w : Waiter) (beat : Beat) (c : Connection) :
    (c.setBeat beat).inform news w = (c.inform news w).setBeat beat := by
  cases w with
  | send k => rfl
  | heartbeat => simp only [inform, setBeat, Option.map_map, Function.comp_def]

theorem markClosed_setBeat (beat : Beat) (c : Connection) :
    (c.setBeat beat).markClosed = c.markClosed.setBeat beat := by
  have table : (c.setBeat beat).pending = c.pending := rfl
  have told (ws : List Waiter) (c : Connection) :
      ws.foldl (fun c w => c.inform .lost w) (c.setBeat beat) =
        (ws.foldl (fun c w => c.inform .lost w) c).setBeat beat := by
    induction ws generalizing c with
    | nil => rfl
    | cons w rest ih => rw [List.foldl_cons, inform_setBeat, ih, List.foldl_cons]
  unfold markClosed
  rw [table]
  exact told _ { c with closed := true, pending := [] }

theorem giveUp_setBeat (beat : Beat) (c : Connection) : (c.setBeat beat).giveUp = c.giveUp := by
  rw [giveUp, markClosed_setBeat, setBeat_setBeat]
  rfl

theorem offerPing_setBeat (now : Instant) (h : Heartbeat) (bytes : Bytes) (beat : Beat)
    (c : Connection) : (c.setBeat beat).offerPing now h bytes = c.offerPing now h bytes := by
  have runs : (c.setBeat beat).writerRuns = c.writerRuns := rfl
  have room : (c.setBeat beat).hasRoom = c.hasRoom := rfl
  unfold offerPing
  rw [runs, room, giveUp_setBeat, setBeat_setBeat]
  split
  · rfl
  · split
    · exact setBeat_setBeat _ _ (c.accept ⟨.heartbeat, h.id, bytes⟩)
    · rfl

theorem offerPing_turns {c : Connection} {h entry : Heartbeat} {bytes : Bytes}
    (found : c.heartbeat = some entry) (same : entry.id = h.id)
    (queueing : entry.beat = .queueing bytes) (now : Instant) :
    Turns 0 0 c (c.offerPing now h bytes) := by
  unfold offerPing
  split
  · exact (Turn.gaveUp found (by rw [queueing]; rfl)).turns
  · rename_i runs
    split
    · rename_i room
      rw [← same]
      exact (Turn.pingAccepted found queueing (by simpa using runs) room _).turns
    · rw [← queueing, setBeat_self found]
      exact .none c

theorem ping_turns {c : Connection} {h : Heartbeat} {wakes : Instant}
    (found : c.heartbeat = some h) (sleeping : h.beat = .sleeping wakes)
    (opened : c.closed = false) (now : Instant) : Turns 0 1 c (c.ping now h) := by
  unfold ping
  cases sent : Frame.encode c.limit (.ping h.id : ClientFrame) with
  | error e => exact (Turn.unsendable found sleeping opened).turns
  | ok bytes =>
    obtain ⟨reply, inTable⟩ := heartbeat_enter found h.id .heartbeat
    have queueing : ((((c.enter h.id .heartbeat).awaitPong).setBeat (.queueing bytes)).heartbeat) =
        some { h with reply := .awaited, beat := .queueing bytes } := by
      rw [setBeat, awaitPong, inTable]
      rfl
    have offered := offerPing_turns (h := h) queueing rfl rfl now
    rw [offerPing_setBeat] at offered
    exact (Turn.pinged found sleeping opened bytes sent).turns.append offered

theorem stepBeat_turns (now : Instant) (c : Connection) :
    Turns 0 (if c.pingDue now then 1 else 0) c (c.stepBeat now) := by
  unfold stepBeat pingDue
  cases found : c.heartbeat with
  | none => simpa using Turns.none c
  | some h =>
    obtain ⟨interval, patience, id, beat, reply⟩ := h
    cases beat with
    | stopped => simpa using Turns.none c
    | sleeping wakes =>
      by_cases early : now < wakes
      · have undue : ¬ wakes ≤ now := Nat.not_le_of_lt early
        simpa [early, undue] using Turns.none c
      · have due : wakes ≤ now := Nat.le_of_not_lt early
        cases closed : c.closed with
        | true => simpa [early] using (Turn.stopped found (.inl ⟨closed, rfl⟩)).turns
        | false => simpa [early, due] using ping_turns found rfl closed now
    | queueing bytes => simpa using offerPing_turns found rfl rfl now
    | awaiting deadline =>
      cases reply with
      | given frame => simpa using (Turn.rested now found rfl rfl).turns
      | lost => simpa using (Turn.stopped found (.inr rfl)).turns
      | awaited =>
        by_cases early : now < deadline
        · simpa [early] using Turns.none c
        · simpa [early] using (Turn.gaveUp found rfl).turns

theorem close_turns (c : Connection) : Turns 0 0 c c.close := by
  unfold close
  split
  · exact .none c
  · rename_i opened
    exact (Turn.ended (by simpa using opened)).turns

/-! ### Events -/

theorem apply_turns (e : Event) (c : Connection) : Turns e.invocations (e.pings c) c (e.apply c) := by
  cases e with
  | begin target payload => exact (Turn.begun target payload).turns
  | stepSend number => exact stepSend_turns number c
  | cancel number => exact cancel_turns number c
  | receive bytes => exact (Turn.came _).turns
  | finishIncoming ending => exact (Turn.came _).turns
  | read => exact read_turns c
  | takeOutgoing => exact takeOutgoing_turns c
  | write count => exact (Turn.wrote count).turns
  | failWrite => exact failWrite_turns c
  | stepBeat now => exact stepBeat_turns now c
  | close => exact close_turns c

end Connection
end Switchboard.Tcp
