import Switchboard.Proofs.Tcp.Writing
import Switchboard.Proofs.Tcp.PingTable

/-!
Sends that come to nothing. A send whose frame is over the limit is refused in its first step and nothing
is left of it. One that is given up takes its entry with it and leaves at most a whole frame in the queue;
whoever waits for another number does not notice.
-/
namespace Switchboard.Tcp.Connection

open Text (Bytes)

/-! ### A send that is no longer there -/

/-- A number was given out, and the send with it has gone. -/
structure Gone (number : Nat) (c : Connection) : Prop where
  past : number < c.nextNumber
  absent : ∀ s ∈ c.sends, s.number ≠ number

namespace Gone

variable {number : Nat} {c : Connection} (g : Gone number c)

include g

theorem unlisted (f : Filed c) (id : UInt64) : (id, .send number) ∉ c.pending := by
  intro listed
  obtain ⟨s, there, same, -⟩ := f.listed id number listed
  exact g.absent s there same

theorem informed {c' : Connection} (informed : Informed c c') : Gone number c' where
  past := informed.nextNumber ▸ g.past
  absent := by
    intro s' found'
    obtain ⟨s, there, same, -⟩ := informed.send found'
    exact same ▸ g.absent s there

theorem dropSend (other : Nat) : Gone number (c.dropSend other) :=
  ⟨g.past, fun s kept => g.absent s (List.mem_of_mem_filter kept)⟩

theorem setPlace (other : Nat) (place : SendPlace) : Gone number (c.setPlace other place) := by
  refine ⟨g.past, fun s' found' => ?_⟩
  obtain ⟨s, there, ⟨-, rfl⟩ | ⟨-, rfl⟩⟩ := mem_setPlace found'
  · exact g.absent s there
  · exact g.absent _ there

theorem turn {i p : Nat} {c' : Connection} (turn : Turn i p c c') : Gone number c' := by
  have closed : Gone number c.markClosed := g.informed (informed_markClosed c)
  cases turn with
  | begun target payload =>
    refine ⟨Nat.lt_succ_of_lt g.past, fun s found => ?_⟩
    rcases List.mem_append.mp found with old | new
    · exact g.absent s old
    · rw [List.mem_singleton.mp new]
      exact Nat.ne_of_gt g.past
  | dropped => exact g.dropSend _
  | refused =>
    exact ((g.informed (informed_enter _ _ c)).informed (informed_remove .lost _ _)).dropSend _
  | @entered _ s => exact (g.informed (informed_enter s.id (.send s.number) c)).setPlace _ _
  | @accepted _ s bytes =>
    have accepted : Gone number (c.accept ⟨.send s.number, s.id, bytes⟩) := { g with }
    exact accepted.setPlace _ _
  | stays => exact g.setPlace _ _
  | left => exact (g.informed (informed_remove .lost _ c)).dropSend _
  | came => exact { g with }
  | @took _ frame rest =>
    have taken : Gone number { c with incoming := rest, taken := c.taken ++ [frame] } := { g with }
    exact taken.informed (informed_deliver frame _)
  | @broke _ reading rest =>
    have read : Gone number { c with incoming := rest, readerRuns := false } := { g with }
    exact read.informed (informed_markClosed _)
  | unqueued => exact { g with }
  | wrote => exact { g with }
  | writeFailed => exact { closed with }
  | @pinged _ h => exact { g.informed (informed_enter h.id .heartbeat c) with }
  | unsendable => exact { closed with }
  | pingAccepted => exact { g with }
  | gaveUp => exact { closed with }
  | rested => exact { g with }
  | stopped => exact { g with }
  | ended => exact { closed with }

theorem turns {i p : Nat} {c' : Connection} (turns : Turns i p c c') : Gone number c' := by
  induction turns with
  | none => exact g
  | next _ last ih => exact (ih g).turn last

theorem run (events : List Event) : Gone number (c.run events) := by
  induction events generalizing c with
  | nil => exact g
  | cons e rest ih => exact ih (g.turns (apply_turns e c))

end Gone

theorem gone_dropSend {number : Nat} {c : Connection} (past : number < c.nextNumber) :
    Gone number (c.dropSend number) :=
  ⟨past, fun _ kept => bne_iff_ne.mp (List.mem_filter.mp kept).2⟩

/-! ### Giving up -/

/-- What giving a send up takes from the table: the entry under its number, if it was entered. -/
def withdraw (s : Send) (c : Connection) : Connection :=
  if s.place = .begun then c else c.remove .lost s.id

theorem cancel_found {c : Connection} {s : Send} (found : c.send? s.number = some s) :
    c.cancel s.number = (c.withdraw s).dropSend s.number := by
  rw [cancel, found]
  dsimp only [withdraw]
  split <;> rfl

theorem informed_withdraw (s : Send) (c : Connection) : Informed c (c.withdraw s) := by
  unfold withdraw
  split
  · exact .refl c
  · exact informed_remove .lost s.id c

theorem mem_withdraw {s : Send} {c : Connection} {id : UInt64} {w : Waiter} (other : id ≠ s.id) :
    (id, w) ∈ (c.withdraw s).pending ↔ (id, w) ∈ c.pending := by
  unfold withdraw
  split
  · rfl
  · rw [pending_remove, List.mem_filter]
    exact and_iff_left (bne_iff_ne.mpr other)

theorem remove_told {c : Connection} (t : Tracked c) (news : Reply) {id : UInt64} {s : Send}
    (found : s ∈ c.sends) (other : s.id ≠ id) : s ∈ (c.remove news id).sends := by
  unfold remove
  cases entry : c.pending.lookup id with
  | none => exact found
  | some w =>
    dsimp only
    rw [sends_inform]
    refine List.mem_map.mpr ⟨s, found, if_neg ?_⟩
    rintro rfl
    exact other ((t.entries id s.number (mem_of_lookup entry)).2 s found rfl)

theorem mem_sends_withdraw {c : Connection} (t : Tracked c) {s s' : Send} (other : s'.id ≠ s.id) :
    s' ∈ (c.withdraw s).sends ↔ s' ∈ c.sends := by
  unfold withdraw
  split
  · rfl
  · constructor
    · intro kept
      obtain ⟨before, found, number, id, -⟩ := mem_sends_remove kept
      have same := remove_told t .lost found (id ▸ other)
      have removed : Tracked (c.remove .lost s.id) :=
        t.remove Reply.noConfusion fun _ impossible => Reply.noConfusion impossible
      rwa [removed.same_send kept same number.symm]
    · exact fun found => remove_told t .lost found other

theorem heartbeat_withdraw {c : Connection} (p : Pinging c) {h : Heartbeat} (found : c.heartbeat = some h)
    {s : Send} (other : h.id ≠ s.id) : (c.withdraw s).heartbeat = c.heartbeat := by
  unfold withdraw
  split
  · rfl
  · apply heartbeat_remove
    intro listed
    obtain ⟨h', found', -, same, -⟩ := p s.id listed
    obtain rfl := Option.some.inj (found.symm.trans found')
    exact other same

/-! ### Sends that are over the limit, and sends that go out -/

section

variable {c : Connection} {s : Send}

theorem collect_valid (s : Send) (c : Connection) (reason : String) :
    (c.collect s).2 ≠ .done (.error (.invalidRequest reason)) := by
  unfold collect
  cases s.reply with
  | awaited => exact nofun
  | lost => exact nofun
  | given frame => cases frame <;> exact nofun

theorem offer_valid (s : Send) (bytes : Bytes) (c : Connection) (reason : String) :
    (c.offer s bytes).2 ≠ .done (.error (.invalidRequest reason)) := by
  unfold offer
  split
  · exact nofun
  · split
    · exact collect_valid s _ reason
    · exact nofun

/-- The frame of a send is longer than a frame may be. -/
def Oversized (limit : Nat) (s : Send) : Prop :=
  limit < (Frame.body (.invoke s.id s.target s.payload : ClientFrame)).length

theorem encode_oversized {limit : Nat} (large : Oversized limit s) :
    Frame.encode limit (.invoke s.id s.target s.payload : ClientFrame) = .error (.invalidRequest
      (Frame.tooLarge (Frame.body (.invoke s.id s.target s.payload : ClientFrame)).length limit)) := by
  unfold Oversized at large
  rw [Frame.encode, if_pos large]

theorem encode_within {limit : Nat} (small : ¬ Oversized limit s) :
    ∃ bytes, Frame.encode limit (.invoke s.id s.target s.payload : ClientFrame) = .ok bytes := by
  unfold Oversized at small
  rw [Frame.encode, if_neg small]
  exact ⟨_, rfl⟩

theorem stepSend_oversized (found : c.send? s.number = some s) (begun : s.place = .begun)
    (large : Oversized c.limit s) :
    c.stepSend s.number = (c.dropSend s.number, .done (.error (.invalidRequest (Frame.tooLarge
      (Frame.body (.invoke s.id s.target s.payload : ClientFrame)).length c.limit)))) := by
  rw [stepSend, found]
  dsimp only
  rw [begun]
  dsimp only
  rw [encode_oversized large]

theorem oversized_of_invalid {number : Nat} {reason : String}
    (refused : (c.stepSend number).2 = .done (.error (.invalidRequest reason))) :
    ∃ s, c.send? number = some s ∧ s.place = .begun ∧ Oversized c.limit s := by
  unfold stepSend at refused
  cases found : c.send? number with
  | none => rw [found] at refused; cases refused
  | some s =>
    rw [found] at refused
    dsimp only at refused
    cases place : s.place with
    | queueing bytes => rw [place] at refused; exact absurd refused (offer_valid s bytes c reason)
    | queued => rw [place] at refused; exact absurd refused (collect_valid s c reason)
    | begun =>
      refine ⟨s, rfl, place, ?_⟩
      rw [place] at refused
      dsimp only at refused
      unfold Oversized
      by_contra small
      rw [Frame.encode, if_neg small] at refused
      dsimp only at refused
      split at refused
      · cases refused
      · exact offer_valid s _ _ reason refused

/-- With room in the queue, a send on an open connection is entered and its frame is queued. -/
theorem stepSend_sent (found : c.send? s.number = some s) (begun : s.place = .begun)
    (awaited : s.reply = .awaited) (opened : c.closed = false) (runs : c.writerRuns = true)
    (room : c.hasRoom = true) {bytes : Bytes}
    (sent : Frame.encode c.limit (.invoke s.id s.target s.payload : ClientFrame) = .ok bytes) :
    c.stepSend s.number = (((c.enter s.id (.send s.number)).accept ⟨.send s.number, s.id, bytes⟩).setPlace
      s.number .queued, .waiting ()) := by
  have informed := informed_enter s.id (.send s.number) c
  have room' : (c.enter s.id (.send s.number)).hasRoom = true := by
    rw [hasRoom, informed.queue]
    exact room
  rw [stepSend, found]
  dsimp only
  rw [begun]
  dsimp only
  rw [sent]
  dsimp only
  rw [closed_enter, opened, if_neg Bool.false_ne_true, offer, informed.writerRuns, runs, room',
    Bool.not_true, if_neg Bool.false_ne_true, if_pos rfl, collect, awaited]

end

/-! ### What is left of sends that end early -/

theorem withdraw_aside (s : Send) (c : Connection) : c.withdraw s =
    { c with
      sends := (c.withdraw s).sends
      pending := (c.withdraw s).pending
      heartbeat := (c.withdraw s).heartbeat } := by
  unfold withdraw
  split
  · rfl
  · unfold remove
    cases c.pending.lookup s.id with
    | none => rfl
    | some w => cases w <;> rfl

theorem invalid_iff {c : Connection} (number : Nat) :
    (∃ reason, (c.stepSend number).2 = .done (.error (.invalidRequest reason))) ↔
      ∃ s, c.send? number = some s ∧ s.place = .begun ∧ Oversized c.limit s := by
  constructor
  · rintro ⟨reason, refused⟩
    exact oversized_of_invalid refused
  · rintro ⟨s, found, begun, large⟩
    obtain rfl := number_of_found found
    exact ⟨_, congrArg Prod.snd (stepSend_oversized found begun large)⟩

/-- What giving a send up comes to: it is in the table no longer, now or later, and nothing else has changed
but for one who waits for the same number. -/
structure Withdrawn (s : Send) (c c' : Connection) : Prop where
  unlisted : ∀ later id, (id, .send s.number) ∉ (c'.run later).pending
  aside : c' = { c with sends := c'.sends, pending := c'.pending, heartbeat := c'.heartbeat }
  entries : ∀ id w, id ≠ s.id → ((id, w) ∈ c'.pending ↔ (id, w) ∈ c.pending)
  sends : ∀ s', s'.id ≠ s.id → (s' ∈ c'.sends ↔ s' ∈ c.sends)
  heartbeat : ∀ h, c.heartbeat = some h → h.id ≠ s.id → c'.heartbeat = some h

section

variable {c : Connection} (t : Tracked c) (f : Filed c) {s : Send}

include t f

theorem withdrawn_cancel (p : Pinging c) (found : s ∈ c.sends) : Withdrawn s c (c.cancel s.number) := by
  have turns := cancel_turns s.number c
  have left : c.cancel s.number = (c.withdraw s).dropSend s.number := cancel_found (t.send?_of_mem found)
  have gone : Gone s.number (c.cancel s.number) := by
    rw [left]
    apply gone_dropSend
    rw [(informed_withdraw s c).nextNumber]
    exact t.numbered s found
  constructor
  · exact fun later => (gone.run later).unlisted ((f.turns t turns).run (t.turns turns) later)
  · rw [left]
    exact congrArg (dropSend s.number) (withdraw_aside s c)
  · intro id w other
    rw [left]
    exact mem_withdraw other
  · intro s' other
    rw [left]
    refine Iff.trans ?_ (mem_sends_withdraw t other)
    refine ⟨List.mem_of_mem_filter, fun kept => List.mem_filter.mpr ⟨kept, ?_⟩⟩
    refine bne_iff_ne.mpr fun same => other ?_
    rw [t.same_send ((mem_sends_withdraw t other).mp kept) found same]
  · intro h there other
    rw [left]
    exact (heartbeat_withdraw p there other).trans there

theorem refused_oversized {asked : List (Target × Bytes)} (b : Booked asked c) {number : Nat}
    {reason : String}
    (refused : (c.stepSend number).2 = .done (.error (.invalidRequest reason))) :
    (c.stepSend number).1 = c.dropSend number ∧
      ∀ later, number ∉ ((c.dropSend number).run later).queuedSends ∧
        ∀ id, (id, .send number) ∉ ((c.dropSend number).run later).pending := by
  obtain ⟨s, found, begun, large⟩ := oversized_of_invalid refused
  obtain rfl := number_of_found found
  have there := List.mem_of_find?_eq_some found
  have dropped := Turn.dropped found begun
  refine ⟨congrArg Prod.fst (stepSend_oversized found begun large), fun later => ⟨?_, ?_⟩⟩
  · -- Whatever is queued under the number is the frame of this very send, and there is none.
    intro listed
    obtain ⟨o, queued, origin⟩ := mem_queuedSends.mp listed
    have booked := (b.turn t dropped).run (t.turn dropped) later
    obtain ⟨target, payload, asks, id, encoded⟩ := booked.queued o queued s.number origin
    obtain ⟨asked', id'⟩ := b.sends s there
    rw [List.getElem?_append_left (List.getElem?_eq_some_iff.mp asked').1, asked'] at asks
    cases asks
    rw [limit_run, id, ← id'] at encoded
    cases (encode_oversized large).symm.trans encoded
  · have gone : Gone s.number (c.dropSend s.number) := gone_dropSend (t.numbered s there)
    exact (gone.run later).unlisted ((f.turn t dropped).run (t.turn dropped) later)

theorem sent_begun (opened : c.closed = false) (runs : c.writerRuns = true) (room : c.hasRoom = true)
    (found : s ∈ c.sends) (begun : s.place = .begun) (small : ¬ Oversized c.limit s) :
    ∃ bytes c', Frame.encode c.limit (.invoke s.id s.target s.payload : ClientFrame) = .ok bytes ∧
      c.stepSend s.number = (c', .waiting ()) ∧ (s.id, .send s.number) ∈ c'.pending ∧
      c'.queue = c.queue ++ [⟨.send s.number, s.id, bytes⟩] ∧
      c'.queued = c.queued ++ [⟨.send s.number, s.id, bytes⟩] := by
  have informed := informed_enter s.id (.send s.number) c
  obtain ⟨bytes, sent⟩ := encode_within small
  have stepped := stepSend_sent (t.send?_of_mem found) begun (f.fresh s found begun) opened runs room sent
  refine ⟨bytes, _, sent, stepped, List.mem_cons_self, ?_, ?_⟩
  · show (c.enter s.id (.send s.number)).queue ++ _ = _
    rw [informed.queue]
  · show (c.enter s.id (.send s.number)).queued ++ _ = _
    rw [informed.queued]

end

/-- What a connection writes is whole frames, whatever has happened to it. While the writer runs, what it
has written, what it is writing and the queue make up the hello and the frames that were queued, and it may
still write all of them; when it has stopped, the connection is closed and only the end is missing. What was
queued is one frame for each of some of the sends, with the number and the content of that send, and the
pings in their turn. A send is refused as invalid exactly when its frame is over the limit; it leaves the
connection as it was, and never gets into the table or the queue. A send that is given up leaves the table,
for good, and nothing else changes but for one who waits for the same number. On an open connection with room
in the queue every further send whose frame is within the limit is entered and queued. -/
theorem writes_whole_frames (now : Instant) (client : String) (d : Descriptor) (limit : Nat)
    (greeting : Bytes) (hello : Frame.encode limit (Tcp.hello client d) = .ok greeting)
    (unread : Incoming) (events : List Event) :
    let c := (establish now d limit greeting unread).run events
    c.limit = limit ∧
    (∃ first, Frame.encode limit (Tcp.hello client d) = .ok first ∧
      (c.writerRuns = true → c.written ++ c.writing ++ frames c.queue = first ++ frames c.queued ∧
        ∃ more, (c.run more).written = first ++ frames c.queued) ∧
      (c.writerRuns = false → c.closed = true ∧ ∃ lost, c.written ++ lost = first ++ frames c.queued)) ∧
    (∀ o ∈ c.queued, ∀ number, o.origin = .send number → ∃ target payload,
      (askedFor events)[number]? = some (target, payload) ∧ o.id = UInt64.ofNat (number + 1) ∧
        Frame.encode c.limit (.invoke o.id target payload : ClientFrame) = .ok o.bytes) ∧
    (∀ o ∈ c.queued, o.origin = .heartbeat →
      Frame.encode c.limit (.ping o.id : ClientFrame) = .ok o.bytes) ∧
    c.queuedSends.Nodup ∧ c.pingIds = (List.range c.pingIds.length).map pingId ∧
    (∀ number, (∃ reason, (c.stepSend number).2 = .done (.error (.invalidRequest reason))) ↔
      ∃ s, c.send? number = some s ∧ s.place = .begun ∧ Oversized c.limit s) ∧
    (∀ number reason, (c.stepSend number).2 = .done (.error (.invalidRequest reason)) →
      (c.stepSend number).1 = c.dropSend number ∧
      ∀ later, number ∉ ((c.dropSend number).run later).queuedSends ∧
        ∀ id, (id, .send number) ∉ ((c.dropSend number).run later).pending) ∧
    (∀ s ∈ c.sends, s.id = UInt64.ofNat (s.number + 1)) ∧
    (∀ s ∈ c.sends, Withdrawn s c (c.cancel s.number)) ∧
    (c.closed = false → c.writerRuns = true ∧
      ∀ s ∈ c.sends, s.place = .begun → ¬ Oversized c.limit s → c.hasRoom = true →
        ∃ bytes c', Frame.encode c.limit (.invoke s.id s.target s.payload : ClientFrame) = .ok bytes ∧
          c.stepSend s.number = (c', .waiting ()) ∧ (s.id, .send s.number) ∈ c'.pending ∧
          c'.queue = c.queue ++ [⟨.send s.number, s.id, bytes⟩] ∧
          c'.queued = c.queued ++ [⟨.send s.number, s.id, bytes⟩]) := by
  intro c
  have tracked : Tracked c := (Tracked.establish now d limit greeting unread).run events
  have carried : Carried greeting c := (Carried.establish now d limit greeting unread).run events
  have booked : Booked (askedFor events) c :=
    (Booked.establish now d limit greeting unread).run (Tracked.establish ..) events
  have filed : Filed c := (Filed.establish now d limit greeting unread).run (Tracked.establish ..) events
  have pinging : Pinging c := (Pinging.establish now d limit greeting unread).run events
  have inTurn : InTurn c := (InTurn.establish now d limit greeting unread).run events
  refine ⟨limit_run events _, ⟨greeting, hello, ?_, ?_⟩, booked.queued, inTurn.queued, booked.once,
    inTurn.ids, invalid_iff, fun number reason => refused_oversized tracked filed booked,
    fun s found => (booked.sends s found).2, fun s => withdrawn_cancel tracked filed pinging, ?_⟩
  · exact fun running => ⟨carried.running running, carried.drains running⟩
  · intro stops
    obtain ⟨closed, -, -, missing⟩ := carried.stopped stops
    exact ⟨closed, missing⟩
  · intro opened
    have runs := carried.runs opened
    exact ⟨runs, fun s found begun small room =>
      sent_begun tracked filed opened runs room found begun small⟩

/-! ### A run with sends of each kind -/

def plain : Descriptor := { name := "far", host := "h", port := 1 }

def spoken : Bytes :=
  Frame.lengthBytes (Frame.body (Tcp.hello "c" plain)).length ++ Frame.body (Tcp.hello "c" plain)

/-- The first send is over the limit, the second is given up while it waits, and the writer is in the middle
of the frame of the third. -/
def cutShort : List Event :=
  [.begin ⟨"m", "c", "i"⟩ (List.replicate 100 97), .stepSend 0, .begin ⟨"m", "c", "i"⟩ [1], .stepSend 1,
    .cancel 1, .begin ⟨"m", "c", "i"⟩ [2], .stepSend 2, .takeOutgoing, .write 200, .takeOutgoing, .write 30]

def interrupted : Connection := (establish 0 plain 200 spoken {}).run cutShort

theorem writes_whole_frames_cut_short :
    Frame.encode 200 (Tcp.hello "c" plain) = .ok spoken ∧ interrupted.queuedSends = [1, 2] ∧
      interrupted.pending = [(3, .send 2)] ∧
      ∃ first, Frame.encode 200 (Tcp.hello "c" plain) = .ok first ∧
        interrupted.written ++ interrupted.writing ++ frames interrupted.queue =
          first ++ frames interrupted.queued := by
  have hello : Frame.encode 200 (Tcp.hello "c" plain) = .ok spoken := by decide +kernel
  have runs : interrupted.writerRuns = true := by decide +kernel
  have sends : interrupted.queuedSends = [1, 2] := by decide +kernel
  have table : interrupted.pending = [(3, .send 2)] := by decide +kernel
  obtain ⟨-, ⟨first, encoded, whole, -⟩, -⟩ :=
    writes_whole_frames 0 "c" plain 200 spoken hello {} cutShort
  exact ⟨hello, sends, table, first, encoded, (whole runs).1⟩

end Switchboard.Tcp.Connection
