import Switchboard.Proofs.Tcp.Informed

/-!
The pings of a connection. The heartbeat numbers them from the largest word down, one after the other, and
each of them that is queued is the frame of its number.
-/
namespace Switchboard.Tcp

open Text (Bytes)

/-- The number of a ping, by how many there were before it. -/
def pingId (k : Nat) : UInt64 := 0xffffffffffffffff - UInt64.ofNat k

theorem pingId_succ (k : Nat) : pingId (k + 1) = pingId k - 1 := by
  simp only [pingId, UInt64.ofNat_add]
  grind

theorem toNat_pingId {k : Nat} (few : k < 0x10000000000000000) :
    (pingId k).toNat = 0xffffffffffffffff - k := by
  have small : (UInt64.ofNat k).toNat = k := UInt64.toNat_ofNat_of_lt' few
  have below : UInt64.ofNat k ≤ 0xffffffffffffffff := by
    rw [UInt64.le_iff_toNat_le, small]
    exact Nat.le_of_lt_succ few
  rw [pingId, UInt64.toNat_sub_of_le _ _ below, small]
  rfl

theorem map_toNat_pingId {count : Nat} (few : count ≤ 0x10000000000000000) :
    ((List.range count).map pingId).map UInt64.toNat = (List.range count).map (0xffffffffffffffff - ·) := by
  rw [List.map_map]
  refine List.map_congr_left fun k below => ?_
  rw [Function.comp_apply, toNat_pingId (Nat.lt_of_lt_of_le (List.mem_range.mp below) few)]

/-- What the number of the heartbeat is after so many pings: that of the next one, or of the last one while
an answer to it is awaited. -/
def Heartbeat.Follows (count : Nat) (h : Heartbeat) : Prop :=
  match h.beat with
  | .sleeping _ | .queueing _ => h.id = pingId count
  | .awaiting _ => ∃ before, count = before + 1 ∧ h.id = pingId before
  | .stopped => True

namespace Connection

/-- The numbers of the pings that were queued. -/
def pingIds (c : Connection) : List UInt64 :=
  (c.queued.filter (·.origin = .heartbeat)).map (·.id)

structure InTurn (c : Connection) : Prop where
  ids : c.pingIds = (List.range c.pingIds.length).map pingId
  next : ∀ h, c.heartbeat = some h → h.Follows c.pingIds.length
  queueing : ∀ h, c.heartbeat = some h → ∀ bytes, h.beat = .queueing bytes →
    Frame.encode c.limit (.ping h.id : ClientFrame) = .ok bytes
  queued : ∀ o ∈ c.queued, o.origin = .heartbeat →
    Frame.encode c.limit (.ping o.id : ClientFrame) = .ok o.bytes

theorem pingIds_accept (o : Outgoing) (c : Connection) :
    (c.accept o).pingIds = if o.origin = .heartbeat then c.pingIds ++ [o.id] else c.pingIds := by
  unfold pingIds accept
  by_cases ping : o.origin = .heartbeat <;> simp [ping]

theorem pingIds_setBeat (beat : Beat) (c : Connection) : (c.setBeat beat).pingIds = c.pingIds := rfl

theorem heartbeat_setBeat {c : Connection} {h : Heartbeat} (found : c.heartbeat = some h) (beat : Beat) :
    (c.setBeat beat).heartbeat = some { h with beat := beat } := by
  rw [setBeat, found, Option.map_some]

theorem heartbeat_pinged {c : Connection} {h : Heartbeat} (found : c.heartbeat = some h)
    (bytes : Bytes) :
    (((c.enter h.id .heartbeat).awaitPong).setBeat (.queueing bytes)).heartbeat =
      some { h with beat := .queueing bytes, reply := .awaited } := by
  obtain ⟨reply, there⟩ := heartbeat_enter found h.id .heartbeat
  rw [setBeat, awaitPong, there]
  rfl

namespace InTurn

section

variable {c : Connection} (t : InTurn c)

include t

theorem informed {c' : Connection} (informed : Informed c c') : InTurn c' := by
  have ids : c'.pingIds = c.pingIds := by rw [pingIds, informed.queued, pingIds]
  constructor
  · rw [ids]
    exact t.ids
  · intro h' found'
    obtain ⟨h, found, -, -, id, beat⟩ := informed.beat found'
    have follows := t.next h found
    unfold Heartbeat.Follows at follows ⊢
    rw [ids, ← id, ← beat]
    exact follows
  · intro h' found' bytes queueing
    obtain ⟨h, found, -, -, id, beat⟩ := informed.beat found'
    rw [informed.limit, ← id]
    exact t.queueing h found bytes (beat.trans queueing)
  · rw [informed.queued, informed.limit]
    exact t.queued

/-- The heartbeat goes on, and nothing is queued. -/
theorem goOn {h : Heartbeat} (follows : h.Follows c.pingIds.length)
    (queueing : ∀ bytes, h.beat = .queueing bytes →
      Frame.encode c.limit (.ping h.id : ClientFrame) = .ok bytes) :
    InTurn { c with heartbeat := some h } where
  ids := t.ids
  next := by
    rintro h' ⟨⟩
    exact follows
  queueing := by
    rintro h' ⟨⟩
    exact queueing
  queued := t.queued

theorem stop : InTurn (c.setBeat .stopped) := by
  have stopped {h'} (found' : (c.setBeat .stopped).heartbeat = some h') : h'.beat = .stopped := by
    obtain ⟨h, -, rfl⟩ := Option.map_eq_some_iff.mp found'
    rfl
  refine ⟨t.ids, ?_, ?_, t.queued⟩
  · intro h' found'
    rw [Heartbeat.Follows, stopped found']
    trivial
  · intro h' found' bytes queueing
    rw [stopped found'] at queueing
    cases queueing

theorem acceptSend (number : Nat) (id : UInt64) (bytes : Bytes) :
    InTurn (c.accept ⟨.send number, id, bytes⟩) := by
  have ids : (c.accept ⟨.send number, id, bytes⟩).pingIds = c.pingIds := by
    rw [pingIds_accept, if_neg Waiter.noConfusion]
  refine ⟨?_, ?_, t.queueing, ?_⟩
  · rw [ids]
    exact t.ids
  · rw [ids]
    exact t.next
  · intro o listed ping
    rcases List.mem_append.mp listed with earlier | new
    · exact t.queued o earlier ping
    · rw [List.mem_singleton.mp new] at ping
      cases ping

theorem acceptPing {h : Heartbeat} (found : c.heartbeat = some h) {bytes : Bytes}
    (queueing : h.beat = .queueing bytes) (deadline : Instant) :
    InTurn ((c.accept ⟨.heartbeat, h.id, bytes⟩).setBeat (.awaiting deadline)) := by
  have follows : h.id = pingId c.pingIds.length := by
    have next := t.next h found
    rwa [Heartbeat.Follows, queueing] at next
  have ids : ((c.accept ⟨.heartbeat, h.id, bytes⟩).setBeat (.awaiting deadline)).pingIds =
      c.pingIds ++ [h.id] :=
    (pingIds_accept _ c).trans (if_pos rfl)
  have beats := heartbeat_setBeat (c := c.accept ⟨.heartbeat, h.id, bytes⟩) found (.awaiting deadline)
  constructor
  · rw [ids, List.length_append, List.length_singleton, List.range_succ, List.map_append, ← t.ids,
      follows]
    rfl
  · intro h' found'
    obtain rfl := Option.some.inj (beats.symm.trans found')
    rw [ids, List.length_append]
    exact ⟨_, rfl, follows⟩
  · intro h' found' bytes' queueing'
    obtain rfl := Option.some.inj (beats.symm.trans found')
    cases queueing'
  · intro o listed ping
    rcases List.mem_append.mp listed with earlier | new
    · exact t.queued o earlier ping
    · rw [List.mem_singleton.mp new]
      exact t.queueing h found bytes queueing

theorem turn {i p : Nat} {c' : Connection} (turn : Turn i p c c') : InTurn c' := by
  have entered (id : UInt64) (w : Waiter) : InTurn (c.enter id w) := t.informed (informed_enter id w c)
  have closed : InTurn c.markClosed := t.informed (informed_markClosed c)
  cases turn with
  | begun => exact { t with }
  | dropped => exact { t with }
  | refused => exact { (entered _ _).informed (informed_remove .lost _ _) with }
  | @entered _ s => exact { entered s.id (.send s.number) with }
  | accepted => exact { t.acceptSend _ _ _ with }
  | stays => exact { t with }
  | left => exact { t.informed (informed_remove .lost _ c) with }
  | came => exact { t with }
  | @took _ frame rest =>
    have taken : InTurn { c with incoming := rest, taken := c.taken ++ [frame] } := { t with }
    exact taken.informed (informed_deliver frame _)
  | @broke _ reading rest =>
    have read : InTurn { c with incoming := rest, readerRuns := false } := { t with }
    exact read.informed (informed_markClosed _)
  | unqueued => exact { t with }
  | wrote => exact { t with }
  | writeFailed => exact { closed with }
  | @pinged _ h wakes found sleeping opened bytes sent =>
    have follows : h.id = pingId c.pingIds.length := by
      have next := t.next h found
      rwa [Heartbeat.Follows, sleeping] at next
    have went := (entered h.id .heartbeat).goOn (h := { h with beat := .queueing bytes, reply := .awaited })
      (by rw [pingIds, (informed_enter h.id .heartbeat c).queued]; exact follows)
      (by rintro bytes' ⟨⟩; rw [(informed_enter h.id .heartbeat c).limit]; exact sent)
    rw [← heartbeat_pinged found bytes] at went
    exact { went with }
  | unsendable => exact closed.stop
  | pingAccepted found queueing _ _ deadline => exact t.acceptPing found queueing deadline
  | gaveUp => exact closed.stop
  | @rested _ h deadline frame now found awaiting answered =>
    refine t.goOn ?_ nofun
    have next := t.next h found
    rw [Heartbeat.Follows, awaiting] at next
    obtain ⟨before, count, id⟩ := next
    show h.id - 1 = pingId c.pingIds.length
    rw [count, id, pingId_succ]
  | stopped => exact t.stop
  | ended =>
    exact ⟨closed.ids, nofun, nofun, closed.queued⟩

theorem turns {i p : Nat} {c' : Connection} (turns : Turns i p c c') : InTurn c' := by
  induction turns with
  | none => exact t
  | next _ last ih => exact (ih t).turn last

theorem run (events : List Event) : InTurn (c.run events) := by
  induction events generalizing c with
  | nil => exact t
  | cons e rest ih => exact ih (t.turns (apply_turns e c))

end

theorem establish (now : Instant) (d : Descriptor) (limit : Nat) (greeting : Bytes)
    (unread : Incoming) : InTurn (establish now d limit greeting unread) where
  ids := rfl
  next := by
    intro h found
    obtain ⟨interval, -, rfl⟩ := Option.map_eq_some_iff.mp found
    show (0xffffffffffffffff : UInt64) = pingId 0
    decide
  queueing := by
    intro h found bytes queueing
    obtain ⟨interval, -, rfl⟩ := Option.map_eq_some_iff.mp found
    cases queueing
  queued := nofun

end InTurn

end Connection

end Switchboard.Tcp
