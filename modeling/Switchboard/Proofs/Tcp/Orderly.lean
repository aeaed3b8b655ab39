import Switchboard.Proofs.Lookup
import Switchboard.Proofs.Tcp.Waiting

/-!
Who waits on a connection stays in order through every turn, and so through every run that does not use
up the numbers.
-/
namespace Switchboard.Tcp.Connection

/-! ### Entering and leaving -/

theorem enter_fresh {c : Connection} {id : UInt64} (fresh : id ∉ c.pending.map (·.1)) (w : Waiter) :
    c.enter id w = { c with pending := (id, w) :: c.pending } := by
  rw [enter, remove, lookup_of_not_mem fresh]

section

variable {pings : Nat} {c : Connection} (o : Orderly pings c)

include o

/-- A send that is not in the table under its number is not there at all. -/
theorem Orderly.unlisted_begun {s : Send} (found : s ∈ c.sends) (begun : s.place = .begun) :
    s.id ∉ c.pending.map (·.1) := by
  apply o.unlisted (w := .send s.number) ⟨s, found, rfl, rfl⟩
  rintro ⟨s', found', number, -, entered, -⟩
  rw [o.same_send found' found number] at entered
  exact entered begun

theorem Orderly.leave {s : Send} (found : s ∈ c.sends) :
    Orderly pings ((c.remove .lost s.id).dropSend s.number) := by
  have live : c.Live s.id (.send s.number) := ⟨s, found, rfl, rfl⟩
  have mine {id} (listed : (id, .send s.number) ∈ c.pending) : id = s.id :=
    (o.send_id found (o.entries id _ listed).live).symm
  unfold remove
  cases entry : c.pending.lookup s.id with
  | none =>
    apply o.dropSend
    intro id listed
    obtain rfl := mine listed
    have absent := List.lookup_eq_none_iff.mp entry _ listed
    simp at absent
  | some w =>
    have listed := mem_of_lookup entry
    obtain rfl := o.live_unique (o.entries _ w listed).live live
    dsimp only
    rw [dropSend_inform]
    apply (o.forget s.id).dropSend
    intro id listed
    obtain ⟨listed, other⟩ := List.mem_filter.mp listed
    rw [mine listed] at other
    simp at other

theorem Orderly.enter {s : Send} {bytes : Text.Bytes} (found : s ∈ c.sends)
    (begun : s.place = .begun) :
    Orderly pings ((c.enter s.id (.send s.number)).setPlace s.number (.queueing bytes)) := by
  have fresh := o.unlisted_begun found begun
  rw [enter_fresh fresh]
  have queueing : SendPlace.queueing bytes ≠ .begun := SendPlace.noConfusion
  have placed : Orderly pings (c.setPlace s.number (.queueing bytes)) := o.setPlace queueing
  apply placed.list fresh
  exact ⟨{ s with place := .queueing bytes }, List.mem_map.mpr ⟨s, found, by rw [if_pos rfl]⟩, rfl, rfl,
    queueing, o.begun s found begun⟩

/-- A frame is taken in, and handed to whoever waits for its number. -/
theorem Orderly.take (frame : ServerFrame) (rest : Incoming) :
    Orderly pings (({ c with incoming := rest, taken := c.taken ++ [frame] }).deliver frame) := by
  have later {id : UInt64} {reply : Reply} (proper : c.Proper id reply) :
      ({ c with incoming := rest, taken := c.taken ++ [frame] } : Connection).Proper id reply := by
    cases reply with
    | awaited => trivial
    | given earlier => exact ⟨proper.1, List.mem_append_left _ proper.2⟩
    | lost => exact proper
  have taken : Orderly pings { c with incoming := rest, taken := c.taken ++ [frame] } :=
    { o with
      sends := fun s found => later (o.sends s found)
      heartbeat := fun h found => later (o.heartbeat h found) }
  unfold deliver
  cases number : frame.requestId? with
  | none => exact taken
  | some id =>
    dsimp only [remove]
    cases entry : c.pending.lookup id with
    | none => exact taken
    | some w =>
      have listed := mem_of_lookup entry
      have awaits := o.entries id w listed
      have given : ({ c with incoming := rest, taken := c.taken ++ [frame] } : Connection).Proper id
          (.given frame) :=
        ⟨number, List.mem_append_right _ List.mem_cons_self⟩
      apply (taken.forget id).inform
      · intro id' still
        obtain ⟨still, other⟩ := List.mem_filter.mp still
        have same := o.one_id (o.entries id' w still).live awaits.live
        simp [same] at other
      · exact o.entered listed
      · intro s found mine
        rw [mine] at awaits
        rw [o.send_id found awaits.live]
        exact given
      · intro mine h found
        rw [mine] at awaits
        obtain ⟨h', found', -, rfl, -⟩ := awaits
        have same : some h = some h' := found.symm.trans found'
        cases same
        exact given

end

theorem Turn.nextNumber {i p : Nat} {c c' : Connection} (turn : Turn i p c c') :
    c'.nextNumber = c.nextNumber + i := by
  cases turn with
  | refused found begun closed =>
    exact (nextNumber_remove .lost _ _).trans (nextNumber_remove .lost _ c)
  | entered found begun opened bytes => exact nextNumber_remove .lost _ c
  | left found entered => exact nextNumber_remove .lost _ c
  | took runs next =>
    unfold deliver
    split
    · rfl
    · exact nextNumber_remove _ _ _
  | broke runs next => exact nextNumber_markClosed _
  | writeFailed runs => exact nextNumber_markClosed c
  | pinged found sleeping opened bytes => exact nextNumber_remove .lost _ c
  | unsendable found sleeping opened => exact nextNumber_markClosed c
  | gaveUp found out => exact nextNumber_markClosed c
  | ended opened => exact nextNumber_markClosed c
  | _ => rfl

theorem Orderly.unlisted_send {pings : Nat} {c : Connection} (o : Orderly pings c) {s : Send}
    (found : s ∈ c.sends) (begun : s.place = .begun) (id : UInt64) :
    (id, .send s.number) ∉ c.pending := by
  intro listed
  have mine : s.id = id := o.send_id found (o.entries id _ listed).live
  apply o.unlisted_begun found begun
  rw [mine]
  exact List.mem_map_of_mem listed

theorem Orderly.begin {pings : Nat} {c : Connection} (o : Orderly pings c) (target : Target)
    (payload : Text.Bytes) (few : c.nextNumber + 1 + pings < 0xffffffffffffffff) :
    Orderly pings (c.begin target payload).1 := by
  have next := o.next
  have later {id : UInt64} {w : Waiter} (awaits : c.Awaits id w) :
      (c.begin target payload).1.Awaits id w := by
    cases w with
    | heartbeat => exact awaits
    | send number =>
      obtain ⟨s, found, rest⟩ := awaits
      exact ⟨s, List.mem_append_left _ found, rest⟩
  have known {s} (found : s ∈ (c.begin target payload).1.sends) : s ∈ c.sends ∨
      s.number = c.nextNumber ∧ s.id = c.nextId ∧ s.reply = .awaited := by
    obtain found | found := List.mem_append.mp found
    · exact .inl found
    · obtain rfl := List.mem_singleton.mp found
      exact .inr ⟨rfl, rfl, rfl⟩
  exact { o with
    few := few
    next := by
      show (c.nextId + 1).toNat = c.nextNumber + 1 + 1
      rw [UInt64.toNat_add, next]
      exact Nat.mod_eq_of_lt (by simp; omega)
    numbered := by
      intro s found
      show s.number < c.nextNumber + 1 ∧ _
      obtain found | ⟨number, id, -⟩ := known found
      · have old := o.numbered s found
        exact ⟨by omega, old.2⟩
      · rw [number, id]
        exact ⟨Nat.lt_succ_self _, next⟩
    distinct := by
      show ((c.sends ++ [_]).map Send.number).Nodup
      rw [List.map_append, List.nodup_append]
      refine ⟨o.distinct, List.nodup_singleton _, ?_⟩
      intro number old number' new
      obtain ⟨s, found, rfl⟩ := List.mem_map.mp old
      obtain rfl := List.mem_singleton.mp new
      exact Nat.ne_of_lt (o.numbered s found).1
    begun := by
      intro s found begun
      obtain found | ⟨-, -, reply⟩ := known found
      · exact o.begun s found begun
      · exact reply
    sends := by
      intro s found
      obtain found | ⟨-, -, reply⟩ := known found
      · exact o.sends s found
      · rw [reply]
        trivial
    entries := fun id w entry => later (o.entries id w entry) }

theorem Orderly.ping {pings : Nat} {c : Connection} (o : Orderly pings c) {h : Heartbeat}
    {wakes : Instant} (found : c.heartbeat = some h) (sleeping : h.beat = .sleeping wakes)
    (bytes : Text.Bytes) (few : c.nextNumber + (pings + 1) < 0xffffffffffffffff) :
    Orderly (pings + 1) (((c.enter h.id .heartbeat).awaitPong).setBeat (.queueing bytes)) := by
  have asleep : h.beat.isOut = false := by
    rw [sleeping]
    rfl
  have numbered : h.id.toNat + pings = 0xffffffffffffffff := by
    have counted := o.counted h found
    rwa [Counted, sleeping] at counted
  have gone := o.setHeartbeat (h := { h with reply := .awaited, beat := .queueing bytes })
    (o.unlisted_heartbeat found (.inl asleep)) few
    (show h.id.toNat + (pings + 1) = 0x10000000000000000 by omega) trivial
  have awaits : ({ c with heartbeat := some { h with reply := .awaited, beat := .queueing bytes } } :
      Connection).Awaits h.id .heartbeat :=
    ⟨_, rfl, rfl, rfl, rfl⟩
  have fresh : h.id ∉ c.pending.map (·.1) := by
    intro listed
    obtain ⟨⟨id, w⟩, entry, rfl : id = h.id⟩ := List.mem_map.mp listed
    have pinging := gone.live_unique (gone.entries _ w entry).live awaits.live
    rw [pinging] at entry
    exact o.unlisted_heartbeat found (.inl asleep) _ entry
  have entered : ((c.enter h.id .heartbeat).awaitPong).setBeat (.queueing bytes) =
      { c with
        pending := (h.id, .heartbeat) :: c.pending
        heartbeat := some { h with reply := .awaited, beat := .queueing bytes } } := by
    rw [enter_fresh fresh, setBeat, awaitPong, found]
    rfl
  rw [entered]
  exact gone.list fresh awaits

theorem Orderly.rest {pings : Nat} {c : Connection} (o : Orderly pings c) {h : Heartbeat}
    {deadline : Instant} {frame : ServerFrame} (found : c.heartbeat = some h)
    (awaiting : h.beat = .awaiting deadline) (answered : h.reply = .given frame) (now : Instant) :
    Orderly pings (c.restBeat now h) := by
  have few := o.few
  have numbered := o.counted_out found (by rw [awaiting]; rfl)
  have given : h.reply ≠ .awaited := by
    rw [answered]
    exact Reply.noConfusion
  refine o.setHeartbeat (o.unlisted_heartbeat found (.inr given)) few ?_ trivial
  have positive : (1 : UInt64) ≤ h.id := UInt64.le_iff_toNat_le.mpr (by simp; omega)
  show (h.id - 1).toNat + pings = 0xffffffffffffffff
  rw [UInt64.toNat_sub_of_le _ _ positive]
  simp
  omega

theorem Orderly.refuse {pings : Nat} {c : Connection} (o : Orderly pings c) {s : Send}
    (found : s ∈ c.sends) (begun : s.place = .begun) :
    Orderly pings (((c.enter s.id (.send s.number)).remove .lost s.id).dropSend s.number) := by
  have left : ((c.enter s.id (.send s.number)).remove .lost s.id).dropSend s.number =
      ({ c with pending := c.pending.filter (·.1 != s.id) }).dropSend s.number := by
    rw [enter_fresh (o.unlisted_begun found begun)]
    simp only [remove, List.lookup_cons_self, List.filter_cons, bne_self_eq_false,
      Bool.false_eq_true, if_false]
    exact dropSend_inform .lost s.number { c with pending := c.pending.filter (·.1 != s.id) }
  rw [left]
  apply (o.forget s.id).dropSend
  intro id listed
  exact o.unlisted_send found begun id (List.mem_of_mem_filter listed)

theorem Orderly.end {pings : Nat} {c : Connection} (o : Orderly pings c) :
    Orderly pings c.markClosed.stopAll := by
  have closed := o.markClosed
  exact { closed with
    counted := by
      rintro h ⟨⟩
    heartbeat := by
      rintro h ⟨⟩
    entries := by
      intro id w entry
      have listed : (id, w) ∈ c.markClosed.pending := entry
      rw [pending_markClosed] at listed
      cases listed }

/-- What a turn keeps, as long as the numbers last. -/
theorem Orderly.turn {pings i p : Nat} {c c' : Connection} (o : Orderly pings c)
    (turn : Turn i p c c') (few : c'.nextNumber + (pings + p) < 0xffffffffffffffff) :
    Orderly (pings + p) c' := by
  rw [turn.nextNumber] at few
  cases turn with
  | begun target payload => exact o.begin target payload few
  | dropped found begun => exact o.dropSend (o.unlisted_send (List.mem_of_find?_eq_some found) begun)
  | refused found begun closed => exact o.refuse (List.mem_of_find?_eq_some found) begun
  | entered found begun opened bytes => exact o.enter (List.mem_of_find?_eq_some found) begun
  | @accepted _ s bytes found queueing runs room =>
    have accepted : Orderly pings (c.accept ⟨.send s.number, s.id, bytes⟩) := { o with }
    exact accepted.setPlace SendPlace.noConfusion
  | stays found entered => exact o.setPlace entered
  | left found entered => exact o.leave (List.mem_of_find?_eq_some found)
  | came incoming => exact { o with }
  | took runs next => exact o.take _ _
  | @broke _ reading rest runs next =>
    have read : Orderly pings { c with incoming := rest, readerRuns := false } := { o with }
    exact read.markClosed
  | unqueued runs idle next => exact { o with }
  | wrote count => exact { o with }
  | writeFailed runs => exact { o.markClosed with }
  | pinged found sleeping opened bytes => exact o.ping found sleeping bytes few
  | unsendable found sleeping opened => exact o.giveUp few
  | @pingAccepted _ h bytes found queueing runs room deadline =>
    have accepted : Orderly pings (c.accept ⟨.heartbeat, h.id, bytes⟩) := { o with }
    exact accepted.await found (by rw [queueing]; rfl) deadline
  | gaveUp found out => exact o.giveUp few
  | rested now found awaiting answered => exact o.rest found awaiting answered now
  | stopped found finds =>
    refine o.stop (o.unlisted_heartbeat found ?_) few
    obtain ⟨-, asleep⟩ | lost := finds
    · exact .inl asleep
    · rw [lost]
      exact .inr Reply.noConfusion
  | ended opened => exact o.end

theorem Turns.nextNumber {i p : Nat} {c c' : Connection} (turns : Turns i p c c') :
    c'.nextNumber = c.nextNumber + i := by
  induction turns with
  | none => rfl
  | next _ last ih => rw [last.nextNumber, ih, Nat.add_assoc]

theorem Orderly.turns {pings i p : Nat} {c c' : Connection} (o : Orderly pings c)
    (turns : Turns i p c c') (few : c'.nextNumber + (pings + p) < 0xffffffffffffffff) :
    Orderly (pings + p) c' := by
  induction turns with
  | none => exact o
  | next _ last ih =>
    have more := last.nextNumber
    have before := ih o (by omega)
    have after := before.turn last (by omega)
    rwa [Nat.add_assoc] at after

/-! ### Runs -/

theorem nextNumber_run (events : List Event) (c : Connection) :
    (c.run events).nextNumber = c.nextNumber + invocations events := by
  induction events generalizing c with
  | nil => rfl
  | cons e rest ih =>
    show ((e.apply c).run rest).nextNumber = _
    rw [ih, (apply_turns e c).nextNumber, invocations, Nat.add_assoc]

theorem Orderly.run {numbered : Nat} {c : Connection} (o : Orderly numbered c) (events : List Event)
    (few : c.nextNumber + invocations events + (numbered + pings c events) < 0xffffffffffffffff) :
    Orderly (numbered + pings c events) (c.run events) := by
  induction events generalizing c numbered with
  | nil => exact o
  | cons e rest ih =>
    have turns := apply_turns e c
    have number := turns.nextNumber
    simp only [invocations, pings] at few ih
    have applied := o.turns turns (by omega)
    have goesOn := ih applied (by omega)
    rw [Nat.add_assoc] at goesOn
    exact goesOn

theorem Orderly.establish (now : Instant) (d : Descriptor) (limit : Nat) (greeting : Text.Bytes)
    (unread : Incoming) : Orderly 0 (establish now d limit greeting unread) where
  few := by
    show 0 + 0 < 0xffffffffffffffff
    decide
  next := rfl
  numbered := fun s found => absurd found List.not_mem_nil
  distinct := List.nodup_nil
  counted := by
    intro h found
    obtain ⟨interval, -, rfl⟩ := Option.map_eq_some_iff.mp found
    rfl
  keys := List.nodup_nil
  entries := fun id w entry => absurd entry List.not_mem_nil
  begun := fun s found => absurd found List.not_mem_nil
  sends := fun s found => absurd found List.not_mem_nil
  heartbeat := by
    intro h found
    obtain ⟨interval, -, rfl⟩ := Option.map_eq_some_iff.mp found
    trivial

end Switchboard.Tcp.Connection
