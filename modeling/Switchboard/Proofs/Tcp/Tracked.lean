import Switchboard.Proofs.Lookup
import Switchboard.Proofs.Tcp.Orderly

/-!
What holds of the table of pending requests however many numbers have been used, also when a number
comes round a second time. Every send that waits is in the table under its number; one that has lost
its place there has been told. What a send was given is a frame with its own number. A connection that
is closed has an empty table.
-/
namespace Switchboard.Tcp.Connection

structure Tracked (c : Connection) : Prop where
  numbered : ∀ s ∈ c.sends, s.number < c.nextNumber
  distinct : (c.sends.map (·.number)).Nodup
  keys : (c.pending.map (·.1)).Nodup
  entries : ∀ id number, (id, .send number) ∈ c.pending →
    number < c.nextNumber ∧ ∀ s ∈ c.sends, s.number = number → s.id = id
  waiting : ∀ s ∈ c.sends, s.place ≠ .begun → s.reply = .awaited →
    (s.id, .send s.number) ∈ c.pending
  given : ∀ s ∈ c.sends, ∀ frame, s.reply = .given frame →
    frame.requestId? = some s.id ∧ frame ∈ c.taken
  shut : c.closed = true → c.pending = []

/-! ### The table -/

@[simp] theorem pending_inform (news : Reply) (w : Waiter) (c : Connection) :
    (c.inform news w).pending = c.pending := by
  cases w <;> rfl

@[simp] theorem taken_inform (news : Reply) (w : Waiter) (c : Connection) :
    (c.inform news w).taken = c.taken := by
  cases w <;> rfl

theorem sends_inform (news : Reply) (w : Waiter) (c : Connection) :
    (c.inform news w).sends = c.sends.map fun s =>
      if w = .send s.number then { s with reply := s.reply.learn news } else s := by
  cases w with
  | heartbeat => simp [inform]
  | send number => simp [inform, eq_comm]

theorem pending_remove (news : Reply) (id : UInt64) (c : Connection) :
    (c.remove news id).pending = c.pending.filter (·.1 != id) := by
  unfold remove
  cases entry : c.pending.lookup id with
  | none =>
    symm
    rw [List.filter_eq_self]
    intro p listed
    have other := List.lookup_eq_none_iff.mp entry p listed
    rwa [bne_comm]
  | some w => rw [pending_inform]

theorem mem_sends_remove {news : Reply} {id : UInt64} {c : Connection} {s' : Send}
    (found : s' ∈ (c.remove news id).sends) :
    ∃ s ∈ c.sends, s.number = s'.number ∧ s.id = s'.id ∧ s.place = s'.place := by
  unfold remove at found
  cases entry : c.pending.lookup id with
  | none =>
    rw [entry] at found
    exact ⟨s', found, rfl, rfl, rfl⟩
  | some w =>
    rw [entry] at found
    dsimp only at found
    rw [sends_inform] at found
    obtain ⟨s, earlier, rfl⟩ := List.mem_map.mp found
    refine ⟨s, earlier, ?_⟩
    split <;> exact ⟨rfl, rfl, rfl⟩

theorem sends_markClosed (c : Connection) :
    c.markClosed.sends = c.sends.map fun s =>
      if .send s.number ∈ c.pending.map (·.2) then { s with reply := s.reply.learn .lost } else s := by
  have told (ws : List Waiter) (c : Connection) :
      (ws.foldl (fun c w => c.inform .lost w) c).sends = c.sends.map fun s =>
        if .send s.number ∈ ws then { s with reply := s.reply.learn .lost } else s := by
    induction ws generalizing c with
    | nil => simp
    | cons w rest ih =>
      rw [List.foldl_cons, ih, sends_inform, List.map_map]
      refine List.map_congr_left fun s _ => ?_
      have twice : (s.reply.learn .lost).learn .lost = s.reply.learn .lost := by
        cases s.reply <;> rfl
      by_cases first : w = .send s.number
      · subst first
        by_cases again : Waiter.send s.number ∈ rest <;> simp [again, twice]
      · have other : ¬ Waiter.send s.number = w := fun same => first same.symm
        simp [first, other]
  exact told _ _

@[simp] theorem taken_markClosed (c : Connection) : c.markClosed.taken = c.taken := by
  have told (ws : List Waiter) (c : Connection) :
      (ws.foldl (fun c w => c.inform .lost w) c).taken = c.taken := by
    induction ws generalizing c with
    | nil => rfl
    | cons w rest ih => rw [List.foldl_cons, ih, taken_inform]
  exact told _ _

namespace Tracked

section

variable {c : Connection} (t : Tracked c)

include t

theorem same_send {s s' : Send} (found : s ∈ c.sends) (found' : s' ∈ c.sends)
    (number : s.number = s'.number) : s = s' :=
  List.inj_on_of_nodup_map t.distinct found found' number

theorem send?_of_mem {s : Send} (found : s ∈ c.sends) : c.send? s.number = some s :=
  send?_of_distinct t.distinct found

/-- A change of sends that leaves them their numbers. Some may lose their places in the table. -/
theorem changeSends {c' : Connection} {f : Send → Send} (sends : c'.sends = c.sends.map f)
    (number : ∀ s, (f s).number = s.number) (same : ∀ s, (f s).id = s.id)
    (table : c'.pending.Sublist c.pending) (next : c'.nextNumber = c.nextNumber)
    (waiting : ∀ s ∈ c.sends, (f s).place ≠ .begun → (f s).reply = .awaited →
      (s.id, .send s.number) ∈ c'.pending)
    (given : ∀ s ∈ c.sends, ∀ frame, (f s).reply = .given frame →
      frame.requestId? = some s.id ∧ frame ∈ c'.taken)
    (shut : c'.closed = true → c'.pending = []) : Tracked c' where
  numbered := by
    intro s found
    rw [sends] at found
    obtain ⟨before, earlier, rfl⟩ := List.mem_map.mp found
    rw [number, next]
    exact t.numbered before earlier
  distinct := by
    rw [sends, numbers_map number]
    exact t.distinct
  keys := t.keys.sublist (table.map _)
  entries := by
    intro id k listed
    obtain ⟨below, mine⟩ := t.entries id k (table.subset listed)
    refine ⟨next ▸ below, fun s found his => ?_⟩
    rw [sends] at found
    obtain ⟨before, earlier, rfl⟩ := List.mem_map.mp found
    rw [same]
    exact mine before earlier ((number before).symm.trans his)
  waiting := by
    intro s found entered awaited
    rw [sends] at found
    obtain ⟨before, earlier, rfl⟩ := List.mem_map.mp found
    rw [number, same]
    exact waiting before earlier entered awaited
  given := by
    intro s found frame told
    rw [sends] at found
    obtain ⟨before, earlier, rfl⟩ := List.mem_map.mp found
    rw [same]
    exact given before earlier frame told
  shut := shut

/-- Some sends get news and lose their places in the table. -/
theorem told {c' : Connection} {news : Reply} (known : news ≠ .awaited) (Told : Nat → Prop)
    [DecidablePred Told]
    (sends : c'.sends = c.sends.map fun s =>
      if Told s.number then { s with reply := s.reply.learn news } else s)
    (table : c'.pending.Sublist c.pending) (next : c'.nextNumber = c.nextNumber)
    (taken : c'.taken = c.taken)
    (left : ∀ s ∈ c.sends, (s.id, .send s.number) ∈ c.pending →
      Told s.number ∨ (s.id, .send s.number) ∈ c'.pending)
    (proper : ∀ s ∈ c.sends, Told s.number → ∀ frame, news = .given frame →
      frame.requestId? = some s.id ∧ frame ∈ c.taken)
    (shut : c'.closed = true → c'.pending = []) : Tracked c' := by
  refine t.changeSends sends (fun s => ?_) (fun s => ?_) table next ?_ ?_ shut
  · split <;> rfl
  · split <;> rfl
  · intro s found entered awaited
    split at awaited
    · cases reply : s.reply with
      | awaited => exact absurd (by rw [← awaited, reply]; rfl) known
      | given frame => rw [reply] at awaited; cases awaited
      | lost => rw [reply] at awaited; cases awaited
    · next unaware =>
      rw [if_neg unaware] at entered
      exact (left s found (t.waiting s found entered awaited)).resolve_left unaware
  · intro s found frame given
    rw [taken]
    split at given
    · next learns =>
      cases reply : s.reply with
      | awaited =>
        rw [reply] at given
        exact proper s found learns frame given
      | given frame' =>
        rw [reply] at given
        cases given
        exact t.given s found frame reply
      | lost => rw [reply] at given; cases given
    · exact t.given s found frame given

theorem remove {news : Reply} (known : news ≠ .awaited) {id : UInt64}
    (proper : ∀ frame, news = .given frame → frame.requestId? = some id ∧ frame ∈ c.taken) :
    Tracked (c.remove news id) := by
  have shut : (c.remove news id).closed = true → (c.remove news id).pending = [] := by
    intro closed
    rw [closed_remove] at closed
    rw [pending_remove, t.shut closed, List.filter_nil]
  have table := pending_remove news id c
  cases entry : c.pending.lookup id with
  | none =>
    have same : c.remove news id = c := by rw [Connection.remove, entry]
    rw [same]
    exact t
  | some w =>
    have removed : c.remove news id =
        ({ c with pending := c.pending.filter (·.1 != id) }).inform news w := by
      rw [Connection.remove, entry]
    refine t.told known (fun number => w = .send number) ?_ ?_ (nextNumber_remove news id c) ?_ ?_ ?_ shut
    · rw [removed, sends_inform]
    · rw [table]
      exact List.filter_sublist
    · rw [removed, taken_inform]
    · intro s found listed
      by_cases mine : s.id = id
      · have here := lookup_of_mem t.keys listed
        rw [mine, entry] at here
        exact .inl (Option.some.inj here)
      · right
        rw [table]
        exact List.mem_filter.mpr ⟨listed, bne_iff_ne.mpr mine⟩
    · intro s found mine frame given
      have listed := mem_of_lookup entry
      rw [mine] at listed
      rw [(t.entries id s.number listed).2 s found rfl]
      exact proper frame given

theorem markClosed : Tracked c.markClosed := by
  refine t.told Reply.noConfusion (fun number => .send number ∈ c.pending.map (·.2))
    (sends_markClosed c) ?_ (nextNumber_markClosed c) (taken_markClosed c) ?_ ?_ ?_
  · rw [pending_markClosed]
    exact List.nil_sublist _
  · intro s found listed
    exact .inl (List.mem_map.mpr ⟨_, listed, rfl⟩)
  · intro s found learns frame impossible
    cases impossible
  · exact fun _ => pending_markClosed c

/-- A party is entered under a number that is free. -/
theorem list {id : UInt64} {w : Waiter} (free : id ∉ c.pending.map (·.1))
    (opened : c.closed = false)
    (mine : ∀ number, w = .send number →
      number < c.nextNumber ∧ ∀ s ∈ c.sends, s.number = number → s.id = id) :
    Tracked { c with pending := (id, w) :: c.pending } :=
  { t with
    keys := List.nodup_cons.mpr ⟨free, t.keys⟩
    entries := by
      intro id' number listed
      rcases List.mem_cons.mp listed with same | listed
      · cases same
        exact mine number rfl
      · exact t.entries id' number listed
    waiting := fun s found entered awaited =>
      List.mem_cons_of_mem _ (t.waiting s found entered awaited)
    shut := by
      intro closed
      exact absurd (opened.symm.trans closed) Bool.false_ne_true }

theorem enter {id : UInt64} {w : Waiter} (opened : c.closed = false)
    (mine : ∀ number, w = .send number →
      number < c.nextNumber ∧ ∀ s ∈ c.sends, s.number = number → s.id = id) :
    Tracked (c.enter id w) := by
  have removed : Tracked (c.remove .lost id) :=
    t.remove Reply.noConfusion fun _ impossible => Reply.noConfusion impossible
  apply removed.list
  · rw [pending_remove]
    intro listed
    obtain ⟨p, kept, same⟩ := List.mem_map.mp listed
    have other := (List.mem_filter.mp kept).2
    simp [same] at other
  · rw [closed_remove, opened]
  · intro number his
    obtain ⟨below, same⟩ := mine number his
    refine ⟨by rwa [nextNumber_remove], fun s' found number' => ?_⟩
    obtain ⟨s, earlier, number'', id', -⟩ := mem_sends_remove found
    rw [← id']
    exact same s earlier (number''.trans number')

theorem dropSend (number : Nat) : Tracked (c.dropSend number) :=
  { t with
    numbered := fun s kept => t.numbered s (List.mem_of_mem_filter kept)
    distinct := t.distinct.sublist (List.filter_sublist.map _)
    entries := by
      intro id number' listed
      obtain ⟨below, mine⟩ := t.entries id number' listed
      exact ⟨below, fun s kept => mine s (List.mem_of_mem_filter kept)⟩
    waiting := fun s kept => t.waiting s (List.mem_of_mem_filter kept)
    given := fun s kept => t.given s (List.mem_of_mem_filter kept) }

/-- A send goes on from its place, in the table by now. -/
theorem setPlace {number : Nat} (place : SendPlace)
    (listed : ∀ s ∈ c.sends, s.number = number →
      s.place ≠ .begun ∨ (s.id, .send s.number) ∈ c.pending) :
    Tracked (c.setPlace number place) := by
  refine t.changeSends rfl (fun s => ?_) (fun s => ?_) (List.Sublist.refl _) rfl ?_ ?_ t.shut
  · split <;> rfl
  · split <;> rfl
  · intro s found entered awaited
    split at awaited
    · next his => exact (listed s found his).elim (fun already => t.waiting s found already awaited) id
    · next other =>
      rw [if_neg other] at entered
      exact t.waiting s found entered awaited
  · intro s found frame given
    split at given <;> exact t.given s found frame given

theorem begin (target : Target) (payload : Text.Bytes) : Tracked (c.begin target payload).1 := by
  have known {s} (found : s ∈ (c.begin target payload).1.sends) :
      s ∈ c.sends ∨ s.number = c.nextNumber ∧ s.place = .begun ∧ s.reply = .awaited := by
    obtain found | found := List.mem_append.mp found
    · exact .inl found
    · obtain rfl := List.mem_singleton.mp found
      exact .inr ⟨rfl, rfl, rfl⟩
  exact { t with
    numbered := by
      intro s found
      show s.number < c.nextNumber + 1
      obtain found | ⟨number, -⟩ := known found
      · exact Nat.lt_succ_of_lt (t.numbered s found)
      · rw [number]
        exact Nat.lt_succ_self _
    distinct := by
      show ((c.sends ++ [_]).map Send.number).Nodup
      rw [List.map_append, List.nodup_append]
      refine ⟨t.distinct, List.nodup_singleton _, ?_⟩
      intro number old number' new
      obtain ⟨s, found, rfl⟩ := List.mem_map.mp old
      obtain rfl := List.mem_singleton.mp new
      exact Nat.ne_of_lt (t.numbered s found)
    entries := by
      intro id number listed
      obtain ⟨below, mine⟩ := t.entries id number listed
      refine ⟨Nat.lt_succ_of_lt below, fun s found his => ?_⟩
      obtain found | ⟨new, -⟩ := known found
      · exact mine s found his
      · exact absurd (his.symm.trans new) (Nat.ne_of_lt below)
    waiting := by
      intro s found entered awaited
      obtain found | ⟨-, begun, -⟩ := known found
      · exact t.waiting s found entered awaited
      · exact absurd begun entered
    given := by
      intro s found frame given
      obtain found | ⟨-, -, awaited⟩ := known found
      · exact t.given s found frame given
      · exact absurd (awaited.symm.trans given) Reply.noConfusion }

theorem take (frame : ServerFrame) (rest : Incoming) :
    Tracked (({ c with incoming := rest, taken := c.taken ++ [frame] }).deliver frame) := by
  have taken : Tracked { c with incoming := rest, taken := c.taken ++ [frame] } :=
    { t with
      given := by
        intro s found frame' given
        obtain ⟨number, earlier⟩ := t.given s found frame' given
        exact ⟨number, List.mem_append_left _ earlier⟩ }
  unfold deliver
  cases number : frame.requestId? with
  | none => exact taken
  | some id =>
    apply taken.remove Reply.noConfusion
    rintro _ ⟨⟩
    exact ⟨number, List.mem_append_right _ List.mem_cons_self⟩

/-- A send is put in the table. -/
theorem enterSend {s : Send} (found : c.send? s.number = some s) (opened : c.closed = false)
    (bytes : Text.Bytes) :
    Tracked ((c.enter s.id (.send s.number)).setPlace s.number (.queueing bytes)) := by
  have there := List.mem_of_find?_eq_some found
  have entered : Tracked (c.enter s.id (.send s.number)) := by
    apply t.enter opened
    rintro _ ⟨⟩
    exact ⟨t.numbered s there, fun s' found' his => by rw [t.same_send found' there his]⟩
  apply entered.setPlace
  intro s' found' his
  right
  have listed : (s.id, .send s.number) ∈ (c.enter s.id (.send s.number)).pending :=
    List.mem_cons_self
  rw [his, (entered.entries s.id s.number listed).2 s' found' his]
  exact listed

end

/-- A send that finds the connection closed was not there. -/
theorem refused_eq {c : Connection} (empty : c.pending = []) (id : UInt64) (number : Nat) :
    ((c.enter id (.send number)).remove .lost id).dropSend number = c.dropSend number := by
  have free : id ∉ c.pending.map (·.1) := by
    rw [empty]
    exact List.not_mem_nil
  rw [enter_fresh free, Connection.remove, empty]
  simp only [List.lookup_cons_self, List.filter_cons, bne_self_eq_false, Bool.false_eq_true,
    if_false, List.filter_nil]
  rw [dropSend_inform]
  obtain ⟨⟩ := c
  cases empty
  rfl

theorem turn {i p : Nat} {c c' : Connection} (t : Tracked c) (turn : Turn i p c c') : Tracked c' := by
  have lost {id} : Tracked (c.remove .lost id) :=
    t.remove Reply.noConfusion fun _ impossible => Reply.noConfusion impossible
  have goesOn {s : Send} (found : c.send? s.number = some s) (entered : s.place ≠ .begun)
      (place : SendPlace) : Tracked (c.setPlace s.number place) := by
    apply t.setPlace
    intro s' found' his
    rw [t.same_send found' (List.mem_of_find?_eq_some found) his]
    exact .inl entered
  cases turn with
  | begun target payload => exact t.begin target payload
  | dropped found begun => exact t.dropSend _
  | refused found begun closed =>
    rw [refused_eq (t.shut closed)]
    exact t.dropSend _
  | entered found begun opened bytes => exact t.enterSend found opened bytes
  | @accepted _ s bytes found queueing runs room =>
    exact { goesOn found (by rw [queueing]; exact SendPlace.noConfusion) .queued with }
  | stays found entered => exact goesOn found entered _
  | left found entered => exact lost.dropSend _
  | came incoming => exact { t with }
  | took runs next => exact t.take _ _
  | @broke _ reading rest runs next =>
    have read : Tracked { c with incoming := rest, readerRuns := false } := { t with }
    exact read.markClosed
  | unqueued runs idle next => exact { t with }
  | wrote count => exact { t with }
  | writeFailed runs => exact { t.markClosed with }
  | @pinged _ h wakes found sleeping opened bytes =>
    have entered : Tracked (c.enter h.id .heartbeat) :=
      t.enter opened fun _ impossible => Waiter.noConfusion impossible
    exact { entered with }
  | unsendable found sleeping opened => exact { t.markClosed with }
  | pingAccepted found queueing runs room deadline => exact { t with }
  | gaveUp found out => exact { t.markClosed with }
  | rested now found awaiting answered => exact { t with }
  | stopped found finds => exact { t with }
  | ended opened => exact { t.markClosed with }

theorem turns {i p : Nat} {c c' : Connection} (t : Tracked c) (turns : Turns i p c c') :
    Tracked c' := by
  induction turns with
  | none => exact t
  | next _ last ih => exact (ih t).turn last

theorem run {c : Connection} (t : Tracked c) (events : List Event) : Tracked (c.run events) := by
  induction events generalizing c with
  | nil => exact t
  | cons e rest ih => exact ih (t.turns (apply_turns e c))

theorem establish (now : Instant) (d : Descriptor) (limit : Nat) (greeting : Text.Bytes)
    (unread : Incoming) : Tracked (establish now d limit greeting unread) where
  numbered := fun _ absent => absurd absent List.not_mem_nil
  distinct := List.nodup_nil
  keys := List.nodup_nil
  entries := fun _ _ absent => absurd absent List.not_mem_nil
  waiting := fun _ absent => absurd absent List.not_mem_nil
  given := fun _ absent => absurd absent List.not_mem_nil
  shut := fun _ => rfl

end Tracked

end Switchboard.Tcp.Connection
