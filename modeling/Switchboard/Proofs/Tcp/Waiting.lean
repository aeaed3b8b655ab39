import Switchboard.Proofs.Tcp.Turn
import Mathlib.Data.List.Nodup

/-!
Who waits for what on a connection. Numbers tell the waiting parties apart as long as the invocations,
which count up, and the pings, which count down, have not met. What the table holds under a number is
the party that waits for that number, and what it is given is a frame with that number.
-/
namespace Switchboard.Tcp.Connection

/-- A party waits for the answer with a number: a send from its beginning to its end, the heartbeat as
long as its ping is under way. -/
def Live (c : Connection) (id : UInt64) : Waiter → Prop
  | .send number => ∃ s ∈ c.sends, s.number = number ∧ s.id = id
  | .heartbeat => ∃ h, c.heartbeat = some h ∧ h.beat.isOut = true ∧ h.id = id

/-- A party is in place to be told the answer with a number. -/
def Awaits (c : Connection) (id : UInt64) : Waiter → Prop
  | .send number => ∃ s ∈ c.sends, s.number = number ∧ s.id = id ∧
      s.place ≠ .begun ∧ s.reply = .awaited
  | .heartbeat => ∃ h, c.heartbeat = some h ∧ h.beat.isOut = true ∧ h.id = id ∧ h.reply = .awaited

/-- News that may reach a party which waits for a number. -/
def Proper (c : Connection) (id : UInt64) : Reply → Prop
  | .awaited => True
  | .given frame => frame.requestId? = some id ∧ frame ∈ c.taken
  | .lost => c.closed = true

/-- The number that a ping has, of so many numbered ones, or that the next one will have. -/
def Counted (pings : Nat) (h : Heartbeat) : Prop :=
  match h.beat with
  | .sleeping _ => h.id.toNat + pings = 0xffffffffffffffff
  | .queueing _ | .awaiting _ => h.id.toNat + pings = 0x10000000000000000
  | .stopped => True

structure Orderly (pings : Nat) (c : Connection) : Prop where
  few : c.nextNumber + pings < 0xffffffffffffffff
  next : c.nextId.toNat = c.nextNumber + 1
  numbered : ∀ s ∈ c.sends, s.number < c.nextNumber ∧ s.id.toNat = s.number + 1
  distinct : (c.sends.map (·.number)).Nodup
  counted : ∀ h, c.heartbeat = some h → Counted pings h
  keys : (c.pending.map (·.1)).Nodup
  entries : ∀ id w, (id, w) ∈ c.pending → c.Awaits id w
  begun : ∀ s ∈ c.sends, s.place = .begun → s.reply = .awaited
  sends : ∀ s ∈ c.sends, c.Proper s.id s.reply
  heartbeat : ∀ h, c.heartbeat = some h → c.Proper h.id h.reply

/-- A party that has been in the table, if it is still there. -/
def Entered (c : Connection) : Waiter → Prop
  | .send number => ∀ s ∈ c.sends, s.number = number → s.place ≠ .begun
  | .heartbeat => True

theorem Awaits.live {c : Connection} {id : UInt64} {w : Waiter} (awaits : c.Awaits id w) :
    c.Live id w := by
  cases w with
  | send number =>
    obtain ⟨s, found, number, same, -⟩ := awaits
    exact ⟨s, found, number, same⟩
  | heartbeat =>
    obtain ⟨h, found, out, same, -⟩ := awaits
    exact ⟨h, found, out, same⟩

theorem Proper.learn {c : Connection} {id : UInt64} {known news : Reply} (proper : c.Proper id known)
    (proper' : c.Proper id news) : c.Proper id (known.learn news) := by
  cases known with
  | awaited => exact proper'
  | given frame => exact proper
  | lost => exact proper

theorem send?_of_distinct {c : Connection} (distinct : (c.sends.map (·.number)).Nodup) {s : Send}
    (found : s ∈ c.sends) : c.send? s.number = some s := by
  have present : (c.send? s.number).isSome := by
    rw [send?, List.find?_isSome]
    exact ⟨s, found, by simp⟩
  obtain ⟨s', found'⟩ := Option.isSome_iff_exists.mp present
  have same := List.inj_on_of_nodup_map distinct (List.mem_of_find?_eq_some found') found
    (number_of_found found')
  rw [found', same]

theorem numbers_map {f : Send → Send} (number : ∀ s, (f s).number = s.number) (sends : List Send) :
    (sends.map f).map (·.number) = sends.map (·.number) := by
  rw [List.map_map]
  exact List.map_congr_left fun s _ => number s

section

variable {pings : Nat} {c : Connection} (o : Orderly pings c)

include o

namespace Orderly

theorem same_send {s s' : Send} (found : s ∈ c.sends) (found' : s' ∈ c.sends)
    (number : s.number = s'.number) : s = s' :=
  List.inj_on_of_nodup_map o.distinct found found' number

theorem send?_of_mem {s : Send} (found : s ∈ c.sends) : c.send? s.number = some s :=
  send?_of_distinct o.distinct found

theorem counted_out {h : Heartbeat} (found : c.heartbeat = some h) (out : h.beat.isOut = true) :
    h.id.toNat + pings = 0x10000000000000000 := by
  have counted := o.counted h found
  unfold Counted at counted
  cases beat : h.beat with
  | sleeping wakes => rw [beat] at out; cases out
  | stopped => rw [beat] at out; cases out
  | queueing bytes => rwa [beat] at counted
  | awaiting deadline => rwa [beat] at counted

theorem live_unique {id : UInt64} {w w' : Waiter} (live : c.Live id w) (live' : c.Live id w') :
    w = w' := by
  have few := o.few
  have send_below {number} (live : c.Live id (.send number)) :
      number < c.nextNumber ∧ id.toNat = number + 1 := by
    obtain ⟨s, found, rfl, rfl⟩ := live
    exact o.numbered s found
  have ping_above (live : c.Live id .heartbeat) : id.toNat + pings = 0x10000000000000000 := by
    obtain ⟨h, found, out, rfl⟩ := live
    exact o.counted_out found out
  cases w with
  | send number =>
    cases w' with
    | send number' =>
      have below := send_below live
      have below' := send_below live'
      have same : number = number' := by omega
      rw [same]
    | heartbeat =>
      have below := send_below live
      have above := ping_above live'
      omega
  | heartbeat =>
    cases w' with
    | send number' =>
      have below := send_below live'
      have above := ping_above live
      omega
    | heartbeat => rfl

theorem send_id {s : Send} (found : s ∈ c.sends) {id : UInt64} (live : c.Live id (.send s.number)) :
    s.id = id := by
  obtain ⟨s', found', number, same⟩ := live
  rw [← same, o.same_send found' found number]

theorem one_id {id id' : UInt64} {w : Waiter} (live : c.Live id w) (live' : c.Live id' w) :
    id = id' := by
  cases w with
  | send number =>
    obtain ⟨s, found, rfl, rfl⟩ := live
    exact o.send_id found live'
  | heartbeat =>
    obtain ⟨h, found, -, rfl⟩ := live
    obtain ⟨h', found', -, rfl⟩ := live'
    rw [found] at found'
    cases found'
    rfl

theorem entered {id : UInt64} {w : Waiter} (entry : (id, w) ∈ c.pending) : c.Entered w := by
  cases w with
  | heartbeat => trivial
  | send number =>
    obtain ⟨s, found, number, -, entered, -⟩ := o.entries id _ entry
    intro s' found' number'
    rw [o.same_send found' found (number'.trans number.symm)]
    exact entered

theorem unlisted {id : UInt64} {w : Waiter} (live : c.Live id w) (off : ¬ c.Awaits id w) :
    id ∉ c.pending.map (·.1) := by
  intro listed
  obtain ⟨⟨_, w'⟩, entry, rfl⟩ := List.mem_map.mp listed
  have awaits := o.entries _ w' entry
  rw [o.live_unique awaits.live live] at awaits
  exact off awaits

theorem dropSend {number : Nat} (unlisted : ∀ id, (id, .send number) ∉ c.pending) :
    Orderly pings (c.dropSend number) :=
  { o with
    numbered := fun s found => o.numbered s (List.mem_of_mem_filter found)
    distinct := o.distinct.sublist (List.filter_sublist.map _)
    begun := fun s found => o.begun s (List.mem_of_mem_filter found)
    sends := fun s found => o.sends s (List.mem_of_mem_filter found)
    entries := by
      intro id w entry
      have awaits := o.entries id w entry
      cases w with
      | heartbeat => exact awaits
      | send k =>
        obtain ⟨s, found, rfl, rest⟩ := awaits
        have other : s.number ≠ number := by
          rintro rfl
          exact unlisted id entry
        exact ⟨s, List.mem_filter.mpr ⟨found, by simpa using other⟩, rfl, rest⟩ }

/-- A change of sends that leaves them their numbers, and leaves what is listed in place to be told. -/
theorem changeSends {f : Send → Send} (number : ∀ s, (f s).number = s.number)
    (same : ∀ s, (f s).id = s.id)
    (begun : ∀ s ∈ c.sends, (f s).place = .begun → s.place = .begun ∧ (f s).reply = s.reply)
    (proper : ∀ s ∈ c.sends, c.Proper s.id (f s).reply)
    (waits : ∀ s ∈ c.sends, ∀ id, (id, .send s.number) ∈ c.pending → s.place ≠ .begun →
      s.reply = .awaited → (f s).place ≠ .begun ∧ (f s).reply = .awaited) :
    Orderly pings { c with sends := c.sends.map f } :=
  { o with
    numbered := by
      intro s found
      obtain ⟨before, earlier, rfl⟩ := List.mem_map.mp found
      rw [number, same]
      exact o.numbered before earlier
    distinct := by
      rw [numbers_map number]
      exact o.distinct
    begun := by
      intro s found place
      obtain ⟨before, earlier, rfl⟩ := List.mem_map.mp found
      obtain ⟨place, reply⟩ := begun before earlier place
      rw [reply]
      exact o.begun before earlier place
    sends := by
      intro s found
      obtain ⟨before, earlier, rfl⟩ := List.mem_map.mp found
      rw [same]
      exact proper before earlier
    entries := by
      intro id w entry
      have awaits := o.entries id w entry
      cases w with
      | heartbeat => exact awaits
      | send k =>
        obtain ⟨s, found, rfl, mine, place, reply⟩ := awaits
        refine ⟨f s, List.mem_map_of_mem found, number s, ?_, waits s found id entry place reply⟩
        rw [same, mine] }

theorem setPlace {number : Nat} {place : SendPlace} (entered : place ≠ .begun) :
    Orderly pings (c.setPlace number place) := by
  apply o.changeSends
  · intro s
    split <;> rfl
  · intro s
    split <;> rfl
  · intro s _ begun
    split at begun
    · exact absurd begun entered
    · rename_i other
      exact ⟨begun, by rw [if_neg other]⟩
  · intro s found
    split <;> exact o.sends s found
  · intro s _ id _ place reply
    split
    · exact ⟨entered, reply⟩
    · exact ⟨place, reply⟩

theorem forget (id : UInt64) :
    Orderly pings { c with pending := c.pending.filter (·.1 != id) } :=
  { o with
    keys := o.keys.sublist (List.filter_sublist.map _)
    entries := fun id' w entry => o.entries id' w (List.mem_of_mem_filter entry) }

theorem inform {news : Reply} {w : Waiter} (unlisted : ∀ id, (id, w) ∉ c.pending)
    (entered : c.Entered w) (send : ∀ s ∈ c.sends, w = .send s.number → c.Proper s.id news)
    (ping : w = .heartbeat → ∀ h, c.heartbeat = some h → c.Proper h.id news) :
    Orderly pings (c.inform news w) := by
  cases w with
  | heartbeat =>
    have told {h} (found : (c.inform news .heartbeat).heartbeat = some h) :
        ∃ before, c.heartbeat = some before ∧ { before with reply := before.reply.learn news } = h := by
      simpa [Connection.inform] using found
    exact { o with
      counted := by
        intro h found
        obtain ⟨before, earlier, rfl⟩ := told found
        exact o.counted before earlier
      heartbeat := by
        intro h found
        obtain ⟨before, earlier, rfl⟩ := told found
        exact (o.heartbeat before earlier).learn (ping rfl before earlier)
      entries := by
        intro id w entry
        cases w with
        | send k => exact o.entries id _ entry
        | heartbeat => exact absurd entry (unlisted id) }
  | send number =>
    apply o.changeSends
    · intro s
      split <;> rfl
    · intro s
      split <;> rfl
    · intro s found begun
      split at begun
      · rename_i mine
        exact absurd begun (entered s found mine)
      · rename_i other
        exact ⟨begun, by rw [if_neg other]⟩
    · intro s found
      split
      · rename_i mine
        exact (o.sends s found).learn (send s found (by rw [mine]))
      · exact o.sends s found
    · intro s _ id entry place reply
      have other : s.number ≠ number := by
        rintro rfl
        exact unlisted id entry
      rw [if_neg other]
      exact ⟨place, reply⟩

/-- A party that waits, and is not in the table yet, is entered. -/
theorem list {id : UInt64} {w : Waiter} (fresh : id ∉ c.pending.map (·.1)) (awaits : c.Awaits id w) :
    Orderly pings { c with pending := (id, w) :: c.pending } :=
  { o with
    keys := List.nodup_cons.mpr ⟨fresh, o.keys⟩
    entries := by
      intro id' w' entry
      obtain same | entry := List.mem_cons.mp entry
      · cases same
        exact awaits
      · exact o.entries id' w' entry }

/-- The heartbeat goes on with no ping of its own in the table. -/
theorem setHeartbeat {numbered : Nat} {h : Heartbeat} (unlisted : ∀ id, (id, .heartbeat) ∉ c.pending)
    (few : c.nextNumber + numbered < 0xffffffffffffffff) (counted : Counted numbered h)
    (proper : c.Proper h.id h.reply) : Orderly numbered { c with heartbeat := some h } :=
  { o with
    few := few
    counted := by
      rintro h' ⟨⟩
      exact counted
    heartbeat := by
      rintro h' ⟨⟩
      exact proper
    entries := by
      intro id w entry
      cases w with
      | send k => exact o.entries id _ entry
      | heartbeat => exact absurd entry (unlisted id) }

theorem unlisted_heartbeat {h : Heartbeat} (found : c.heartbeat = some h)
    (off : h.beat.isOut = false ∨ h.reply ≠ .awaited) (id : UInt64) :
    (id, .heartbeat) ∉ c.pending := by
  intro entry
  obtain ⟨h', found', out, -, reply⟩ := o.entries id _ entry
  rw [found] at found'
  cases found'
  obtain off | off := off
  · rw [off] at out
    cases out
  · exact off reply

theorem stop {numbered : Nat} (unlisted : ∀ id, (id, .heartbeat) ∉ c.pending)
    (few : c.nextNumber + numbered < 0xffffffffffffffff) : Orderly numbered (c.setBeat .stopped) := by
  cases found : c.heartbeat with
  | none =>
    have same : c.setBeat .stopped = c := by
      obtain ⟨⟩ := c
      cases found
      rfl
    rw [same]
    refine { o with few := few, counted := ?_ }
    intro h found'
    rw [found] at found'
    cases found'
  | some h =>
    have stopped : c.setBeat .stopped = { c with heartbeat := some { h with beat := .stopped } } := by
      rw [setBeat, found]
      rfl
    rw [stopped]
    exact o.setHeartbeat unlisted few trivial (o.heartbeat h found)

/-- A ping stays where it is in the table, under way. -/
theorem await {h : Heartbeat} (found : c.heartbeat = some h) (out : h.beat.isOut = true)
    (deadline : Instant) : Orderly pings (c.setBeat (.awaiting deadline)) := by
  have set : c.setBeat (.awaiting deadline) =
      { c with heartbeat := some { h with beat := .awaiting deadline } } := by
    rw [setBeat, found]
    rfl
  have numbered : h.id.toNat + pings = 0x10000000000000000 := o.counted_out found out
  rw [set]
  exact { o with
    counted := by
      rintro h' ⟨⟩
      exact numbered
    heartbeat := by
      rintro h' ⟨⟩
      exact o.heartbeat h found
    entries := by
      intro id w entry
      have awaits := o.entries id w entry
      cases w with
      | send k => exact awaits
      | heartbeat =>
        obtain ⟨h', found', -, same, reply⟩ := awaits
        rw [found] at found'
        cases found'
        exact ⟨_, rfl, rfl, same, reply⟩ }

theorem close : Orderly pings { c with closed := true, pending := [] } := by
  have lost {id : UInt64} {reply : Reply} (proper : c.Proper id reply) :
      ({ c with closed := true, pending := [] } : Connection).Proper id reply := by
    cases reply with
    | awaited => trivial
    | given frame => exact proper
    | lost => rfl
  exact { o with
    keys := List.nodup_nil
    entries := fun id w entry => absurd entry List.not_mem_nil
    sends := fun s found => lost (o.sends s found)
    heartbeat := fun h found => lost (o.heartbeat h found) }

end Orderly

end

theorem Entered.inform {c : Connection} {w : Waiter} (entered : c.Entered w) (news : Reply)
    (told : Waiter) : (c.inform news told).Entered w := by
  cases w with
  | heartbeat => trivial
  | send k =>
    cases told with
    | heartbeat => exact entered
    | send number =>
      intro s found mine
      obtain ⟨earlier, here, rfl⟩ := List.mem_map.mp found
      have place := entered earlier here
      split at mine
      · rename_i his
        rw [if_pos his]
        exact place mine
      · rename_i his
        rw [if_neg his]
        exact place mine

/-- Everybody is told that no answer will come. -/
theorem Orderly.lose {pings : Nat} {c : Connection} (o : Orderly pings c) (closed : c.closed = true)
    (empty : c.pending = []) (ws : List Waiter) (entered : ∀ w ∈ ws, c.Entered w) :
    Orderly pings (ws.foldl (fun c w => c.inform .lost w) c) := by
  induction ws generalizing c with
  | nil => exact o
  | cons w rest ih =>
    have unlisted (id) : (id, w) ∉ c.pending := by
      rw [empty]
      exact List.not_mem_nil
    have told : Orderly pings (c.inform .lost w) :=
      o.inform unlisted (entered w List.mem_cons_self) (fun _ _ _ => closed) (fun _ _ _ => closed)
    have later : ∀ other ∈ rest, (c.inform .lost w).Entered other :=
      fun other listed => (entered other (List.mem_cons_of_mem w listed)).inform .lost w
    refine ih told ?_ ?_ later
    · rw [closed_inform, closed]
    · cases w <;> exact empty

theorem Orderly.markClosed {pings : Nat} {c : Connection} (o : Orderly pings c) :
    Orderly pings c.markClosed := by
  apply o.close.lose rfl rfl
  intro w listed
  obtain ⟨⟨id, _⟩, entry, rfl⟩ := List.mem_map.mp listed
  exact o.entered entry

@[simp] theorem pending_markClosed (c : Connection) : c.markClosed.pending = [] := by
  have told (ws : List Waiter) (c : Connection) :
      (ws.foldl (fun c w => c.inform .lost w) c).pending = c.pending := by
    induction ws generalizing c with
    | nil => rfl
    | cons w rest ih =>
      rw [List.foldl_cons, ih]
      cases w <;> rfl
  exact told _ _

@[simp] theorem nextNumber_inform (news : Reply) (w : Waiter) (c : Connection) :
    (c.inform news w).nextNumber = c.nextNumber := by
  cases w <;> rfl

@[simp] theorem nextNumber_remove (news : Reply) (id : UInt64) (c : Connection) :
    (c.remove news id).nextNumber = c.nextNumber := by
  unfold remove
  cases c.pending.lookup id with
  | none => rfl
  | some w => exact nextNumber_inform news w _

@[simp] theorem nextNumber_markClosed (c : Connection) :
    c.markClosed.nextNumber = c.nextNumber := by
  have told (ws : List Waiter) (c : Connection) :
      (ws.foldl (fun c w => c.inform .lost w) c).nextNumber = c.nextNumber := by
    induction ws generalizing c with
    | nil => rfl
    | cons w rest ih => rw [List.foldl_cons, ih, nextNumber_inform]
  exact told _ _

theorem Orderly.giveUp {pings numbered : Nat} {c : Connection} (o : Orderly pings c)
    (few : c.nextNumber + numbered < 0xffffffffffffffff) : Orderly numbered c.giveUp := by
  refine o.markClosed.stop ?_ ?_
  · intro id
    rw [pending_markClosed]
    exact List.not_mem_nil
  · rw [nextNumber_markClosed]
    exact few

end Switchboard.Tcp.Connection
