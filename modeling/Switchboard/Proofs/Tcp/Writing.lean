import Switchboard.Proofs.Tcp.Pings
import Switchboard.Proofs.Tcp.Closing

/-!
What goes out over a connection is whole frames. Whatever was queued is written in the order of the queue,
each frame once, and only the end of the connection cuts it short. What is queued is the frame of a ping or
of a send, of each send at most once. A send that is refused or given up leaves nothing behind.
-/
namespace Switchboard.Tcp

open Text (Bytes)

/-- What a send asks for, of the events that begin one. -/
def Event.asks? : Event → Option (Target × Bytes)
  | .begin target payload => some (target, payload)
  | _ => none

def Waiter.send? : Waiter → Option Nat
  | .send number => some number
  | .heartbeat => none

/-- What the sends of a run ask for, by their numbers. -/
def askedFor (events : List Event) : List (Target × Bytes) := events.filterMap (·.asks?)

/-- The frames one behind the other. -/
def frames (os : List Outgoing) : Bytes := os.flatMap (·.bytes)

@[simp] theorem frames_append (os more : List Outgoing) : frames (os ++ more) = frames os ++ frames more :=
  List.flatMap_append

theorem frames_cons (o : Outgoing) (os : List Outgoing) : frames (o :: os) = o.bytes ++ frames os :=
  List.flatMap_cons

namespace Connection

/-! ### The order of what is written -/

theorem takeOutgoing_idle {c : Connection} {o : Outgoing} {rest : List Outgoing}
    (runs : c.writerRuns = true) (idle : c.writing = []) (next : c.queue = o :: rest) :
    c.takeOutgoing = { c with queue := rest, writing := o.bytes } := by
  have ready : (c.writerRuns && c.writing.isEmpty) = true := by
    rw [runs, idle]
    rfl
  rw [takeOutgoing, ready, next]

/-- While the writer runs, everything that was queued has been written, is being written or waits in the
queue. When it has stopped, the connection is closed, and what is missing is at the end. -/
structure Carried (greeting : Bytes) (c : Connection) : Prop where
  running : c.writerRuns = true →
    c.written ++ c.writing ++ frames c.queue = greeting ++ frames c.queued
  stopped : c.writerRuns = false →
    c.closed = true ∧ c.writing = [] ∧ c.queue = [] ∧
      ∃ lost, c.written ++ lost = greeting ++ frames c.queued

namespace Carried

variable {greeting : Bytes} {c : Connection} (w : Carried greeting c)

include w

theorem informed {c' : Connection} (informed : Informed c c') : Carried greeting c' where
  running := by
    rw [informed.writerRuns, informed.written, informed.writing, informed.queue, informed.queued]
    exact w.running
  stopped := by
    rw [informed.writerRuns, informed.written, informed.writing, informed.queue, informed.queued]
    intro stops
    obtain ⟨closed, rest⟩ := w.stopped stops
    exact ⟨informed.closed closed, rest⟩

theorem accept (o : Outgoing) (runs : c.writerRuns = true) : Carried greeting (c.accept o) where
  running := by
    intro _
    show c.written ++ c.writing ++ frames (c.queue ++ [o]) = greeting ++ frames (c.queued ++ [o])
    rw [frames_append, frames_append, ← List.append_assoc, w.running runs, List.append_assoc]
  stopped stops := absurd (runs.symm.trans stops) Bool.noConfusion

theorem unqueue {o : Outgoing} {rest : List Outgoing} (runs : c.writerRuns = true)
    (idle : c.writing = []) (next : c.queue = o :: rest) :
    Carried greeting { c with queue := rest, writing := o.bytes } where
  running := by
    intro _
    have before := w.running runs
    rw [idle, next, List.append_nil, frames_cons, ← List.append_assoc] at before
    exact before
  stopped stops := absurd (runs.symm.trans stops) Bool.noConfusion

theorem write (count : Nat) : Carried greeting (c.write count) where
  running := by
    intro runs
    show c.written ++ c.writing.take count ++ c.writing.drop count ++ frames c.queue = _
    rw [List.append_assoc c.written, List.take_append_drop]
    exact w.running runs
  stopped := by
    intro stops
    obtain ⟨closed, idle, empty, lost, missing⟩ := w.stopped stops
    refine ⟨closed, ?_, empty, lost, ?_⟩
    · show c.writing.drop count = []
      rw [idle, List.drop_nil]
    · show c.written ++ c.writing.take count ++ lost = _
      rw [idle, List.take_nil, List.append_nil]
      exact missing

theorem stopWriter (closed : c.closed = true) : Carried greeting c.stopWriter where
  running runs := absurd runs Bool.false_ne_true
  stopped := by
    intro _
    refine ⟨closed, rfl, rfl, ?_⟩
    cases runs : c.writerRuns with
    | true => exact ⟨c.writing ++ frames c.queue, by rw [← List.append_assoc]; exact w.running runs⟩
    | false =>
      obtain ⟨-, -, -, missing⟩ := w.stopped runs
      exact missing

theorem turn {i p : Nat} {c' : Connection} (turn : Turn i p c c') : Carried greeting c' := by
  have closed : Carried greeting c.markClosed := w.informed (informed_markClosed c)
  cases turn with
  | begun => exact { w with }
  | dropped => exact { w with }
  | refused => exact { (w.informed (informed_enter _ _ c)).informed (informed_remove .lost _ _) with }
  | @entered _ s => exact { w.informed (informed_enter s.id (.send s.number) c) with }
  | accepted _ _ runs => exact { w.accept _ runs with }
  | stays => exact { w with }
  | left => exact { w.informed (informed_remove .lost _ c) with }
  | came => exact { w with }
  | @took _ frame rest =>
    have taken : Carried greeting { c with incoming := rest, taken := c.taken ++ [frame] } := { w with }
    exact taken.informed (informed_deliver frame _)
  | @broke _ reading rest =>
    have read : Carried greeting { c with incoming := rest, readerRuns := false } := { w with }
    exact read.informed (informed_markClosed _)
  | unqueued runs idle next => exact w.unqueue runs idle next
  | wrote count => exact w.write count
  | writeFailed => exact closed.stopWriter (closed_markClosed c)
  | @pinged _ h => exact { w.informed (informed_enter h.id .heartbeat c) with }
  | unsendable => exact { closed with }
  | pingAccepted _ _ runs => exact { w.accept _ runs with }
  | gaveUp => exact { closed with }
  | rested => exact { w with }
  | stopped => exact { w with }
  | ended => exact { closed.stopWriter (closed_markClosed c) with }

theorem turns {i p : Nat} {c' : Connection} (turns : Turns i p c c') : Carried greeting c' := by
  induction turns with
  | none => exact w
  | next _ last ih => exact (ih w).turn last

theorem run (events : List Event) : Carried greeting (c.run events) := by
  induction events generalizing c with
  | nil => exact w
  | cons e rest ih => exact ih (w.turns (apply_turns e c))

/-- Nothing but its end keeps a connection from writing all that is queued. -/
theorem runs (opened : c.closed = false) : c.writerRuns = true := by
  by_contra stops
  have closed := (w.stopped (Bool.eq_false_iff.mpr stops)).1
  exact Bool.false_ne_true (opened.symm.trans closed)

theorem drains (runs : c.writerRuns = true) :
    ∃ more, (c.run more).written = greeting ++ frames c.queued := by
  induction waits : c.queue generalizing c with
  | nil =>
    refine ⟨[.write c.writing.length], ?_⟩
    have all := w.running runs
    rw [waits] at all
    show c.written ++ c.writing.take c.writing.length = _
    rw [List.take_length, ← all]
    exact (List.append_nil _).symm
  | cons o rest ih =>
    have idle : (c.write c.writing.length).writing = [] := List.drop_length
    obtain ⟨more, written⟩ := ih ((w.write c.writing.length).unqueue runs idle waits) runs rfl
    refine ⟨.write c.writing.length :: .takeOutgoing :: more, ?_⟩
    show (((c.write c.writing.length).takeOutgoing).run more).written = _
    rw [takeOutgoing_idle (c := c.write c.writing.length) runs idle waits]
    exact written

end Carried

theorem Carried.establish (now : Instant) (d : Descriptor) (limit : Nat) (greeting : Bytes)
    (unread : Incoming) : Carried greeting (establish now d limit greeting unread) where
  running _ := List.append_nil _
  stopped := nofun

/-! ### The table, and what sends have queued -/

def queuedSends (c : Connection) : List Nat := c.queued.filterMap (·.origin.send?)

theorem mem_queuedSends {c : Connection} {number : Nat} :
    number ∈ c.queuedSends ↔ ∃ o ∈ c.queued, o.origin = .send number := by
  have origin (o : Outgoing) : o.origin.send? = some number ↔ o.origin = .send number := by
    cases o.origin <;> simp [Waiter.send?]
  simp [queuedSends, origin]

/-- Sends that have only begun are not in the table and have been told nothing. -/
structure Filed (c : Connection) : Prop where
  listed : ∀ id number, (id, .send number) ∈ c.pending →
    ∃ s ∈ c.sends, s.number = number ∧ s.place ≠ .begun
  fresh : ∀ s ∈ c.sends, s.place = .begun → s.reply = .awaited

/-- What sends have asked for and what they have queued, by their numbers. -/
structure Booked (asked : List (Target × Bytes)) (c : Connection) : Prop where
  count : c.nextNumber = asked.length
  next : c.nextId = UInt64.ofNat (asked.length + 1)
  sends : ∀ s ∈ c.sends, asked[s.number]? = some (s.target, s.payload) ∧
    s.id = UInt64.ofNat (s.number + 1)
  queueing : ∀ s ∈ c.sends, ∀ bytes, s.place = .queueing bytes →
    Frame.encode c.limit (.invoke s.id s.target s.payload : ClientFrame) = .ok bytes
  queued : ∀ o ∈ c.queued, ∀ number, o.origin = .send number → ∃ target payload,
    asked[number]? = some (target, payload) ∧ o.id = UInt64.ofNat (number + 1) ∧
      Frame.encode c.limit (.invoke o.id target payload : ClientFrame) = .ok o.bytes
  once : c.queuedSends.Nodup
  unqueued : ∀ s ∈ c.sends, s.place ≠ .queued → s.number ∉ c.queuedSends

theorem setPlace_self {c : Connection} (t : Tracked c) {s : Send} (found : c.send? s.number = some s) :
    c.setPlace s.number s.place = c := by
  have same : (c.sends.map fun s' => if s'.number = s.number then { s' with place := s.place } else s') =
      c.sends := by
    refine (List.map_congr_left fun s' there => ?_).trans (List.map_id _)
    by_cases his : s'.number = s.number
    · rw [if_pos his, t.same_send there (List.mem_of_find?_eq_some found) his, id]
    · rw [if_neg his, id]
  rw [setPlace, same]

theorem mem_setPlace {c : Connection} {number : Nat} {place : SendPlace} {s' : Send}
    (found : s' ∈ (c.setPlace number place).sends) :
    ∃ s ∈ c.sends, (s.number = number ∧ s' = { s with place := place }) ∨
      (s.number ≠ number ∧ s' = s) := by
  obtain ⟨s, there, rfl⟩ := List.mem_map.mp found
  refine ⟨s, there, ?_⟩
  by_cases his : s.number = number
  · exact .inl ⟨his, by rw [if_pos his]⟩
  · exact .inr ⟨his, by rw [if_neg his]⟩

namespace Booked

variable {asked : List (Target × Bytes)} {c : Connection} (b : Booked asked c)

include b

theorem informed {c' : Connection} (informed : Informed c c') : Booked asked c' := by
  have numbers : c'.queuedSends = c.queuedSends := by rw [queuedSends, informed.queued, queuedSends]
  constructor
  · exact informed.nextNumber.trans b.count
  · exact informed.nextId.trans b.next
  · intro s' found
    obtain ⟨s, there, number, id, target, payload, -⟩ := informed.send found
    rw [← number, ← id, ← target, ← payload]
    exact b.sends s there
  · intro s' found bytes queueing
    obtain ⟨s, there, -, id, target, payload, place⟩ := informed.send found
    rw [informed.limit, ← id, ← target, ← payload]
    exact b.queueing s there bytes (place.trans queueing)
  · rw [informed.queued, informed.limit]
    exact b.queued
  · rw [numbers]
    exact b.once
  · intro s' found waits
    obtain ⟨s, there, number, -, -, -, place⟩ := informed.send found
    rw [numbers, ← number]
    exact b.unqueued s there (place ▸ waits)

theorem dropSend (number : Nat) : Booked asked (c.dropSend number) :=
  { b with
    sends := fun s kept => b.sends s (List.mem_of_mem_filter kept)
    queueing := fun s kept => b.queueing s (List.mem_of_mem_filter kept)
    unqueued := fun s kept => b.unqueued s (List.mem_of_mem_filter kept) }

/-- A send goes on to wait for room with its frame. -/
theorem wait {number : Nat} {bytes : Bytes}
    (sent : ∀ s ∈ c.sends, s.number = number →
      Frame.encode c.limit (.invoke s.id s.target s.payload : ClientFrame) = .ok bytes)
    (unqueued : number ∉ c.queuedSends) : Booked asked (c.setPlace number (.queueing bytes)) :=
  { b with
    sends := by
      intro s' found
      obtain ⟨s, there, ⟨-, rfl⟩ | ⟨-, rfl⟩⟩ := mem_setPlace found
      · exact b.sends s there
      · exact b.sends _ there
    queueing := by
      intro s' found bytes' queueing
      obtain ⟨s, there, ⟨his, rfl⟩ | ⟨-, rfl⟩⟩ := mem_setPlace found
      · cases queueing
        exact sent s there his
      · exact b.queueing _ there bytes' queueing
    unqueued := by
      intro s' found waits
      obtain ⟨s, there, ⟨rfl, rfl⟩ | ⟨-, rfl⟩⟩ := mem_setPlace found
      · exact unqueued
      · exact b.unqueued _ there waits }

/-- The frame of a send is queued. -/
theorem accept {s : Send} (found : s ∈ c.sends) {bytes : Bytes}
    (queueing : s.place = .queueing bytes) :
    Booked asked ((c.accept ⟨.send s.number, s.id, bytes⟩).setPlace s.number .queued) := by
  have numbers : ((c.accept ⟨.send s.number, s.id, bytes⟩).setPlace s.number .queued).queuedSends =
      c.queuedSends ++ [s.number] := List.filterMap_append
  have waits : s.place ≠ .queued := by
    rw [queueing]
    exact SendPlace.noConfusion
  obtain ⟨asks, id⟩ := b.sends s found
  refine ⟨b.count, b.next, ?_, ?_, ?_, ?_, ?_⟩
  · intro s' found'
    obtain ⟨s, there, ⟨-, rfl⟩ | ⟨-, rfl⟩⟩ := mem_setPlace found'
    · exact b.sends s there
    · exact b.sends _ there
  · intro s' found' bytes' queueing'
    obtain ⟨s, there, ⟨-, rfl⟩ | ⟨-, rfl⟩⟩ := mem_setPlace found'
    · cases queueing'
    · exact b.queueing _ there bytes' queueing'
  · intro o listed number origin
    rcases List.mem_append.mp listed with earlier | new
    · exact b.queued o earlier number origin
    · obtain rfl := List.mem_singleton.mp new
      cases origin
      exact ⟨s.target, s.payload, asks, id, b.queueing s found bytes queueing⟩
  · rw [numbers, ← List.concat_eq_append]
    exact b.once.concat (b.unqueued s found waits)
  · intro s' found' waits'
    rw [numbers]
    obtain ⟨s₁, there, ⟨-, rfl⟩ | ⟨other, rfl⟩⟩ := mem_setPlace found'
    · exact absurd rfl waits'
    · intro listed
      rcases List.mem_append.mp listed with earlier | new
      · exact b.unqueued _ there waits' earlier
      · exact other (List.mem_singleton.mp new)

theorem acceptPing (id : UInt64) (bytes : Bytes) : Booked asked (c.accept ⟨.heartbeat, id, bytes⟩) := by
  have numbers : (c.accept ⟨.heartbeat, id, bytes⟩).queuedSends = c.queuedSends :=
    List.filterMap_append.trans (List.append_nil _)
  refine ⟨b.count, b.next, b.sends, b.queueing, ?_, ?_, ?_⟩
  · intro o listed number origin
    rcases List.mem_append.mp listed with earlier | new
    · exact b.queued o earlier number origin
    · rw [List.mem_singleton.mp new] at origin
      cases origin
  · rw [numbers]
    exact b.once
  · rw [numbers]
    exact b.unqueued

theorem turn (t : Tracked c) {p : Nat} {c' : Connection} (turn : Turn 0 p c c') : Booked asked c' := by
  have closed : Booked asked c.markClosed := b.informed (informed_markClosed c)
  cases turn with
  | dropped => exact b.dropSend _
  | refused =>
    exact ((b.informed (informed_enter _ _ c)).informed (informed_remove .lost _ _)).dropSend _
  | @entered _ s found begun _ bytes sent =>
    have informed := informed_enter s.id (.send s.number) c
    refine (b.informed informed).wait ?_ ?_
    · intro s' found' number
      obtain ⟨s₁, there, number', id, target, payload, -⟩ := informed.send found'
      have same := t.same_send there (List.mem_of_find?_eq_some found) (number'.trans number)
      rw [informed.limit, ← id, ← target, ← payload, same]
      exact sent
    · rw [queuedSends, informed.queued]
      refine b.unqueued s (List.mem_of_find?_eq_some found) ?_
      rw [begun]
      exact SendPlace.noConfusion
  | accepted found queueing => exact b.accept (List.mem_of_find?_eq_some found) queueing
  | stays found =>
    rw [setPlace_self t found]
    exact b
  | left => exact (b.informed (informed_remove .lost _ c)).dropSend _
  | came => exact { b with }
  | @took _ frame rest =>
    have taken : Booked asked { c with incoming := rest, taken := c.taken ++ [frame] } := { b with }
    exact taken.informed (informed_deliver frame _)
  | @broke _ reading rest =>
    have read : Booked asked { c with incoming := rest, readerRuns := false } := { b with }
    exact read.informed (informed_markClosed _)
  | unqueued => exact { b with }
  | wrote => exact { b with }
  | writeFailed => exact { closed with }
  | @pinged _ h => exact { b.informed (informed_enter h.id .heartbeat c) with }
  | unsendable => exact { closed with }
  | pingAccepted => exact { b.acceptPing _ _ with }
  | gaveUp => exact { closed with }
  | rested => exact { b with }
  | stopped => exact { b with }
  | ended => exact { closed with }

theorem begin (target : Target) (payload : Bytes) :
    Booked (asked ++ [(target, payload)]) (c.begin target payload).1 := by
  have earlier {number : Nat} {p : Target × Bytes} (there : asked[number]? = some p) :
      (asked ++ [(target, payload)])[number]? = some p :=
    (List.getElem?_append_left (List.getElem?_eq_some_iff.mp there).1).trans there
  have known {s} (found : s ∈ (c.begin target payload).1.sends) : s ∈ c.sends ∨
      s = { number := c.nextNumber, id := c.nextId, target := target, payload := payload } :=
    (List.mem_append.mp found).imp_right List.mem_singleton.mp
  refine ⟨?_, ?_, ?_, ?_, ?_, b.once, ?_⟩
  · show c.nextNumber + 1 = _
    rw [b.count, List.length_append, List.length_singleton]
  · show c.nextId + 1 = _
    rw [b.next, List.length_append, List.length_singleton, UInt64.ofNat_add (asked.length + 1)]
    rfl
  · intro s found
    rcases known found with old | rfl
    · exact ⟨earlier (b.sends s old).1, (b.sends s old).2⟩
    · refine ⟨?_, ?_⟩
      · show (asked ++ [(target, payload)])[c.nextNumber]? = _
        rw [b.count, List.getElem?_concat_length]
      · show c.nextId = UInt64.ofNat (c.nextNumber + 1)
        rw [b.next, b.count]
  · intro s found bytes queueing
    rcases known found with old | rfl
    · exact b.queueing s old bytes queueing
    · cases queueing
  · intro o listed number origin
    obtain ⟨target', payload', asks, rest⟩ := b.queued o listed number origin
    exact ⟨target', payload', earlier asks, rest⟩
  · intro s found waits listed
    rcases known found with old | rfl
    · exact b.unqueued s old waits listed
    · obtain ⟨o, there, origin⟩ := mem_queuedSends.mp listed
      obtain ⟨_, _, asks, -⟩ := b.queued o there _ origin
      exact absurd b.count (Nat.ne_of_lt (List.getElem?_eq_some_iff.mp asks).1)

theorem turns (t : Tracked c) {p : Nat} {c' : Connection} (turns : Turns 0 p c c') :
    Booked asked c' := by
  generalize none : 0 = i at turns
  induction turns with
  | none => exact b
  | @next i j _ _ _ c₁ _ before last ih =>
    obtain ⟨rfl, rfl⟩ : i = 0 ∧ j = 0 := by omega
    exact (ih b t rfl).turn (t.turns before) last

theorem apply (t : Tracked c) (e : Event) : Booked (asked ++ e.asks?.toList) (e.apply c) := by
  cases asks : e.asks? with
  | some p =>
    cases e with
    | begin target payload =>
      cases asks
      exact b.begin target payload
    | _ => cases asks
  | none =>
    have turns := apply_turns e c
    have begins : e.invocations = 0 := by
      cases e with
      | begin => cases asks
      | _ => rfl
    rw [begins] at turns
    simpa using b.turns t turns

theorem run (t : Tracked c) (events : List Event) :
    Booked (asked ++ askedFor events) (c.run events) := by
  induction events generalizing c asked with
  | nil =>
    rw [askedFor, List.filterMap_nil, List.append_nil]
    exact b
  | cons e rest ih =>
    have later := ih (b.apply t e) (t.turns (apply_turns e c))
    have goesOn : askedFor (e :: rest) = e.asks?.toList ++ askedFor rest := by
      cases asks : e.asks? <;> simp [askedFor, asks]
    rw [goesOn, ← List.append_assoc]
    exact later

end Booked

theorem Booked.establish (now : Instant) (d : Descriptor) (limit : Nat) (greeting : Bytes)
    (unread : Incoming) : Booked [] (establish now d limit greeting unread) where
  count := rfl
  next := rfl
  sends := nofun
  queueing := nofun
  queued := nofun
  once := .nil
  unqueued := nofun

namespace Filed

variable {c : Connection} (f : Filed c)

include f

theorem entered (t : Tracked c) {id : UInt64} {w : Waiter} (listed : (id, w) ∈ c.pending) :
    c.Entered w := by
  cases w with
  | heartbeat => trivial
  | send number =>
    obtain ⟨s, there, number, place⟩ := f.listed id _ listed
    intro s' there' number'
    rw [t.same_send there' there (number'.trans number.symm)]
    exact place

theorem forget {pending : List (UInt64 × Waiter)} (fewer : ∀ entry ∈ pending, entry ∈ c.pending) :
    Filed { c with pending := pending } :=
  ⟨fun id number listed => f.listed id number (fewer _ listed), f.fresh⟩

theorem inform {w : Waiter} (entered : c.Entered w) (news : Reply) : Filed (c.inform news w) := by
  cases w with
  | heartbeat => exact ⟨f.listed, f.fresh⟩
  | send k =>
    constructor
    · intro id number listed
      obtain ⟨s, there, number, place⟩ := f.listed id number listed
      refine ⟨_, List.mem_map_of_mem there, ?_, ?_⟩ <;> split <;> assumption
    · intro s' found begun
      obtain ⟨s, there, rfl⟩ := List.mem_map.mp found
      by_cases his : s.number = k
      · rw [if_pos his] at begun
        exact absurd begun (entered s there his)
      · rw [if_neg his] at begun ⊢
        exact f.fresh s there begun

theorem foldl {ws : List Waiter} (entered : ∀ w ∈ ws, c.Entered w) (news : Reply) :
    Filed (ws.foldl (fun c w => c.inform news w) c) := by
  induction ws generalizing c with
  | nil => exact f
  | cons w rest ih =>
    exact ih (f.inform (entered w List.mem_cons_self) news)
      fun other later => (entered other (List.mem_cons_of_mem w later)).inform news w

theorem remove (t : Tracked c) (news : Reply) (id : UInt64) : Filed (c.remove news id) := by
  unfold Connection.remove
  cases entry : c.pending.lookup id with
  | none => exact f
  | some w =>
    have entered : c.Entered w := f.entered t (mem_of_lookup entry)
    exact (f.forget fun _ => List.mem_of_mem_filter).inform entered news

theorem markClosed (t : Tracked c) : Filed c.markClosed := by
  have emptied : Filed { c with closed := true, pending := [] } := ⟨nofun, f.fresh⟩
  refine emptied.foldl ?_ .lost
  intro w listed
  obtain ⟨⟨id, _⟩, entry, rfl⟩ := List.mem_map.mp listed
  exact f.entered t entry

theorem setPlace {place : SendPlace} (goesOn : place ≠ .begun) (number : Nat) :
    Filed (c.setPlace number place) := by
  constructor
  · intro id k listed
    obtain ⟨s, there, mine, entered⟩ := f.listed id k listed
    refine ⟨_, List.mem_map_of_mem there, ?_, ?_⟩ <;> split <;> assumption
  · intro s' found begun
    obtain ⟨s, there, ⟨-, rfl⟩ | ⟨-, rfl⟩⟩ := mem_setPlace found
    · exact absurd begun goesOn
    · exact f.fresh _ there begun

/-- A send is put in the table, and waits for room. -/
theorem enter (t : Tracked c) {s : Send} (found : c.send? s.number = some s) (bytes : Bytes) :
    Filed ((c.enter s.id (.send s.number)).setPlace s.number (.queueing bytes)) := by
  have waits : SendPlace.queueing bytes ≠ .begun := SendPlace.noConfusion
  have removed := (f.remove t .lost s.id).setPlace waits s.number
  refine ⟨?_, removed.fresh⟩
  intro id number listed
  rcases List.mem_cons.mp listed with new | old
  · cases new
    obtain ⟨reply, there⟩ := send?_enter found s.id (.send s.number)
    exact ⟨_, List.mem_map_of_mem (List.mem_of_find?_eq_some there), by simp, by simp⟩
  · exact removed.listed id number old

/-- A send leaves together with its entry. -/
theorem dropSend {number : Nat} (unlisted : ∀ id, (id, .send number) ∉ c.pending) :
    Filed (c.dropSend number) := by
  refine ⟨?_, fun s kept => f.fresh s (List.mem_of_mem_filter kept)⟩
  intro id k listed
  obtain ⟨s, there, rfl, place⟩ := f.listed id k listed
  refine ⟨s, List.mem_filter.mpr ⟨there, ?_⟩, rfl, place⟩
  rw [bne_iff_ne]
  rintro rfl
  exact unlisted id listed

theorem unlisted (t : Tracked c) {s : Send} (found : s ∈ c.sends) (begun : s.place = .begun)
    (id : UInt64) : (id, .send s.number) ∉ c.pending := by
  intro listed
  exact f.entered t listed s found rfl begun

theorem turn (t : Tracked c) {i p : Nat} {c' : Connection} (turn : Turn i p c c') : Filed c' := by
  cases turn with
  | begun target payload =>
    constructor
    · intro id number listed
      obtain ⟨s, there, rest⟩ := f.listed id number listed
      exact ⟨s, List.mem_append_left _ there, rest⟩
    · intro s found begun
      rcases List.mem_append.mp found with old | new
      · exact f.fresh s old begun
      · rw [List.mem_singleton.mp new]
  | dropped found begun => exact f.dropSend (f.unlisted t (List.mem_of_find?_eq_some found) begun)
  | refused found begun closed =>
    rw [Tracked.refused_eq (t.shut closed)]
    exact f.dropSend (f.unlisted t (List.mem_of_find?_eq_some found) begun)
  | entered found => exact f.enter t found _
  | @accepted _ s bytes =>
    have accepted : Filed (c.accept ⟨.send s.number, s.id, bytes⟩) := ⟨f.listed, f.fresh⟩
    exact accepted.setPlace SendPlace.noConfusion s.number
  | stays _ entered => exact f.setPlace entered _
  | @left _ s found =>
    refine (f.remove t .lost s.id).dropSend fun id listed => ?_
    rw [pending_remove] at listed
    obtain ⟨listed, other⟩ := List.mem_filter.mp listed
    have same := (t.entries id s.number listed).2 s (List.mem_of_find?_eq_some found) rfl
    exact absurd same.symm (bne_iff_ne.mp other)
  | came => exact ⟨f.listed, f.fresh⟩
  | @took _ frame rest =>
    have taken : Filed { c with incoming := rest, taken := c.taken ++ [frame] } := ⟨f.listed, f.fresh⟩
    unfold deliver
    split
    · exact taken
    · exact taken.remove { t with given := fun s there frame' given =>
        (t.given s there frame' given).imp_right (List.mem_append_left _) } _ _
  | @broke _ reading rest =>
    have read : Filed { c with incoming := rest, readerRuns := false } := ⟨f.listed, f.fresh⟩
    exact read.markClosed { t with }
  | unqueued => exact ⟨f.listed, f.fresh⟩
  | wrote => exact ⟨f.listed, f.fresh⟩
  | writeFailed => exact { f.markClosed t with }
  | @pinged _ h =>
    have removed := f.remove t .lost h.id
    refine ⟨?_, removed.fresh⟩
    intro id number listed
    rcases List.mem_cons.mp listed with new | old
    · cases new
    · exact removed.listed id number old
  | unsendable => exact { f.markClosed t with }
  | pingAccepted => exact ⟨f.listed, f.fresh⟩
  | gaveUp => exact { f.markClosed t with }
  | rested => exact ⟨f.listed, f.fresh⟩
  | stopped => exact ⟨f.listed, f.fresh⟩
  | ended => exact { f.markClosed t with }

theorem turns (t : Tracked c) {i p : Nat} {c' : Connection} (turns : Turns i p c c') : Filed c' := by
  induction turns with
  | none => exact f
  | next before last ih => exact (ih f t).turn (t.turns before) last

theorem run (t : Tracked c) (events : List Event) : Filed (c.run events) := by
  induction events generalizing c with
  | nil => exact f
  | cons e rest ih => exact ih (f.turns t (apply_turns e c)) (t.turns (apply_turns e c))

end Filed

theorem Filed.establish (now : Instant) (d : Descriptor) (limit : Nat) (greeting : Bytes)
    (unread : Incoming) : Filed (establish now d limit greeting unread) where
  listed := nofun
  fresh := nofun

end Connection

end Switchboard.Tcp
