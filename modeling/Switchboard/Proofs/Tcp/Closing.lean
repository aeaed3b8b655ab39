import Switchboard.Proofs.Tcp.Replies
import Switchboard.Proofs.Tcp.Tracked

/-!
Closing strands nobody. A connection that is closed stays closed and has nobody in its table. A send
that waits for an answer then has been told: it ends with the answer that it was given before, or with
the news that the connection is closed. A send that begins later ends in its first step, and neither its
frame nor its number gets anywhere. Only a frame over the limit is refused for that reason, closed or not.
-/
namespace Switchboard.Tcp

open Text (Bytes)

/-- What a send that is queued returns when no more answers come. -/
def Send.ending (s : Send) : Except TransportError Bytes :=
  match s.reply with
  | .given frame => Connection.invocationReply frame
  | _ => .error Connection.closedWhileWaiting

/-- Why a send that begins on a closed connection is refused. -/
def Send.refusal (s : Send) (limit : Nat) : TransportError :=
  let length := (Frame.body (.invoke s.id s.target s.payload : ClientFrame)).length
  if limit < length then .invalidRequest (Frame.tooLarge length limit) else Connection.alreadyClosed

namespace Connection

/-! ### Steps of sends -/

section

variable {c : Connection} {s : Send}

end

/-! ### After closing -/

/-- What a closed connection may become: whoever was in it has been told nothing new, and whoever came
later has got no further than to begin. -/
structure Since (c c' : Connection) : Prop where
  closed : c'.closed = true
  counted : c.nextNumber ≤ c'.nextNumber
  known : ∀ s' ∈ c'.sends, s'.number < c.nextNumber → ∃ s ∈ c.sends, s.number = s'.number ∧
    s.id = s'.id ∧ s.reply = s'.reply ∧ (s.place = .begun ↔ s'.place = .begun)
  new : ∀ s' ∈ c'.sends, c.nextNumber ≤ s'.number → s'.place = .begun
  queued : ∀ o ∈ c'.queued, ∀ number, o.origin = .send number →
    o ∈ c.queued ∨ ∃ s ∈ c.sends, s.number = number ∧ s.place ≠ .begun

theorem remove_of_empty {c : Connection} (empty : c.pending = []) (news : Reply) (id : UInt64) :
    c.remove news id = c := by
  rw [remove, empty, List.lookup_nil]

theorem markClosed_of_empty {c : Connection} (closed : c.closed = true) (empty : c.pending = []) :
    c.markClosed = c := by
  obtain ⟨⟩ := c
  cases closed
  cases empty
  rfl

namespace Since

theorem refl {c : Connection} (t : Tracked c) (closed : c.closed = true) : Since c c where
  closed := closed
  counted := Nat.le_refl _
  known := fun s found _ => ⟨s, found, rfl, rfl, rfl, Iff.rfl⟩
  new := fun s found late => absurd (t.numbered s found) (Nat.not_lt.mpr late)
  queued := fun _ listed _ _ => .inl listed

section

variable {c c' : Connection} (since : Since c c')

include since

theorem aside {c'' : Connection} (closed : c''.closed = c'.closed)
    (counted : c''.nextNumber = c'.nextNumber) (sends : c''.sends = c'.sends)
    (queued : c''.queued = c'.queued) : Since c c'' where
  closed := closed.trans since.closed
  counted := counted ▸ since.counted
  known := sends ▸ since.known
  new := sends ▸ since.new
  queued := queued ▸ since.queued

theorem dropSend (number : Nat) : Since c (c'.dropSend number) :=
  { since with
    known := fun s' kept => since.known s' (List.mem_of_mem_filter kept)
    new := fun s' kept => since.new s' (List.mem_of_mem_filter kept) }

/-- A send that was entered is one of the old ones. -/
theorem old {s' : Send} (found : s' ∈ c'.sends) (entered : s'.place ≠ .begun) :
    ∃ s ∈ c.sends, s.number = s'.number ∧ s.place ≠ .begun := by
  have early : s'.number < c.nextNumber := by
    by_contra late
    exact entered (since.new s' found (Nat.not_lt.mp late))
  obtain ⟨s, there, number, -, -, place⟩ := since.known s' found early
  exact ⟨s, there, number, mt place.mp entered⟩

theorem setPlace (t : Tracked c') {s' : Send} (found : s' ∈ c'.sends) (entered : s'.place ≠ .begun)
    {place : SendPlace} (goesOn : place ≠ .begun) : Since c (c'.setPlace s'.number place) := by
  have before {s''} (there : s'' ∈ (c'.setPlace s'.number place).sends) : ∃ s ∈ c'.sends,
      s.number = s''.number ∧ s.id = s''.id ∧ s.reply = s''.reply ∧
        (s.place = .begun ↔ s''.place = .begun) := by
    obtain ⟨s, earlier, rfl⟩ := List.mem_map.mp there
    refine ⟨s, earlier, ?_⟩
    split
    · rename_i same
      rw [t.same_send earlier found same]
      exact ⟨rfl, rfl, rfl, iff_of_false entered goesOn⟩
    · exact ⟨rfl, rfl, rfl, Iff.rfl⟩
  exact { since with
    known := by
      intro s'' there early
      obtain ⟨s, earlier, number, id, reply, begun⟩ := before there
      obtain ⟨first, inPlace, number', id', reply', begun'⟩ :=
        since.known s earlier (number ▸ early)
      exact ⟨first, inPlace, number'.trans number, id'.trans id, reply'.trans reply,
        begun'.trans begun⟩
    new := by
      intro s'' there late
      obtain ⟨s, earlier, number, -, -, begun⟩ := before there
      exact begun.mp (since.new s earlier (number ▸ late)) }

theorem accept (o : Outgoing)
    (origin : ∀ number, o.origin = .send number → ∃ s ∈ c.sends, s.number = number ∧ s.place ≠ .begun) :
    Since c (c'.accept o) :=
  { since with
    queued := by
      intro o' listed number his
      rcases List.mem_append.mp listed with earlier | new
      · exact since.queued o' earlier number his
      · rw [List.mem_singleton.mp new] at his
        exact .inr (origin number his) }

theorem begin (target : Target) (payload : Bytes) : Since c (c'.begin target payload).1 :=
  { since with
    counted := Nat.le_succ_of_le since.counted
    known := by
      intro s' found early
      obtain found | found := List.mem_append.mp found
      · exact since.known s' found early
      · obtain rfl := List.mem_singleton.mp found
        exact absurd early (Nat.not_lt.mpr since.counted)
    new := by
      intro s' found late
      obtain found | found := List.mem_append.mp found
      · exact since.new s' found late
      · rw [List.mem_singleton.mp found] }

/-- What a turn does when the connection is closed already. -/
theorem turn (t : Tracked c') {i p : Nat} {c'' : Connection} (turn : Turn i p c' c'') :
    Since c c'' := by
  have empty := t.shut since.closed
  have impossible {P : Prop} (opened : c'.closed = false) : P :=
    absurd (opened.symm.trans since.closed) Bool.false_ne_true
  have marked : c'.markClosed = c' := markClosed_of_empty since.closed empty
  cases turn with
  | begun target payload => exact since.begin target payload
  | dropped found begun => exact since.dropSend _
  | refused found begun closed =>
    rw [Tracked.refused_eq empty]
    exact since.dropSend _
  | entered found begun opened bytes => exact impossible opened
  | @accepted _ s bytes found queueing runs room =>
    have there := List.mem_of_find?_eq_some found
    have entered : s.place ≠ .begun := by
      rw [queueing]
      exact SendPlace.noConfusion
    have accepted : Since c (c'.accept ⟨.send s.number, s.id, bytes⟩) := by
      refine since.accept _ ?_
      rintro _ ⟨⟩
      exact since.old there entered
    have table : Tracked (c'.accept ⟨.send s.number, s.id, bytes⟩) := { t with }
    exact accepted.setPlace table there entered SendPlace.noConfusion
  | stays found entered =>
    exact since.setPlace t (List.mem_of_find?_eq_some found) entered entered
  | left found entered =>
    rw [remove_of_empty empty]
    exact since.dropSend _
  | came incoming => exact since.aside rfl rfl rfl rfl
  | @took _ frame rest runs next =>
    unfold deliver
    split
    · exact since.aside rfl rfl rfl rfl
    · rw [remove_of_empty (c := { c' with incoming := rest, taken := c'.taken ++ [frame] }) empty]
      exact since.aside rfl rfl rfl rfl
  | @broke _ reading rest runs next =>
    rw [markClosed_of_empty (c := { c' with incoming := rest, readerRuns := false }) since.closed empty]
    exact since.aside rfl rfl rfl rfl
  | unqueued runs idle next => exact since.aside rfl rfl rfl rfl
  | wrote count => exact since.aside rfl rfl rfl rfl
  | writeFailed runs =>
    rw [marked]
    exact since.aside rfl rfl rfl rfl
  | pinged found sleeping opened bytes => exact impossible opened
  | unsendable found sleeping opened => exact impossible opened
  | @pingAccepted _ h bytes found queueing runs room deadline =>
    have accepted : Since c (c'.accept ⟨.heartbeat, h.id, bytes⟩) :=
      since.accept _ fun _ his => Waiter.noConfusion his
    exact accepted.aside rfl rfl rfl rfl
  | gaveUp found out =>
    rw [giveUp, marked]
    exact since.aside rfl rfl rfl rfl
  | rested now found awaiting answered => exact since.aside rfl rfl rfl rfl
  | stopped found finds => exact since.aside rfl rfl rfl rfl
  | ended opened => exact impossible opened

theorem turns (t : Tracked c') {i p : Nat} {c'' : Connection} (turns : Turns i p c' c'') :
    Since c c'' := by
  induction turns with
  | none => exact since
  | next before last ih => exact (ih since t).turn (t.turns before) last

theorem run (t : Tracked c') (events : List Event) : Since c (c'.run events) := by
  induction events generalizing c' with
  | nil => exact since
  | cons e rest ih =>
    have applied := apply_turns e c'
    exact ih (since.turns t applied) (t.turns applied)

end

end Since

/-- Two sends wait; one is answered, and then the stream ends. -/
def severed : List Event :=
  [.begin ⟨"m", "c", "i"⟩ [1], .stepSend 0, .begin ⟨"m", "c", "i"⟩ [2], .stepSend 1,
    .receive (wire (.reply 1 [11])), .finishIncoming .clean, .read, .read]

def answered : Send := ⟨0, 1, ⟨"m", "c", "i"⟩, [1], .queued, .given (.reply 1 [11])⟩

def unanswered : Send := ⟨1, 2, ⟨"m", "c", "i"⟩, [2], .queued, .lost⟩

end Connection
end Switchboard.Tcp
