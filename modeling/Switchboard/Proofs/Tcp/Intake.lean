import Switchboard.Proofs.Frame.Stream
import Switchboard.Proofs.Tcp.Beside
import Switchboard.Proofs.Tcp.Replies
import Switchboard.Proofs.Tcp.Tracked

/-!
How a stream that comes in is taken apart. A reader finds a frame at the front, or something that is none,
or the end, or it has to wait for more. The reader of a connection takes the frames off one by one, and
stops at the first front that is no frame. What it has taken and what it has left make up the stream.
-/
namespace Switchboard.Tcp

open Text (Bytes)
open Switchboard.Frame (Leads Reading)

/-! ### The front of what came in -/

/-- What reading gives, and the bytes that are left behind it. -/
inductive Gives (limit : Nat) : Incoming → Reading ServerFrame → Bytes → Prop
  | frame {bytes body rest ending frame} (leads : Leads limit bytes (.body body rest))
      (reads : Frame.ofBody body = .ok frame) : Gives limit ⟨bytes, ending⟩ (.frame frame) rest
  | undecodable {bytes body rest ending e} (leads : Leads limit bytes (.body body rest))
      (reads : (Frame.ofBody body : Except _ ServerFrame) = .error e) :
      Gives limit ⟨bytes, ending⟩ (.failure (.protocol e.message)) rest
  | empty {bytes rest ending} (leads : Leads limit bytes (.empty rest)) :
      Gives limit ⟨bytes, ending⟩ (.failure (.protocol "Empty frame")) rest
  | oversized {bytes length rest ending} (leads : Leads limit bytes (.oversized length rest)) :
      Gives limit ⟨bytes, ending⟩ (.failure (.protocol (Frame.tooLarge length limit))) rest
  /-- The stream ends before a whole length. -/
  | finished {bytes} (short : bytes.length < 4) : Gives limit ⟨bytes, some .clean⟩ .finished []
  /-- The stream ends inside a body. -/
  | truncated {bytes} (leads : Leads limit bytes .shortBody) :
      Gives limit ⟨bytes, some .clean⟩ (.failure (.closed "early eof")) []
  | broken {bytes f} (incomplete : bytes.length < 4 ∨ Leads limit bytes .shortBody) :
      Gives limit ⟨bytes, some (.broken f)⟩ (.failure f.error) []

/-- A reader goes no further: what is in front is no frame, and will never be one. -/
def Halts (limit : Nat) (i : Incoming) : Prop :=
  ∃ r rest, Gives limit i r rest ∧ ∀ frame, r ≠ .frame frame

theorem leads_shortLength {limit : Nat} {bytes : Bytes} (leads : Leads limit bytes .shortLength) :
    bytes.length < 4 := by
  cases leads with
  | shortLength short => exact short

/-- What comes in behind a front that is whole does not change it. -/
theorem leads_more {limit : Nat} {bytes : Bytes} (more : Bytes) :
    (∀ {body rest}, Leads limit bytes (.body body rest) →
      Leads limit (bytes ++ more) (.body body (rest ++ more))) ∧
    (∀ {rest}, Leads limit bytes (.empty rest) → Leads limit (bytes ++ more) (.empty (rest ++ more))) ∧
    ∀ {length rest}, Leads limit bytes (.oversized length rest) →
      Leads limit (bytes ++ more) (.oversized length (rest ++ more)) := by
  refine ⟨fun {body rest} leads => ?_, fun leads => ?_, fun leads => ?_⟩
  · cases leads with
    | @body a b c d _ _ length fits =>
      have longer : Leads limit (a :: b :: c :: d :: (body ++ (rest ++ more))) (.body body (rest ++ more)) :=
        .body length fits
      rwa [← List.append_assoc] at longer
  · cases leads with
    | empty none => exact .empty none
  · cases leads with
    | oversized above => exact .oversized above

theorem read?_gives {limit : Nat} {i : Incoming} {r : Reading ServerFrame} {rest : Bytes}
    (gives : Gives limit i r rest) : i.read? limit = some (r, ⟨rest, i.ending⟩) := by
  cases gives with
  | frame leads reads => simp [Incoming.read?, Frame.next?, leads.cut_eq, Frame.ofCutBody, reads]
  | undecodable leads reads => simp [Incoming.read?, Frame.next?, leads.cut_eq, Frame.ofCutBody, reads]
  | empty leads => simp [Incoming.read?, Frame.next?, leads.cut_eq]
  | oversized leads => simp [Incoming.read?, Frame.next?, leads.cut_eq]
  | finished short =>
    have leads : Leads limit _ .shortLength := .shortLength short
    simp [Incoming.read?, Frame.next?, Frame.atEnd, leads.cut_eq]
  | truncated leads => simp [Incoming.read?, Frame.next?, Frame.atEnd, leads.cut_eq]
  | broken incomplete =>
    rcases incomplete with short | leads
    · have leads : Leads limit _ .shortLength := .shortLength short
      simp [Incoming.read?, Frame.next?, leads.cut_eq]
    · simp [Incoming.read?, Frame.next?, leads.cut_eq]

/-- Reading gives something, or the stream goes on and its front is not whole. -/
theorem gives_or_waits (limit : Nat) (i : Incoming) :
    (∃ r rest, Gives limit i r rest) ∨ i.ending = none ∧ i.read? limit = none := by
  obtain ⟨bytes, ending⟩ := i
  have leads := Frame.cut_leads limit bytes
  generalize Frame.cut limit bytes = front at leads
  have incomplete (short : bytes.length < 4 ∨ Leads limit bytes .shortBody)
      (nothing : (Frame.next? limit bytes : Option (Reading ServerFrame × Bytes)) = none) :
      (∃ r rest, Gives limit ⟨bytes, ending⟩ r rest) ∨
        ending = none ∧ (Incoming.mk bytes ending).read? limit = none := by
    match ending with
    | none => exact .inr ⟨rfl, by simp [Incoming.read?, nothing]⟩
    | some (.broken f) => exact .inl ⟨_, _, .broken short⟩
    | some .clean =>
      rcases short with short | leads
      · exact .inl ⟨_, _, .finished short⟩
      · exact .inl ⟨_, _, .truncated leads⟩
  cases front with
  | shortLength => exact incomplete (.inl (leads_shortLength leads)) (by rw [Frame.next?, leads.cut_eq])
  | shortBody => exact incomplete (.inr leads) (by rw [Frame.next?, leads.cut_eq])
  | empty rest => exact .inl ⟨_, _, .empty leads⟩
  | oversized length rest => exact .inl ⟨_, _, .oversized leads⟩
  | body body rest =>
    rcases Frame.ofCutBody_result (α := ServerFrame) body with ⟨frame, reads, -⟩ | ⟨e, reads, -⟩
    · exact .inl ⟨_, _, .frame leads reads⟩
    · exact .inl ⟨_, _, .undecodable leads reads⟩

theorem gives_of_read? {limit : Nat} {i i' : Incoming} {r : Reading ServerFrame}
    (read : i.read? limit = some (r, i')) : Gives limit i r i'.bytes ∧ i'.ending = i.ending := by
  rcases gives_or_waits limit i with ⟨r', rest, gives⟩ | ⟨-, nothing⟩
  · cases (read?_gives gives).symm.trans read
    exact ⟨gives, rfl⟩
  · cases nothing.symm.trans read

theorem gives_unique {limit : Nat} {i : Incoming} {r r' : Reading ServerFrame} {rest rest' : Bytes}
    (gives : Gives limit i r rest) (gives' : Gives limit i r' rest') : r = r' ∧ rest = rest' := by
  have same := (read?_gives gives).symm.trans (read?_gives gives')
  simpa using same

theorem gives_frame {limit : Nat} {i : Incoming} {frame : ServerFrame} {rest : Bytes}
    (gives : Gives limit i (.frame frame) rest) :
    ∃ body, Leads limit i.bytes (.body body rest) ∧ Frame.ofBody body = .ok frame := by
  cases gives with
  | frame leads reads => exact ⟨_, leads, reads⟩

/-- The bytes begin with these frames, one behind the other, and the rest is behind them. -/
inductive Follows (limit : Nat) : Bytes → List ServerFrame → Bytes → Prop
  | none {bytes} : Follows limit bytes [] bytes
  | frame {bytes body rest frame frames last} (leads : Leads limit bytes (.body body rest))
      (reads : Frame.ofBody body = .ok frame) (others : Follows limit rest frames last) :
      Follows limit bytes (frame :: frames) last

namespace Follows

variable {limit : Nat} {bytes rest : Bytes} {frames : List ServerFrame}
  (follows : Follows limit bytes frames rest)

include follows

theorem more (more : Bytes) : Follows limit (bytes ++ more) frames (rest ++ more) := by
  induction follows with
  | none => exact .none
  | frame leads reads _ ih => exact .frame ((leads_more more).1 leads) reads ih

theorem next {body last : Bytes} {frame : ServerFrame} (leads : Leads limit rest (.body body last))
    (reads : Frame.ofBody body = .ok frame) : Follows limit bytes (frames ++ [frame]) last := by
  induction follows with
  | none => exact .frame leads reads .none
  | frame first reads' _ ih => exact .frame first reads' (ih leads)

end Follows

theorem Halts.receive {limit : Nat} {i : Incoming} (halts : Halts limit i) (more : Bytes) :
    Halts limit (i.receive more) := by
  obtain ⟨r, rest, gives, other⟩ := halts
  obtain ⟨bytes, ending⟩ := i
  cases ending with
  | some ending => exact ⟨r, rest, gives, other⟩
  | none =>
    cases gives with
    | frame => exact absurd rfl (other _)
    | undecodable leads reads => exact ⟨_, _, .undecodable ((leads_more more).1 leads) reads, nofun⟩
    | empty leads => exact ⟨_, _, .empty ((leads_more more).2.1 leads), nofun⟩
    | oversized leads => exact ⟨_, _, .oversized ((leads_more more).2.2 leads), nofun⟩

theorem Halts.finish {limit : Nat} {i : Incoming} (halts : Halts limit i) (ending : Ending) :
    Halts limit (i.finish ending) := by
  obtain ⟨r, rest, gives, other⟩ := halts
  obtain ⟨bytes, ended⟩ := i
  cases ended with
  | some ended => exact ⟨r, rest, gives, other⟩
  | none =>
    cases gives with
    | frame => exact absurd rfl (other _)
    | undecodable leads reads => exact ⟨_, _, .undecodable leads reads, nofun⟩
    | empty leads => exact ⟨_, _, .empty leads, nofun⟩
    | oversized leads => exact ⟨_, _, .oversized leads, nofun⟩

/-! ### What a connection hears -/

/-- What an event adds to what has come in. -/
def Event.brings : Event → Incoming → Incoming
  | .receive bytes, i => i.receive bytes
  | .finishIncoming ending, i => i.finish ending
  | _, i => i

/-- All that has come in after a run, if this came in before. -/
def hearing (i : Incoming) (events : List Event) : Incoming := events.foldl (fun i e => e.brings i) i

/-- An event that may have to do with the reader. -/
def Event.concernsReader : Event → Bool
  | .receive _ | .finishIncoming _ | .read | .close => true
  | _ => false

namespace Connection

section

variable {c : Connection}

theorem unread_apply {e : Event} (other : e.concernsReader = false) (c : Connection) :
    Unread c (e.apply c) := by
  cases e with
  | begin target payload => exact (beside_begin target payload c).toUnread
  | stepSend number => exact (beside_stepSend number c).toUnread
  | cancel number => exact (beside_cancel number c).toUnread
  | takeOutgoing => exact (beside_takeOutgoing c).toUnread
  | write count => exact { Unread.refl c with }
  | failWrite => exact (beside_failWrite c).toUnread
  | stepBeat now => exact unread_stepBeat now c
  | receive => cases other
  | finishIncoming => cases other
  | read => cases other
  | close => cases other

end

/-! ### The steps of the reader -/

section

variable {c : Connection}

theorem read_stopped (stopped : c.readerRuns = false) : c.read = c := by
  rw [read, stopped]
  rfl

theorem read_waits (waits : c.incoming.read? c.limit = none) : c.read = c := by
  rw [read, waits]
  split <;> rfl

theorem read_halts (runs : c.readerRuns = true) {r : Reading ServerFrame} {rest : Bytes}
    (gives : Gives c.limit c.incoming r rest) (other : ∀ frame, r ≠ .frame frame) :
    c.read = ({ c with incoming := ⟨rest, c.incoming.ending⟩, readerRuns := false }).markClosed := by
  rw [read, runs, read?_gives gives]
  cases r with
  | frame frame => exact absurd rfl (other frame)
  | failure e => rfl
  | finished => rfl

theorem taken_read_frame (runs : c.readerRuns = true) {frame : ServerFrame} {rest : Bytes}
    (gives : Gives c.limit c.incoming (.frame frame) rest) :
    c.read.taken = c.taken ++ [frame] ∧ c.read.incoming = ⟨rest, c.incoming.ending⟩ ∧
      c.read.readerRuns = true ∧ c.read.limit = c.limit := by
  have informed := informed_deliver frame
    { c with incoming := ⟨rest, c.incoming.ending⟩, taken := c.taken ++ [frame] }
  rw [read_frame runs (read?_gives gives)]
  exact ⟨informed.taken, informed.incoming, informed.readerRuns.trans runs, informed.limit⟩

end

/-! ### Taking a stream apart -/

/-- What has come in is the frames before, the frames that were taken, and what is left. The reader has
stopped only on a closed connection, where the owner has left or where the stream does not go on. -/
structure Parted (limit : Nat) (heard : Incoming) (before : List ServerFrame) (left : Prop)
    (c : Connection) : Prop where
  within : c.limit = limit
  split : ∃ rest, Follows limit heard.bytes (before ++ c.taken) rest ∧
    (c.readerRuns = true → c.incoming = ⟨rest, heard.ending⟩) ∧
    (c.readerRuns = false → c.closed = true ∧ (left ∨ Halts limit ⟨rest, heard.ending⟩))

namespace Parted

variable {limit : Nat} {heard : Incoming} {before : List ServerFrame} {left : Prop} {c : Connection}
  (parted : Parted limit heard before left c)

include parted

theorem weaken {left' : Prop} (weaker : left → left') : Parted limit heard before left' c where
  within := parted.within
  split := by
    obtain ⟨rest, follows, runs, stopped⟩ := parted.split
    exact ⟨rest, follows, runs, fun stops => (stopped stops).imp_right (.imp_left weaker)⟩

theorem unread {c' : Connection} (unread : Unread c c') : Parted limit heard before left c' where
  within := unread.limit.trans parted.within
  split := by
    obtain ⟨rest, follows, runs, stopped⟩ := parted.split
    refine ⟨rest, unread.taken ▸ follows, ?_, ?_⟩
    · rw [unread.readerRuns, unread.incoming]
      exact runs
    · rw [unread.readerRuns]
      exact fun stops => (stopped stops).imp_left unread.closed

theorem receive (more : Bytes) : Parted limit (heard.receive more) before left (c.receive more) where
  within := parted.within
  split := by
    obtain ⟨rest, follows, runs, stopped⟩ := parted.split
    obtain ⟨bytes, ending⟩ := heard
    cases ending with
    | some ending =>
      refine ⟨rest, follows, fun going => ?_, stopped⟩
      exact congrArg (Incoming.receive more) (runs going)
    | none =>
      refine ⟨rest ++ more, follows.more more, fun going => ?_, fun stops => ?_⟩
      · exact congrArg (Incoming.receive more) (runs going)
      · exact (stopped stops).imp_right (.imp_right (·.receive more))

theorem finish (ending : Ending) :
    Parted limit (heard.finish ending) before left (c.finishIncoming ending) where
  within := parted.within
  split := by
    obtain ⟨rest, follows, runs, stopped⟩ := parted.split
    obtain ⟨bytes, ended⟩ := heard
    cases ended with
    | some ended =>
      exact ⟨rest, follows, fun going => congrArg (Incoming.finish ending) (runs going), stopped⟩
    | none =>
      refine ⟨rest, follows, fun going => congrArg (Incoming.finish ending) (runs going), fun stops => ?_⟩
      exact (stopped stops).imp_right (.imp_right (·.finish ending))

theorem read : Parted limit heard before left c.read := by
  cases runs : c.readerRuns with
  | false => rwa [read_stopped runs]
  | true =>
    obtain ⟨rest, follows, going, -⟩ := parted.split
    have unread := going runs
    rcases gives_or_waits c.limit c.incoming with ⟨r, last, gives⟩ | ⟨-, waits⟩
    · by_cases framed : ∃ frame, r = .frame frame
      · obtain ⟨frame, rfl⟩ := framed
        obtain ⟨taken, incoming, still, limit'⟩ := taken_read_frame runs gives
        refine ⟨limit'.trans parted.within, last, ?_, fun _ => ?_, fun stops => ?_⟩
        · rw [unread, parted.within] at gives
          obtain ⟨body, leads, reads⟩ := gives_frame gives
          rw [taken, ← List.append_assoc]
          exact follows.next leads reads
        · rw [incoming, unread]
        · exact absurd (still.symm.trans stops) Bool.noConfusion
      · have other : ∀ frame, r ≠ .frame frame := fun frame same => framed ⟨frame, same⟩
        have informed := informed_markClosed
          { c with incoming := ⟨last, c.incoming.ending⟩, readerRuns := false }
        rw [read_halts runs gives other]
        refine ⟨informed.limit.trans parted.within, rest, ?_, fun going => ?_,
          fun _ => ⟨closed_markClosed _, ?_⟩⟩
        · rwa [informed.taken]
        · exact absurd (informed.readerRuns.symm.trans going) Bool.false_ne_true
        · rw [unread, parted.within] at gives
          exact .inr ⟨r, last, gives, other⟩
    · rwa [read_waits waits]

theorem close : Parted limit heard before True c.close := by
  unfold Connection.close
  split
  · exact parted.weaken fun _ => trivial
  · have informed := informed_markClosed c
    obtain ⟨rest, follows, -⟩ := parted.split
    refine ⟨informed.limit.trans parted.within, rest, ?_, nofun,
      fun _ => ⟨closed_markClosed c, .inl trivial⟩⟩
    show Follows limit heard.bytes (before ++ c.markClosed.taken) rest
    rwa [informed.taken]

theorem apply (e : Event) : Parted limit (e.brings heard) before (left ∨ e = .close) (e.apply c) := by
  cases concerns : e.concernsReader with
  | false =>
    have same : e.brings heard = heard := by
      cases e with
      | receive => cases concerns
      | finishIncoming => cases concerns
      | _ => rfl
    rw [same]
    exact (parted.unread (unread_apply concerns c)).weaken .inl
  | true =>
    cases e with
    | receive more => exact (parted.receive more).weaken .inl
    | finishIncoming ending => exact (parted.finish ending).weaken .inl
    | read => exact parted.read.weaken .inl
    | close => exact parted.close.weaken fun _ => .inr rfl
    | _ => cases concerns

theorem run (events : List Event) :
    Parted limit (hearing heard events) before (left ∨ .close ∈ events) (c.run events) := by
  induction events generalizing heard left c with
  | nil => exact parted.weaken .inl
  | cons e rest ih =>
    refine (ih (parted.apply e)).weaken ?_
    rintro ((earlier | rfl) | later)
    · exact .inl earlier
    · exact .inr List.mem_cons_self
    · exact .inr (List.mem_cons_of_mem e later)

end Parted

end Connection

end Switchboard.Tcp
