import Switchboard.Proofs.Tcp.Orderly

/-!
Replies never cross. What a send returns is in a frame that carries the number of that very send, and a
frame that comes in concerns nobody but the party that waits for its number.
-/
namespace Switchboard.Tcp.Connection

open Text (Bytes)

/-- One who may wait for an answer, with all that is known of it. -/
def party? (w : Waiter) (c : Connection) : Option (Send ⊕ Heartbeat) :=
  match w with
  | .send number => (c.send? number).map .inl
  | .heartbeat => c.heartbeat.map .inr

def reply? (w : Waiter) (c : Connection) : Option Reply :=
  (c.party? w).map (Sum.elim Send.reply Heartbeat.reply)

/-- The party that a frame goes to. -/
def addressee? (frame : ServerFrame) (c : Connection) : Option Waiter :=
  frame.requestId?.bind fun id => c.pending.lookup id

/-! ### Results of sends -/

/-- What a send may return: the content of the frame that it was given, or an error that no server
sent. -/
def Returns (s : Send) (result : Except TransportError Bytes) : Prop :=
  (∃ frame, s.reply = .given frame ∧ result = invocationReply frame) ∨
    ∃ e, result = .error e ∧ ∀ message, e ≠ .application message

theorem returns_closed (s : Send) (reason : String) : Returns s (.error (.closed reason)) :=
  .inr ⟨_, rfl, fun _ => TransportError.noConfusion⟩

section

variable {c : Connection} {s : Send} {result : Except TransportError Bytes}

theorem collect_returns (done : (c.collect s).2 = .done result) : Returns s result := by
  unfold collect at done
  cases reply : s.reply with
  | awaited => rw [reply] at done; cases done
  | lost =>
    rw [reply] at done
    cases done
    exact returns_closed s _
  | given frame =>
    rw [reply] at done
    cases done
    exact .inl ⟨frame, reply, rfl⟩

theorem offer_returns {bytes : Bytes} (done : (c.offer s bytes).2 = .done result) :
    Returns s result := by
  unfold offer at done
  split at done
  · cases done
    exact returns_closed s _
  · split at done
    · exact collect_returns done
    · cases done

theorem stepSend_returns {number : Nat} (done : (c.stepSend number).2 = .done result) :
    ∃ s, c.send? number = some s ∧ Returns s result := by
  unfold stepSend at done
  cases found : c.send? number with
  | none => rw [found] at done; cases done
  | some s =>
    refine ⟨s, rfl, ?_⟩
    rw [found] at done
    dsimp only at done
    cases place : s.place with
    | queueing bytes => rw [place] at done; exact offer_returns done
    | queued => rw [place] at done; exact collect_returns done
    | begun =>
      rw [place] at done
      dsimp only at done
      cases encoded : Frame.encode c.limit (.invoke s.id s.target s.payload : ClientFrame) with
      | error e =>
        rw [encoded] at done
        cases done
        refine .inr ⟨e, rfl, ?_⟩
        simp only [Frame.encode] at encoded
        split at encoded
        · cases encoded
          exact fun _ => TransportError.noConfusion
        · cases encoded
      | ok bytes =>
        rw [encoded] at done
        dsimp only at done
        split at done
        · cases done
          exact returns_closed s _
        · exact offer_returns done

end

theorem Returns.reply {c : Connection} {s : Send} {payload : Bytes} (returns : Returns s (.ok payload))
    (proper : c.Proper s.id s.reply) : .reply s.id payload ∈ c.taken := by
  obtain ⟨frame, given, same⟩ | ⟨e, impossible, -⟩ := returns
  · rw [given] at proper
    obtain ⟨number, taken⟩ := proper
    cases frame with
    | reply id content =>
      cases same
      cases number
      exact taken
    | _ => cases same
  · cases impossible

theorem Returns.appError {c : Connection} {s : Send} {message : String}
    (returns : Returns s (.error (.application message))) (proper : c.Proper s.id s.reply) :
    .appError s.id message ∈ c.taken := by
  obtain ⟨frame, given, same⟩ | ⟨e, same, other⟩ := returns
  · rw [given] at proper
    obtain ⟨number, taken⟩ := proper
    cases frame with
    | appError id content =>
      cases same
      cases number
      exact taken
    | _ => cases same
  · cases same
    exact absurd rfl (other message)

/-! ### Frames that come in -/

theorem party?_inform {w other : Waiter} (different : other ≠ w) (news : Reply) (c : Connection) :
    (c.inform news w).party? other = c.party? other := by
  cases w with
  | heartbeat =>
    cases other with
    | heartbeat => exact absurd rfl different
    | send number => rfl
  | send number =>
    cases other with
    | heartbeat => rfl
    | send number' =>
      have apart : number' ≠ number := by
        rintro rfl
        exact different rfl
      have same : (c.inform news (.send number)).send? number' = c.send? number' := by
        simp only [send?, inform]
        induction c.sends with
        | nil => rfl
        | cons s rest ih =>
          by_cases his : s.number = number
          · have notMine : s.number ≠ number' := fun mine => apart (mine.symm.trans his)
            simp [his, Ne.symm apart, ih]
          · by_cases mine : s.number = number' <;> simp [his, mine, ih, apart]
      exact congrArg (Option.map Sum.inl) same

section

variable {c : Connection} {frame : ServerFrame} {rest : Incoming} (runs : c.readerRuns = true)
  (next : c.incoming.read? c.limit = some (.frame frame, rest))

include runs next

theorem read_frame :
    c.read = ({ c with incoming := rest, taken := c.taken ++ [frame] }).deliver frame := by
  rw [read, runs, next]
  rfl

theorem read_unaddressed (nobody : c.addressee? frame = none) :
    c.read = { c with incoming := rest, taken := c.taken ++ [frame] } := by
  rw [read_frame runs next, deliver]
  cases number : frame.requestId? with
  | none => rfl
  | some id =>
    have absent : c.pending.lookup id = none := by rwa [addressee?, number] at nobody
    dsimp only [remove]
    rw [absent]

theorem read_addressed {id : UInt64} {w : Waiter} (number : frame.requestId? = some id)
    (addressed : c.addressee? frame = some w) :
    c.read = ({ c with
      incoming := rest
      taken := c.taken ++ [frame]
      pending := c.pending.filter (·.1 != id) }).inform (.given frame) w := by
  have entry : c.pending.lookup id = some w := by rwa [addressee?, number] at addressed
  rw [read_frame runs next, deliver, number]
  dsimp only [remove]
  rw [entry]

end

theorem requestId?_of_addressed {c : Connection} {frame : ServerFrame} {w : Waiter}
    (addressed : c.addressee? frame = some w) :
    ∃ id, frame.requestId? = some id ∧ (id, w) ∈ c.pending := by
  obtain ⟨id, number, entry⟩ := Option.bind_eq_some_iff.mp addressed
  exact ⟨id, number, mem_of_lookup entry⟩

theorem reply?_given {c : Connection} {id : UInt64} {w : Waiter} {frame : ServerFrame}
    {numbered : Nat} (awaits : c.Awaits id w) (o : Orderly numbered (c.inform (.given frame) w)) :
    (c.inform (.given frame) w).reply? w = some (.given frame) := by
  cases w with
  | heartbeat =>
    obtain ⟨h, found, -, -, reply⟩ := awaits
    simp [reply?, party?, inform, found, reply, Reply.learn]
  | send number =>
    obtain ⟨s, found, rfl, -, -, reply⟩ := awaits
    have told : { s with reply := .given frame } ∈
        (c.inform (.given frame) (.send s.number)).sends := by
      refine List.mem_map.mpr ⟨s, found, ?_⟩
      rw [if_pos rfl, reply]
      rfl
    have present := o.send?_of_mem told
    dsimp only at present
    rw [reply?, party?, present]
    rfl

/-- On a connection that has numbered fewer than 2⁶⁴ - 1 invocations and pings, whatever has happened to
it: what a send returns with is in a frame that came in under the send's own number; the parties that
wait have different numbers, and have been given nothing but frames with their own; and the next frame
is handed to the one party that waits for its number, or else changes nothing but that it was read. -/
theorem replies_matched (now : Instant) (d : Descriptor) (limit : Nat) (greeting : Bytes)
    (unread : Incoming) (events : List Event)
    (few : invocations events + pings (establish now d limit greeting unread) events <
      0xffffffffffffffff) :
    let start := establish now d limit greeting unread
    let c := start.run events
    (∀ number payload, (c.stepSend number).2 = .done (.ok payload) →
      ∃ s, c.send? number = some s ∧ .reply s.id payload ∈ c.taken) ∧
    (∀ number message, (c.stepSend number).2 = .done (.error (.application message)) →
      ∃ s, c.send? number = some s ∧ .appError s.id message ∈ c.taken) ∧
    (∀ id w w', c.Live id w → c.Live id w' → w = w') ∧
    (∀ s ∈ c.sends, s.number < invocations events ∧ s.id.toNat = s.number + 1) ∧
    (∀ h, c.heartbeat = some h → h.beat.isOut = true →
      h.id.toNat + pings start events = 0x10000000000000000) ∧
    (∀ s ∈ c.sends, c.Proper s.id s.reply) ∧
    (∀ h, c.heartbeat = some h → c.Proper h.id h.reply) ∧
    ∀ frame rest, c.readerRuns = true → c.incoming.read? c.limit = some (.frame frame, rest) →
      (∀ w, c.addressee? frame = some w →
        (∃ id, frame.requestId? = some id ∧ c.Awaits id w) ∧
          c.read.reply? w = some (.given frame)) ∧
      (∀ w, c.addressee? frame ≠ some w → c.read.party? w = c.party? w) ∧
      (c.addressee? frame = none →
        c.read = { c with incoming := rest, taken := c.taken ++ [frame] }) := by
  intro start c
  have o : Orderly (pings start events) c := by
    have run := (Orderly.establish now d limit greeting unread).run events (by
      show 0 + _ + (0 + _) < _
      omega)
    rwa [Nat.zero_add] at run
  have numbered : c.nextNumber = invocations events := by
    rw [nextNumber_run]
    exact Nat.zero_add _
  refine ⟨?_, ?_, fun id w w' => o.live_unique, ?_, fun h => o.counted_out, o.sends, o.heartbeat, ?_⟩
  · intro number payload done
    obtain ⟨s, found, returns⟩ := stepSend_returns done
    exact ⟨s, found, returns.reply (o.sends s (List.mem_of_find?_eq_some found))⟩
  · intro number message done
    obtain ⟨s, found, returns⟩ := stepSend_returns done
    exact ⟨s, found, returns.appError (o.sends s (List.mem_of_find?_eq_some found))⟩
  · rw [← numbered]
    exact o.numbered
  · intro frame rest runs next
    refine ⟨?_, ?_, read_unaddressed runs next⟩
    · intro w addressed
      obtain ⟨id, number, entry⟩ := requestId?_of_addressed addressed
      have awaits := o.entries id w entry
      refine ⟨⟨id, number, awaits⟩, ?_⟩
      have after := o.take frame rest
      rw [← read_frame runs next, read_addressed runs next number addressed] at after
      rw [read_addressed runs next number addressed]
      exact reply?_given awaits after
    · intro w other
      cases addressed : c.addressee? frame with
      | none => rw [read_unaddressed runs next addressed]; rfl
      | some w' =>
        obtain ⟨id, number, entry⟩ := requestId?_of_addressed addressed
        have different : w ≠ w' := by
          rintro rfl
          exact other addressed
        rw [read_addressed runs next number addressed, party?_inform different]
        rfl

/-! ### Replies in another order -/

def greeted : Connection :=
  establish 0 { name := "far", host := "h", port := 1, heartbeat := some (.ofSecs 1) } 1000 [] {}

def wire (frame : ServerFrame) : Bytes :=
  Frame.lengthBytes (Frame.body frame).length ++ Frame.body frame

/-- Two sends and a ping; the later send is answered first, and twice. -/
def overtaking : List Event :=
  [.begin ⟨"m", "c", "i"⟩ [1], .stepSend 0, .begin ⟨"m", "c", "i"⟩ [2], .stepSend 1,
    .stepBeat 1000000000, .receive (wire (.reply 2 [22])), .receive (wire (.reply 2 [0])),
    .receive (wire (.reply 1 [11])), .read, .read, .read]

theorem replies_matched_overtaking :
    ((greeted.run overtaking).stepSend 1).2 = .done (.ok [22]) ∧
      ∃ s, (greeted.run overtaking).send? 1 = some s ∧
        .reply s.id [22] ∈ (greeted.run overtaking).taken := by
  have second : ((greeted.run overtaking).stepSend 1).2 = .done (.ok [22]) := by decide +kernel
  have matched := replies_matched 0
    { name := "far", host := "h", port := 1, heartbeat := some (.ofSecs 1) } 1000 [] {} overtaking
    (by decide)
  exact ⟨second, matched.1 1 [22] second⟩

end Switchboard.Tcp.Connection
