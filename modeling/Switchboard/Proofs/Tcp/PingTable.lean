import Switchboard.Proofs.Tcp.Pings
import Switchboard.Proofs.Tcp.Tracked

/-!
The heartbeat in the table of pending requests. It is there exactly as long as its ping is under way and has
no answer, and under the number of that ping.
-/
namespace Switchboard.Tcp

open Text (Bytes)

namespace Connection

/-- The heartbeat is in the table under the number of its ping only, and only until it is told. -/
def Pinging (c : Connection) : Prop := ∀ id, (id, .heartbeat) ∈ c.pending → c.Awaits id .heartbeat

theorem heartbeat_remove {c : Connection} {id : UInt64} (unlisted : (id, .heartbeat) ∉ c.pending)
    (news : Reply) : (c.remove news id).heartbeat = c.heartbeat := by
  unfold remove
  cases entry : c.pending.lookup id with
  | none => rfl
  | some w =>
    cases w with
    | send number => rfl
    | heartbeat => exact absurd (mem_of_lookup entry) unlisted

theorem heartbeat_deliver_other {c : Connection} {frame : ServerFrame}
    (unlisted : ∀ id, frame.requestId? = some id → (id, .heartbeat) ∉ c.pending) :
    (c.deliver frame).heartbeat = c.heartbeat := by
  unfold deliver
  cases number : frame.requestId? with
  | none => rfl
  | some id => exact heartbeat_remove (unlisted id number) _

theorem heartbeat_deliver_own {c : Connection} (keys : (c.pending.map (·.1)).Nodup) {frame : ServerFrame}
    {id : UInt64} (number : frame.requestId? = some id) (listed : (id, .heartbeat) ∈ c.pending) :
    (c.deliver frame).heartbeat =
      c.heartbeat.map fun h => { h with reply := h.reply.learn (.given frame) } := by
  simp only [deliver, number, remove, lookup_of_mem keys listed, inform]

namespace Pinging

section

variable {c : Connection} (p : Pinging c)

include p

theorem aside {c' : Connection} (pending : c'.pending = c.pending) (heartbeat : c'.heartbeat = c.heartbeat) :
    Pinging c' := by
  intro id listed
  rw [pending] at listed
  rw [Awaits, heartbeat]
  exact p id listed

theorem unlisted {h : Heartbeat} (found : c.heartbeat = some h)
    (off : h.beat.isOut = false ∨ h.reply ≠ .awaited) (id : UInt64) : (id, .heartbeat) ∉ c.pending := by
  intro listed
  obtain ⟨h', found', out, -, awaited⟩ := p id listed
  obtain rfl := Option.some.inj (found.symm.trans found')
  rcases off with rests | told
  · exact Bool.false_ne_true (rests.symm.trans out)
  · exact told awaited

theorem remove (news : Reply) (id : UInt64) : Pinging (c.remove news id) := by
  intro id' listed
  rw [pending_remove] at listed
  obtain ⟨listed, other⟩ := List.mem_filter.mp listed
  obtain ⟨h, found, out, rfl, awaited⟩ := p id' listed
  have unlisted : (id, .heartbeat) ∉ c.pending := by
    intro too
    obtain ⟨h', found', -, rfl, -⟩ := p id too
    obtain rfl := Option.some.inj (found.symm.trans found')
    exact (bne_iff_ne.mp other) rfl
  exact ⟨h, (heartbeat_remove unlisted news).trans found, out, rfl, awaited⟩

theorem enterSend (id : UInt64) (number : Nat) : Pinging (c.enter id (.send number)) := by
  intro id' listed
  rcases List.mem_cons.mp listed with new | old
  · cases new
  · exact p.remove .lost id id' old

theorem enterPing {h : Heartbeat} (found : c.heartbeat = some h) (rests : h.beat.isOut = false)
    (bytes : Bytes) : Pinging (((c.enter h.id .heartbeat).awaitPong).setBeat (.queueing bytes)) := by
  intro id listed
  rcases List.mem_cons.mp listed with new | old
  · cases new
    exact ⟨_, heartbeat_pinged found bytes, rfl, rfl, rfl⟩
  · rw [pending_remove] at old
    exact absurd (List.mem_of_mem_filter old) (p.unlisted found (.inl rests) id)

theorem turn {i k : Nat} {c' : Connection} (turn : Turn i k c c') : Pinging c' := by
  have closed {c₁ : Connection} (empty : c₁.pending = []) : Pinging c₁ := by
    intro id listed
    rw [empty] at listed
    cases listed
  have none {h : Heartbeat} (found : c.heartbeat = some h)
      (off : h.beat.isOut = false ∨ h.reply ≠ .awaited) {c₁ : Connection}
      (pending : c₁.pending = c.pending) : Pinging c₁ := by
    intro id listed
    rw [pending] at listed
    exact absurd listed (p.unlisted found off id)
  cases turn with
  | begun => exact p.aside rfl rfl
  | dropped => exact p.aside rfl rfl
  | @refused _ s => exact ((p.enterSend s.id s.number).remove .lost s.id).aside rfl rfl
  | @entered _ s => exact (p.enterSend s.id s.number).aside rfl rfl
  | accepted => exact p.aside rfl rfl
  | stays => exact p.aside rfl rfl
  | @left _ s => exact (p.remove .lost s.id).aside rfl rfl
  | came => exact p.aside rfl rfl
  | @took _ frame rest =>
    have taken : Pinging { c with incoming := rest, taken := c.taken ++ [frame] } := p.aside rfl rfl
    unfold deliver
    cases frame.requestId? with
    | none => exact taken
    | some id => exact taken.remove _ id
  | broke => exact closed (pending_markClosed _)
  | unqueued => exact p.aside rfl rfl
  | wrote => exact p.aside rfl rfl
  | writeFailed => exact closed (pending_markClosed c)
  | pinged found sleeping _ bytes => exact p.enterPing found (by rw [sleeping]; rfl) bytes
  | unsendable => exact closed (pending_markClosed c)
  | @pingAccepted _ h bytes found queueing _ _ deadline =>
    intro id listed
    obtain ⟨h', found', -, rfl, awaited⟩ := p id listed
    obtain rfl := Option.some.inj (found.symm.trans found')
    exact ⟨_, heartbeat_setBeat (c := c.accept ⟨.heartbeat, h.id, bytes⟩) found _, rfl, rfl, awaited⟩
  | gaveUp => exact closed (pending_markClosed c)
  | rested _ found _ answered =>
    exact none found (.inr (by rw [answered]; exact Reply.noConfusion)) rfl
  | stopped found finds =>
    refine none found ?_ rfl
    rcases finds with ⟨-, rests⟩ | lost
    · exact .inl rests
    · exact .inr (by rw [lost]; exact Reply.noConfusion)
  | ended => exact closed (pending_markClosed c)

theorem turns {i k : Nat} {c' : Connection} (turns : Turns i k c c') : Pinging c' := by
  induction turns with
  | none => exact p
  | next _ last ih => exact (ih p).turn last

theorem run (events : List Event) : Pinging (c.run events) := by
  induction events generalizing c with
  | nil => exact p
  | cons e rest ih => exact ih (p.turns (apply_turns e c))

end

theorem establish (now : Instant) (d : Descriptor) (limit : Nat) (greeting : Bytes)
    (unread : Incoming) : Pinging (establish now d limit greeting unread) :=
  nofun

end Pinging

/-- As long as the heartbeat waits for an answer it is in the table. -/
def Placed (c : Connection) : Prop := ∀ id, c.Awaits id .heartbeat → (id, .heartbeat) ∈ c.pending

theorem heartbeat_markClosed (c : Connection) : c.markClosed.heartbeat = c.heartbeat.map fun h =>
    if .heartbeat ∈ c.pending.map (·.2) then { h with reply := h.reply.learn .lost } else h := by
  have told (ws : List Waiter) (c : Connection) :
      (ws.foldl (fun c w => c.inform .lost w) c).heartbeat = c.heartbeat.map fun h =>
        if .heartbeat ∈ ws then { h with reply := h.reply.learn .lost } else h := by
    induction ws generalizing c with
    | nil => simp
    | cons w rest ih =>
      rw [List.foldl_cons, ih]
      have twice (reply : Reply) : (reply.learn .lost).learn .lost = reply.learn .lost := by
        cases reply <;> rfl
      cases w with
      | send number => simp [inform]
      | heartbeat =>
        simp only [inform, Option.map_map, List.mem_cons_self, if_true]
        congr 1
        funext h
        by_cases again : Waiter.heartbeat ∈ rest <;> simp [again, twice]
  exact told _ _

theorem awaits_told {reply news : Reply} (known : news ≠ .awaited) (still : reply.learn news = .awaited) :
    False := by
  cases reply with
  | awaited => exact known still
  | given frame => cases still
  | lost => cases still

theorem placed_enterPing {c : Connection} {h : Heartbeat} (found : c.heartbeat = some h) (bytes : Bytes) :
    Placed (((c.enter h.id .heartbeat).awaitPong).setBeat (.queueing bytes)) := by
  intro id awaits
  obtain ⟨h', found', -, rfl, -⟩ := awaits
  obtain rfl := Option.some.inj ((heartbeat_pinged found bytes).symm.trans found')
  exact List.mem_cons_self

namespace Placed

section

variable {c : Connection} (p : Placed c)

include p

theorem aside {c' : Connection} (pending : c'.pending = c.pending) (heartbeat : c'.heartbeat = c.heartbeat) :
    Placed c' := by
  intro id awaits
  rw [pending]
  rw [Awaits, heartbeat] at awaits
  exact p id awaits

theorem remove (t : Tracked c) {news : Reply} (known : news ≠ .awaited) (id : UInt64) :
    Placed (c.remove news id) := by
  intro id' awaits
  obtain ⟨h', found', out, same, awaited⟩ := awaits
  rw [pending_remove]
  unfold Connection.remove at found'
  cases entry : c.pending.lookup id with
  | none =>
    rw [entry] at found'
    have listed := p id' ⟨h', found', out, same, awaited⟩
    refine List.mem_filter.mpr ⟨listed, bne_iff_ne.mpr ?_⟩
    rintro rfl
    cases (lookup_of_mem t.keys listed).symm.trans entry
  | some w =>
    rw [entry] at found'
    cases w with
    | heartbeat =>
      obtain ⟨h, -, rfl⟩ := Option.map_eq_some_iff.mp found'
      exact (awaits_told known awaited).elim
    | send number =>
      have listed := p id' ⟨h', found', out, same, awaited⟩
      refine List.mem_filter.mpr ⟨listed, bne_iff_ne.mpr ?_⟩
      rintro rfl
      cases (lookup_of_mem t.keys listed).symm.trans entry

theorem markClosed : Placed c.markClosed := by
  intro id awaits
  obtain ⟨h', found', out, same, awaited⟩ := awaits
  rw [heartbeat_markClosed] at found'
  obtain ⟨h, found, rfl⟩ := Option.map_eq_some_iff.mp found'
  by_cases there : Waiter.heartbeat ∈ c.pending.map (·.2)
  · rw [if_pos there] at awaited
    exact (awaits_told Reply.noConfusion awaited).elim
  · rw [if_neg there] at out awaited
    exact absurd (List.mem_map.mpr ⟨_, p h.id ⟨h, found, out, rfl, awaited⟩, rfl⟩) there

theorem enterSend (t : Tracked c) (id : UInt64) (number : Nat) : Placed (c.enter id (.send number)) := by
  intro id' awaits
  exact List.mem_cons_of_mem _ (p.remove t Reply.noConfusion id id' awaits)

theorem turn (t : Tracked c) {i k : Nat} {c' : Connection} (turn : Turn i k c c') : Placed c' := by
  have rests {c₁ : Connection} (off : ∀ h, c₁.heartbeat = some h → h.beat.isOut = false) : Placed c₁ := by
    intro id awaits
    obtain ⟨h, found, out, -⟩ := awaits
    exact absurd ((off h found).symm.trans out) Bool.false_ne_true
  have stopped (c₁ : Connection) : Placed (c₁.setBeat .stopped) := by
    refine rests fun h' found' => ?_
    obtain ⟨h, -, rfl⟩ := Option.map_eq_some_iff.mp found'
    rfl
  have lost {c₁ : Connection} (p₁ : Placed c₁) (t₁ : Tracked c₁) (id : UInt64) :
      Placed (c₁.remove .lost id) :=
    p₁.remove t₁ Reply.noConfusion id
  cases turn with
  | begun => exact p.aside rfl rfl
  | dropped => exact p.aside rfl rfl
  | refused found begun closed =>
    rw [Tracked.refused_eq (t.shut closed)]
    exact p.aside rfl rfl
  | @entered _ s => exact (p.enterSend t s.id s.number).aside rfl rfl
  | accepted => exact p.aside rfl rfl
  | stays => exact p.aside rfl rfl
  | @left _ s => exact (lost p t s.id).aside rfl rfl
  | came => exact p.aside rfl rfl
  | @took _ frame rest =>
    have taken : Placed { c with incoming := rest, taken := c.taken ++ [frame] } := p.aside rfl rfl
    unfold deliver
    cases frame.requestId? with
    | none => exact taken
    | some id =>
      refine taken.remove ?_ Reply.noConfusion id
      exact { t with given := fun s there frame' given =>
        (t.given s there frame' given).imp_right (List.mem_append_left _) }
  | @broke _ reading rest =>
    have read : Placed { c with incoming := rest, readerRuns := false } := p.aside rfl rfl
    exact read.markClosed
  | unqueued => exact p.aside rfl rfl
  | wrote => exact p.aside rfl rfl
  | writeFailed => exact p.markClosed.aside rfl rfl
  | pinged found _ _ bytes => exact placed_enterPing found bytes
  | unsendable => exact stopped _
  | @pingAccepted _ h bytes found queueing =>
    intro id awaits
    obtain ⟨h', found', -, rfl, awaited⟩ := awaits
    have beats := heartbeat_setBeat (c := c.accept ⟨.heartbeat, h.id, bytes⟩) found
    obtain rfl := Option.some.inj ((beats _).symm.trans found')
    exact p h.id ⟨h, found, by rw [queueing]; rfl, rfl, awaited⟩
  | gaveUp => exact stopped _
  | rested =>
    refine rests fun h' found' => ?_
    cases found'
    rfl
  | stopped => exact stopped _
  | ended => exact rests nofun

theorem turns (t : Tracked c) {i k : Nat} {c' : Connection} (turns : Turns i k c c') : Placed c' := by
  induction turns with
  | none => exact p
  | next before last ih => exact (ih p t).turn (t.turns before) last

theorem run (t : Tracked c) (events : List Event) : Placed (c.run events) := by
  induction events generalizing c with
  | nil => exact p
  | cons e rest ih => exact ih (p.turns t (apply_turns e c)) (t.turns (apply_turns e c))

end

theorem establish (now : Instant) (d : Descriptor) (limit : Nat) (greeting : Bytes)
    (unread : Incoming) : Placed (establish now d limit greeting unread) := by
  intro id awaits
  obtain ⟨h, found, out, -⟩ := awaits
  obtain ⟨interval, -, rfl⟩ := Option.map_eq_some_iff.mp found
  exact absurd out Bool.false_ne_true

end Placed

end Connection

end Switchboard.Tcp
