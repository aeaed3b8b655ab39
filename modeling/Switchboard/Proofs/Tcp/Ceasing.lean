import Switchboard.Proofs.Tcp.Heartbeat

/-!
The pings of a closed connection. None is numbered any more. The one that waits for room in the queue when the
connection closes may still be queued, as long as the writer makes room.
-/
namespace Switchboard.Tcp

/-- The number of a ping that waits for room in the queue. -/
def Heartbeat.offered (h : Heartbeat) : List UInt64 :=
  match h.beat with
  | .queueing _ => [h.id]
  | _ => []

namespace Connection

def offered (c : Connection) : List UInt64 := c.heartbeat.toList.flatMap Heartbeat.offered

/-- What the pings of a closed connection may become: one that waits for room is queued, or it is not. -/
structure Ceased (c c' : Connection) : Prop where
  closed : c'.closed = true
  more : c.pingIds <+: c'.pingIds
  least : c'.pingIds ++ c'.offered <+: c.pingIds ++ c.offered

theorem Informed.offered {c c' : Connection} (informed : Informed c c') : c'.offered = c.offered := by
  have known (c : Connection) :
      c.offered = (c.heartbeat.map Heartbeat.untold).toList.flatMap Heartbeat.offered := by
    unfold Connection.offered
    cases c.heartbeat <;> rfl
  rw [known, known, informed.heartbeat]

theorem offered_stop (c : Connection) : (c.setBeat .stopped).offered = [] := by
  unfold offered setBeat
  cases c.heartbeat <;> rfl

namespace Ceased

section

variable {c c' : Connection} (ceased : Ceased c c')

include ceased

theorem aside {c'' : Connection} (closed : c''.closed = c'.closed) (pingIds : c''.pingIds = c'.pingIds)
    (offered : c''.offered = c'.offered ∨ c''.offered = []) : Ceased c c'' where
  closed := closed.trans ceased.closed
  more := pingIds ▸ ceased.more
  least := by
    rw [pingIds]
    rcases offered with same | none
    · rw [same]
      exact ceased.least
    · rw [none, List.append_nil]
      exact (List.prefix_append _ _).trans ceased.least

theorem informed {c'' : Connection} (informed : Informed c' c'') : Ceased c c'' :=
  ceased.aside ((informed.closed ceased.closed).trans ceased.closed.symm) informed.beside.pingIds
    (.inl informed.offered)

theorem giveUp : Ceased c c'.giveUp :=
  (ceased.informed (informed_markClosed c')).aside rfl rfl (.inr (offered_stop _))

theorem turn {i p : Nat} {c'' : Connection} (turn : Turn i p c' c'') : p = 0 ∧ Ceased c c'' := by
  have impossible {P : Prop} (opened : c'.closed = false) : P :=
    absurd (opened.symm.trans ceased.closed) Bool.false_ne_true
  cases turn with
  | begun => exact ⟨rfl, ceased.aside rfl rfl (.inl rfl)⟩
  | dropped => exact ⟨rfl, ceased.aside rfl rfl (.inl rfl)⟩
  | @refused _ s =>
    have left := (informed_enter s.id (.send s.number) c').trans (informed_remove .lost s.id _)
    exact ⟨rfl, (ceased.informed left).aside rfl rfl (.inl rfl)⟩
  | entered _ _ opened => exact impossible opened
  | @accepted _ s bytes =>
    have same := (beside_acceptSend s.number s.id bytes c').pingIds
    exact ⟨rfl, ceased.aside rfl same (.inl rfl)⟩
  | stays => exact ⟨rfl, ceased.aside rfl rfl (.inl rfl)⟩
  | left => exact ⟨rfl, (ceased.informed (informed_remove .lost _ c')).aside rfl rfl (.inl rfl)⟩
  | came => exact ⟨rfl, ceased.aside rfl rfl (.inl rfl)⟩
  | @took _ frame rest =>
    have taken : Ceased c { c' with incoming := rest, taken := c'.taken ++ [frame] } :=
      ceased.aside rfl rfl (.inl rfl)
    exact ⟨rfl, taken.informed (informed_deliver frame _)⟩
  | @broke _ reading rest =>
    have read : Ceased c { c' with incoming := rest, readerRuns := false } := ceased.aside rfl rfl (.inl rfl)
    exact ⟨rfl, read.informed (informed_markClosed _)⟩
  | unqueued => exact ⟨rfl, ceased.aside rfl rfl (.inl rfl)⟩
  | wrote => exact ⟨rfl, ceased.aside rfl rfl (.inl rfl)⟩
  | writeFailed => exact ⟨rfl, (ceased.informed (informed_markClosed c')).aside rfl rfl (.inl rfl)⟩
  | pinged _ _ opened => exact impossible opened
  | unsendable _ _ opened => exact impossible opened
  | @pingAccepted _ h bytes found queueing _ _ deadline =>
    have beats := heartbeat_setBeat (c := c'.accept ⟨.heartbeat, h.id, bytes⟩) found (.awaiting deadline)
    have waited : c'.offered = [h.id] := by
      simp [Connection.offered, found, Heartbeat.offered, queueing]
    have queued : ((c'.accept ⟨.heartbeat, h.id, bytes⟩).setBeat (.awaiting deadline)).pingIds =
        c'.pingIds ++ [h.id] := by
      rw [pingIds_setBeat, pingIds_accept, if_pos rfl]
    have none : ((c'.accept ⟨.heartbeat, h.id, bytes⟩).setBeat (.awaiting deadline)).offered = [] := by
      rw [Connection.offered, beats]
      rfl
    refine ⟨rfl, ceased.closed, ?_, ?_⟩
    · rw [queued]
      exact ceased.more.trans (List.prefix_append _ _)
    · rw [queued, none, List.append_nil, ← waited]
      exact ceased.least
  | gaveUp => exact ⟨rfl, ceased.giveUp⟩
  | rested => exact ⟨rfl, ceased.aside rfl rfl (.inr rfl)⟩
  | stopped => exact ⟨rfl, ceased.aside rfl rfl (.inr (offered_stop c'))⟩
  | ended opened => exact impossible opened

theorem turns {i p : Nat} {c'' : Connection} (turns : Turns i p c' c'') : p = 0 ∧ Ceased c c'' := by
  induction turns with
  | none => exact ⟨rfl, ceased⟩
  | next _ last ih =>
    obtain ⟨none, before⟩ := ih ceased
    obtain ⟨still, after⟩ := before.turn last
    exact ⟨by rw [none, still], after⟩

theorem run (events : List Event) : c'.pings events = 0 ∧ Ceased c (c'.run events) := by
  induction events generalizing c' with
  | nil => exact ⟨rfl, ceased⟩
  | cons e rest ih =>
    obtain ⟨none, applied⟩ := ceased.turns (apply_turns e c')
    obtain ⟨still, after⟩ := ih applied
    exact ⟨by rw [pings, none, still], after⟩

end

theorem refl {c : Connection} (closed : c.closed = true) : Ceased c c :=
  ⟨closed, List.prefix_refl _, List.prefix_refl _⟩

end Ceased

/-- After the end the only ping to be queued is the last one, if it was waiting for room. -/
theorem Attended.ceases {v : Vigil} {c : Connection} (a : Attended v c) {c' : Connection}
    (ceased : Ceased c c') : c'.pingIds = c.pingIds ∨
      ∃ p, v.last = some p ∧ p.queued = none ∧ c'.pingIds = c.pingIds ++ [p.id] := by
  obtain ⟨more, same⟩ := ceased.more
  have least : more <+: c.offered := by
    have least := (List.prefix_append _ _).trans ceased.least
    rw [← same] at least
    exact (List.prefix_append_right_inj c.pingIds).mp least
  have none (unoffered : c.offered = []) : c'.pingIds = c.pingIds := by
    rw [unoffered] at least
    rw [← same, List.prefix_nil.mp least, List.append_nil]
  cases found : c.heartbeat with
  | none => exact .inl (none (by rw [offered, found]; rfl))
  | some h =>
    have known : c.offered = h.offered := by simp [offered, found]
    cases beat : h.beat with
    | sleeping wakes => exact .inl (none (by rw [known, Heartbeat.offered, beat]))
    | awaiting deadline => exact .inl (none (by rw [known, Heartbeat.offered, beat]))
    | stopped => exact .inl (none (by rw [known, Heartbeat.offered, beat]))
    | queueing bytes =>
      have stands := a.stands h found
      rw [Heartbeat.Stands, beat] at stands
      obtain ⟨p, last, id, unqueued⟩ := stands
      rw [known, Heartbeat.offered, beat] at least
      rcases List.prefix_cons_iff.mp least with unqueued' | ⟨rest, rfl, ends⟩
      · rw [unqueued', List.append_nil] at same
        exact .inl same.symm
      · rw [List.prefix_nil.mp ends, ← id] at same
        exact .inr ⟨p, last, unqueued, same.symm⟩

end Connection

end Switchboard.Tcp
