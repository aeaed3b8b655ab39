import Switchboard.Proofs.Tcp.Turn

/-!
Entering the table, leaving it and closing tell parties something. What that does to a connection is said
once: the table, the replies and the mark of the end may be others afterwards, and nothing else is.
-/
namespace Switchboard.Tcp

/-- A send, but for what it was told. -/
def Send.untold (s : Send) : Send := { s with reply := .awaited }

def Heartbeat.untold (h : Heartbeat) : Heartbeat := { h with reply := .awaited }

theorem learn_of_known {reply : Reply} (knows : reply ≠ .awaited) (news : Reply) :
    reply.learn news = reply := by
  cases reply with
  | awaited => exact absurd rfl knows
  | given frame => rfl
  | lost => rfl

namespace Connection

structure Informed (c c' : Connection) : Prop where
  limit : c'.limit = c.limit
  closed : c.closed = true → c'.closed = true
  nextId : c'.nextId = c.nextId
  nextNumber : c'.nextNumber = c.nextNumber
  sends : c'.sends.map Send.untold = c.sends.map Send.untold
  queue : c'.queue = c.queue
  writing : c'.writing = c.writing
  writerRuns : c'.writerRuns = c.writerRuns
  readerRuns : c'.readerRuns = c.readerRuns
  heartbeat : c'.heartbeat.map Heartbeat.untold = c.heartbeat.map Heartbeat.untold
  kept : ∀ h, c.heartbeat = some h → h.reply ≠ .awaited → c'.heartbeat = some h
  incoming : c'.incoming = c.incoming
  written : c'.written = c.written
  queued : c'.queued = c.queued
  taken : c'.taken = c.taken

section

variable {c c' c'' : Connection}

theorem Informed.refl (c : Connection) : Informed c c :=
  ⟨rfl, id, rfl, rfl, rfl, rfl, rfl, rfl, rfl, rfl, fun _ found _ => found, rfl, rfl, rfl, rfl⟩

theorem Informed.trans (first : Informed c c') (second : Informed c' c'') : Informed c c'' where
  limit := second.limit.trans first.limit
  closed := second.closed ∘ first.closed
  nextId := second.nextId.trans first.nextId
  nextNumber := second.nextNumber.trans first.nextNumber
  sends := second.sends.trans first.sends
  queue := second.queue.trans first.queue
  writing := second.writing.trans first.writing
  writerRuns := second.writerRuns.trans first.writerRuns
  readerRuns := second.readerRuns.trans first.readerRuns
  heartbeat := second.heartbeat.trans first.heartbeat
  kept h found knows := second.kept h (first.kept h found knows) knows
  incoming := second.incoming.trans first.incoming
  written := second.written.trans first.written
  queued := second.queued.trans first.queued
  taken := second.taken.trans first.taken

theorem informed_inform (news : Reply) (w : Waiter) (c : Connection) :
    Informed c (c.inform news w) := by
  cases w with
  | heartbeat =>
    refine { Informed.refl c with heartbeat := ?_, kept := ?_ }
    · simp only [inform, Option.map_map]
      rfl
    · intro h found knows
      rw [inform, found]
      exact congrArg (fun reply => some { h with reply := reply }) (learn_of_known knows news)
  | send number =>
    refine { Informed.refl c with sends := ?_ }
    simp only [inform, List.map_map]
    refine List.map_congr_left fun s _ => ?_
    simp only [Function.comp_apply]
    split <;> rfl

theorem informed_foldl (news : Reply) (ws : List Waiter) (c : Connection) :
    Informed c (ws.foldl (fun c w => c.inform news w) c) := by
  induction ws generalizing c with
  | nil => exact .refl c
  | cons w rest ih => exact (informed_inform news w c).trans (ih (c.inform news w))

theorem informed_table (pending : List (UInt64 × Waiter)) (c : Connection) :
    Informed c { c with pending := pending } :=
  { Informed.refl c with }

theorem informed_remove (news : Reply) (id : UInt64) (c : Connection) :
    Informed c (c.remove news id) := by
  unfold remove
  cases c.pending.lookup id with
  | none => exact .refl c
  | some w => exact (informed_table _ c).trans (informed_inform news w _)

theorem informed_enter (id : UInt64) (w : Waiter) (c : Connection) : Informed c (c.enter id w) :=
  (informed_remove .lost id c).trans (informed_table _ _)

theorem informed_markClosed (c : Connection) : Informed c c.markClosed := by
  have marked : Informed c { c with closed := true, pending := [] } :=
    { Informed.refl c with closed := fun _ => rfl }
  exact marked.trans (informed_foldl .lost _ _)

theorem informed_deliver (frame : ServerFrame) (c : Connection) : Informed c (c.deliver frame) := by
  unfold deliver
  cases frame.requestId? with
  | none => exact .refl c
  | some id => exact informed_remove _ id c

@[simp] theorem closed_markClosed (c : Connection) : c.markClosed.closed = true :=
  (informed_foldl .lost _ { c with closed := true, pending := [] }).closed rfl

/-- A send that is there afterwards was there before, and has been told something at most. -/
theorem Informed.send (informed : Informed c c') {s' : Send} (found : s' ∈ c'.sends) :
    ∃ s ∈ c.sends, s.number = s'.number ∧ s.id = s'.id ∧ s.target = s'.target ∧
      s.payload = s'.payload ∧ s.place = s'.place := by
  have listed : s'.untold ∈ c.sends.map Send.untold :=
    informed.sends ▸ List.mem_map_of_mem found
  obtain ⟨s, there, same⟩ := List.mem_map.mp listed
  exact ⟨s, there, by simpa [Send.untold] using same⟩

theorem Informed.beat (informed : Informed c c') {h' : Heartbeat} (found : c'.heartbeat = some h') :
    ∃ h, c.heartbeat = some h ∧ h.interval = h'.interval ∧ h.patience = h'.patience ∧
      h.id = h'.id ∧ h.beat = h'.beat := by
  have told := informed.heartbeat
  rw [found] at told
  obtain ⟨h, found', same⟩ := Option.map_eq_some_iff.mp told.symm
  exact ⟨h, found', by simpa [Heartbeat.untold] using same⟩

end

/-! ### The limit -/

theorem Turn.limit {i p : Nat} {c c' : Connection} (turn : Turn i p c c') : c'.limit = c.limit := by
  cases turn with
  | refused => exact (informed_remove _ _ _).limit.trans (informed_enter _ _ c).limit
  | @entered _ s => exact (informed_enter s.id (.send s.number) c).limit
  | left => exact (informed_remove _ _ c).limit
  | @took _ frame rest =>
    exact (informed_deliver frame { c with incoming := rest, taken := c.taken ++ [frame] }).limit
  | @broke _ reading rest =>
    exact (informed_markClosed { c with incoming := rest, readerRuns := false }).limit
  | writeFailed => exact (informed_markClosed c).limit
  | @pinged _ h => exact (informed_enter h.id .heartbeat c).limit
  | unsendable => exact (informed_markClosed c).limit
  | gaveUp => exact (informed_markClosed c).limit
  | ended => exact (informed_markClosed c).limit
  | _ => rfl

theorem Turns.limit {i p : Nat} {c c' : Connection} (turns : Turns i p c c') : c'.limit = c.limit := by
  induction turns with
  | none => rfl
  | next _ last ih => exact last.limit.trans ih

@[simp] theorem limit_run (events : List Event) (c : Connection) : (c.run events).limit = c.limit := by
  induction events generalizing c with
  | nil => rfl
  | cons e rest ih => exact (ih (e.apply c)).trans (apply_turns e c).limit

end Connection

end Switchboard.Tcp
