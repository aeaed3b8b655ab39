import Switchboard.Transport.InProcess

/-!
Actions on the endpoints inside the process, whoever they come from, and what each of them leaves as it
was: the endpoints of other authorities, and the connection of every handle but for a close.
-/
namespace Switchboard.InProcess

open Text (Bytes)

/-! ### Actions -/

inductive Action
  | register (authority : String) (handler : Handler)
  | start (authority : String)
  | stop (authority : String)
  | stopSilently (authority : String)
  | dropConnections (authority : String)
  | setOpenDelay (authority : String) (delay : Duration)
  | setReplyDelay (authority : String) (delay : Duration)
  | startOpen (now : Instant) (d : Descriptor)
  | resumeOpen (now : Instant) (o : Opening)
  | startSend (now : Instant) (h : Handle) (target : Target) (payload : Bytes)
  | resumeSend (now : Instant) (s : Sending)
  | close (h : Handle)
  | drop (h : Handle)

namespace Action

def act : Action → InProcess → InProcess
  | register authority handler, t => t.register authority handler
  | start authority, t => t.start authority
  | stop authority, t => t.stop authority
  | stopSilently authority, t => t.stopSilently authority
  | dropConnections authority, t => t.dropConnections authority
  | setOpenDelay authority delay, t => t.setOpenDelay authority delay
  | setReplyDelay authority delay, t => t.setReplyDelay authority delay
  | startOpen now d, t => (t.startOpen now d).1
  | resumeOpen now o, t => (t.resumeOpen now o).1
  | startSend now h target payload, t => (t.startSend now h target payload).1
  | resumeSend now s, t => (t.resumeSend now s).1
  | close h, t => t.close h
  | drop h, t => t.drop h

end Action

def run (actions : List Action) (t : InProcess) : InProcess := actions.foldl (fun t a => a.act t) t

/-! ### Endpoints -/

theorem lookup_setIn (authority : String) (e : Endpoint) (es : List (String × Endpoint)) :
    (setIn authority e es).lookup authority = some e := by
  induction es with
  | nil => simp [setIn]
  | cons entry es ih =>
    obtain ⟨other, old⟩ := entry
    by_cases same : other = authority
    · simp [setIn, same]
    · have different : (authority == other) = false := beq_eq_false_iff_ne.mpr (Ne.symm same)
      simp [setIn, same, List.lookup_cons, different, ih]

theorem lookup_setIn_of_ne {authority other : String} (different : other ≠ authority) (e : Endpoint)
    (es : List (String × Endpoint)) : (setIn authority e es).lookup other = es.lookup other := by
  have unequal : (other == authority) = false := beq_eq_false_iff_ne.mpr different
  induction es with
  | nil => simp [setIn, List.lookup_cons, unequal]
  | cons entry es ih =>
    obtain ⟨name, old⟩ := entry
    by_cases same : name = authority
    · simp [setIn, same, List.lookup_cons, unequal]
    · simp [setIn, same, List.lookup_cons, ih]

@[simp] theorem find_set (authority : String) (e : Endpoint) (t : InProcess) :
    (t.set authority e).find authority = some e :=
  lookup_setIn authority e t.endpoints

theorem find_set_of_ne {authority other : String} (different : other ≠ authority) (e : Endpoint)
    (t : InProcess) : (t.set authority e).find other = t.find other :=
  lookup_setIn_of_ne different e t.endpoints

theorem find_update (authority : String) (f : Endpoint → Endpoint) (t : InProcess) :
    (t.update authority f).find authority = (t.find authority).map f := by
  unfold update
  cases found : t.find authority with
  | none => exact found
  | some e => exact find_set authority (f e) t

theorem find_update_of_ne {authority other : String} (different : other ≠ authority)
    (f : Endpoint → Endpoint) (t : InProcess) :
    (t.update authority f).find other = t.find other := by
  unfold update
  cases t.find authority with
  | none => rfl
  | some e => exact find_set_of_ne different (f e) t

theorem connections_update (authority : String) (f : Endpoint → Endpoint) (t : InProcess) :
    (t.update authority f).connections = t.connections := by
  unfold update
  cases t.find authority <;> rfl

theorem endpoints_closeAll (hs : List Handle) (t : InProcess) :
    (t.closeAll hs).endpoints = t.endpoints := by
  induction hs generalizing t with
  | nil => rfl
  | cons h hs ih => exact ih (t.close h)

theorem find_closeAll (hs : List Handle) (t : InProcess) (authority : String) :
    (t.closeAll hs).find authority = t.find authority := by
  rw [find, endpoints_closeAll, find]

/-! ### Connections -/

/-- The connection of a handle is the same, but for a close. -/
def Persists (h : Handle) (t t' : InProcess) : Prop :=
  ∀ c, t.connection h = some c → ∃ c', t'.connection h = some c' ∧ c'.authority = c.authority ∧
    c'.epoch = c.epoch ∧ c'.dropped = c.dropped ∧ (c.closed = true → c'.closed = true)

section Persists

variable {h : Handle} {t t' t'' : InProcess}

theorem Persists.of_eq (same : t'.connections = t.connections) : Persists h t t' := by
  intro c there
  refine ⟨c, ?_, rfl, rfl, rfl, id⟩
  rw [connection, same]
  exact there

theorem Persists.trans (first : Persists h t t') (second : Persists h t' t'') : Persists h t t'' := by
  intro c there
  obtain ⟨c', there', authority, epoch, dropped, closed⟩ := first c there
  obtain ⟨c'', there'', authority', epoch', dropped', closed'⟩ := second c' there'
  exact ⟨c'', there'', authority'.trans authority, epoch'.trans epoch, dropped'.trans dropped,
    closed' ∘ closed⟩

theorem connection_close (other : Handle) (t : InProcess) {c : Connection}
    (there : t.connection h = some c) :
    (t.close other).connection h = some (if other = h then { c with closed := true } else c) := by
  rw [connection] at there
  rw [connection, close, List.getElem?_modify, there]
  split <;> rfl

theorem persists_close (other : Handle) (t : InProcess) : Persists h t (t.close other) := by
  intro c there
  refine ⟨_, connection_close other t there, ?_⟩
  split <;> simp

theorem persists_drop {other : Handle} (held : other ≠ h) (t : InProcess) :
    Persists h t (t.drop other) := by
  intro c there
  rw [connection] at there
  refine ⟨c, ?_, rfl, rfl, rfl, id⟩
  rw [connection, drop, List.getElem?_modify, there]
  simp [held]

theorem persists_closeAll (hs : List Handle) (t : InProcess) : Persists h t (t.closeAll hs) := by
  induction hs generalizing t with
  | nil => exact .of_eq rfl
  | cons other hs ih => exact (persists_close other t).trans (ih (t.close other))

/-- Every handle of a list is closed with it. -/
theorem closed_closeAll {hs : List Handle} (listed : h ∈ hs) (t : InProcess) {c : Connection}
    (there : t.connection h = some c) :
    ∃ c', (t.closeAll hs).connection h = some c' ∧ c'.closed = true := by
  induction hs generalizing t c with
  | nil => cases listed
  | cons other hs ih =>
    have next := connection_close other t there
    rcases List.mem_cons.mp listed with rfl | later
    · rw [if_pos rfl] at next
      obtain ⟨c', there', _, _, _, closed⟩ := persists_closeAll hs (t.close h) _ next
      exact ⟨c', there', closed rfl⟩
    · exact ih later (t.close other) next

theorem persists_connect (authority : String) (t : InProcess) : Persists h t (t.connect authority).1 := by
  unfold connect
  cases t.find authority with
  | none => exact .of_eq rfl
  | some e =>
    dsimp only
    split
    · exact .of_eq rfl
    · intro c there
      refine ⟨c, ?_, rfl, rfl, rfl, id⟩
      have within : h < t.connections.length := (List.getElem?_eq_some_iff.mp there).1
      exact (List.getElem?_append_left within).trans there

end Persists

theorem persists_endEpoch {h : Handle} (up : Bool → Bool) (authority : String) (t : InProcess) :
    Persists h t (t.endEpoch up authority) := by
  unfold endEpoch
  cases t.find authority with
  | none => exact .of_eq rfl
  | some e => exact persists_closeAll e.live (t.set authority _)

theorem serve_aside (h : Handle) (target : Target) (payload : Bytes) (t : InProcess) :
    (t.serve h target payload).1.connections = t.connections ∧
      (t.serve h target payload).1.endpoints = t.endpoints := by
  unfold serve
  cases t.reachable h <;> exact ⟨rfl, rfl⟩

theorem startSend_aside (now : Instant) (h : Handle) (target : Target) (payload : Bytes)
    (t : InProcess) :
    (t.startSend now h target payload).1.connections = t.connections ∧
      (t.startSend now h target payload).1.endpoints = t.endpoints := by
  unfold startSend
  cases t.reachable h with
  | error e => exact ⟨rfl, rfl⟩
  | ok e =>
    dsimp only
    split
    · exact serve_aside h target payload t
    · exact ⟨rfl, rfl⟩

theorem resumeSend_aside (now : Instant) (s : Sending) (t : InProcess) :
    (t.resumeSend now s).1.connections = t.connections ∧
      (t.resumeSend now s).1.endpoints = t.endpoints := by
  unfold resumeSend
  split
  · exact ⟨rfl, rfl⟩
  · split
    · exact serve_aside s.handle s.target s.payload t
    · exact ⟨rfl, rfl⟩

theorem persists_act {h : Handle} (a : Action) (held : a ≠ .drop h) (t : InProcess) :
    Persists h t (a.act t) := by
  cases a with
  | register authority handler => exact .of_eq rfl
  | start authority => exact .of_eq (connections_update authority _ t)
  | stop authority => exact persists_endEpoch _ authority t
  | stopSilently authority => exact .of_eq (connections_update authority _ t)
  | dropConnections authority => exact persists_endEpoch _ authority t
  | setOpenDelay authority delay => exact .of_eq (connections_update authority _ t)
  | setReplyDelay authority delay => exact .of_eq (connections_update authority _ t)
  | startOpen now d =>
    simp only [Action.act, startOpen]
    cases t.find d.authority with
    | none => exact .of_eq rfl
    | some e =>
      dsimp only
      split
      · exact persists_connect d.authority (t.set d.authority _)
      · exact .of_eq rfl
  | resumeOpen now o =>
    simp only [Action.act, resumeOpen]
    split
    · exact persists_connect o.authority t
    · exact .of_eq rfl
  | startSend now h target payload => exact .of_eq (startSend_aside now h target payload t).1
  | resumeSend now s => exact .of_eq (resumeSend_aside now s t).1
  | close other => exact persists_close other t
  | drop other =>
    apply persists_drop
    rintro rfl
    exact held rfl

end Switchboard.InProcess
