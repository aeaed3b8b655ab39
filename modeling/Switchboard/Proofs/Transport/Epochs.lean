import Switchboard.Proofs.Transport.Actions

/-!
Handles and the epochs of an endpoint. Whoever opened a handle holds it through any sequence of actions,
on its own endpoint or on others. Once its endpoint has been stopped or has dropped its connections, no
send over it gets to a handler: the handle was closed then, or it is of an earlier epoch. A registration
does not end an epoch, and begins with the first one again.
-/
namespace Switchboard.InProcess

/-! ### Openings and ends -/

namespace Action

/-- An action opens a handle to the endpoint of an authority. -/
def Opens (authority : String) (h : Handle) (t : InProcess) : Action → Prop
  | startOpen now d => d.authority = authority ∧ (t.startOpen now d).2 = .done (.ok h)
  | resumeOpen now o => o.authority = authority ∧ (t.resumeOpen now o).2 = .done (.ok h)
  | _ => False

def Registers (authority : String) : Action → Prop
  | register other _ => other = authority
  | _ => False

/-- The end of an epoch. -/
def Ends (authority : String) : Action → Prop
  | stop other | stopSilently other | dropConnections other => other = authority
  | _ => False

/-- An end that the open handles are told of. -/
def Tells : Action → Prop
  | stopSilently _ => False
  | _ => True

end Action

/-! ### Epochs -/

/-- The endpoint of an authority is in the same epoch and still knows the handles that are held. -/
def Continues (authority : String) (t t' : InProcess) : Prop :=
  ∀ e, t.find authority = some e → ∃ e', t'.find authority = some e' ∧ e'.epoch = e.epoch ∧
    ∀ h ∈ e.live, ∀ c, t.connection h = some c → c.dropped = false → h ∈ e'.live

section Continues

variable {authority : String} {t t' t'' : InProcess}

theorem Continues.of_eq (same : t'.find authority = t.find authority) : Continues authority t t' := by
  intro e found
  exact ⟨e, same.trans found, rfl, fun h live _ _ _ => live⟩

theorem Continues.trans (first : Continues authority t t') (second : Continues authority t' t'')
    (same : t'.connections = t.connections) : Continues authority t t'' := by
  intro e found
  obtain ⟨e', found', epoch, live⟩ := first e found
  obtain ⟨e'', found'', epoch', live'⟩ := second e' found'
  refine ⟨e'', found'', epoch'.trans epoch, ?_⟩
  intro h listed c there held
  have there' : t'.connection h = some c := by
    rw [connection, same]
    exact there
  exact live' h (live h listed c there held) c there' held

theorem continues_update (other : String) {f : Endpoint → Endpoint}
    (aside : ∀ e, (f e).epoch = e.epoch ∧ (f e).live = e.live) (t : InProcess) :
    Continues authority t (t.update other f) := by
  by_cases same : authority = other
  · subst same
    intro e found
    refine ⟨f e, by rw [find_update, found, Option.map_some], (aside e).1, ?_⟩
    intro h listed _ _ _
    rw [(aside e).2]
    exact listed
  · exact .of_eq (find_update_of_ne same f t)

theorem continues_connect (other : String) (t : InProcess) :
    Continues authority t (t.connect other).1 := by
  unfold connect
  cases known : t.find other with
  | none => exact .of_eq rfl
  | some e =>
    dsimp only
    split
    · exact .of_eq rfl
    · by_cases same : authority = other
      · subst same
        intro e' found
        obtain rfl : e = e' := Option.some.inj (known.symm.trans found)
        refine ⟨_, find_set authority _ t, rfl, ?_⟩
        intro h listed c there held
        apply List.mem_append_left
        simp [listed, there, held]
      · exact .of_eq (find_set_of_ne same _ t)

theorem find_endEpoch_of_ne {other : String} (different : authority ≠ other) (up : Bool → Bool)
    (t : InProcess) : (t.endEpoch up other).find authority = t.find authority := by
  unfold endEpoch
  cases t.find other with
  | none => rfl
  | some e => rw [find_closeAll, find_set_of_ne different]

/-- An epoch lasts until its endpoint is registered anew or the epoch is ended. -/
theorem continues_act (a : Action) (unregistered : ¬ a.Registers authority)
    (unended : ¬ a.Ends authority) (t : InProcess) : Continues authority t (a.act t) := by
  cases a with
  | register other handler => exact .of_eq (find_set_of_ne (Ne.symm unregistered) _ t)
  | start other => exact continues_update other (by exact fun _ => ⟨rfl, rfl⟩) t
  | stop other => exact .of_eq (find_endEpoch_of_ne (Ne.symm unended) _ t)
  | stopSilently other => exact .of_eq (find_update_of_ne (Ne.symm unended) _ t)
  | dropConnections other => exact .of_eq (find_endEpoch_of_ne (Ne.symm unended) _ t)
  | setOpenDelay other delay => exact continues_update other (by exact fun _ => ⟨rfl, rfl⟩) t
  | setReplyDelay other delay => exact continues_update other (by exact fun _ => ⟨rfl, rfl⟩) t
  | startOpen now d =>
    simp only [Action.act, startOpen]
    cases known : t.find d.authority with
    | none => exact .of_eq rfl
    | some e =>
      have counted : Continues authority t
          (t.set d.authority { e with openCount := e.openCount + 1 }) := by
        have updated : Continues authority t
            (t.update d.authority fun e => { e with openCount := e.openCount + 1 }) :=
          continues_update d.authority (by exact fun _ => ⟨rfl, rfl⟩) t
        simpa only [update, known] using updated
      dsimp only
      split
      · exact counted.trans (continues_connect d.authority _) rfl
      · exact counted
  | resumeOpen now o =>
    simp only [Action.act, resumeOpen]
    split
    · exact continues_connect o.authority t
    · exact .of_eq rfl
  | startSend now h target payload =>
    apply Continues.of_eq
    rw [find, find, Action.act, (startSend_aside now h target payload t).2]
  | resumeSend now s =>
    apply Continues.of_eq
    rw [find, find, Action.act, (resumeSend_aside now s t).2]
  | close other => exact .of_eq rfl
  | drop other => exact .of_eq rfl

/-- An end begins the next epoch. -/
theorem find_ended {a : Action} (ends : a.Ends authority) {e : Endpoint}
    (found : t.find authority = some e) :
    ∃ e', (a.act t).find authority = some e' ∧ e'.epoch = e.epoch + 1 := by
  have told (up : Bool → Bool) :
      ∃ e', (t.endEpoch up authority).find authority = some e' ∧ e'.epoch = e.epoch + 1 := by
    refine ⟨{ e with up := up e.up, epoch := e.epoch + 1, live := [] }, ?_, rfl⟩
    simp only [endEpoch, found]
    rw [find_closeAll, find_set]
  cases a with
  | stop other =>
    cases ends
    exact told _
  | stopSilently other =>
    cases ends
    exact ⟨_, by rw [Action.act, stopSilently, find_update, found, Option.map_some], rfl⟩
  | dropConnections other =>
    cases ends
    exact told _
  | _ => exact absurd ends id

/-- An end that is told of closes the live handles. -/
theorem closed_ended {a : Action} (ends : a.Ends authority) (tells : a.Tells) {e : Endpoint}
    (found : t.find authority = some e) {h : Handle} (live : h ∈ e.live) {c : Connection}
    (there : t.connection h = some c) :
    ∃ c', (a.act t).connection h = some c' ∧ c'.closed = true := by
  have told (up : Bool → Bool) :
      ∃ c', (t.endEpoch up authority).connection h = some c' ∧ c'.closed = true := by
    simp only [endEpoch, found]
    exact closed_closeAll live (t.set authority _) there
  cases a with
  | stop other =>
    cases ends
    exact told _
  | dropConnections other =>
    cases ends
    exact told _
  | stopSilently other => exact absurd tells id
  | _ => exact absurd ends id

end Continues

/-! ### Handles -/

section Handles

variable {authority : String} {h : Handle} {t : InProcess}

/-- The handle is of the epoch that its endpoint is in, and the endpoint knows it. -/
def Attached (authority : String) (h : Handle) (t : InProcess) : Prop :=
  ∃ c e, t.connection h = some c ∧ c.authority = authority ∧ c.dropped = false ∧
    t.find authority = some e ∧ e.epoch = c.epoch ∧ h ∈ e.live

def Shut (authority : String) (h : Handle) (t : InProcess) : Prop :=
  ∃ c, t.connection h = some c ∧ c.authority = authority ∧ c.closed = true

def Outdated (authority : String) (h : Handle) (t : InProcess) : Prop :=
  ∃ c e, t.connection h = some c ∧ c.authority = authority ∧
    t.find authority = some e ∧ c.epoch < e.epoch

/-- Nothing that is sent over the handle gets to a handler, whether it is sent now or waits already. -/
def Dead (h : Handle) (t : InProcess) : Prop :=
  (∀ now target payload, ∃ message,
    t.startSend now h target payload = (t, .done (.error (.closed message)))) ∧
  ∀ now s, s.handle = h → t.resumeSend now s = (t, .waiting s) ∨
    ∃ message, t.resumeSend now s = (t, .done (.error (.closed message)))

theorem attached_connect (opened : (t.connect authority).2 = .ok h) :
    Attached authority h (t.connect authority).1 := by
  unfold connect at opened ⊢
  cases found : t.find authority with
  | none =>
    rw [found] at opened
    cases opened
  | some e =>
    rw [found] at opened
    dsimp only at opened ⊢
    split at opened
    · cases opened
    · next up =>
      cases opened
      rw [if_neg up]
      refine ⟨_, _, List.getElem?_concat_length, rfl, rfl, find_set authority _ t, rfl, ?_⟩
      exact List.mem_append_right _ (List.mem_singleton_self _)

theorem attached_opened {a : Action} (opens : a.Opens authority h t) :
    Attached authority h (a.act t) := by
  cases a with
  | startOpen now d =>
    obtain ⟨rfl, opened⟩ := opens
    simp only [Action.act, startOpen] at opened ⊢
    cases found : t.find d.authority with
    | none =>
      rw [found] at opened
      cases opened
    | some e =>
      rw [found] at opened
      dsimp only at opened ⊢
      split at opened
      · next now =>
        rw [if_pos now]
        exact attached_connect (Progress.done.inj opened)
      · cases opened
  | resumeOpen now o =>
    obtain ⟨rfl, opened⟩ := opens
    simp only [Action.act, resumeOpen] at opened ⊢
    split at opened
    · next due =>
      rw [if_pos due]
      exact attached_connect (Progress.done.inj opened)
    · cases opened
  | _ => exact absurd opens id

theorem Attached.act (attached : Attached authority h t) (a : Action)
    (unregistered : ¬ a.Registers authority) (unended : ¬ a.Ends authority) (held : a ≠ .drop h) :
    Attached authority h (a.act t) := by
  obtain ⟨c, e, there, ofEndpoint, undropped, found, same, live⟩ := attached
  obtain ⟨c', there', authority', epoch, dropped, _⟩ := persists_act a held t c there
  obtain ⟨e', found', epoch', live'⟩ := continues_act a unregistered unended t e found
  refine ⟨c', e', there', authority'.trans ofEndpoint, dropped.trans undropped, found', ?_, ?_⟩
  · rw [epoch', same, epoch]
  · exact live' h live c there undropped

theorem Attached.run (attached : Attached authority h t) {actions : List Action}
    (quiet : ∀ a ∈ actions, ¬ a.Registers authority ∧ ¬ a.Ends authority)
    (held : Action.drop h ∉ actions) : Attached authority h (run actions t) := by
  induction actions generalizing t with
  | nil => exact attached
  | cons a actions ih =>
    rw [List.mem_cons, not_or] at held
    have first := quiet a List.mem_cons_self
    exact ih (attached.act a first.1 first.2 (Ne.symm held.1))
      (fun other later => quiet other (List.mem_cons_of_mem a later)) held.2

/-- The end of its epoch outdates a handle, and closes it if it is told of. -/
theorem Attached.ended (attached : Attached authority h t) {a : Action} (ends : a.Ends authority) :
    Outdated authority h (a.act t) ∧ (a.Tells → Shut authority h (a.act t)) := by
  obtain ⟨c, e, there, ofEndpoint, _, found, same, live⟩ := attached
  have held : a ≠ .drop h := by
    rintro rfl
    exact ends
  obtain ⟨c', there', authority', epoch, _, _⟩ := persists_act a held t c there
  obtain ⟨e', found', epoch'⟩ := find_ended ends found
  constructor
  · exact ⟨c', e', there', authority'.trans ofEndpoint, found', by omega⟩
  · intro tells
    obtain ⟨c'', there'', closed⟩ := closed_ended ends tells found live there
    obtain rfl : c' = c'' := Option.some.inj (there'.symm.trans there'')
    exact ⟨c', there', authority'.trans ofEndpoint, closed⟩

theorem Shut.run (shut : Shut authority h t) {actions : List Action}
    (held : Action.drop h ∉ actions) : Shut authority h (run actions t) := by
  induction actions generalizing t with
  | nil => exact shut
  | cons a actions ih =>
    rw [List.mem_cons, not_or] at held
    obtain ⟨c, there, ofEndpoint, closed⟩ := shut
    obtain ⟨c', there', authority', _, _, closed'⟩ := persists_act a (Ne.symm held.1) t c there
    exact ih ⟨c', there', authority'.trans ofEndpoint, closed' closed⟩ held.2

theorem Outdated.act (outdated : Outdated authority h t) (a : Action)
    (unregistered : ¬ a.Registers authority) (held : a ≠ .drop h) : Outdated authority h (a.act t) := by
  obtain ⟨c, e, there, ofEndpoint, found, later⟩ := outdated
  obtain ⟨c', there', authority', epoch, _, _⟩ := persists_act a held t c there
  by_cases ends : a.Ends authority
  · obtain ⟨e', found', epoch'⟩ := find_ended ends found
    exact ⟨c', e', there', authority'.trans ofEndpoint, found', by omega⟩
  · obtain ⟨e', found', epoch', _⟩ := continues_act a unregistered ends t e found
    exact ⟨c', e', there', authority'.trans ofEndpoint, found', by omega⟩

theorem Outdated.run (outdated : Outdated authority h t) {actions : List Action}
    (unregistered : ∀ a ∈ actions, ¬ a.Registers authority) (held : Action.drop h ∉ actions) :
    Outdated authority h (run actions t) := by
  induction actions generalizing t with
  | nil => exact outdated
  | cons a actions ih =>
    rw [List.mem_cons, not_or] at held
    exact ih (outdated.act a (unregistered a List.mem_cons_self) (Ne.symm held.1))
      (fun other later => unregistered other (List.mem_cons_of_mem a later)) held.2

theorem dead_of_unreachable (unreachable : t.reachable h = .error (reset authority)) : Dead h t := by
  constructor
  · intro now target payload
    exact ⟨_, by rw [startSend, unreachable]; rfl⟩
  · rintro now s rfl
    unfold resumeSend
    split
    · exact .inr ⟨_, rfl⟩
    · split
      · exact .inr ⟨_, by rw [serve, unreachable]; rfl⟩
      · exact .inl rfl

theorem Shut.dead (shut : Shut authority h t) : Dead h t := by
  obtain ⟨c, there, rfl, closed⟩ := shut
  have unreachable : t.reachable h = .error (reset c.authority) := by
    rw [reachable, there]
    dsimp only
    cases t.find c.authority with
    | none => rfl
    | some e => simp [closed]
  exact dead_of_unreachable unreachable

theorem Outdated.dead (outdated : Outdated authority h t) : Dead h t := by
  obtain ⟨c, e, there, rfl, found, later⟩ := outdated
  have different : (e.epoch == c.epoch) = false := by
    rw [beq_eq_false_iff_ne]
    omega
  have unreachable : t.reachable h = .error (reset c.authority) := by
    rw [reachable, there]
    dsimp only
    rw [found]
    simp [different]
  exact dead_of_unreachable unreachable

end Handles

/-- A handle is dead from the first end of its epoch on, as long as its endpoint is not registered anew:
not before the end, and after it at most if the end closed the handle. -/
theorem dead_after_end {authority : String} {h : Handle} {t : InProcess} {opening ending : Action}
    {before after : List Action} (opens : opening.Opens authority h t)
    (lasts : ∀ a ∈ before, ¬ a.Registers authority ∧ ¬ a.Ends authority) (ends : ending.Ends authority)
    (remembered : ending.Tells ∨ ∀ a ∈ after, ¬ a.Registers authority)
    (held : Action.drop h ∉ before ++ after) :
    Dead h (run (opening :: before ++ ending :: after) t) := by
  rw [List.mem_append, not_or] at held
  have attached := (attached_opened opens).run lasts held.1
  obtain ⟨outdated, shut⟩ := attached.ended ends
  have split : run (opening :: before ++ ending :: after) t =
      run after (ending.act (run before (opening.act t))) := by simp [run]
  rw [split]
  rcases remembered with tells | unregistered
  · exact ((shut tells).run held.2).dead
  · exact (outdated.run unregistered held.2).dead

/-- A handle over which something was sent, a stop that it is told of, and a new registration after it;
and a silent stop, of an endpoint that starts again. -/
theorem dead_after_end_restarted :
    let echo : Handler := fun _ payload => .ok payload
    let t := run [.register "b:1" echo, .start "b:1"] {}
    let opening : Action := .startOpen 0 { name := "b", host := "b", port := 1 }
    let before : List Action := [.startSend 0 0 ⟨"m", "c", "i"⟩ [120], .register "b:2" echo]
    Dead 0 (run (opening :: before ++ .stop "b:1" :: [.register "b:1" echo, .start "b:1"]) t) ∧
      Dead 0 (run (opening :: before ++ .stopSilently "b:1" :: [.start "b:1"]) t) := by
  intro echo t opening before
  have opens : opening.Opens "b:1" 0 t := ⟨by decide, rfl⟩
  have lasts : ∀ a ∈ before, ¬ a.Registers "b:1" ∧ ¬ a.Ends "b:1" := by
    simp [before, Action.Registers, Action.Ends]
  constructor
  · exact dead_after_end opens lasts rfl (.inl trivial) (by simp [before])
  · exact dead_after_end opens lasts rfl (.inr (by simp [Action.Registers])) (by simp [before])

/-- A registration begins with the first epoch and knows of no handles. So a handle serves again when its
endpoint is registered anew after a silent stop, and it outlives a stop when the endpoint was registered
anew before, as soon as the epoch is that of the handle. -/
theorem registration_revives :
    let echo : Handler := fun _ payload => .ok payload
    let anew : List Action := [.register "b:1" echo, .start "b:1"]
    let opening : Action := .startOpen 0 { name := "b", host := "b", port := 1 }
    let first := run anew {}
    let second := run [.stop "b:1", .start "b:1"] first
    let send := fun t : InProcess => (t.startSend 0 0 ⟨"m", "c", "i"⟩ [120]).2
    (opening.Opens "b:1" 0 first ∧
        send (run (opening :: .stopSilently "b:1" :: anew) first) = .done (.ok [120])) ∧
      opening.Opens "b:1" 0 second ∧
        send (run (opening :: anew ++ [.stop "b:1", .start "b:1"]) second) = .done (.ok [120]) :=
  ⟨⟨⟨by decide, rfl⟩, rfl⟩, ⟨by decide, rfl⟩, rfl⟩

end Switchboard.InProcess
