import Switchboard.Proofs.Client.Heedless
import Switchboard.Proofs.Connection.Callers

/-!
Callers that give up. Two clients that differ only in the calls of some callers stay so whatever
happens, as long as these callers do nothing but wait; it makes no difference to the others when, and
whether, one of them is abandoned.
-/
namespace Switchboard

namespace Client

variable {T : Type} [Transport T]

/-- Two clients that differ at most in the calls of some callers and how these ended. -/
structure SameBut (S : List Nat) (c c' : Client T) : Prop where
  rest : c'.among [] [] = c.among [] []
  calls : ∀ id ∉ S, c'.calls.lookup id = c.calls.lookup id
  endings : ∀ id ∉ S, c'.endings id = c.endings id

namespace SameBut

variable {S : List Nat} {c c' c'' : Client T}

theorem refl (S : List Nat) (c : Client T) : SameBut S c c := ⟨rfl, fun _ _ => rfl, fun _ _ => rfl⟩

theorem symm (same : SameBut S c c') : SameBut S c' c :=
  ⟨same.rest.symm, fun id other => (same.calls id other).symm,
    fun id other => (same.endings id other).symm⟩

theorem trans (first : SameBut S c c') (second : SameBut S c' c'') : SameBut S c c'' :=
  ⟨second.rest.trans first.rest, fun id other => (second.calls id other).trans (first.calls id other),
    fun id other => (second.endings id other).trans (first.endings id other)⟩

theorem eq_among (same : SameBut S c c') : c' = c.among c'.calls c'.results := by
  calc c' = (c'.among [] []).among c'.calls c'.results := rfl
    _ = (c.among [] []).among c'.calls c'.results := by rw [same.rest]
    _ = c.among c'.calls c'.results := rfl

theorem destinations (same : SameBut S c c') : c'.destinations = c.destinations := by
  rw [same.eq_among]
  rfl

theorem nextCall (same : SameBut S c c') : c'.nextCall = c.nextCall := by
  rw [same.eq_among]
  rfl

theorem outcome? (same : SameBut S c c') (i : Nat) (a : AttemptId) :
    c'.outcome? i a = c.outcome? i a := by
  rw [same.eq_among]
  rfl

/-- What does not look at the calls finds no difference. -/
theorem heedless (same : SameBut S c c') {f : Client T → Client T} (heedless : Heedless f) :
    SameBut S (f c) (f c') := by
  have own : f c = (f (c.among [] [])).among c.calls c.results :=
    heedless c.calls c.results (c.among [] [])
  have other : f c' = (f (c.among [] [])).among c'.calls c'.results := by
    rw [← same.rest]
    exact heedless c'.calls c'.results (c'.among [] [])
  rw [own, other]
  exact ⟨rfl, same.calls, same.endings⟩

/-! ### Calls -/

theorem replaceCall (same : SameBut S c c') (id : Nat) (call : Call T) :
    SameBut S (c.replaceCall id call) (c'.replaceCall id call) := by
  refine ⟨same.rest, ?_, same.endings⟩
  intro j other
  rw [lookup_replaceCall, lookup_replaceCall]
  split
  · rename_i own
    rw [← own, same.calls j other]
  · exact same.calls j other

theorem endCall (same : SameBut S c c') (id : Nat) (result : CallResult) :
    SameBut S (c.endCall id result) (c'.endCall id result) := by
  refine ⟨same.rest, ?_, ?_⟩
  · intro j other
    rw [lookup_endCall, lookup_endCall, same.calls j other]
  · intro j other
    have before := same.endings j other
    by_cases own : id = j
    · subst own
      rw [endings_endCall, endings_endCall, before]
    · simpa [Client.endings, Client.endCall, own] using before

theorem startCall (same : SameBut S c c') (call : Call T) :
    SameBut S (c.startCall call).1 (c'.startCall call).1 := by
  have counted : Heedless fun c : Client T => { c with nextCall := c.nextCall + 1 } := fun _ _ _ => rfl
  refine ⟨(same.heedless counted).rest, ?_, same.endings⟩
  · intro j other
    rw [lookup_startCall, lookup_startCall, same.calls j other, same.nextCall]

theorem stepCall (same : SameBut S c c') (id : Nat) (call : Call T) :
    SameBut S (c.stepCall id call) (c'.stepCall id call) := by
  have own : c.advance id call =
      ((c.advance id call).1.among c.calls c.results, (c.advance id call).2) :=
    impartial_advance id call c.calls c.results c
  have other := impartial_advance id call c'.calls c'.results c
  rw [← same.eq_among] at other
  have advanced : SameBut S (c.advance id call).1 (c'.advance id call).1 := by
    rw [own, other]
    exact ⟨rfl, same.calls, same.endings⟩
  have next : (c'.advance id call).2 = (c.advance id call).2 := by rw [other]
  unfold Client.stepCall
  generalize c.advance id call = r at advanced next
  generalize c'.advance id call = r' at advanced next
  obtain ⟨c₁, p⟩ := r
  obtain ⟨c₁', p'⟩ := r'
  dsimp only at advanced next
  subst next
  cases p' with
  | waiting call => exact advanced.replaceCall id call
  | done result => exact advanced.endCall id result

theorem abandonCall (same : SameBut S c c') {id : Nat} (other : id ∉ S) :
    SameBut S (c.abandonCall id) (c'.abandonCall id) := by
  unfold Client.abandonCall
  rw [same.calls id other]
  cases c.calls.lookup id with
  | none => exact same
  | some call =>
    dsimp only
    cases call.sending? with
    | none => exact same.endCall id .aborted
    | some s =>
      have given : Heedless fun c : Client T =>
          { c with transport := Transport.abandonSend s c.transport } := fun _ _ _ => rfl
      exact (same.heedless given).endCall id .aborted

/-- A call that ends or goes on concerns its caller only. -/
theorem of_endCall (c : Client T) {id : Nat} (own : id ∈ S) (result : CallResult) :
    SameBut S c (c.endCall id result) := by
  refine ⟨rfl, ?_, ?_⟩
  · intro j other
    rw [lookup_endCall, if_neg (ne_of_mem_of_not_mem own other).symm]
  · intro j other
    simp [Client.endings, Client.endCall, ne_of_mem_of_not_mem own other]

theorem of_replaceCall (c : Client T) {id : Nat} (own : id ∈ S) (call : Call T) :
    SameBut S c (c.replaceCall id call) := by
  refine ⟨rfl, ?_, fun _ _ => rfl⟩
  intro j other
  rw [lookup_replaceCall, if_neg (ne_of_mem_of_not_mem own other).symm]

end SameBut

/-! ### Actions -/

/-- What others do makes no difference. -/
theorem SameBut.act {S : List Nat} {c c' : Client T} (same : SameBut S c c') {x : Action T}
    (others : ∀ id ∈ S, x ≠ .step (.call id) ∧ x ≠ .abandon id) : SameBut S (c.act x) (c'.act x) := by
  cases x with
  | request r => exact same.startCall r.call
  | abandon id => exact same.abandonCall fun own => (others id own).2 rfl
  | step task =>
    cases task with
    | call id =>
      have other : id ∉ S := fun own => (others id own).1 rfl
      simp only [Client.act, step, same.calls id other]
      cases c.calls.lookup id with
      | none => exact same
      | some call => exact same.stepCall id call
    | _ => exact same.heedless (heedless_act rfl)
  | _ => exact same.heedless (heedless_act rfl)

/-- A caller that is in its call or has left it. -/
def Lingers (id : Nat) (call : Call T) (c : Client T) : Prop :=
  c.calls.lookup id = some call ∨ ∃ result, c.Went id (.done result)

/-- A caller that takes a step will only wait: nothing is known yet of its attempt, or all it wants is
to know how the attempt ended. -/
def OnlyWaits (i : Nat) (a : AttemptId) (call : Call T) (c : Client T) : Prop :=
  c.outcome? i a = none ∨ call = .connect i (some a)

section Waiting

variable {c : Client T} {id i : Nat} {a : AttemptId} {call : Call T}

theorem Lingers.act (lingers : c.Lingers id call) (reachable : c.Reachable) (joined : call.Joined i a)
    (x : Action T) (waits : x = .step (.call id) → c.OnlyWaits i a call) :
    (c.act x).Lingers id call := by
  obtain calling | ⟨result, gone⟩ := lingers
  · cases act_fared reachable calling x with
    | kept calling => exact .inl calling
    | abandoned own went => exact .inr ⟨_, went⟩
    | stepped own went =>
      cases known : c.outcome? i a with
      | none =>
        rw [advance_waiting known joined] at went
        exact .inl went.1
      | some outcome =>
        obtain unknown | rfl := waits own
        · rw [unknown] at known
          cases known
        · obtain ⟨c₁, hears, -⟩ := advance_hearing known joined id
          rw [hears] at went
          exact .inr ⟨_, went⟩
  · exact .inr ⟨result, gone.done_act reachable x⟩

/-- A caller that only waits leaves the others as they are. -/
theorem SameBut.of_waiting {S : List Nat} (own : id ∈ S) (lingers : c.Lingers id call)
    (joined : call.Joined i a) (waits : c.OnlyWaits i a call) :
    SameBut S c (c.act (.step (.call id))) := by
  obtain calling | ⟨result, gone⟩ := lingers
  · rw [act_call calling]
    unfold Client.stepCall
    cases known : c.outcome? i a with
    | none =>
      rw [advance_waiting known joined]
      exact .of_replaceCall c own call
    | some outcome =>
      obtain unknown | rfl := waits
      · rw [unknown] at known
        cases known
      · simp only [advance, stepConnect, known]
        exact .of_endCall c own _
  · simp only [Client.act, step, gone.1]
    exact .refl S c

theorem SameBut.of_abandoned {S : List Nat} (own : id ∈ S) (lingers : c.Lingers id call)
    (joined : call.Joined i a) : SameBut S c (c.act (.abandon id)) := by
  obtain calling | ⟨result, gone⟩ := lingers
  · simp only [Client.act, Client.abandonCall, calling, joined.sending?]
    exact .of_endCall c own .aborted
  · simp only [Client.act, Client.abandonCall, gone.1]
    exact .refl S c

end Waiting

/-! ### Runs -/

def Action.abandons (S : List Nat) : Action T → Bool
  | .abandon id => decide (id ∈ S)
  | _ => false

/-- It makes no difference to the others whether callers that only wait are abandoned. -/
theorem sameBut_run {S : List Nat} {i : Nat} {a : AttemptId} {waiting : Nat → Option (Call T)}
    {c c' : Client T} (reachable : c.Reachable) (reachable' : c'.Reachable) (same : SameBut S c c')
    (joined : ∀ id ∈ S, ∃ call, waiting id = some call ∧ call.Joined i a ∧ c.Lingers id call ∧
      c'.Lingers id call)
    (actions : List (Action T))
    (waits : ∀ before id after, actions.filter (!·.abandons S) = before ++ .step (.call id) :: after →
      id ∈ S → ∀ call, waiting id = some call → (c.run before).OnlyWaits i a call) :
    SameBut S (c.run (actions.filter (!·.abandons S))) (c'.run actions) := by
  induction actions generalizing c c' with
  | nil => exact same
  | cons x rest ih =>
    by_cases given : x.abandons S = true
    · -- Only the second client takes this step, and only the caller notices.
      rw [List.filter_cons_of_neg (by simpa using given)] at waits ⊢
      cases x with
      | abandon id =>
        have own : id ∈ S := of_decide_eq_true given
        obtain ⟨call, -, join, -, lingers'⟩ := joined id own
        refine ih reachable (reachable'.act _) (same.trans (.of_abandoned own lingers' join)) ?_ waits
        intro j member
        obtain ⟨call, was, join, lingers, lingers'⟩ := joined j member
        exact ⟨call, was, join, lingers, lingers'.act reachable' join _ (by rintro ⟨⟩)⟩
      | _ => cases given
    · rw [List.filter_cons_of_pos (by simpa using given)] at waits ⊢
      have here {id} (own : x = .step (.call id)) (member : id ∈ S) {call}
          (was : waiting id = some call) : c.OnlyWaits i a call :=
        waits [] id _ (by rw [own]; rfl) member call was
      have here' {id} (own : x = .step (.call id)) (member : id ∈ S) {call}
          (was : waiting id = some call) : c'.OnlyWaits i a call := by
        unfold OnlyWaits
        rw [same.outcome? i a]
        exact here own member was
      have after : SameBut S (c.act x) (c'.act x) := by
        by_cases own : ∃ id ∈ S, x = .step (.call id)
        · obtain ⟨id, member, rfl⟩ := own
          obtain ⟨call, was, join, lingers, lingers'⟩ := joined id member
          have first := SameBut.of_waiting member lingers join (here rfl member was)
          have second := SameBut.of_waiting member lingers' join (here' rfl member was)
          exact (first.symm.trans same).trans second
        · refine same.act fun id member => ⟨fun step => own ⟨id, member, step⟩, ?_⟩
          rintro rfl
          exact given (decide_eq_true member)
      refine ih (reachable.act x) (reachable'.act x) after ?_ ?_
      · intro j member
        obtain ⟨call, was, join, lingers, lingers'⟩ := joined j member
        exact ⟨call, was, join, lingers.act reachable join x fun own => here own member was,
          lingers'.act reachable' join x fun own => here' own member was⟩
      · intro before id after split
        exact waits (x :: before) id after (by rw [split]; rfl)

end Client

end Switchboard
