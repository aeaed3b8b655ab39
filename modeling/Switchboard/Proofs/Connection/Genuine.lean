import Switchboard.Proofs.Connection.Callers

/-!
The failures that callers are told of. No attempt is cut off, so nobody ever hears of one that was:
every failure that a call has met or ended with is one of the transport, of a timeout or of a destination
that is not connected or not there any more.
-/
namespace Switchboard

def DispatchError.failures : DispatchError → List AttemptFailure
  | .notConnected f | .connectivity f => [f]
  | .remote _ _ | .invalidRequest _ => []

def InvokeError.failures : InvokeError → List AttemptFailure
  | .connectivity _ fs => fs
  | _ => []

namespace Client

open Text (Bytes)

variable {T : Type} [Transport T]

/-- The failures that a call has met so far. -/
def Call.failures : Call T → List AttemptFailure
  | .invoke w => w.attempts
  | _ => []

/-- The failures that a call returns. -/
def CallResult.failures : CallResult → List AttemptFailure
  | .connected (.error f) => [f]
  | .dispatched (.error e) => e.failures
  | .invoked (.error e) => e.failures
  | _ => []

/-- What a dispatch comes to is no failure that is not genuine. -/
def GenuineSend {ω : Type} (p : Progress ω (Except DispatchError Bytes)) : Prop :=
  ∀ e, p = .done (.error e) → ∀ f ∈ e.failures, f.Genuine

/-! ### Sends -/

theorem genuine_settle (d : Destination) (generation sent : Nat) (outcome : SendOutcome)
    {e : DispatchError} (failed : (d.settle generation sent outcome).2.2 = .error e) :
    ∀ f ∈ e.failures, f.Genuine := by
  cases outcome with
  | timedOut =>
    cases failed
    exact List.forall_mem_singleton.mpr (append_ne (by decide) _)
  | answered result =>
    cases result with
    | ok reply => cases failed
    | error t =>
      cases t with
      | application message =>
        cases failed
        simp [DispatchError.failures]
      | invalidRequest reason =>
        cases failed
        simp [DispatchError.failures]
      | _ =>
        cases failed
        exact List.forall_mem_singleton.mpr (ofTransport_genuine _ _)

theorem genuineSend_settle (c : Client T) (i generation sent : Nat) (outcome : SendOutcome) {ω : Type} :
    GenuineSend (ω := ω) (.done (c.settle i generation sent outcome).2) := by
  intro e failed
  injection failed with failed
  unfold settle at failed
  cases found : c.destinations[i]? with
  | none =>
    rw [onDestination_of_absent found] at failed
    cases failed
    simp [DispatchError.failures]
  | some d =>
    rw [onDestination_of_found found] at failed
    exact genuine_settle d generation sent outcome failed

theorem genuineSend_continueSend (c : Client T) (i generation sent : Nat) (deadline : Instant)
    (p : Progress (Transport.Sending T) (Except TransportError Bytes)) :
    GenuineSend (c.continueSend i generation sent deadline p).2 := by
  cases p with
  | done result => exact genuineSend_settle c i generation sent (.answered result)
  | waiting s =>
    unfold continueSend
    dsimp only
    split
    · exact genuineSend_settle _ i generation sent .timedOut
    · rintro e ⟨⟩

theorem genuineSend_startDispatch (c : Client T) (call i : Nat) (target : Target) (payload : Bytes) :
    GenuineSend (c.startDispatch call i target payload).2 := by
  unfold startDispatch
  cases c.destinations[i]? with
  | none =>
    rintro e ⟨⟩
    simp [DispatchError.failures]
  | some d =>
    dsimp only
    cases d.current with
    | none =>
      rintro e ⟨⟩
      refine List.forall_mem_singleton.mpr ?_
      show "not connected" ≠ "connect attempt abandoned"
      decide
    | some live => exact genuineSend_continueSend _ i live.generation payload.length _ _

theorem genuineSend_resumeDispatch (c : Client T) (i sent : Nat) (s : PendingSend T) :
    GenuineSend (c.resumeDispatch i sent s).2 :=
  genuineSend_continueSend _ i s.generation sent s.deadline _

/-! ### Connects -/

theorem genuine_refused {c c₁ : Client T} {i : Nat} {f : AttemptFailure}
    (refused : c.beginConnect i = (c₁, .refused f)) : f.Genuine := by
  cases found : c.destinations[i]? with
  | none =>
    rw [beginConnect_of_absent found] at refused
    cases refused
  | some d =>
    have asked := beginConnect_asked found
    rw [refused] at asked
    cases asked
    exact removed_genuine d

theorem genuine_outcome? {c : Client T} (once : c.OpenedOnce) {i : Nat} {a : AttemptId}
    {f : AttemptFailure} (failed : c.outcome? i a = some (.error f)) : f.Genuine := by
  unfold outcome? at failed
  cases known : c.outcomes.lookup a with
  | none =>
    rw [known] at failed
    cases failed
  | some outcome =>
    obtain ⟨-, o, rfl, genuine⟩ := once.ended a outcome known
    rw [known] at failed
    cases failed
    exact genuine f rfl

theorem genuine_stepConnect {c c₁ : Client T} (once : c.OpenedOnce) {i : Nat}
    {attempt : Option AttemptId} {f : AttemptFailure}
    (failed : c.stepConnect i attempt = (c₁, .done (.error f))) : f.Genuine := by
  unfold stepConnect at failed
  cases attempt with
  | none =>
    dsimp only at failed
    cases asked : c.beginConnect i with
    | mk c₂ j =>
      rw [asked] at failed
      cases j with
      | refused g =>
        cases failed
        exact genuine_refused asked
      | connected => cases failed
      | joined a => cases failed
      | started a => cases failed
  | some a =>
    dsimp only at failed
    cases heard : c.outcome? i a with
    | none =>
      rw [heard] at failed
      cases failed
    | some outcome =>
      rw [heard] at failed
      cases failed
      exact genuine_outcome? once heard

/-! ### Invocations -/

/-- What an invocation has met, or returns. -/
def metBy : Invocation.Next (PendingSend T) → List AttemptFailure
  | .waiting w => w.attempts
  | .done (.error e) => e.failures
  | .done (.ok _) => []

theorem genuine_giveUp {w : Invocation (PendingSend T)} (genuine : ∀ f ∈ w.attempts, f.Genuine)
    {f : AttemptFailure} (also : f.Genuine) : ∀ g ∈ metBy (w.giveUp f), g.Genuine :=
  List.forall_mem_append.mpr ⟨genuine, List.forall_mem_singleton.mpr also⟩

theorem genuine_dispatchEnded {w : Invocation (PendingSend T)} (genuine : ∀ f ∈ w.attempts, f.Genuine)
    {ω : Type} {result : Except DispatchError Bytes} (sent : GenuineSend (ω := ω) (.done result)) :
    ∀ f ∈ metBy (w.dispatchEnded result), f.Genuine := by
  cases result with
  | ok reply => simp [Invocation.dispatchEnded, metBy]
  | error e =>
    have also := sent e rfl
    cases e with
    | notConnected f => exact genuine_giveUp genuine (List.forall_mem_singleton.mp also)
    | connectivity f => exact genuine_giveUp genuine (List.forall_mem_singleton.mp also)
    | remote destination message => simp [Invocation.dispatchEnded, metBy, InvokeError.failures]
    | invalidRequest reason => simp [Invocation.dispatchEnded, metBy, InvokeError.failures]

theorem genuine_stepInvocation {c : Client T} (once : c.OpenedOnce) (id : Nat)
    {w : Invocation (PendingSend T)} (genuine : ∀ f ∈ w.attempts, f.Genuine) :
    ∀ f ∈ metBy (c.stepInvocation id w).2, f.Genuine := by
  have walked := stepInvocation_walked c id w
  generalize c.stepInvocation id w = next at walked
  cases walked with
  | @found rs place claim =>
    by_cases none : rs = [] <;> simp [Invocation.found, none, metBy, InvokeError.failures]
    exact genuine
  | chose place =>
    unfold Invocation.choose
    split
    · exact genuine
    · split <;> exact genuine
  | checked => exact genuine
  | @joined r c₁ j place asked =>
    cases j with
    | refused f => exact genuine_giveUp genuine (genuine_refused asked)
    | connected => exact genuine
    | joined a => exact genuine
    | started a => exact genuine
  | waits => exact genuine
  | @connectEnded r a outcome place heard =>
    cases outcome with
    | ok => exact genuine
    | error f => exact genuine_giveUp genuine (genuine_outcome? once heard)
  | sent => exact genuine
  | @dispatched r c₁ result place began =>
    have sent := genuineSend_startDispatch c id r.destination w.target w.payload
    rw [began] at sent
    exact genuine_dispatchEnded genuine sent
  | resumed => exact genuine
  | @answered r s c₁ result place resumed =>
    have sent := genuineSend_resumeDispatch c r.destination w.payload.length s
    rw [resumed] at sent
    exact genuine_dispatchEnded genuine sent

/-! ### Calls -/

/-- What a call has met when it goes on, or returns. -/
def reported : Progress (Call T) CallResult → List AttemptFailure
  | .waiting call => call.failures
  | .done result => result.failures

theorem genuine_advance {c : Client T} (once : c.OpenedOnce) (id : Nat) {call : Call T}
    (genuine : ∀ f ∈ call.failures, f.Genuine) :
    ∀ f ∈ reported (c.advance id call).2, f.Genuine := by
  have advanced := advance_advanced c id call
  generalize c.advance id call = r at advanced
  cases advanced with
  | @connected i attempt c₁ outcome stepped =>
    cases outcome with
    | ok => simp [reported, CallResult.failures]
    | error f => exact List.forall_mem_singleton.mpr (genuine_stepConnect once stepped)
  | @dispatched i target payload c₁ result began =>
    have sent := genuineSend_startDispatch c id i target payload
    rw [began] at sent
    cases result with
    | ok reply => simp [reported, CallResult.failures]
    | error e => exact sent e rfl
  | @answered i target payload s c₁ result resumed =>
    have sent := genuineSend_resumeDispatch c i payload.length s
    rw [resumed] at sent
    cases result with
    | ok reply => simp [reported, CallResult.failures]
    | error e => exact sent e rfl
  | @walks w c₁ w' stepped =>
    have met := genuine_stepInvocation once id (w := w) genuine
    rw [stepped] at met
    exact met
  | @walked w c₁ result stepped =>
    have met := genuine_stepInvocation once id (w := w) genuine
    rw [stepped] at met
    cases result with
    | ok reply => simp [reported, CallResult.failures]
    | error e => exact met
  | _ => simp [reported, Call.failures, CallResult.failures]

/-- No call has met, and none has returned, the failure of an attempt that was cut off. -/
structure Candid (c : Client T) : Prop where
  calls : ∀ id call, c.calls.lookup id = some call → ∀ f ∈ call.failures, f.Genuine
  endings : ∀ id, ∀ result ∈ c.endings id, ∀ f ∈ result.failures, f.Genuine

theorem failures_made (r : Request) : (r.call : Call T).failures = [] := by
  cases r <;> rfl

theorem Candid.act {c : Client T} (candid : c.Candid) (reachable : c.Reachable) (a : Action T) :
    (c.act a).Candid := by
  have each (id : Nat) :
      (∀ call, (c.act a).calls.lookup id = some call → ∀ f ∈ call.failures, f.Genuine) ∧
      ∀ result ∈ (c.act a).endings id, ∀ f ∈ result.failures, f.Genuine := by
    have step := callStep_act reachable.numbered id a
    generalize after : c.act a = c' at step
    cases step with
    | kept kept =>
      rw [kept.call, kept.endings]
      exact ⟨candid.calls id, candid.endings id⟩
    | made r new =>
      obtain ⟨unknown, -, unended⟩ := reachable.callsNumbered.fresh id (Nat.le_of_eq new.symm)
      rw [lookup_startCall, unknown, if_pos new]
      refine ⟨?_, candid.endings id⟩
      rintro call ⟨⟩
      simp [failures_made]
    | @advanced call own calling =>
      subst own
      have went := act_went reachable calling
      have genuine := genuine_advance reachable.openedOnce id (candid.calls id call calling)
      rw [after] at went
      generalize (c.advance id call).2 = next at went genuine
      cases next with
      | waiting call' =>
        obtain ⟨calling', unended⟩ := went
        rw [calling', unended]
        refine ⟨?_, by simp⟩
        rintro _ ⟨⟩
        exact genuine
      | done result =>
        obtain ⟨gone, ending⟩ := went
        rw [gone, ending]
        exact ⟨by simp, List.forall_mem_singleton.mpr genuine⟩
    | abandoned calling =>
      rw [lookup_abandonCall, endings_abandonCall calling, (reachable.callsNumbered.made calling).2]
      exact ⟨by simp, by simp [CallResult.failures]⟩
  exact ⟨fun id => (each id).1, fun id => (each id).2⟩

theorem Reachable.candid {c : Client T} (reachable : c.Reachable) : c.Candid := by
  suffices both : c.Reachable ∧ c.Candid from both.2
  refine Reachable.induction (P := fun c => c.Reachable ∧ c.Candid) ?_ ?_ reachable
  · intro name transport policy
    refine ⟨⟨name, transport, policy, [], rfl⟩, ?_, ?_⟩
    · rintro id call ⟨⟩
    · intro id result ended
      cases ended
  · rintro c a ⟨reachable, candid⟩
    exact ⟨reachable.act a, candid.act reachable a⟩

end Client

end Switchboard
