import Switchboard.Proofs.Invocation.Step
import Switchboard.Transport.InProcess

/-!
When endpoints inside the process run their handlers. Only a send does, and the run is the last
thing that happens in it: a send that still waits has run nothing.
-/
namespace Switchboard

open Text (Bytes)

/-- No handler ran, or one did and that was the end of it. -/
def InProcess.Serves (last : Prop) (t t' : InProcess) : Prop :=
  t'.served = t.served ∨ last ∧ ∃ run, t'.served = t.served ++ [run]

namespace InProcess

theorem served_connect (t : InProcess) (authority : String) :
    (t.connect authority).1.served = t.served := by
  unfold connect
  cases t.find authority with
  | none => rfl
  | some e =>
    dsimp only
    split <;> rfl

theorem served_startOpen (now : Instant) (d : Descriptor) (t : InProcess) :
    (startOpen now d t).1.served = t.served := by
  unfold startOpen
  dsimp only
  cases t.find d.authority with
  | none => rfl
  | some e =>
    dsimp only
    split
    · exact served_connect _ _
    · rfl

theorem served_resumeOpen (now : Instant) (o : Opening) (t : InProcess) :
    (resumeOpen now o t).1.served = t.served := by
  unfold resumeOpen
  split
  · exact served_connect _ _
  · rfl

theorem Serves.none {last : Prop} {t t' : InProcess} (same : t'.served = t.served) :
    Serves last t t' :=
  .inl same

theorem Serves.imp {last last' : Prop} {t t' : InProcess} (serves : Serves last t t')
    (also : last → last') : Serves last' t t' := by
  rcases serves with none | ⟨holds, ran⟩
  · exact .inl none
  · exact .inr ⟨also holds, ran⟩

theorem Serves.of_serve {last : Prop} (holds : last) (h : Handle) (target : Target)
    (payload : Bytes)
    (t : InProcess) : Serves last t (t.serve h target payload).1 := by
  unfold serve
  cases t.reachable h with
  | error e => exact .none rfl
  | ok e => exact .inr ⟨holds, _, rfl⟩

theorem startSend_serves (now : Instant) (h : Handle) (target : Target) (payload : Bytes)
    (t : InProcess) :
    Serves (∃ result, (startSend now h target payload t).2 = .done result) t
      (startSend now h target payload t).1 := by
  unfold startSend
  cases t.reachable h with
  | error e => exact .none rfl
  | ok e =>
    dsimp only
    split
    · exact .of_serve ⟨_, rfl⟩ h target payload t
    · exact .none rfl

theorem resumeSend_serves (now : Instant) (s : Sending) (t : InProcess) :
    Serves (∃ result, (resumeSend now s t).2 = .done result) t (resumeSend now s t).1 := by
  unfold resumeSend
  split
  · exact .none rfl
  · split
    · exact .of_serve ⟨_, rfl⟩ s.handle s.target s.payload t
    · exact .none rfl

end InProcess

namespace Client

open InProcess (Serves)

variable (c : Client InProcess)

theorem served_settle (i generation sent : Nat) (outcome : SendOutcome) :
    (c.settle i generation sent outcome).1.transport.served = c.transport.served := by
  unfold settle onDestination
  cases c.destinations[i]? with
  | none => rfl
  | some d =>
    dsimp only
    cases (d.settle generation sent outcome).2.1 <;> rfl

/-- A dispatch goes on waiting exactly if its send does or is given up, and then nothing has run. -/
theorem continueSend_serves {before : InProcess} (i generation sent : Nat) (deadline : Instant)
    (p : Progress InProcess.Sending (Except TransportError Bytes))
    (serves : Serves (∃ result, p = .done result) before c.transport) :
    Serves (∃ result, (c.continueSend i generation sent deadline p).2 = .done result ∧
      ∀ f, result ≠ .error (.notConnected f)) before
      (c.continueSend i generation sent deadline p).1.transport := by
  have heard := (continueSend_sent c i generation sent deadline p).heard
  cases p with
  | done result =>
    have same := served_settle c i generation sent (.answered result)
    rcases serves with none | ⟨_, run, ran⟩
    · exact .inl (same.trans none)
    · exact .inr ⟨⟨_, rfl, heard _ rfl⟩, run, same.trans ran⟩
  | waiting s =>
    rcases serves with none | ⟨⟨_, absurd⟩, _⟩
    · unfold continueSend
      dsimp only
      split
      · exact .inl ((served_settle _ i generation sent .timedOut).trans none)
      · exact .inl none
    · cases absurd

theorem startDispatch_serves (call i : Nat) (target : Target) (payload : Bytes) :
    Serves (∃ result, (c.startDispatch call i target payload).2 = .done result ∧
      ∀ f, result ≠ .error (.notConnected f)) c.transport
      (c.startDispatch call i target payload).1.transport := by
  unfold startDispatch
  cases c.destinations[i]? with
  | none => exact .none rfl
  | some d =>
    cases on : d.current with
    | none =>
      simp only [on]
      exact .none rfl
    | some live =>
      simp only [on]
      exact continueSend_serves _ i live.generation payload.length _ _
        (InProcess.startSend_serves c.now live.handle target payload c.transport)

theorem resumeDispatch_serves (i sent : Nat) (s : PendingSend InProcess) :
    Serves (∃ result, (c.resumeDispatch i sent s).2 = .done result ∧
      ∀ f, result ≠ .error (.notConnected f)) c.transport (c.resumeDispatch i sent s).1.transport :=
  continueSend_serves _ i s.generation sent s.deadline _
    (InProcess.resumeSend_serves c.now s.sending c.transport)

theorem transport_beginConnect {T : Type} [Transport T] (c : Client T) (i : Nat) :
    (c.beginConnect i).1.transport = c.transport := by
  cases found : c.destinations[i]? with
  | none => rw [beginConnect_of_absent found]
  | some d =>
    have asked := beginConnect_asked found
    generalize c.beginConnect i = asking at asked ⊢
    cases asked <;> rfl

theorem transport_stepConnect {T : Type} [Transport T] (c : Client T) (i : Nat)
    (attempt : Option AttemptId) : (c.stepConnect i attempt).1.transport = c.transport := by
  unfold stepConnect
  cases attempt with
  | none =>
    have same := transport_beginConnect c i
    dsimp only
    generalize c.beginConnect i = asking at same ⊢
    obtain ⟨c₁, _ | _ | _ | _⟩ := asking <;> exact same
  | some id =>
    dsimp only
    cases c.outcome? i id <;> rfl

/-- An answer other than that nothing was sent ends an invocation. -/
theorem dispatchEnded_done {σ : Type} (w : Invocation σ) {result : Except DispatchError Bytes}
    (heard : ∀ f, result ≠ .error (.notConnected f)) :
    ∃ ended, w.dispatchEnded result = .done ended := by
  cases result with
  | ok reply => exact ⟨_, rfl⟩
  | error e =>
    cases e with
    | notConnected f => exact absurd rfl (heard f)
    | connectivity f => exact ⟨_, rfl⟩
    | remote destination message => exact ⟨_, rfl⟩
    | invalidRequest reason => exact ⟨_, rfl⟩

theorem stepInvocation_serves (id : Nat) (w : Invocation (PendingSend InProcess)) :
    Serves (∃ result, (c.stepInvocation id w).2 = .done result) c.transport
      (c.stepInvocation id w).1.transport := by
  have walked := stepInvocation_walked c id w
  generalize c.stepInvocation id w = next at walked ⊢
  cases walked with
  | found => exact .none rfl
  | chose => exact .none rfl
  | checked => exact .none rfl
  | @joined r c₁ j place asked =>
    have same := transport_beginConnect c r.destination
    rw [asked] at same
    exact .none (congrArg InProcess.served same)
  | waits => exact .none rfl
  | connectEnded => exact .none rfl
  | @sent r c₁ s place began =>
    have serves := startDispatch_serves c id r.destination w.target w.payload
    rw [began] at serves
    exact serves.imp (by rintro ⟨_, ⟨⟩, _⟩)
  | @dispatched r c₁ result place began =>
    have serves := startDispatch_serves c id r.destination w.target w.payload
    rw [began] at serves
    refine serves.imp ?_
    rintro ⟨_, ⟨⟩, heard⟩
    exact dispatchEnded_done w heard
  | @resumed r s c₁ s' place resumed =>
    have serves := resumeDispatch_serves c r.destination w.payload.length s
    rw [resumed] at serves
    exact serves.imp (by rintro ⟨_, ⟨⟩, _⟩)
  | @answered r s c₁ result place resumed =>
    have serves := resumeDispatch_serves c r.destination w.payload.length s
    rw [resumed] at serves
    refine serves.imp ?_
    rintro ⟨_, ⟨⟩, heard⟩
    exact dispatchEnded_done w heard

theorem open_served (d : Descriptor) (opening : Option (Transport.Opening InProcess)) :
    (opening.elim (Transport.startOpen c.now d c.transport)
      (Transport.resumeOpen c.now · c.transport)).1.served = c.transport.served := by
  cases opening with
  | none => exact InProcess.served_startOpen c.now d c.transport
  | some o => exact InProcess.served_resumeOpen c.now o c.transport

theorem send_serves (h : Handle) (target : Target) (payload : Bytes)
    (sending : Option (Transport.Sending InProcess)) :
    Serves (∃ result, (sending.elim (Transport.startSend c.now h target payload c.transport)
        (Transport.resumeSend c.now · c.transport)).2 = .done result) c.transport
      (sending.elim (Transport.startSend c.now h target payload c.transport)
        (Transport.resumeSend c.now · c.transport)).1 := by
  cases sending with
  | none => exact InProcess.startSend_serves c.now h target payload c.transport
  | some s => exact InProcess.resumeSend_serves c.now s c.transport

theorem advance_serves (id : Nat) (call : Call InProcess) :
    Serves (∃ result, (c.advance id call).2 = .done result) c.transport
      (c.advance id call).1.transport := by
  have advanced := advance_advanced c id call
  generalize c.advance id call = next at advanced ⊢
  have connect {i attempt c₁ p} (stepped : c.stepConnect i attempt = (c₁, p)) :
      c₁.transport.served = c.transport.served := by
    have same := transport_stepConnect c i attempt
    rw [stepped] at same
    exact congrArg InProcess.served same
  cases advanced with
  | connecting stepped => exact .none (connect stepped)
  | connected stepped => exact .none (connect stepped)
  | @sent i target payload c₁ s began =>
    have serves := startDispatch_serves c id i target payload
    rw [began] at serves
    exact serves.imp (by rintro ⟨_, ⟨⟩, _⟩)
  | @dispatched i target payload c₁ result began =>
    have serves := startDispatch_serves c id i target payload
    rw [began] at serves
    exact serves.imp fun _ => ⟨_, rfl⟩
  | @resumed i target payload s c₁ s' resumed =>
    have serves := resumeDispatch_serves c i payload.length s
    rw [resumed] at serves
    exact serves.imp (by rintro ⟨_, ⟨⟩, _⟩)
  | @answered i target payload s c₁ result resumed =>
    have serves := resumeDispatch_serves c i payload.length s
    rw [resumed] at serves
    exact serves.imp fun _ => ⟨_, rfl⟩
  | @walks w c₁ w' stepped =>
    have serves := stepInvocation_serves c id w
    rw [stepped] at serves
    exact serves.imp (by rintro ⟨_, ⟨⟩⟩)
  | @walked w c₁ result stepped =>
    have serves := stepInvocation_serves c id w
    rw [stepped] at serves
    exact serves.imp fun _ => ⟨_, rfl⟩
  | counted => exact .none rfl
  | joining stepped => exact .none (connect stepped)
  | joined stepped => exact .none (connect stepped)
  | missed stepped => exact .none (connect stepped)
  | @opening d opening transport o asked =>
    have same := open_served c d opening
    rw [asked] at same
    exact .none same
  | @opened d opening transport result asked =>
    have same := open_served c d opening
    rw [asked] at same
    exact .none same
  | @carries h target payload sending transport s asked =>
    have serves := send_serves c h target payload sending
    rw [asked] at serves
    exact serves.imp (by rintro ⟨_, ⟨⟩⟩)
  | @carried h target payload sending transport result asked =>
    have serves := send_serves c h target payload sending
    rw [asked] at serves
    exact serves.imp fun _ => ⟨_, rfl⟩
  | closed => exact .none rfl
  | stillOpen => exact .none rfl
  | watches => exact .none rfl
  | slept => exact .none rfl
  | sleeps => exact .none rfl

/-! ### Runs -/

/-- The handler runs that an action adds, if it is a step of the call. -/
def runsIn (id : Nat) : Action InProcess → Nat
  | .step (.call j) =>
    if j = id then (c.step (.call j)).transport.served.length - c.transport.served.length else 0
  | _ => 0

/-- How often a run lets the steps of a call run a handler. -/
def handlerRuns (id : Nat) : Client InProcess → List (Action InProcess) → Nat
  | _, [] => 0
  | c, a :: rest => runsIn c id a + handlerRuns id (c.act a) rest

/-- How often a call can still do so: it cannot when it has ended. -/
def runsLeft (id : Nat) : Nat := if id < c.nextCall ∧ c.calls.lookup id = none then 0 else 1

variable {c} {id : Nat}

theorem runsLeft_calling {call : Call InProcess} (calling : c.calls.lookup id = some call) :
    runsLeft c id = 1 := by
  unfold runsLeft
  rw [calling]
  simp

theorem runsLeft_le_one (c : Client InProcess) (id : Nat) : runsLeft c id ≤ 1 := by
  unfold runsLeft
  split <;> omega

theorem runsLeft_act (reachable : c.Reachable) (a : Action InProcess) :
    runsLeft (c.act a) id ≤ runsLeft c id := by
  have step := callStep_act reachable.numbered id a
  generalize c.act a = c' at step ⊢
  cases step with
  | kept kept =>
    have later := kept.nextCall
    unfold runsLeft
    rw [kept.call]
    split
    · exact Nat.zero_le _
    · next left =>
      have before : ¬(id < c.nextCall ∧ c.calls.lookup id = none) := by
        rintro ⟨made, last⟩
        exact left ⟨Nat.lt_of_lt_of_le made later, last⟩
      exact Nat.le_of_eq (if_neg before).symm
  | made r new =>
    have fresh : runsLeft c id = 1 := by
      unfold runsLeft
      rw [if_neg]
      rintro ⟨made, _⟩
      omega
    rw [fresh]
    exact runsLeft_le_one _ _
  | advanced own calling =>
    rw [runsLeft_calling calling]
    exact runsLeft_le_one _ _
  | abandoned calling =>
    rw [runsLeft_calling calling]
    exact runsLeft_le_one _ _

/-- A step that runs a handler is the last one of its call. -/
theorem runs_step (reachable : c.Reachable) :
    (c.step (.call id)).transport.served.length - c.transport.served.length
      + runsLeft (c.step (.call id)) id ≤ runsLeft c id := by
  unfold step
  dsimp only
  cases calling : c.calls.lookup id with
  | none => simp
  | some call =>
    obtain ⟨made, _⟩ := reachable.callsNumbered.made calling
    have serves := advance_serves c id call
    have number := nextCall_stepCall c id call
    have stepped := stepCall_stepped c id call
    rw [runsLeft_calling calling]
    dsimp only
    generalize c.stepCall id call = c' at stepped number ⊢
    cases stepped with
    | @goesOn c₁ next advanced moves =>
      rw [advanced] at serves
      -- Only a step that ends its call can have run a handler.
      rcases serves with none | ⟨⟨_, ⟨⟩⟩, _⟩
      have same : (c₁.replaceCall id next).transport.served = c.transport.served := none
      rw [same, Nat.sub_self, Nat.zero_add]
      exact runsLeft_le_one _ _
    | @ends c₁ result advanced moves =>
      rw [advanced] at serves
      have last : runsLeft (c₁.endCall id result) id = 0 := by
        unfold runsLeft
        rw [if_pos]
        exact ⟨by rw [number]; exact made, by rw [lookup_endCall, if_pos rfl]⟩
      rw [last, Nat.add_zero]
      rcases serves with none | ⟨_, run, ran⟩
      · have same : (c₁.endCall id result).transport.served = c.transport.served := none
        rw [same]
        omega
      · have one : (c₁.endCall id result).transport.served = c.transport.served ++ [run] := ran
        rw [one, List.length_append, List.length_singleton]
        omega

theorem runsIn_act (reachable : c.Reachable) (a : Action InProcess) :
    runsIn c id a + runsLeft (c.act a) id ≤ runsLeft c id := by
  have least : runsLeft (c.act a) id ≤ runsLeft c id := runsLeft_act reachable a
  unfold runsIn
  split
  · next j =>
    by_cases own : j = id
    · subst own
      rw [if_pos rfl]
      exact runs_step reachable
    · rw [if_neg own, Nat.zero_add]
      exact least
  · rw [Nat.zero_add]
    exact least

theorem handlerRuns_le (reachable : c.Reachable) (actions : List (Action InProcess)) :
    handlerRuns id c actions ≤ runsLeft c id := by
  induction actions generalizing c with
  | nil => exact Nat.zero_le _
  | cons a rest ih =>
    calc runsIn c id a + handlerRuns id (c.act a) rest
        ≤ runsIn c id a + runsLeft (c.act a) id := Nat.add_le_add_left (ih (reachable.act a)) _
      _ ≤ runsLeft c id := runsIn_act reachable a

end Client

end Switchboard
