import Switchboard.Proofs.Connection.Effects
import Switchboard.Proofs.Invocation.Course

/-!
What one step of a call adds to the counters of destinations, and what its result says of it. Only the
step that ends a send adds anything, and only where the send went.
-/
namespace Switchboard

open Text (Bytes)

/-- What is known of a send in the end; the transport may also have refused it, and then nothing is. -/
inductive Verdict
  | replied (reply : Bytes)
  | remote
  | broken
deriving DecidableEq, Repr

/-- The counters of sends. -/
inductive Counter
  | invocations
  | bytesSent
  | bytesReceived
  | remoteErrors
  | dispatchFailures
deriving DecidableEq, Repr

namespace Counter

def of (s : Stats) : Counter → UInt64
  | invocations => s.invocations
  | bytesSent => s.bytesSent
  | bytesReceived => s.bytesReceived
  | remoteErrors => s.remoteErrors
  | dispatchFailures => s.dispatchFailures

/-- What the end of a send of so many bytes adds to a counter. -/
def amount (sent : Nat) : Counter → Verdict → Nat
  | invocations, .replied _ => 1
  | invocations, .remote => 1
  | bytesSent, .replied _ => sent
  | bytesSent, .remote => sent
  | bytesReceived, .replied reply => reply.length
  | remoteErrors, .remote => 1
  | dispatchFailures, .broken => 1
  | _, _ => 0

end Counter

def DispatchError.verdict? : DispatchError → Option Verdict
  | .remote _ _ => some .remote
  | .connectivity _ => some .broken
  | .notConnected _ => none
  | .invalidRequest _ => none

def InvokeError.verdict? : InvokeError → Option Verdict
  | .remote _ _ => some .remote
  | .connectivity _ _ => some .broken
  | .noReceiver _ => none
  | .invalidRequest _ _ => none

/-- What a caller is told of its send. A connectivity failure tells of one only if there was one. -/
def Client.CallResult.verdict? : CallResult → Option Verdict
  | .invoked (.ok reply) => some (.replied reply)
  | .invoked (.error e) => e.verdict?
  | .dispatched (.ok reply) => some (.replied reply)
  | .dispatched (.error e) => e.verdict?
  | _ => none

/-! ### One destination -/

theorem Destination.Undergoes.counters {δ : Deed} {d d' : Destination} (deed : d.Undergoes δ d')
    (other : δ ≠ .counted) (k : Counter) : k.of d'.stats = k.of d.stats := by
  cases deed with
  | begun => cases k <;> rfl
  | failed => cases k <;> rfl
  | delivered => cases retired : d.retired <;> simp [Destination.publish, retired]
  | revoked on => cases k <;> simp [Destination.revoke, on, Stats.recordDisconnect, Counter.of]
  | tornDown => rfl
  | retired => rfl
  | counted => exact absurd rfl other

theorem Destination.counters_revoke (d : Destination) (generation : Nat) (next : ConnectionState)
    (k : Counter) : k.of (d.revoke generation next).1.stats = k.of d.stats := by
  unfold Destination.revoke
  split
  · split
    · cases k <;> rfl
    · rfl
  · rfl

/-- Settling a send adds to the counters what its result says. -/
theorem Destination.counters_settle (d : Destination) (generation sent : Nat) (outcome : SendOutcome)
    (k : Counter) :
    k.of (d.settle generation sent outcome).1.stats = k.of d.stats +
      UInt64.ofNat ((Client.CallResult.dispatched
        (d.settle generation sent outcome).2.2).verdict?.elim 0 (k.amount sent)) := by
  have broken (next : ConnectionState) :
      k.of (d.dispatchFailed.revoke generation next).1.stats =
        k.of d.stats + UInt64.ofNat (k.amount sent .broken) := by
    rw [counters_revoke]
    cases k <;> simp [dispatchFailed, Stats.recordDispatchFailure, Counter.of, Counter.amount]
  cases outcome with
  | timedOut => exact broken .failed
  | answered result =>
    cases result with
    | ok reply => cases k <;> simp [settle, Stats.recordInvocation, Counter.of, Counter.amount,
        Client.CallResult.verdict?]
    | error e =>
      cases e with
      | application message => cases k <;> simp [settle, Stats.recordRemoteError, Counter.of,
          Counter.amount, Client.CallResult.verdict?, DispatchError.verdict?]
      | invalidRequest reason =>
        simp [settle, Client.CallResult.verdict?, DispatchError.verdict?]
      | refused reason => exact broken .disconnected
      | closed reason => exact broken .disconnected
      | timeout bound => exact broken .disconnected
      | rejected reason => exact broken .disconnected
      | io reason => exact broken .disconnected
      | protocol reason => exact broken .disconnected

namespace Client

variable {T : Type} [Transport T]

/-! ### Sends -/

/-- Every destination is still there, and one of them has counted a verdict if there is one. -/
def Gained (i sent : Nat) (told : Option Verdict) (c c' : Client T) : Prop :=
  ∀ j d, c.destinations[j]? = some d → ∃ d', c'.destinations[j]? = some d' ∧
    ∀ k : Counter, k.of d'.stats = k.of d.stats +
      UInt64.ofNat (if j = i then told.elim 0 (k.amount sent) else 0)

theorem Gained.nothing {c c' : Client T} (same : c'.destinations = c.destinations) (i sent : Nat) :
    Gained i sent none c c' := by
  intro j d found
  exact ⟨d, by rw [same, found], by simp⟩

theorem Effects.gained {A : List Deed} (uncounted : Deed.counted ∉ A) {c c' : Client T}
    (effects : Effects A c c') (i sent : Nat) : Gained i sent none c c' := by
  intro j d found
  have undergone (δ : Deed) (allowed : δ ∈ A) (d₁ d₂ : Destination) (deed : d₁.Undergoes δ d₂)
      (same : ∀ k : Counter, k.of d₁.stats = k.of d.stats) (k : Counter) :
      k.of d₂.stats = k.of d.stats :=
    (deed.counters (ne_of_mem_of_not_mem allowed uncounted) k).trans (same k)
  obtain ⟨d', found', same⟩ := effects.kept undergone found fun _ => rfl
  exact ⟨d', found', fun k => by simp [same k]⟩

/-- The verdict on a dispatch, if it has ended. -/
def verdict? : Dispatch T → Option Verdict
  | .waiting _ => none
  | .done result => (CallResult.dispatched result).verdict?

theorem gained_settle (c : Client T) (i generation sent : Nat) (outcome : SendOutcome) :
    Gained i sent (CallResult.dispatched (c.settle i generation sent outcome).2).verdict? c
      (c.settle i generation sent outcome).1 := by
  unfold settle
  cases found : c.destinations[i]? with
  | none =>
    rw [onDestination_of_absent found]
    exact .nothing rfl i sent
  | some d =>
    rw [onDestination_of_found found]
    intro j d₁ found₁
    rw [destinations_releaseLost]
    by_cases here : j = i
    · subst here
      obtain rfl : d = d₁ := by simpa [found] using found₁
      refine ⟨_, found_setDestination found _, fun k => ?_⟩
      rw [if_pos rfl]
      exact d.counters_settle generation sent outcome k
    · exact ⟨d₁, (elsewhere_setDestination c here _).trans found₁, by simp [here]⟩

theorem gained_continueSend (c : Client T) (i generation sent : Nat) (deadline : Instant)
    (p : Progress (Transport.Sending T) (Except TransportError Bytes)) :
    Gained i sent (verdict? (c.continueSend i generation sent deadline p).2) c
      (c.continueSend i generation sent deadline p).1 := by
  cases p with
  | done result => exact gained_settle c i generation sent (.answered result)
  | waiting s =>
    unfold continueSend
    dsimp only
    split
    · exact gained_settle { c with transport := Transport.abandonSend s c.transport } i generation
        sent .timedOut
    · exact .nothing rfl i sent

theorem gained_resumeDispatch (c : Client T) (i sent : Nat) (s : PendingSend T) :
    Gained i sent (verdict? (c.resumeDispatch i sent s).2) c (c.resumeDispatch i sent s).1 :=
  gained_continueSend { c with transport := (Transport.resumeSend c.now s.sending c.transport).1 } i
    s.generation sent s.deadline _

theorem gained_startDispatch (c : Client T) (id i : Nat) (target : Target) (payload : Bytes) :
    Gained i payload.length (verdict? (c.startDispatch id i target payload).2) c
      (c.startDispatch id i target payload).1 := by
  unfold startDispatch
  cases found : c.destinations[i]? with
  | none => exact .nothing rfl i _
  | some d =>
    cases on : d.current with
    | none =>
      simp only [on]
      exact .nothing rfl i _
    | some live =>
      simp only [on]
      exact gained_continueSend { c.log (.sendStarted id i live.handle) with
        transport := (Transport.startSend c.now live.handle target payload c.transport).1 } i
        live.generation payload.length _ _

/-! ### Steps of a call -/

/-- How a call ends in a step of its walk, if it does. -/
def walkEnded? : Invocation.Next (PendingSend T) → Option CallResult
  | .waiting _ => none
  | .done result => some (.invoked result)

def ended? : Progress (Call T) CallResult → Option CallResult
  | .waiting _ => none
  | .done result => some result

/-- What a result adds to a counter of a destination, if its call has sent there. -/
def credit (k : Counter) (sent : Nat) (sends : List Nat) (j : Nat) (result : CallResult) : Nat :=
  if j ∈ sends then result.verdict?.elim 0 (k.amount sent) else 0

/-- A step of a call adds what its result says, where the call has sent to, and nothing else. An answer
comes from a send, and a send goes to a destination that is there. -/
structure Credited (id sent : Nat) (c c' : Client T) (ended : Option CallResult) : Prop where
  counters : ∀ j d, c.destinations[j]? = some d → ∃ d', c'.destinations[j]? = some d' ∧
    ∀ k : Counter, k.of d'.stats = k.of d.stats +
      UInt64.ofNat (ended.elim 0 (credit k sent (c'.sends id) j))
  placed : ∀ i ∈ c'.sends id, i ∈ c.sends id ∨ i < c.destinations.length
  answered : ∀ result ∈ ended, ∀ v, result.verdict? = some v → v ≠ .broken → c'.sends id ≠ []

section Credited

variable {id sent : Nat} {c c' : Client T}

theorem Credited.waits {i : Nat} (gained : Gained i sent none c c')
    (placed : ∀ i ∈ c'.sends id, i ∈ c.sends id ∨ i < c.destinations.length) :
    Credited id sent c c' none where
  counters := by
    intro j d found
    obtain ⟨d', found', same⟩ := gained j d found
    exact ⟨d', found', by simpa using same⟩
  placed := placed
  answered := by simp

/-- A call that ends without a verdict, or without having sent, adds nothing. -/
theorem Credited.unsent {i : Nat} (gained : Gained i sent none c c') {result : CallResult}
    (silent : result.verdict? = none ∨ result.verdict? = some .broken ∧ c'.sends id = [])
    (placed : ∀ i ∈ c'.sends id, i ∈ c.sends id ∨ i < c.destinations.length) :
    Credited id sent c c' (some result) where
  counters := by
    intro j d found
    obtain ⟨d', found', same⟩ := gained j d found
    refine ⟨d', found', fun k => ?_⟩
    rcases silent with none | ⟨_, none⟩ <;> simpa [credit, none] using same k
  placed := placed
  answered := by
    rintro _ ⟨⟩ v verdict other
    rcases silent with none | ⟨broken, _⟩
    · simp [none] at verdict
    · simp [broken] at verdict
      exact absurd verdict.symm other

/-- A call that ends with a verdict has sent to the destination that has counted it. -/
theorem Credited.heard {i : Nat} {told : Option Verdict} (gained : Gained i sent told c c')
    {result : CallResult} (verdict : result.verdict? = told) (there : told ≠ none → c'.sends id = [i])
    (placed : ∀ i ∈ c'.sends id, i ∈ c.sends id ∨ i < c.destinations.length) :
    Credited id sent c c' (some result) where
  counters := by
    intro j d found
    obtain ⟨d', found', more⟩ := gained j d found
    refine ⟨d', found', fun k => ?_⟩
    rw [more k]
    cases told with
    | none => simp [credit, verdict]
    | some v => simp [credit, verdict, there]
  placed := placed
  answered := by
    rintro _ ⟨⟩ v verdict' _
    have sent := there (by simp [← verdict, verdict'])
    simp [sent]

theorem Credited.dispatchEnded {i : Nat} (w : Invocation (PendingSend T))
    {result : Except DispatchError Bytes}
    (gained : Gained i sent (CallResult.dispatched result).verdict? c c')
    (there : (CallResult.dispatched result).verdict? ≠ none → c'.sends id = [i])
    (placed : ∀ i ∈ c'.sends id, i ∈ c.sends id ∨ i < c.destinations.length) :
    Credited id sent c c' (walkEnded? (w.dispatchEnded result)) := by
  cases result with
  | ok reply => exact .heard gained rfl there placed
  | error e =>
    cases e with
    | notConnected f => exact .waits gained placed
    | connectivity f => exact .heard gained rfl there placed
    | remote destination message => exact .heard gained rfl there placed
    | invalidRequest reason => exact .heard gained rfl there placed

end Credited

/-- A dispatch that begins is noted, and goes to a destination that is there; otherwise it has no
verdict. -/
theorem sends_of_began {c c₁ : Client T} {id i : Nat} {target : Target} {payload : Bytes}
    {next : Dispatch T} (began : c.startDispatch id i target payload = (c₁, next)) :
    (c₁.sends id = c.sends id ∧ verdict? next = none) ∨
      (c₁.sends id = i :: c.sends id ∧ i < c.destinations.length) := by
  have begun := startDispatch_begun c id i target payload
  rw [began] at begun
  cases begun with
  | absent => exact .inl ⟨rfl, rfl⟩
  | notConnected => exact .inl ⟨rfl, rfl⟩
  | sent found _ went =>
    right
    refine ⟨?_, length_of_found found⟩
    rw [sends, went.callEvents id, callEvents_sendStarted]
    rfl

theorem placed_of_began {c c₁ : Client T} {id i : Nat} {target : Target} {payload : Bytes}
    {next : Dispatch T} (began : c.startDispatch id i target payload = (c₁, next)) :
    ∀ j ∈ c₁.sends id, j ∈ c.sends id ∨ j < c.destinations.length := by
  intro j there
  rcases sends_of_began began with ⟨none, _⟩ | ⟨one, placed⟩
  · exact .inl (none ▸ there)
  · rw [one] at there
    rcases List.mem_cons.mp there with rfl | before
    · exact .inr placed
    · exact .inl before

/-- A dispatch that ends as it begins has a verdict only if it is the one that its call has sent. -/
theorem sends_of_began_ended {c c₁ : Client T} {id i : Nat} {target : Target} {payload : Bytes}
    {result : Except DispatchError Bytes}
    (began : c.startDispatch id i target payload = (c₁, .done result)) (unsent : c.sends id = [])
    (verdict : (CallResult.dispatched result).verdict? ≠ none) : c₁.sends id = [i] := by
  have begun := sends_of_began began
  rw [unsent] at begun
  exact (begun.resolve_left fun none => verdict none.2).1

theorem Walked.credited {id : Nat} {c : Client T} {w : Invocation (PendingSend T)}
    {next : Client T × Invocation.Next (PendingSend T)} (walked : Walked id c w next)
    (noted : c.sends id = w.place.sentTo?.toList) :
    Credited id w.payload.length c next.1 (walkEnded? next.2) := by
  have same (answer : Invocation.Answer) (i : Nat) (sent : i ∈ (c.tell id answer).sends id) :
      i ∈ c.sends id ∨ i < c.destinations.length := by
    rw [sends_tell] at sent
    exact .inl sent
  have told (answer : Invocation.Answer) : Gained 0 w.payload.length none c (c.tell id answer) :=
    .nothing rfl 0 _
  cases walked with
  | @found rs place =>
    unfold Invocation.found
    split
    · exact .unsent (told _) (.inl rfl) (same _)
    · exact .waits (told _) (same _)
  | chose place =>
    have unsent : c.sends id = [] := by
      rw [noted, place]
      rfl
    unfold Invocation.choose
    split
    · exact .unsent (.nothing rfl 0 _) (.inr ⟨rfl, unsent⟩) fun _ => .inl
    · split <;> exact .waits (.nothing rfl 0 _) fun _ => .inl
  | checked => exact .waits (told _) (same _)
  | @joined r c₁ j place asked =>
    have events := callEvents_beginConnect c r.destination id
    have effects := effects_beginConnect (A := [.begun]) List.mem_cons_self c r.destination
    rw [asked] at events effects
    have gained : Gained 0 w.payload.length none c (c₁.tell id (.joining r j)) :=
      effects.gained (by simp) 0 _
    have placed (i : Nat) (sent : i ∈ (c₁.tell id (.joining r j)).sends id) :
        i ∈ c.sends id ∨ i < c.destinations.length := by
      rw [sends_tell, sends_of_events events] at sent
      exact .inl sent
    unfold Invocation.joining
    cases j <;> exact .waits gained placed
  | waits => exact .waits (.nothing rfl 0 _) fun _ => .inl
  | @connectEnded r a outcome =>
    unfold Invocation.connectEnded
    cases outcome <;> exact .waits (told _) (same _)
  | @sent r c₁ s place began =>
    have gained := gained_startDispatch c id r.destination w.target w.payload
    rw [began] at gained
    exact .waits gained (placed_of_began began)
  | @dispatched r c₁ result place began =>
    have gained := gained_startDispatch c id r.destination w.target w.payload
    rw [began] at gained
    have unsent : c.sends id = [] := by
      rw [noted, place]
      rfl
    refine .dispatchEnded w gained ?_ ?_
    · rw [sends_tell]
      exact sends_of_began_ended began unsent
    · rw [sends_tell]
      exact placed_of_began began
  | @resumed r s c₁ s' place resumed =>
    have gained := gained_resumeDispatch c r.destination w.payload.length s
    have events := callEvents_resumeDispatch c r.destination w.payload.length id s
    rw [resumed] at gained events
    exact .waits gained fun i sent => .inl (sends_of_events events ▸ sent)
  | @answered r s c₁ result place resumed =>
    have gained := gained_resumeDispatch c r.destination w.payload.length s
    have events := callEvents_resumeDispatch c r.destination w.payload.length id s
    rw [resumed] at gained events
    have sent : (c₁.tell id (.dispatched r result)).sends id = [r.destination] := by
      rw [sends_tell, sends_of_events events, noted, place]
      rfl
    refine .dispatchEnded w gained (fun _ => sent) fun i there => ?_
    rw [sends_tell, sends_of_events events] at there
    exact .inl there

/-- What a call sends to a destination. -/
def Call.payload? : Call T → Option Bytes
  | .dispatch _ _ payload _ => some payload
  | .invoke w => some w.payload
  | _ => none

/-- A step of a call counts what it tells its caller. -/
theorem Advanced.credited {id : Nat} {c : Client T} {call : Call T}
    {next : Client T × Progress (Call T) CallResult} (advanced : Advanced id c call next)
    (noted : c.sends id = call.sentTo?.toList) {sent : Nat}
    (size : ∀ payload ∈ call.payload?, sent = payload.length) :
    Credited id sent c next.1 (ended? next.2) := by
  have connect {i attempt c₁ p} (stepped : c.stepConnect i attempt = (c₁, p)) :
      Gained 0 sent none c c₁ ∧ ∀ i ∈ c₁.sends id, i ∈ c.sends id ∨ i < c.destinations.length := by
    have effects := effects_stepConnect (A := [.begun]) List.mem_cons_self c i attempt
    have events := callEvents_stepConnect c i attempt id
    rw [stepped] at effects events
    exact ⟨effects.gained (by simp) 0 sent, fun i there => .inl (sends_of_events events ▸ there)⟩
  have carry (transport : T) : Gained 0 sent none c { c with transport := transport } :=
    .nothing rfl 0 sent
  cases advanced with
  | connecting stepped => exact .waits (connect stepped).1 (connect stepped).2
  | connected stepped => exact .unsent (connect stepped).1 (.inl rfl) (connect stepped).2
  | @sent i target payload c₁ s began =>
    obtain rfl := size payload rfl
    have gained := gained_startDispatch c id i target payload
    rw [began] at gained
    exact .waits gained (placed_of_began began)
  | @dispatched i target payload c₁ result began =>
    obtain rfl := size payload rfl
    have gained := gained_startDispatch c id i target payload
    rw [began] at gained
    exact .heard gained rfl (sends_of_began_ended began noted) (placed_of_began began)
  | @resumed i target payload s c₁ s' resumed =>
    obtain rfl := size payload rfl
    have gained := gained_resumeDispatch c i payload.length s
    have events := callEvents_resumeDispatch c i payload.length id s
    rw [resumed] at gained events
    exact .waits gained fun j there => .inl (sends_of_events events ▸ there)
  | @answered i target payload s c₁ result resumed =>
    obtain rfl := size payload rfl
    have gained := gained_resumeDispatch c i payload.length s
    have events := callEvents_resumeDispatch c i payload.length id s
    rw [resumed] at gained events
    refine .heard gained rfl (fun _ => ?_) fun j there => .inl (sends_of_events events ▸ there)
    rw [sends_of_events events, noted]
    rfl
  | @walks w c₁ w' stepped =>
    obtain rfl := size w.payload rfl
    have credited := (stepInvocation_walked c id w).credited noted
    rw [stepped] at credited
    exact credited
  | @walked w c₁ result stepped =>
    obtain rfl := size w.payload rfl
    have credited := (stepInvocation_walked c id w).credited noted
    rw [stepped] at credited
    exact credited
  | counted => exact .unsent (.nothing rfl 0 sent) (.inl rfl) fun _ => .inl
  | joining stepped => exact .waits (connect stepped).1 (connect stepped).2
  | joined stepped => exact .waits (connect stepped).1 (connect stepped).2
  | missed stepped => exact .waits (connect stepped).1 (connect stepped).2
  | opening => exact .waits (carry _) fun _ => .inl
  | opened => exact .unsent (carry _) (.inl rfl) fun _ => .inl
  | carries => exact .waits (carry _) fun _ => .inl
  | carried => exact .unsent (carry _) (.inl rfl) fun _ => .inl
  | closed => exact .unsent (.nothing rfl 0 sent) (.inl rfl) fun _ => .inl
  | stillOpen => exact .unsent (.nothing rfl 0 sent) (.inl rfl) fun _ => .inl
  | watches => exact .waits (.nothing rfl 0 sent) fun _ => .inl
  | slept => exact .unsent (.nothing rfl 0 sent) (.inl rfl) fun _ => .inl
  | sleeps => exact .waits (.nothing rfl 0 sent) fun _ => .inl

end Client

end Switchboard
