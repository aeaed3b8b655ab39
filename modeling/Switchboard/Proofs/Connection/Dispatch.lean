import Switchboard.Proofs.Connection.Callers
import Switchboard.Proofs.Invocation.Course
import Switchboard.Proofs.Supervisor.Down

/-!
What a dispatch does to its destination. It goes over the connection that was published when it began,
and what comes of its send is all that it brings back: an answer of the remote side, or a refusal of the
transport to send at all, leaves the connection alone. Any other error takes it back, and so does a
timeout, unless it is no longer the one that is published.
-/
namespace Switchboard

open Text (Bytes)

/-- The state that a destination is left in by a send that has broken its connection. -/
def SendOutcome.breaks? : SendOutcome → Option ConnectionState
  | .answered (.ok _) => none
  | .answered (.error (.application _)) => none
  | .answered (.error (.invalidRequest _)) => none
  | .answered (.error _) => some .disconnected
  | .timedOut => some .failed

/-- The destination whose connection was broken by a send. -/
def Destination.broken (next : ConnectionState) (d : Destination) : Destination :=
  { d with
    live := none
    state := next
    failures := if next = .failed then d.failures + 1 else d.failures
    stats := { d.stats with
      dispatchFailures := d.stats.dispatchFailures + 1
      disconnects := d.stats.disconnects + 1 } }

namespace Client

variable {T : Type} [Transport T]

/-- A dispatch that a call is at: where it goes, what it carries, and its send if it has begun. -/
structure Errand (T : Type) [Transport T] where
  destination : Nat
  target : Target
  payload : Bytes
  send : Option (PendingSend T)

def Call.errand? : Call T → Option (Errand T)
  | .dispatch i target payload send => some ⟨i, target, payload, send⟩
  | .invoke w => match w.place with
    | .dispatching r => some ⟨r.destination, w.target, w.payload, none⟩
    | .sending r s => some ⟨r.destination, w.target, w.payload, some s⟩
    | _ => none
  | _ => none

/-- What a dispatch over the connection of a generation hears when it asks its transport. -/
structure Hearing (T : Type) [Transport T] where
  generation : Nat
  deadline : Instant
  transport : T
  said : Progress (Transport.Sending T) (Except TransportError Bytes)

/-- What a dispatch hears when it goes on; there is nothing to hear where there is no connection to
begin with. -/
def Errand.hearing? (e : Errand T) (c : Client T) : Option (Hearing T) :=
  match e.send with
  | some s =>
    let (transport, said) := Transport.resumeSend c.now s.sending c.transport
    some ⟨s.generation, s.deadline, transport, said⟩
  | none => (c.destinations[e.destination]?).bind fun d => d.current.map fun live =>
    let (transport, said) := Transport.startSend c.now live.handle e.target e.payload c.transport
    ⟨live.generation, c.now + d.descriptor.invokeTimeout.nanos, transport, said⟩

/-- What comes of the send, if it is over by now. -/
def Hearing.outcome? (now : Instant) (heard : Hearing T) : Option SendOutcome :=
  match heard.said with
  | .done result => some (.answered result)
  | .waiting _ => if heard.deadline ≤ now then some .timedOut else none

/-- The transport afterwards: it is told of a send that nobody waits for any longer. -/
def Hearing.after (now : Instant) (heard : Hearing T) : T :=
  match heard.said with
  | .done _ => heard.transport
  | .waiting s =>
    if heard.deadline ≤ now then Transport.abandonSend s heard.transport else heard.transport

/-- The client with the calls, the transport and the journal of another. -/
def withCallsOf (c c' : Client T) : Client T :=
  { c with
    transport := c'.transport
    calls := c'.calls
    results := c'.results
    journal := c'.journal }

/-- Nothing else has changed, and no handle was closed. -/
structure Undisturbed (c c' : Client T) : Prop where
  same : c' = c.withCallsOf c'
  closures : ∀ i, c'.closures i = c.closures i

/-- What a dispatch changes by going on. While its send is under way that is nothing, and what comes of
it in the end decides the rest. A connection that is broken is closed, and the supervisor is told. -/
structure Confined (i : Nat) (d : Destination) (heard : Hearing T) (c c' : Client T) : Prop where
  waits : heard.outcome? c.now = none → Undisturbed c c' ∧ c'.transport = heard.after c.now
  spared : ∀ outcome, heard.outcome? c.now = some outcome → outcome.breaks? = none →
    ∃ stats, stats.dispatchFailures = d.stats.dispatchFailures ∧
      stats.disconnects = d.stats.disconnects ∧
      Undisturbed (c.setDestination i { d with stats := stats }) c' ∧
      c'.transport = heard.after c.now
  broken : ∀ outcome next live, heard.outcome? c.now = some outcome → outcome.breaks? = some next →
    d.live = some live → live.generation = heard.generation →
    d.state = .connected ∧
      c' = { c.setDestination i (d.broken next) with signal := true }.withCallsOf c' ∧
      (∀ j, c'.closures j = if j = i then live.handle :: c.closures i else c.closures j) ∧
      c'.transport = Transport.close live.handle (heard.after c.now)
  stale : ∀ outcome next, heard.outcome? c.now = some outcome → outcome.breaks? = some next →
    d.live.map (·.generation) ≠ some heard.generation →
    Undisturbed (c.setDestination i { d with
      stats := { d.stats with dispatchFailures := d.stats.dispatchFailures + 1 } }) c' ∧
      c'.transport = heard.after c.now

end Client

/-! ### One destination -/

namespace Destination

variable {d : Destination} {outcome : SendOutcome}

theorem settle_spared (generation sent : Nat) (harmless : outcome.breaks? = none) :
    ∃ stats, stats.dispatchFailures = d.stats.dispatchFailures ∧
      stats.disconnects = d.stats.disconnects ∧
      (d.settle generation sent outcome).1 = { d with stats := stats } ∧
      (d.settle generation sent outcome).2.1 = none := by
  cases outcome with
  | timedOut => cases harmless
  | answered result =>
    cases result with
    | ok reply => exact ⟨d.stats.recordInvocation sent reply.length, rfl, rfl, rfl, rfl⟩
    | error e =>
      cases e with
      | application message => exact ⟨d.stats.recordRemoteError sent, rfl, rfl, rfl, rfl⟩
      | invalidRequest reason => exact ⟨d.stats, rfl, rfl, rfl, rfl⟩
      | _ => cases harmless

theorem settle_breaks (generation sent : Nat) {next : ConnectionState}
    (breaks : outcome.breaks? = some next) :
    (d.settle generation sent outcome).1 = (d.dispatchFailed.revoke generation next).1 ∧
      (d.settle generation sent outcome).2.1 = (d.dispatchFailed.revoke generation next).2 := by
  cases outcome with
  | timedOut =>
    cases breaks
    exact ⟨rfl, rfl⟩
  | answered result =>
    cases result with
    | ok reply => cases breaks
    | error e =>
      cases e with
      | application message => cases breaks
      | invalidRequest reason => cases breaks
      | _ =>
        cases breaks
        exact ⟨rfl, rfl⟩

theorem revoke_broken {live : Live} (on : d.live = some live) (unfailed : d.failures = 0)
    (next : ConnectionState) :
    d.dispatchFailed.revoke live.generation next = (d.broken next, some live.handle) := by
  simp [revoke, broken, dispatchFailed, on, unfailed, maxFailures, Stats.recordDispatchFailure,
    Stats.recordDisconnect]

end Destination

namespace Client

variable {T : Type} [Transport T]

/-! ### What a dispatch hears -/

theorem withCallsOf_trans {c c' c'' : Client T} (first : c' = c.withCallsOf c')
    (second : c'' = c'.withCallsOf c'') : c'' = c.withCallsOf c'' :=
  calc c'' = c'.withCallsOf c'' := second
    _ = (c.withCallsOf c').withCallsOf c'' := congrArg (·.withCallsOf c'') first
    _ = c.withCallsOf c'' := rfl

theorem Undisturbed.trans {c c' c'' : Client T} (first : Undisturbed c c')
    (second : Undisturbed c' c'') : Undisturbed c c'' :=
  ⟨withCallsOf_trans first.same second.same,
    fun i => (second.closures i).trans (first.closures i)⟩

theorem Undisturbed.destinations {c c' : Client T} (undisturbed : Undisturbed c c') :
    c'.destinations = c.destinations := by
  rw [undisturbed.same]
  rfl

theorem Confined.undisturbed {i : Nat} {d : Destination} {heard : Hearing T} {c c₁ c' : Client T}
    (confined : Confined i d heard c c₁) (undisturbed : Undisturbed c₁ c')
    (transport : c'.transport = c₁.transport) : Confined i d heard c c' where
  waits := by
    intro finished
    obtain ⟨same, still⟩ := confined.waits finished
    exact ⟨same.trans undisturbed, transport.trans still⟩
  spared := by
    intro outcome finished harmless
    obtain ⟨stats, failures, disconnects, same, still⟩ := confined.spared outcome finished harmless
    exact ⟨stats, failures, disconnects, same.trans undisturbed, transport.trans still⟩
  broken := by
    intro outcome next live finished breaks on same
    obtain ⟨state, rest, closures, closed⟩ :=
      confined.broken outcome next live finished breaks on same
    exact ⟨state, withCallsOf_trans rest undisturbed.same,
      fun j => (undisturbed.closures j).trans (closures j), transport.trans closed⟩
  stale := by
    intro outcome next finished breaks stale
    obtain ⟨same, still⟩ := confined.stale outcome next finished breaks stale
    exact ⟨same.trans undisturbed, transport.trans still⟩

/-- A connection is published while its destination is connected, and then nothing has failed. -/
theorem Watchable.published {c : Client T} (watchable : c.Watchable) {i : Nat} {d : Destination}
    (found : c.destinations[i]? = some d) {live : Live} (on : d.live = some live) :
    d.state = .connected ∧ d.failures = 0 := by
  have known := watchable.holds i _ (ledger_of_found found)
  have state : d.state = .connected := by
    rw [known.consistent.connected, on]
    rfl
  exact ⟨state, known.unfailed.connected state⟩

/-- What a dispatch does once its send is over. -/
theorem settle_confined {c : Client T} {i : Nat} {d : Destination}
    (found : c.destinations[i]? = some d)
    (published : ∀ live, d.live = some live → d.state = .connected ∧ d.failures = 0)
    {heard : Hearing T} {outcome : SendOutcome} (finished : heard.outcome? c.now = some outcome)
    (sent : Nat) :
    Confined i d heard c
      (({ c with transport := heard.after c.now }).settle i heard.generation sent outcome).1 := by
  have there : ({ c with transport := heard.after c.now } : Client T).destinations[i]? = some d :=
    found
  unfold settle
  rw [onDestination_of_found there]
  constructor
  · intro waits
    rw [finished] at waits
    cases waits
  · intro outcome' finished' harmless
    obtain rfl : outcome = outcome' := Option.some.inj (finished.symm.trans finished')
    obtain ⟨stats, failures, disconnects, after, kept⟩ :=
      d.settle_spared heard.generation sent harmless
    refine ⟨stats, failures, disconnects, ?_⟩
    simp only [after, kept]
    exact ⟨⟨rfl, fun _ => rfl⟩, rfl⟩
  · intro outcome' next live finished' breaks on same
    obtain rfl : outcome = outcome' := Option.some.inj (finished.symm.trans finished')
    obtain ⟨state, unfailed⟩ := published live on
    obtain ⟨after, handle⟩ := d.settle_breaks heard.generation sent breaks
    rw [← same, d.revoke_broken on unfailed] at after handle
    simp only [← same, after, handle]
    refine ⟨state, rfl, ?_, rfl⟩
    intro j
    by_cases here : j = i
    · subst here
      simp [closures]
    · simp [closures, Ne.symm here, here]
  · intro outcome' next finished' breaks stale
    obtain rfl : outcome = outcome' := Option.some.inj (finished.symm.trans finished')
    obtain ⟨after, handle⟩ := d.settle_breaks heard.generation sent breaks
    rw [Destination.revoke_of_stale (d := d.dispatchFailed) stale] at after handle
    simp only [after, handle]
    exact ⟨⟨rfl, fun _ => rfl⟩, rfl⟩

/-- What a dispatch does once it has heard something. -/
theorem continueSend_confined {c : Client T} {i : Nat} {d : Destination}
    (found : c.destinations[i]? = some d)
    (published : ∀ live, d.live = some live → d.state = .connected ∧ d.failures = 0)
    (heard : Hearing T) (sent : Nat) :
    Confined i d heard c (({ c with transport := heard.transport }).continueSend i heard.generation
      sent heard.deadline heard.said).1 := by
  have settled {outcome} (finished : heard.outcome? c.now = some outcome) :=
    settle_confined found published finished sent
  unfold continueSend
  unfold Hearing.outcome? Hearing.after at settled
  cases said : heard.said with
  | done result =>
    simp only [said] at settled
    exact settled rfl
  | waiting s =>
    simp only [said] at settled
    dsimp only
    by_cases late : heard.deadline ≤ c.now
    · simp only [late, if_true] at settled ⊢
      exact settled rfl
    · have early : heard.outcome? c.now = none := by simp [Hearing.outcome?, said, late]
      simp only [late, if_false]
      constructor
      · intro _
        exact ⟨⟨rfl, fun _ => rfl⟩, by simp [Hearing.after, said, late]⟩
      · simp [early]
      · simp [early]
      · simp [early]

theorem Confined.before {i : Nat} {d : Destination} {heard : Hearing T} {c₀ c c' : Client T}
    (confined : Confined i d heard c c') (undisturbed : Undisturbed c₀ c) (now : c.now = c₀.now) :
    Confined i d heard c₀ c' := by
  have set (d' : Destination) : Undisturbed (c₀.setDestination i d') (c.setDestination i d') :=
    ⟨congrArg (setDestination i d') undisturbed.same, undisturbed.closures⟩
  constructor
  · intro finished
    obtain ⟨same, still⟩ := confined.waits (now ▸ finished)
    exact ⟨undisturbed.trans same, now ▸ still⟩
  · intro outcome finished harmless
    obtain ⟨stats, failures, disconnects, same, still⟩ :=
      confined.spared outcome (now ▸ finished) harmless
    exact ⟨stats, failures, disconnects, (set _).trans same, now ▸ still⟩
  · intro outcome next live finished breaks on same
    obtain ⟨state, rest, closures, closed⟩ :=
      confined.broken outcome next live (now ▸ finished) breaks on same
    have told : { c.setDestination i (d.broken next) with signal := true } =
        ({ c₀.setDestination i (d.broken next) with signal := true } : Client T).withCallsOf c :=
      congrArg (fun c : Client T => { c.setDestination i (d.broken next) with signal := true })
        undisturbed.same
    refine ⟨state, withCallsOf_trans told rest, fun j => ?_, now ▸ closed⟩
    rw [closures, undisturbed.closures, undisturbed.closures]
  · intro outcome next finished breaks stale
    obtain ⟨same, still⟩ := confined.stale outcome next (now ▸ finished) breaks stale
    exact ⟨(set _).trans same, now ▸ still⟩

theorem continueSend_waiting {c c₁ : Client T} {i generation sent : Nat} {deadline : Instant}
    {p : Progress (Transport.Sending T) (Except TransportError Bytes)} {s : PendingSend T}
    (waits : c.continueSend i generation sent deadline p = (c₁, .waiting s)) :
    s.generation = generation ∧ s.deadline = deadline := by
  unfold continueSend at waits
  cases p with
  | done result => cases waits
  | waiting sending =>
    dsimp only at waits
    split at waits
    · cases waits
    · cases waits
      exact ⟨rfl, rfl⟩

/-! ### One step of a dispatch -/

/-- A dispatch goes on. -/
def Errand.advance (id : Nat) (e : Errand T) (c : Client T) : Client T × Dispatch T :=
  match e.send with
  | none => c.startDispatch id e.destination e.target e.payload
  | some s => c.resumeDispatch e.destination e.payload.length s

/-- What a step of a dispatch comes to, by what it hears. -/
structure Errand.Went (e : Errand T) (d : Destination) (heard : Hearing T) (c : Client T)
    (r : Client T × Dispatch T) : Prop where
  confined : Confined e.destination d heard c r.1
  waiting : ∀ s, r.2 = .waiting s → s.generation = heard.generation ∧ s.deadline = heard.deadline
  done : ∀ result, r.2 = .done result → ∀ f, result ≠ .error (.notConnected f)

theorem Errand.advance_went {e : Errand T} {c : Client T} {d : Destination} (watchable : c.Watchable)
    (found : c.destinations[e.destination]? = some d) {heard : Hearing T}
    (hears : e.hearing? c = some heard) (id : Nat) : e.Went d heard c (e.advance id c) := by
  unfold hearing? at hears
  unfold advance
  cases send : e.send with
  | some s =>
    rw [send] at hears
    obtain rfl := Option.some.inj hears
    have sent := resumeDispatch_sent c e.destination e.payload.length s
    constructor
    · exact continueSend_confined found (fun _ => watchable.published found)
        ⟨s.generation, s.deadline, (Transport.resumeSend c.now s.sending c.transport).1,
          (Transport.resumeSend c.now s.sending c.transport).2⟩ e.payload.length
    · intro s' waits
      exact continueSend_waiting (Prod.ext rfl waits)
    · exact sent.heard
  | none =>
    rw [send] at hears
    dsimp only at hears ⊢
    rw [found, Option.bind_some, Option.map_eq_some_iff] at hears
    obtain ⟨live, on, rfl⟩ := hears
    have logged : Undisturbed c (c.log (.sendStarted id e.destination live.handle)) :=
      ⟨rfl, fun _ => rfl⟩
    unfold startDispatch
    simp only [found, on]
    constructor
    · refine Confined.before ?_ logged rfl
      exact continueSend_confined (c := c.log (.sendStarted id e.destination live.handle))
        found (fun _ => watchable.published found)
        ⟨live.generation, c.now + d.descriptor.invokeTimeout.nanos,
          (Transport.startSend c.now live.handle e.target e.payload c.transport).1,
          (Transport.startSend c.now live.handle e.target e.payload c.transport).2⟩
        e.payload.length
    · intro s' waits
      exact continueSend_waiting (Prod.ext rfl waits)
    · exact (continueSend_sent _ e.destination live.generation e.payload.length _ _).heard

/-- What the rest of its step does to a call whose dispatch has come so far. -/
structure Errand.Followed (e : Errand T) (id : Nat) (r : Client T × Dispatch T) (c' : Client T) :
    Prop where
  undisturbed : Undisturbed r.1 c'
  transport : c'.transport = r.1.transport
  sends : c'.sends id = r.1.sends id
  waiting : ∀ s, r.2 = .waiting s →
    ∃ call, call.errand? = some { e with send := some s } ∧ c' = r.1.replaceCall id call
  done : ∀ result, r.2 = .done result → (∀ f, result ≠ .error (.notConnected f)) →
    c'.calls.lookup id = none

theorem Undisturbed.endCall (c : Client T) (id : Nat) (result : CallResult) :
    Undisturbed c (c.endCall id result) :=
  ⟨rfl, fun _ => rfl⟩

theorem Errand.Followed.replaced (e : Errand T) {id : Nat} {c₁ : Client T} {s : PendingSend T}
    {call : Call T} (errand : call.errand? = some { e with send := some s }) :
    e.Followed id (c₁, .waiting s) (c₁.replaceCall id call) where
  undisturbed := ⟨rfl, fun _ => rfl⟩
  transport := rfl
  sends := rfl
  waiting := by
    rintro s' ⟨⟩
    exact ⟨call, errand, rfl⟩
  done := nofun

theorem Errand.Followed.ended (e : Errand T) (id : Nat) (c₁ : Client T)
    (result : Except DispatchError Bytes) (ended : CallResult) :
    e.Followed id (c₁, .done result) (c₁.endCall id ended) where
  undisturbed := .endCall c₁ id ended
  transport := rfl
  sends := rfl
  waiting := nofun
  done := by
    intro _ _ _
    rw [lookup_endCall, if_pos rfl]

/-- An invocation that was not sent goes on. -/
theorem Errand.Followed.resumed (e : Errand T) (id : Nat) (c₁ : Client T) (r : Receiver)
    {w w' : Invocation (PendingSend T)} {result : Except DispatchError Bytes}
    (after : w.dispatchEnded result = .waiting w') :
    e.Followed id (c₁, .done result)
      ((c₁.tell id (.dispatched r result)).replaceCall id (.invoke w')) where
  undisturbed := ⟨rfl, fun _ => rfl⟩
  transport := rfl
  sends := sends_tell c₁ id _
  waiting := nofun
  done := by
    rintro _ ⟨⟩ heard
    obtain ⟨ended, finished⟩ := dispatchEnded_done w heard
    rw [after] at finished
    cases finished

theorem Errand.Followed.answered (e : Errand T) (id : Nat) (c₁ : Client T) (r : Receiver)
    (result : Except DispatchError Bytes) (ended : CallResult) :
    e.Followed id (c₁, .done result) ((c₁.tell id (.dispatched r result)).endCall id ended) where
  undisturbed := ⟨rfl, fun _ => rfl⟩
  transport := rfl
  sends := sends_tell c₁ id _
  waiting := nofun
  done := by
    intro _ _ _
    rw [lookup_endCall, if_pos rfl]

theorem stepCall_errand {call : Call T} {e : Errand T} (errand : call.errand? = some e)
    (c : Client T) (id : Nat) : e.Followed id (e.advance id c) (c.stepCall id call) := by
  cases call with
  | dispatch i target payload send =>
    obtain rfl := Option.some.inj errand
    unfold stepCall advance Errand.advance
    cases send with
    | none =>
      dsimp only
      generalize c.startDispatch id i target payload = r
      obtain ⟨c₁, s | result⟩ := r
      · exact .replaced _ rfl
      · exact .ended _ id c₁ result _
    | some s =>
      dsimp only
      generalize c.resumeDispatch i payload.length s = r
      obtain ⟨c₁, s' | result⟩ := r
      · exact .replaced _ rfl
      · exact .ended _ id c₁ result _
  | invoke w =>
    rw [stepCall_invoke]
    unfold stepInvocation Errand.advance
    cases place : w.place with
    | dispatching r =>
      simp only [Call.errand?, place, Option.some.injEq] at errand
      subst errand
      dsimp only
      generalize c.startDispatch id r.destination w.target w.payload = next
      obtain ⟨c₁, s | result⟩ := next
      · exact .replaced _ rfl
      · dsimp only
        cases after : w.dispatchEnded result with
        | waiting w' => exact .resumed _ id c₁ r after
        | done ended => exact .answered _ id c₁ r result _
    | sending r s =>
      simp only [Call.errand?, place, Option.some.injEq] at errand
      subst errand
      dsimp only
      generalize c.resumeDispatch r.destination w.payload.length s = next
      obtain ⟨c₁, s' | result⟩ := next
      · exact .replaced _ rfl
      · dsimp only
        cases after : w.dispatchEnded result with
        | waiting w' => exact .resumed _ id c₁ r after
        | done ended => exact .answered _ id c₁ r result _
    | _ => simp [Call.errand?, place] at errand
  | _ => cases errand

/-! ### A dispatch among other steps -/

/-- While the call is there, it is at the dispatch that began over the connection of a generation. -/
structure AtErrand (id : Nat) (e : Errand T) (generation : Nat) (deadline : Instant) (c : Client T) :
    Prop where
  made : id < c.nextCall
  pending : ∀ call, c.calls.lookup id = some call → ∃ s,
    call.errand? = some { e with send := some s } ∧ s.generation = generation ∧ s.deadline = deadline

theorem Errand.hearing?_resumed (e : Errand T) (s : PendingSend T) (c : Client T) :
    ∃ heard, Errand.hearing? { e with send := some s } c = some heard ∧
      heard.generation = s.generation ∧ heard.deadline = s.deadline :=
  ⟨_, rfl, rfl, rfl⟩

/-- The step of a dispatch that has a connection leaves it waiting for its send, or ends it. -/
theorem AtErrand.of_step {c : Client T} (reachable : c.Reachable) {id : Nat} {call : Call T}
    {e : Errand T} {d : Destination} {heard : Hearing T} (calling : c.calls.lookup id = some call)
    (errand : call.errand? = some e) (found : c.destinations[e.destination]? = some d)
    (hears : e.hearing? c = some heard) :
    AtErrand id e heard.generation heard.deadline (c.stepCall id call) := by
  have went := Errand.advance_went reachable.watchable found hears id
  have followed := stepCall_errand errand c id
  have made := (reachable.callsNumbered.made calling).1
  refine ⟨by rwa [nextCall_stepCall], ?_⟩
  generalize e.advance id c = r at went followed
  obtain ⟨c₁, s | result⟩ := r
  · obtain ⟨next, errand', same⟩ := followed.waiting s rfl
    intro call' calling'
    rw [same, lookup_replaceCall, if_pos rfl, Option.map_eq_some_iff] at calling'
    obtain ⟨_, _, rfl⟩ := calling'
    exact ⟨s, errand', went.waiting s rfl⟩
  · intro call' calling'
    rw [followed.done result rfl (went.done result rfl)] at calling'
    cases calling'

theorem AtErrand.act {c : Client T} (reachable : c.Reachable) {id : Nat} {e : Errand T}
    {generation : Nat} {deadline : Instant} {d : Destination}
    (found : c.destinations[e.destination]? = some d)
    (at_ : AtErrand id e generation deadline c) (a : Action T) :
    AtErrand id e generation deadline (c.act a) := by
  have step := callStep_act reachable.numbered id a
  generalize c.act a = c' at step ⊢
  cases step with
  | kept kept =>
    refine ⟨Nat.lt_of_lt_of_le at_.made kept.nextCall, ?_⟩
    intro call calling
    rw [kept.call] at calling
    exact at_.pending call calling
  | made r new => exact absurd at_.made (by omega)
  | advanced own calling =>
    obtain ⟨s, errand, rfl, rfl⟩ := at_.pending _ calling
    obtain ⟨heard, hears, generation, deadline⟩ := e.hearing?_resumed s c
    have after := AtErrand.of_step reachable calling errand found hears
    rw [generation, deadline] at after
    exact ⟨after.made, after.pending⟩
  | abandoned calling =>
    refine ⟨by rw [nextCall_abandonCall]; exact at_.made, ?_⟩
    intro call' calling'
    rw [lookup_abandonCall] at calling'
    cases calling'

/-- A destination that is there stays there. -/
theorem found_run {c : Client T} (reachable : c.Reachable) {i : Nat} {d : Destination}
    (found : c.destinations[i]? = some d) (actions : List (Action T)) :
    ∃ d', (c.run actions).destinations[i]? = some d' := by
  obtain ⟨l, held, -⟩ := ledger_run reachable.numbered (ledger_of_found found) actions
  obtain ⟨d', found', -⟩ := Option.map_eq_some_iff.mp held
  exact ⟨d', found'⟩

theorem AtErrand.run {c : Client T} (reachable : c.Reachable) {id : Nat} {e : Errand T}
    {generation : Nat} {deadline : Instant} {d : Destination}
    (found : c.destinations[e.destination]? = some d)
    (at_ : AtErrand id e generation deadline c) (actions : List (Action T)) :
    AtErrand id e generation deadline (c.run actions) := by
  induction actions generalizing c d with
  | nil => exact at_
  | cons a rest ih =>
    obtain ⟨d', found'⟩ := found_run reachable found [a]
    exact ih (reachable.act a) found' (at_.act reachable found a)

theorem undisturbed_abandonCall (c : Client T) (id : Nat) : Undisturbed c (c.abandonCall id) := by
  unfold abandonCall
  cases c.calls.lookup id with
  | none => exact ⟨rfl, fun _ => rfl⟩
  | some call =>
    dsimp only
    cases call.sending? <;> exact ⟨rfl, fun _ => rfl⟩

/-- What a dispatch that was begun over the connection of a generation does when it goes on, and when it
is abandoned. -/
structure Abides (id : Nat) (e : Errand T) (generation : Nat) (deadline : Instant) (c : Client T) :
    Prop where
  confined : ∀ call, c.calls.lookup id = some call → ∃ s heard d,
    call.errand? = some { e with send := some s } ∧
    Errand.hearing? { e with send := some s } c = some heard ∧
    heard.generation = generation ∧ heard.deadline = deadline ∧
    c.destinations[e.destination]? = some d ∧
    Confined e.destination d heard c (c.act (.step (.call id)))
  abandoned : Undisturbed c (c.act (.abandon id))

theorem AtErrand.abides {c : Client T} (reachable : c.Reachable) {id : Nat} {e : Errand T}
    {generation : Nat} {deadline : Instant} {d : Destination}
    (found : c.destinations[e.destination]? = some d)
    (at_ : AtErrand id e generation deadline c) : Abides id e generation deadline c where
  confined := by
    intro call calling
    obtain ⟨s, errand, rfl, rfl⟩ := at_.pending call calling
    obtain ⟨heard, hears, generation, deadline⟩ := e.hearing?_resumed s c
    refine ⟨s, heard, d, errand, hears, generation, deadline, found, ?_⟩
    have went := Errand.advance_went (e := { e with send := some s }) reachable.watchable found hears id
    have followed := stepCall_errand errand c id
    rw [act_call calling]
    exact went.confined.undisturbed followed.undisturbed followed.transport
  abandoned := undisturbed_abandonCall c id

/-- A dispatch that finds no connection does nothing and sends nothing. One that finds a connection goes
over it to its end, whatever others do meanwhile, and changes no more than what comes of its send
allows: nothing as long as it waits or when it is abandoned, and the connection only if that is broken
and still the one that is published. -/
theorem dispatch_confined {c : Client T} (reachable : c.Reachable) {id : Nat} {call : Call T}
    {e : Errand T} (calling : c.calls.lookup id = some call) (errand : call.errand? = some e)
    (unsent : e.send = none) {d : Destination} (found : c.destinations[e.destination]? = some d) :
    (d.current = none → Undisturbed c (c.act (.step (.call id))) ∧
      (c.act (.step (.call id))).transport = c.transport ∧
      (c.act (.step (.call id))).sends id = c.sends id) ∧
    Undisturbed c (c.act (.abandon id)) ∧
    ∀ live, d.current = some live → ∃ heard, e.hearing? c = some heard ∧
      heard.generation = live.generation ∧
      heard.deadline = c.now + d.descriptor.invokeTimeout.nanos ∧
      Confined e.destination d heard c (c.act (.step (.call id))) ∧
      ∀ actions, Abides id e live.generation heard.deadline
        ((c.act (.step (.call id))).run actions) := by
  have followed := stepCall_errand errand c id
  have act : c.act (.step (.call id)) = c.stepCall id call := act_call calling
  refine ⟨?_, undisturbed_abandonCall c id, ?_⟩
  · intro off
    have idle : e.advance id c = (c, .done (.error (.notConnected d.notConnected))) := by
      simp [Errand.advance, unsent, startDispatch, found, off]
    rw [idle] at followed
    rw [act]
    exact ⟨followed.undisturbed, followed.transport, followed.sends⟩
  · intro live on
    have hears : ∃ heard, e.hearing? c = some heard ∧ heard.generation = live.generation ∧
        heard.deadline = c.now + d.descriptor.invokeTimeout.nanos := by
      simp [Errand.hearing?, unsent, found, on]
    obtain ⟨heard, hears, generation, deadline⟩ := hears
    have went := Errand.advance_went reachable.watchable found hears id
    refine ⟨heard, hears, generation, deadline, ?_, ?_⟩
    · rw [act]
      exact went.confined.undisturbed followed.undisturbed followed.transport
    · intro actions
      have begun := AtErrand.of_step reachable calling errand found hears
      rw [← act, generation] at begun
      have next := reachable.act (.step (.call id))
      obtain ⟨d₁, found₁⟩ := found_run reachable found [.step (.call id)]
      obtain ⟨d₂, found₂⟩ := found_run next found₁ actions
      exact (begun.run next found₁ actions).abides (next.run actions) found₂

/-- A connected destination and a call that is about to send to it, of which nothing will be heard for a
minute. -/
def unanswered : Client Scripted :=
  (create "client" { sends := [{ delay := .ofSecs 60 }] } {}).run
    [.addDestination { name := "a", host := "h", port := 1 }, .beginConnect 0, .step (.attempt 0),
      .request (.dispatch 0 ⟨"m", "c", "i"⟩ [1, 2])]

/-- After the timeout the destination has failed. If it has another connection by then, it keeps it. -/
theorem dispatch_confined_unanswered :
    let sent := unanswered.act (.step (.call 0))
    let late := sent.run [.passTo 30000000000]
    let overtaken := sent.run
      [.handleLost 0 1, .beginConnect 0, .step (.attempt 1), .passTo 30000000000]
    (∃ d, late.destinations[0]? = some d ∧ d.state = .connected ∧
      (late.act (.step (.call 0))).destinations[0]? = some (d.broken .failed) ∧
      (late.act (.step (.call 0))).closures 0 = [0]) ∧
    ∃ d, overtaken.destinations[0]? = some d ∧ d.state = .connected ∧
      (overtaken.act (.step (.call 0))).destinations[0]? =
        some { d with stats := { d.stats with dispatchFailures := 1 } } := by
  intro sent late overtaken
  have found : ∃ d, unanswered.destinations[0]? = some d ∧ d.current = some ⟨0, 1⟩ := ⟨_, rfl, rfl⟩
  obtain ⟨d, found, on⟩ := found
  have calling : unanswered.calls.lookup 0 = some (.dispatch 0 ⟨"m", "c", "i"⟩ [1, 2] none) := rfl
  obtain ⟨-, -, finished⟩ :=
    dispatch_confined (c := unanswered) ⟨_, _, _, _, rfl⟩ calling rfl rfl found
  obtain ⟨heard, hears, generation, deadline, -, abides⟩ := finished ⟨0, 1⟩ on
  constructor
  · obtain ⟨s, heard₁, d₁, errand, hears₁, -, -, found₁, confined⟩ :=
      (abides [.passTo 30000000000]).confined _ rfl
    obtain rfl := Option.some.inj (congrArg Errand.send (Option.some.inj errand))
    obtain rfl := Option.some.inj hears₁
    cases found₁
    obtain ⟨state, rest, closures, -⟩ := confined.broken .timedOut .failed ⟨0, 1⟩ rfl rfl rfl rfl
    refine ⟨_, rfl, state, ?_, closures 0⟩
    rw [rest]
    rfl
  · obtain ⟨s, heard₁, d₁, errand, hears₁, -, -, found₁, confined⟩ :=
      (abides [.handleLost 0 1, .beginConnect 0, .step (.attempt 1),
        .passTo 30000000000]).confined _ rfl
    obtain rfl := Option.some.inj (congrArg Errand.send (Option.some.inj errand))
    obtain rfl := Option.some.inj hears₁
    cases found₁
    obtain ⟨undisturbed, -⟩ := confined.stale .timedOut .failed rfl rfl (by decide)
    refine ⟨_, rfl, rfl, ?_⟩
    rw [undisturbed.same]
    rfl

end Client

end Switchboard
