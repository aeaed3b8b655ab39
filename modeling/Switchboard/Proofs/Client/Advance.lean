import Switchboard.Proofs.Client.Inversion

/-!
One step of a call: what it does for the call, how the call goes on or ends, and that it is made of
moves. An invocation is taken place by place: what it asks, what it is told, how it goes on.
-/
namespace Switchboard

namespace Client

variable {T : Type} [Transport T]

/-- What a step of an invocation comes to. -/
inductive Walked (id : Nat) (c : Client T) (w : Invocation (PendingSend T)) :
    Client T × Invocation.Next (PendingSend T) → Prop
  | found {rs} (place : w.place = .start) (claim : c.registry.candidates w.target = rs) :
      Walked id c w (c.tell id (.receivers rs), w.found rs)
  | chose (place : w.place = .choosing) : Walked id c w (c, w.choose)
  | checked {r usable} (place : w.place = .checking r)
      (is : (c.destinations[r.destination]?).any (·.isUsable) = usable) :
      Walked id c w (c.tell id (.usable r usable), w.checked r usable)
  | joined {r c₁ j} (place : w.place = .connecting r)
      (asked : c.beginConnect r.destination = (c₁, j)) :
      Walked id c w (c₁.tell id (.joining r j), w.joining r j)
  | waits {r a} (place : w.place = .waiting r a) (running : c.outcome? r.destination a = none) :
      Walked id c w (c, .waiting w)
  | connectEnded {r a outcome} (place : w.place = .waiting r a)
      (heard : c.outcome? r.destination a = some outcome) :
      Walked id c w (c.tell id (.outcome r a outcome), w.connectEnded r outcome)
  | sent {r c₁ s} (place : w.place = .dispatching r)
      (began : c.startDispatch id r.destination w.target w.payload = (c₁, .waiting s)) :
      Walked id c w (c₁, w.sendStarted r s)
  | dispatched {r c₁ result} (place : w.place = .dispatching r)
      (began : c.startDispatch id r.destination w.target w.payload = (c₁, .done result)) :
      Walked id c w (c₁.tell id (.dispatched r result), w.dispatchEnded result)
  | resumed {r s c₁ s'} (place : w.place = .sending r s)
      (resumed : c.resumeDispatch r.destination w.payload.length s = (c₁, .waiting s')) :
      Walked id c w (c₁, w.sendStarted r s')
  | answered {r s c₁ result} (place : w.place = .sending r s)
      (resumed : c.resumeDispatch r.destination w.payload.length s = (c₁, .done result)) :
      Walked id c w (c₁.tell id (.dispatched r result), w.dispatchEnded result)

theorem stepInvocation_walked (c : Client T) (id : Nat) (w : Invocation (PendingSend T)) :
    Walked id c w (c.stepInvocation id w) := by
  unfold stepInvocation
  cases place : w.place with
  | start => exact .found place rfl
  | choosing => exact .chose place
  | checking r => exact .checked place rfl
  | connecting r => exact .joined place rfl
  | waiting r a =>
    dsimp only
    cases heard : c.outcome? r.destination a with
    | none => exact .waits place heard
    | some outcome => exact .connectEnded place heard
  | dispatching r =>
    dsimp only
    cases began : c.startDispatch id r.destination w.target w.payload with
    | mk c₁ next =>
      cases next with
      | waiting s => exact .sent place began
      | done result => exact .dispatched place began
  | sending r s =>
    dsimp only
    cases resumed : c.resumeDispatch r.destination w.payload.length s with
    | mk c₁ next =>
      cases next with
      | waiting s' => exact .resumed place resumed
      | done result => exact .answered place resumed

/-- What a step of a call comes to. -/
inductive Advanced (id : Nat) (c : Client T) :
    Call T → Client T × Progress (Call T) CallResult → Prop
  | connecting {i attempt c₁ a} (stepped : c.stepConnect i attempt = (c₁, .waiting a)) :
      Advanced id c (.connect i attempt) (c₁, .waiting (.connect i (some a)))
  | connected {i attempt c₁ outcome} (stepped : c.stepConnect i attempt = (c₁, .done outcome)) :
      Advanced id c (.connect i attempt) (c₁, .done (.connected outcome))
  | sent {i target payload c₁ s}
      (began : c.startDispatch id i target payload = (c₁, .waiting s)) :
      Advanced id c (.dispatch i target payload none)
        (c₁, .waiting (.dispatch i target payload (some s)))
  | dispatched {i target payload c₁ result}
      (began : c.startDispatch id i target payload = (c₁, .done result)) :
      Advanced id c (.dispatch i target payload none) (c₁, .done (.dispatched result))
  | resumed {i target payload s c₁ s'}
      (resumed : c.resumeDispatch i payload.length s = (c₁, .waiting s')) :
      Advanced id c (.dispatch i target payload (some s))
        (c₁, .waiting (.dispatch i target payload (some s')))
  | answered {i target payload s c₁ result}
      (resumed : c.resumeDispatch i payload.length s = (c₁, .done result)) :
      Advanced id c (.dispatch i target payload (some s)) (c₁, .done (.dispatched result))
  | walks {w c₁ w'} (stepped : c.stepInvocation id w = (c₁, .waiting w')) :
      Advanced id c (.invoke w) (c₁, .waiting (.invoke w'))
  | walked {w c₁ result} (stepped : c.stepInvocation id w = (c₁, .done result)) :
      Advanced id c (.invoke w) (c₁, .done (.invoked result))
  | counted {n attempt} : Advanced id c (.connectAll [] n attempt) (c, .done (.connectedCount n))
  | joining {i rest n attempt c₁ a} (stepped : c.stepConnect i attempt = (c₁, .waiting a)) :
      Advanced id c (.connectAll (i :: rest) n attempt)
        (c₁, .waiting (.connectAll (i :: rest) n (some a)))
  | joined {i rest n attempt c₁} (stepped : c.stepConnect i attempt = (c₁, .done (.ok ()))) :
      Advanced id c (.connectAll (i :: rest) n attempt)
        (c₁, .waiting (.connectAll rest (n + 1) none))
  | missed {i rest n attempt c₁ f} (stepped : c.stepConnect i attempt = (c₁, .done (.error f))) :
      Advanced id c (.connectAll (i :: rest) n attempt) (c₁, .waiting (.connectAll rest n none))
  | opening {d opening transport o}
      (asked : opening.elim (Transport.startOpen c.now d c.transport)
        (Transport.resumeOpen c.now · c.transport) = (transport, .waiting o)) :
      Advanced id c (.openHandle d opening)
        ({ c with transport := transport }, .waiting (.openHandle d (some o)))
  | opened {d opening transport result}
      (asked : opening.elim (Transport.startOpen c.now d c.transport)
        (Transport.resumeOpen c.now · c.transport) = (transport, .done result)) :
      Advanced id c (.openHandle d opening)
        ({ c with transport := transport }, .done (.opened result))
  | carries {h target payload sending transport s}
      (asked : sending.elim (Transport.startSend c.now h target payload c.transport)
        (Transport.resumeSend c.now · c.transport) = (transport, .waiting s)) :
      Advanced id c (.sendOn h target payload sending)
        ({ c with transport := transport }, .waiting (.sendOn h target payload (some s)))
  | carried {h target payload sending transport result}
      (asked : sending.elim (Transport.startSend c.now h target payload c.transport)
        (Transport.resumeSend c.now · c.transport) = (transport, .done result)) :
      Advanced id c (.sendOn h target payload sending)
        ({ c with transport := transport }, .done (.sent result))
  | closed {h deadline} (gone : Transport.isClosed h c.transport = true) :
      Advanced id c (.awaitClosed h deadline) (c, .done (.closed true))
  | stillOpen {h deadline} (kept : Transport.isClosed h c.transport = false)
      (late : deadline ≤ c.now) : Advanced id c (.awaitClosed h deadline) (c, .done (.closed false))
  | watches {h deadline} (kept : Transport.isClosed h c.transport = false)
      (early : c.now < deadline) :
      Advanced id c (.awaitClosed h deadline) (c, .waiting (.awaitClosed h deadline))
  | slept {deadline} (late : deadline ≤ c.now) : Advanced id c (.sleep deadline) (c, .done .slept)
  | sleeps {deadline} (early : c.now < deadline) :
      Advanced id c (.sleep deadline) (c, .waiting (.sleep deadline))

theorem advance_advanced (c : Client T) (id : Nat) (call : Call T) :
    Advanced id c call (c.advance id call) := by
  unfold advance
  cases call with
  | connect i attempt =>
    dsimp only
    cases stepped : c.stepConnect i attempt with
    | mk c₁ next =>
      cases next with
      | waiting a => exact .connecting stepped
      | done outcome => exact .connected stepped
  | dispatch i target payload send =>
    cases send with
    | none =>
      dsimp only
      cases began : c.startDispatch id i target payload with
      | mk c₁ next =>
        cases next with
        | waiting s => exact .sent began
        | done result => exact .dispatched began
    | some s =>
      dsimp only
      cases resumed : c.resumeDispatch i payload.length s with
      | mk c₁ next =>
        cases next with
        | waiting s' => exact .resumed resumed
        | done result => exact .answered resumed
  | invoke w =>
    dsimp only
    cases stepped : c.stepInvocation id w with
    | mk c₁ next =>
      cases next with
      | waiting w' => exact .walks stepped
      | done result => exact .walked stepped
  | connectAll is n attempt =>
    cases is with
    | nil => exact .counted
    | cons i rest =>
      dsimp only
      cases stepped : c.stepConnect i attempt with
      | mk c₁ next =>
        cases next with
        | waiting a => exact .joining stepped
        | done outcome =>
          cases outcome with
          | ok => exact .joined stepped
          | error f => exact .missed stepped
  | openHandle d opening =>
    cases opening with
    | none =>
      dsimp only
      cases asked : Transport.startOpen c.now d c.transport with
      | mk transport p =>
        cases p with
        | waiting o => exact .opening asked
        | done result => exact .opened asked
    | some o =>
      dsimp only
      cases asked : Transport.resumeOpen c.now o c.transport with
      | mk transport p =>
        cases p with
        | waiting o' => exact .opening asked
        | done result => exact .opened asked
  | sendOn h target payload sending =>
    cases sending with
    | none =>
      dsimp only
      cases asked : Transport.startSend c.now h target payload c.transport with
      | mk transport p =>
        cases p with
        | waiting s => exact .carries asked
        | done result => exact .carried asked
    | some s =>
      dsimp only
      cases asked : Transport.resumeSend c.now s c.transport with
      | mk transport p =>
        cases p with
        | waiting s' => exact .carries asked
        | done result => exact .carried asked
  | awaitClosed h deadline =>
    dsimp only
    by_cases gone : Transport.isClosed h c.transport = true
    · rw [if_pos gone]
      exact .closed gone
    · rw [if_neg gone]
      rw [Bool.not_eq_true] at gone
      by_cases late : deadline ≤ c.now
      · rw [if_pos late]
        exact .stillOpen gone late
      · rw [if_neg late]
        exact .watches gone (Nat.lt_of_not_le late)
  | sleep deadline =>
    dsimp only
    by_cases late : deadline ≤ c.now
    · rw [if_pos late]
      exact .slept late
    · rw [if_neg late]
      exact .sleeps (Nat.lt_of_not_le late)

/-! ### Moves of calls -/

theorem moves_tell (c : Client T) (call : Nat) (answer : Invocation.Answer) :
    Moves (some call) c (c.tell call answer) :=
  (Move.noted rfl).moves

theorem moves_stepConnect (k : Option Nat) (c : Client T) (i : Nat) (attempt : Option AttemptId) :
    Moves k c (c.stepConnect i attempt).1 := by
  unfold stepConnect
  cases attempt with
  | none =>
    have moved := moves_beginConnect k c i
    dsimp only
    generalize c.beginConnect i = asking at moved
    obtain ⟨c₁, _ | _ | _ | _⟩ := asking <;> exact moved
  | some id =>
    dsimp only
    cases c.outcome? i id <;> exact .refl

theorem Walked.moves {id : Nat} {c : Client T} {w : Invocation (PendingSend T)}
    {next : Client T × Invocation.Next (PendingSend T)} (walked : Walked id c w next) :
    Moves (some id) c next.1 := by
  cases walked with
  | found => exact moves_tell c id _
  | chose => exact .refl
  | checked => exact moves_tell c id _
  | @joined r c₁ j place asked =>
    have moved := moves_beginConnect (some id) c r.destination
    rw [asked] at moved
    exact moved.trans (moves_tell c₁ id _)
  | waits => exact .refl
  | connectEnded => exact moves_tell c id _
  | @sent r c₁ s place began =>
    have moved := moves_startDispatch c id r.destination w.target w.payload
    rw [began] at moved
    exact moved
  | @dispatched r c₁ result place began =>
    have moved := moves_startDispatch c id r.destination w.target w.payload
    rw [began] at moved
    exact moved.trans (moves_tell c₁ id _)
  | @resumed r s c₁ s' place resumed =>
    have moved := (resumeDispatch_sent c r.destination w.payload.length s).moves (some id)
    rw [resumed] at moved
    exact moved
  | @answered r s c₁ result place resumed =>
    have moved := (resumeDispatch_sent c r.destination w.payload.length s).moves (some id)
    rw [resumed] at moved
    exact moved.trans (moves_tell c₁ id _)

theorem moves_stepInvocation (c : Client T) (id : Nat) (w : Invocation (PendingSend T)) :
    Moves (some id) c (c.stepInvocation id w).1 :=
  (stepInvocation_walked c id w).moves

theorem Advanced.moves {id : Nat} {c : Client T} {call : Call T}
    {next : Client T × Progress (Call T) CallResult} (advanced : Advanced id c call next) :
    Moves (some id) c next.1 := by
  have connect {i attempt c₁ p} (stepped : c.stepConnect i attempt = (c₁, p)) :
      Moves (some id) c c₁ := by
    have moved := moves_stepConnect (some id) c i attempt
    rw [stepped] at moved
    exact moved
  cases advanced with
  | connecting stepped => exact connect stepped
  | connected stepped => exact connect stepped
  | @sent i target payload c₁ s began =>
    have moved := moves_startDispatch c id i target payload
    rw [began] at moved
    exact moved
  | @dispatched i target payload c₁ result began =>
    have moved := moves_startDispatch c id i target payload
    rw [began] at moved
    exact moved
  | @resumed i target payload s c₁ s' resumed =>
    have moved := (resumeDispatch_sent c i payload.length s).moves (some id)
    rw [resumed] at moved
    exact moved
  | @answered i target payload s c₁ result resumed =>
    have moved := (resumeDispatch_sent c i payload.length s).moves (some id)
    rw [resumed] at moved
    exact moved
  | @walks w c₁ w' stepped =>
    have moved := moves_stepInvocation c id w
    rw [stepped] at moved
    exact moved
  | @walked w c₁ result stepped =>
    have moved := moves_stepInvocation c id w
    rw [stepped] at moved
    exact moved
  | counted => exact .refl
  | joining stepped => exact connect stepped
  | joined stepped => exact connect stepped
  | missed stepped => exact connect stepped
  | opening => exact (alike_transport c _).moves
  | opened => exact (alike_transport c _).moves
  | carries => exact (alike_transport c _).moves
  | carried => exact (alike_transport c _).moves
  | closed => exact .refl
  | stillOpen => exact .refl
  | watches => exact .refl
  | slept => exact .refl
  | sleeps => exact .refl

theorem moves_advance (c : Client T) (id : Nat) (call : Call T) :
    Moves (some id) c (c.advance id call).1 :=
  (advance_advanced c id call).moves

end Client

end Switchboard
