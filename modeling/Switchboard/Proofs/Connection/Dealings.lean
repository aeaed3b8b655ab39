import Switchboard.Proofs.Client.Advance
import Switchboard.Proofs.Client.Inversion

/-!
What a client does with its transport. It opens, sends and closes, and notes in its journal what it has asked
for; what its users ask of the transport past it, it does not note. Everything that neither begins nor ends a
watcher is such dealings at most.
-/
namespace Switchboard

open Text (Bytes)

/-- What a transport can be asked to begin or to close. -/
inductive Demand
  | opening (d : Descriptor)
  | sending (h : Handle)
  | closing (h : Handle)
deriving DecidableEq

/-- Whether a client notes by this event that it has asked its transport for something. -/
def Client.Event.isDemand : Client.Event → Bool
  | .openStarted _ _ | .sendStarted _ _ _ | .closed _ _ => true
  | _ => false

/-- On what terms a client deals with its transport: what it opens for each destination, and whether its
users may ask for something themselves. -/
structure Terms where
  descriptor : Nat → Option Descriptor
  users : Prop

section Uses

variable {T : Type} [Transport T]

/-- One operation of a transport, whoever asks for it. -/
inductive Use (t : T) : T → Prop
  | opened (now : Instant) (d : Descriptor) : Use t (Transport.startOpen now d t).1
  | reopened (now : Instant) (o : Transport.Opening T) : Use t (Transport.resumeOpen now o t).1
  | sent (now : Instant) (h : Handle) (target : Target) (payload : Bytes) :
      Use t (Transport.startSend now h target payload t).1
  | resent (now : Instant) (s : Transport.Sending T) : Use t (Transport.resumeSend now s t).1
  | abandoned (s : Transport.Sending T) : Use t (Transport.abandonSend s t)
  | closed (h : Handle) : Use t (Transport.close h t)

abbrev Uses : T → T → Prop := Relation.ReflTransGen Use

/-- One operation of a transport together with what a journal says of it. -/
inductive Deal (k : Terms) : T × List Client.Event → T × List Client.Event → Prop
  | opened {t es} (now : Instant) {i : Nat} (a : AttemptId) {d : Descriptor}
      (own : k.descriptor i = some d) :
      Deal k (t, es) ((Transport.startOpen now d t).1, .openStarted i a :: es)
  | reopened {t es} (now : Instant) (o : Transport.Opening T) :
      Deal k (t, es) ((Transport.resumeOpen now o t).1, es)
  | sent {t es} (now : Instant) (call i : Nat) (h : Handle) (target : Target) (payload : Bytes) :
      Deal k (t, es) ((Transport.startSend now h target payload t).1, .sendStarted call i h :: es)
  | resent {t es} (now : Instant) (s : Transport.Sending T) :
      Deal k (t, es) ((Transport.resumeSend now s t).1, es)
  | abandoned {t es} (s : Transport.Sending T) : Deal k (t, es) (Transport.abandonSend s t, es)
  | closed {t es} (i : Nat) (h : Handle) : Deal k (t, es) (Transport.close h t, .closed i h :: es)
  | noted {t es e} (aside : e.isDemand = false) : Deal k (t, es) (t, e :: es)
  /-- A user asks for something, and the journal does not tell. -/
  | unnoted {t t' es} (allowed : k.users) (use : Use t t') : Deal k (t, es) (t', es)

abbrev Deals (k : Terms) : T × List Client.Event → T × List Client.Event → Prop :=
  Relation.ReflTransGen (Deal k)

theorem Deal.uses {k : Terms} {before after : T × List Client.Event} (deal : Deal k before after) :
    Uses before.1 after.1 := by
  cases deal with
  | opened now _ _ => exact .single (.opened now _)
  | reopened now o => exact .single (.reopened now o)
  | sent now _ _ h target payload => exact .single (.sent now h target payload)
  | resent now s => exact .single (.resent now s)
  | abandoned s => exact .single (.abandoned s)
  | closed _ h => exact .single (.closed h)
  | noted => exact .refl
  | unnoted _ use => exact .single use

theorem Deals.uses {k : Terms} {before after : T × List Client.Event} (deals : Deals k before after) :
    Uses before.1 after.1 := by
  induction deals with
  | refl => exact .refl
  | tail _ last ih => exact ih.trans last.uses

end Uses

namespace Client

/-- Whether a call asks the transport for something past the destinations. -/
def Call.isDirect {T : Type} [Transport T] : Call T → Bool
  | .openHandle _ _ | .sendOn _ _ _ _ => true
  | _ => false

variable {T : Type} [Transport T] {k : Terms}

/-- A client opens each of its destinations as that one is described. -/
def terms (users : Prop) (c : Client T) : Terms where
  descriptor i := (c.destinations[i]?).map (·.descriptor)
  users := users

theorem terms_of_found {users : Prop} {c : Client T} {i : Nat} {d : Destination}
    (found : c.destinations[i]? = some d) : (c.terms users).descriptor i = some d.descriptor := by
  simp only [terms, found, Option.map_some]

/-- The watchers are the same, and the client has dealt with its transport at most. -/
structure Tends (k : Terms) (c c' : Client T) : Prop where
  watchers : c'.watchers = c.watchers
  nextWatcher : c'.nextWatcher = c.nextWatcher
  later : c.now ≤ c'.now
  deals : Deals k (c.transport, c.journal) (c'.transport, c'.journal)

section Tends

variable {c c' c'' : Client T}

theorem Tends.refl (c : Client T) : Tends k c c := ⟨rfl, rfl, Nat.le_refl _, .refl⟩

theorem Tends.trans (first : Tends k c c') (second : Tends k c' c'') : Tends k c c'' where
  watchers := second.watchers.trans first.watchers
  nextWatcher := second.nextWatcher.trans first.nextWatcher
  later := Nat.le_trans first.later second.later
  deals := first.deals.trans second.deals

theorem tends_aside (watchers : c'.watchers = c.watchers) (nextWatcher : c'.nextWatcher = c.nextWatcher)
    (later : c.now ≤ c'.now) (transport : c'.transport = c.transport) (journal : c'.journal = c.journal) :
    Tends k c c' :=
  ⟨watchers, nextWatcher, later, by rw [transport, journal]⟩

theorem tends_deal {transport : T} {journal : List Event}
    (deal : Deal k (c.transport, c.journal) (transport, journal)) :
    Tends k c { c with transport := transport, journal := journal } :=
  ⟨rfl, rfl, Nat.le_refl _, .single deal⟩

theorem tends_foldl {α : Type} {f : Client T → α → Client T} (tends : ∀ c a, Tends k c (f c a))
    (as : List α) (c : Client T) : Tends k c (as.foldl f c) := by
  induction as generalizing c with
  | nil => exact .refl c
  | cons a rest ih => exact (tends c a).trans (ih (f c a))

theorem tends_onDestination {α : Type} (c : Client T) (i : Nat) (absent : α)
    (f : Destination → Destination × α) : Tends k c (c.onDestination i absent f).1 := by
  unfold onDestination
  cases c.destinations[i]? with
  | none => exact .refl c
  | some d => exact tends_aside rfl rfl (Nat.le_refl _) rfl rfl

theorem tends_log (c : Client T) {e : Event} (aside : e.isDemand = false) : Tends k c (c.log e) :=
  tends_deal (.noted aside)

theorem tends_closeHandle (c : Client T) (i : Nat) (h : Handle) : Tends k c (c.closeHandle i h) :=
  tends_deal (.closed i h)

theorem tends_release (c : Client T) (i : Nat) (h : Option Handle) : Tends k c (c.release i h) := by
  cases h with
  | none => exact .refl c
  | some h => exact tends_closeHandle c i h

theorem tends_releaseLost (c : Client T) (i : Nat) (h : Option Handle) :
    Tends k c (c.releaseLost i h) := by
  cases h with
  | none => exact .refl c
  | some h => exact (tends_closeHandle c i h).trans (tends_aside rfl rfl (Nat.le_refl _) rfl rfl)

theorem tends_beginConnect (c : Client T) (i : Nat) : Tends k c (c.beginConnect i).1 := by
  unfold beginConnect
  have asked := tends_onDestination (k := k) c i .connected (Destination.beginConnect c.now c.nextAttempt)
  generalize c.onDestination i .connected (Destination.beginConnect c.now c.nextAttempt) = r at asked ⊢
  obtain ⟨c₁, j⟩ := r
  cases j with
  | started a => exact asked.trans (tends_aside rfl rfl (Nat.le_refl _) rfl rfl)
  | _ => exact asked

theorem tends_handleLost (c : Client T) (i generation : Nat) : Tends k c (c.handleLost i generation) :=
  (tends_onDestination c i _ _).trans (tends_releaseLost _ _ _)

theorem tends_markFailed (c : Client T) (i generation : Nat) : Tends k c (c.markFailed i generation) :=
  (tends_onDestination c i _ _).trans (tends_releaseLost _ _ _)

theorem tends_disconnect (c : Client T) (i : Nat) : Tends k c (c.disconnect i) :=
  (tends_onDestination c i _ _).trans (tends_release _ _ _)

theorem tends_flagRetired (c : Client T) (i : Nat) : Tends k c (c.flagRetired i) :=
  tends_onDestination c i _ _

theorem tends_stopSupervisor (c : Client T) : Tends k c c.stopSupervisor := by
  unfold stopSupervisor
  cases c.supervisor with
  | none => exact .refl c
  | some s => exact tends_aside rfl rfl (Nat.le_refl _) rfl rfl

theorem tends_shutdown (c : Client T) : Tends k c c.shutdown := by
  unfold shutdown
  split
  · exact .refl c
  · have flagged : Tends k c { c with shutDown := true } := tends_aside rfl rfl (Nat.le_refl _) rfl rfl
    refine flagged.trans ((tends_stopSupervisor _).trans (tends_foldl ?_ _ _))
    intro c i
    exact (tends_flagRetired c i).trans (tends_disconnect _ i)

theorem tends_scan (c : Client T) (policy : Reconnect.Policy) : Tends k c (c.scan policy).1 :=
  tends_foldl tends_beginConnect (c.due policy) c

theorem tends_stepSupervisor (c : Client T) (s : Supervisor) : Tends k c (c.stepSupervisor s) := by
  unfold stepSupervisor
  have heard : Tends k c (if s.next.isSome then { c with signal := false } else c) := by
    split
    · exact tends_aside rfl rfl (Nat.le_refl _) rfl rfl
    · exact .refl c
  refine heard.trans ?_
  generalize (if s.next.isSome then { c with signal := false } else c) = c₁
  dsimp only
  split
  · exact tends_aside rfl rfl (Nat.le_refl _) rfl rfl
  · exact (tends_scan c₁ s.policy).trans (tends_aside rfl rfl (Nat.le_refl _) rfl rfl)

theorem tends_settle (c : Client T) (i generation sent : Nat) (outcome : SendOutcome) :
    Tends k c (c.settle i generation sent outcome).1 :=
  (tends_onDestination c i _ _).trans (tends_releaseLost _ _ _)

theorem tends_continueSend (c : Client T) (i generation sent : Nat) (deadline : Instant)
    (p : Progress (Transport.Sending T) (Except TransportError Bytes)) :
    Tends k c (c.continueSend i generation sent deadline p).1 := by
  cases p with
  | done result => exact tends_settle c i generation sent (.answered result)
  | waiting s =>
    unfold continueSend
    dsimp only
    split
    · exact (tends_deal (.abandoned s)).trans (tends_settle _ i generation sent .timedOut)
    · exact .refl c

theorem tends_resumeDispatch (c : Client T) (i sent : Nat) (s : PendingSend T) :
    Tends k c (c.resumeDispatch i sent s).1 :=
  (tends_deal (.resent c.now s.sending)).trans (tends_continueSend _ i s.generation sent s.deadline _)

theorem tends_startDispatch (c : Client T) (call i : Nat) (target : Target) (payload : Bytes) :
    Tends k c (c.startDispatch call i target payload).1 := by
  unfold startDispatch
  cases c.destinations[i]? with
  | none => exact .refl c
  | some d =>
    dsimp only
    cases d.current with
    | none => exact .refl c
    | some live =>
      exact (tends_deal (.sent c.now call i live.handle target payload)).trans
        (tends_continueSend _ i live.generation payload.length _ _)

theorem tends_stepConnect (c : Client T) (i : Nat) (attempt : Option AttemptId) :
    Tends k c (c.stepConnect i attempt).1 := by
  unfold stepConnect
  cases attempt with
  | none =>
    have tends := tends_beginConnect (k := k) c i
    dsimp only
    generalize c.beginConnect i = asking at tends
    obtain ⟨c₁, _ | _ | _ | _⟩ := asking <;> exact tends
  | some id =>
    dsimp only
    cases c.outcome? i id <;> exact .refl c

theorem tends_stepInvocation (c : Client T) (id : Nat) (w : Invocation (PendingSend T)) :
    Tends k c (c.stepInvocation id w).1 := by
  have walked := stepInvocation_walked c id w
  generalize c.stepInvocation id w = next at walked ⊢
  cases walked with
  | found => exact tends_log c rfl
  | chose => exact .refl c
  | checked => exact tends_log c rfl
  | @joined r c₁ j place asked =>
    have tends := tends_beginConnect (k := k) c r.destination
    rw [asked] at tends
    exact tends.trans (tends_log c₁ rfl)
  | waits => exact .refl c
  | connectEnded => exact tends_log c rfl
  | @sent r c₁ s place began =>
    have tends := tends_startDispatch (k := k) c id r.destination w.target w.payload
    rwa [began] at tends
  | @dispatched r c₁ result place began =>
    have tends := tends_startDispatch (k := k) c id r.destination w.target w.payload
    rw [began] at tends
    exact tends.trans (tends_log c₁ rfl)
  | @resumed r s c₁ s' place resumed =>
    have tends := tends_resumeDispatch (k := k) c r.destination w.payload.length s
    rwa [resumed] at tends
  | @answered r s c₁ result place resumed =>
    have tends := tends_resumeDispatch (k := k) c r.destination w.payload.length s
    rw [resumed] at tends
    exact tends.trans (tends_log c₁ rfl)

theorem tends_advance (c : Client T) (id : Nat) {call : Call T} (allowed : call.isDirect → k.users) :
    Tends k c (c.advance id call).1 := by
  have connect {i attempt c₁ p} (stepped : c.stepConnect i attempt = (c₁, p)) : Tends k c c₁ := by
    have tends := tends_stepConnect (k := k) c i attempt
    rwa [stepped] at tends
  have start {i target payload c₁ p}
      (began : c.startDispatch id i target payload = (c₁, p)) : Tends k c c₁ := by
    have tends := tends_startDispatch (k := k) c id i target payload
    rwa [began] at tends
  have resume {i sent s c₁ p} (resumed : c.resumeDispatch i sent s = (c₁, p)) : Tends k c c₁ := by
    have tends := tends_resumeDispatch (k := k) c i sent s
    rwa [resumed] at tends
  have walk {w c₁ p} (stepped : c.stepInvocation id w = (c₁, p)) : Tends k c c₁ := by
    have tends := tends_stepInvocation (k := k) c id w
    rwa [stepped] at tends
  have opens {d : Descriptor} {opening : Option (Transport.Opening T)} {transport p}
      (asked : opening.elim (Transport.startOpen c.now d c.transport)
        (Transport.resumeOpen c.now · c.transport) = (transport, p)) (users : k.users) :
      Tends k c { c with transport := transport } := by
    obtain rfl : (opening.elim (Transport.startOpen c.now d c.transport)
        (Transport.resumeOpen c.now · c.transport)).1 = transport := congrArg Prod.fst asked
    cases opening with
    | none => exact tends_deal (.unnoted users (.opened c.now d))
    | some o => exact tends_deal (.unnoted users (.reopened c.now o))
  have carries {h target payload} {sending : Option (Transport.Sending T)} {transport p}
      (asked : sending.elim (Transport.startSend c.now h target payload c.transport)
        (Transport.resumeSend c.now · c.transport) = (transport, p)) (users : k.users) :
      Tends k c { c with transport := transport } := by
    obtain rfl : (sending.elim (Transport.startSend c.now h target payload c.transport)
        (Transport.resumeSend c.now · c.transport)).1 = transport := congrArg Prod.fst asked
    cases sending with
    | none => exact tends_deal (.unnoted users (.sent c.now h target payload))
    | some s => exact tends_deal (.unnoted users (.resent c.now s))
  have advanced := advance_advanced c id call
  generalize c.advance id call = next at advanced ⊢
  cases advanced with
  | connecting stepped => exact connect stepped
  | connected stepped => exact connect stepped
  | sent began => exact start began
  | dispatched began => exact start began
  | resumed resumed => exact resume resumed
  | answered resumed => exact resume resumed
  | walks stepped => exact walk stepped
  | walked stepped => exact walk stepped
  | counted => exact .refl c
  | joining stepped => exact connect stepped
  | joined stepped => exact connect stepped
  | missed stepped => exact connect stepped
  | opening asked => exact opens asked (allowed rfl)
  | opened asked => exact opens asked (allowed rfl)
  | carries asked => exact carries asked (allowed rfl)
  | carried asked => exact carries asked (allowed rfl)
  | closed => exact .refl c
  | stillOpen => exact .refl c
  | watches => exact .refl c
  | slept => exact .refl c
  | sleeps => exact .refl c

theorem tends_stepCall (c : Client T) (id : Nat) {call : Call T} (allowed : call.isDirect → k.users) :
    Tends k c (c.stepCall id call) := by
  have advanced := tends_advance c id allowed
  unfold stepCall
  generalize c.advance id call = r at advanced ⊢
  obtain ⟨c₁, next | result⟩ := r <;> exact advanced.trans (tends_aside rfl rfl (Nat.le_refl _) rfl rfl)

theorem tends_abandonCall (c : Client T) (id : Nat) : Tends k c (c.abandonCall id) := by
  unfold abandonCall
  cases c.calls.lookup id with
  | none => exact .refl c
  | some call =>
    dsimp only
    cases call.sending? with
    | none => exact tends_aside rfl rfl (Nat.le_refl _) rfl rfl
    | some s => exact (tends_deal (.abandoned s)).trans (tends_aside rfl rfl (Nat.le_refl _) rfl rfl)

theorem tends_failAttempt (c : Client T) (a : Attempt T) (failure : Destination → AttemptFailure) :
    Tends k c (c.failAttempt a failure) :=
  (tends_onDestination c a.destination _ _).trans (tends_aside rfl rfl (Nat.le_refl _) rfl rfl)

/-- The actions that neither begin nor end a watcher, by a client that does not get another transport. -/
def Action.Tending : Action T → Prop
  | .step (.attempt _) | .step (.watcher _) | .transport _ => False
  | _ => True

theorem tends_act (allowed : ∀ id call, c.calls.lookup id = some call → call.isDirect → k.users)
    {a : Action T} (tending : a.Tending) : Tends k c (c.act a) := by
  cases a with
  | step task =>
    cases task with
    | attempt => exact absurd tending id
    | watcher => exact absurd tending id
    | supervisor =>
      dsimp only [act, step]
      cases c.supervisor with
      | none => exact .refl c
      | some s =>
        dsimp only
        split
        · exact tends_stepSupervisor c s
        · exact .refl c
    | call id =>
      dsimp only [act, step]
      cases made : c.calls.lookup id with
      | none => exact .refl c
      | some call => exact tends_stepCall c id (allowed id call made)
  | request => exact tends_aside rfl rfl (Nat.le_refl _) rfl rfl
  | abandon id => exact tends_abandonCall c id
  | beginConnect i => exact tends_beginConnect c i
  | handleLost i generation => exact tends_handleLost c i generation
  | markFailed i generation => exact tends_markFailed c i generation
  | disconnect i => exact tends_disconnect c i
  | flagRetired i => exact tends_flagRetired c i
  | addDestination d =>
    dsimp only [act, addDestination]
    split
    · exact .refl c
    · exact tends_aside rfl rfl (Nat.le_refl _) rfl rfl
  | removeFromTable name =>
    dsimp only [act, removeFromTable, lookup]
    cases c.table.lookup name with
    | none => exact .refl c
    | some i => exact tends_aside rfl rfl (Nat.le_refl _) rfl rfl
  | register i selectors =>
    dsimp only [act]
    cases c.destinations[i]? with
    | none => exact .refl c
    | some d =>
      dsimp only [register]
      cases c.registry.register ⟨i, d.name, selectors⟩ with
      | error e => exact .refl c
      | ok registry => exact tends_aside rfl rfl (Nat.le_refl _) rfl rfl
  | unregister name => exact tends_aside rfl rfl (Nat.le_refl _) rfl rfl
  | scan policy => exact tends_scan c policy
  | wake => exact tends_aside rfl rfl (Nat.le_refl _) rfl rfl
  | stopSupervisor => exact tends_stopSupervisor c
  | shutdown => exact tends_shutdown c
  | transport f => exact absurd tending id
  | passTo t => exact tends_aside rfl rfl (Nat.le_max_left _ _) rfl rfl

end Tends

end Client

end Switchboard
