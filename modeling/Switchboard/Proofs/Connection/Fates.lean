import Switchboard.Proofs.Connection.Balance
import Switchboard.Proofs.Connection.Dispatch

/-!
What becomes of a destination in one action. An attempt begins or fails, a connection is published or is
given up since a send over it was not answered in time; whatever else happens leaves the count of
failures alone, and the attempt that was last begun.
-/
namespace Switchboard

/-- What bears on how often a destination has failed. -/
inductive Happening
  | begun
  | failed
  | published
  /-- The published connection did not answer a send in time. -/
  | timedOut
deriving DecidableEq, Repr

namespace Client

/-- What has happened to a destination between two moments, by its attempts and its handles. An attempt
that is over without having delivered a handle has failed. -/
def Ledger.happened? (l l' : Ledger) : Option Happening :=
  if l.publications.length < l'.publications.length then some .published
  else if l.attempts = [] ∧ l'.attempts ≠ [] then some .begun
  else if l.attempts ≠ [] ∧ l'.attempts = [] ∧ l'.deliveries = l.deliveries then some .failed
  else none

variable {T : Type} [Transport T]

/-- Whether an action finds that the published connection of a destination does not answer. -/
def timesOut (i : Nat) (c : Client T) : Action T → Bool
  | .markFailed j generation => j == i && c.isPublished i generation
  | .step (.call id) => ((c.calls.lookup id).bind Call.errand?).any fun e =>
    e.destination == i && (e.hearing? c).any fun heard =>
      (heard.outcome? c.now).bind SendOutcome.breaks? == some .failed &&
        c.isPublished i heard.generation
  | _ => false

/-- What happens to a destination in an action. -/
def happening? (i : Nat) (c : Client T) (a : Action T) : Option Happening :=
  match c.ledger i, (c.act a).ledger i with
  | some l, some l' => (l.happened? l').or (if c.timesOut i a then some .timedOut else none)
  | _, _ => none

end Client

/-- Nothing that bears on its failures has happened to a destination. -/
structure Destination.Rested (d d' : Destination) : Prop where
  inFlight : d'.inFlight = d.inFlight
  generation : d'.generation = d.generation
  failures : d'.failures = d.failures
  lastAttempt : d'.lastAttempt = d.lastAttempt

/-- What each happening makes of a destination. -/
inductive Destination.Fate (now : Instant) (d : Destination) : Option Happening → Destination → Prop
  | rested {d'} (rested : d.Rested d') : Fate now d none d'
  | begun {a} (off : d.state ≠ .connected) (idle : d.inFlight = none) (kept : d.retired = false) :
      Fate now d (some .begun) (d.connecting now a)
  | failed (running : d.inFlight.isSome) : Fate now d (some .failed) d.recordFailure
  | published {h} (running : d.inFlight.isSome) (kept : d.retired = false) :
      Fate now d (some .published) (d.publish h).1
  | discarded {h} (running : d.inFlight.isSome) (retired : d.retired = true) :
      Fate now d none (d.publish h).1
  | timedOut {d'} (inFlight : d'.inFlight = d.inFlight) (before : d.failures = 0)
      (failures : d'.failures = 1) (lastAttempt : d'.lastAttempt = d.lastAttempt) :
      Fate now d (some .timedOut) d'

theorem Destination.Rested.refl (d : Destination) : d.Rested d := ⟨rfl, rfl, rfl, rfl⟩

namespace Client

/-! ### What a ledger shows -/

/-- What has happened shows in the destination, but for the handles that were delivered. -/
theorem Ledger.Consistent.happened? {l l' : Ledger} (consistent : l.Consistent)
    (consistent' : l'.Consistent) :
    l.happened? l' =
      if l.destination.generation < l'.destination.generation then some .published
      else if l.destination.inFlight = none ∧ l'.destination.inFlight ≠ none then some .begun
      else if l.destination.inFlight ≠ none ∧ l'.destination.inFlight = none ∧
        l'.deliveries = l.deliveries then some .failed
      else none := by
  simp [Ledger.happened?, consistent.attempts, consistent'.attempts, consistent.generation,
    consistent'.generation]

variable {T : Type} [Transport T] {c : Client T} {i : Nat} {d d' : Destination} {a : Action T}

theorem happening?_of_found (watchable : c.Watchable) (found : c.destinations[i]? = some d)
    (found' : (c.act a).destinations[i]? = some d') :
    c.happening? i a =
      (if d.generation < d'.generation then some .published
      else if d.inFlight = none ∧ d'.inFlight ≠ none then some .begun
      else if d.inFlight ≠ none ∧ d'.inFlight = none ∧
        (c.act a).deliveries i = c.deliveries i then some .failed
      else none : Option Happening).or (if c.timesOut i a then some .timedOut else none) := by
  have held := ledger_of_found found
  have held' := ledger_of_found found'
  simp only [happening?, held, held']
  rw [(watchable.consistent held).happened? ((watchable.act a).consistent held')]

theorem happening?_of_still (watchable : c.Watchable) (found : c.destinations[i]? = some d)
    (found' : (c.act a).destinations[i]? = some d') (inFlight : d'.inFlight = d.inFlight)
    (generation : d'.generation = d.generation) :
    c.happening? i a = if c.timesOut i a then some .timedOut else none := by
  rw [happening?_of_found watchable found found', inFlight, generation]
  cases d.inFlight <;> simp

/-! ### Where nothing happens -/

/-- An action leaves a destination as what has happened to it makes of it. -/
def Fated (i : Nat) (c : Client T) (a : Action T) : Prop :=
  ∀ d, c.destinations[i]? = some d →
    ∃ d', (c.act a).destinations[i]? = some d' ∧ d.Fate c.now (c.happening? i a) d'

theorem fate_of_rested (watchable : c.Watchable) (found : c.destinations[i]? = some d)
    (found' : (c.act a).destinations[i]? = some d') (rested : d.Rested d')
    (calm : c.timesOut i a = false) : d.Fate c.now (c.happening? i a) d' := by
  rw [happening?_of_still watchable found found' rested.inFlight rested.generation, calm]
  exact .rested rested

theorem fated_of_same (watchable : c.Watchable) (same : c.act a = c) (calm : c.timesOut i a = false) :
    Fated i c a := by
  intro d found
  have found' := same ▸ found
  exact ⟨d, found', fate_of_rested watchable found found' (.refl d) calm⟩

/-- What begins and ends no attempt and takes no connection back. -/
theorem fated_of_effects (watchable : c.Watchable) {A : List Deed} (effects : Effects A c (c.act a))
    (unbegun : Deed.begun ∉ A) (unfailed : Deed.failed ∉ A) (undelivered : Deed.delivered ∉ A)
    (unrevoked : Deed.revoked ∉ A) (calm : c.timesOut i a = false) : Fated i c a := by
  intro d found
  have undergone (δ : Deed) (allowed : δ ∈ A) (d₁ d₂ : Destination) (deed : d₁.Undergoes δ d₂)
      (rested : d.Rested d₁) : d.Rested d₂ := by
    obtain ⟨inFlight, generation, failures, lastAttempt⟩ := rested
    cases deed with
    | begun => exact absurd allowed unbegun
    | failed => exact absurd allowed unfailed
    | delivered => exact absurd allowed undelivered
    | revoked => exact absurd allowed unrevoked
    | tornDown => exact ⟨inFlight, generation, failures, lastAttempt⟩
    | retired => exact ⟨inFlight, generation, failures, lastAttempt⟩
    | counted => exact ⟨inFlight, generation, failures, lastAttempt⟩
  obtain ⟨d', found', rested⟩ := effects.kept undergone found (.refl d)
  exact ⟨d', found', fate_of_rested watchable found found' rested calm⟩

/-! ### Connections taken back -/

theorem rested_handleLost (d : Destination) (generation : Nat) :
    d.Rested (d.handleLost generation).1 := by
  unfold Destination.handleLost
  by_cases published : d.live.map (·.generation) = some generation
  · obtain ⟨live, on, rfl⟩ := Option.map_eq_some_iff.mp published
    simp only [Destination.revoke, on, if_true]
    exact ⟨rfl, rfl, rfl, rfl⟩
  · rw [Destination.revoke_of_stale published]
    exact .refl d

/-- A loss counts as no failure. -/
theorem fated_of_lost (watchable : c.Watchable) {j generation : Nat} {c₁ : Client T}
    (acts : c.act a = c₁.handleLost j generation) (same : c₁.destinations = c.destinations)
    (calm : c.timesOut i a = false) : Fated i c a := by
  intro d found
  have found' : (c.act a).destinations[i]? =
      some (if j = i then (d.handleLost generation).1 else d) := by
    rw [acts, handleLost, destinations_releaseLost, found_onDestination, same, found]
    rfl
  refine ⟨_, found', fate_of_rested watchable found found' ?_ calm⟩
  split
  · exact rested_handleLost d generation
  · exact .refl d

theorem fated_watcher (watchable : c.Watchable) (id : Nat) : Fated i c (.step (.watcher id)) := by
  cases looked : c.watchers.find? (·.id == id) with
  | none =>
    have same : c.act (.step (.watcher id)) = c := by simp [act, step, looked]
    exact fated_of_same watchable same rfl
  | some w =>
    by_cases ready : c.watcherReady w = true
    · have acts : c.act (.step (.watcher id)) =
          ({ c with watchers := c.watchers.filter (·.id != w.id) }).handleLost w.destination
            w.generation := by
        simp [act, step, looked, ready, stepWatcher]
      exact fated_of_lost watchable acts rfl rfl
    · have same : c.act (.step (.watcher id)) = c := by simp [act, step, looked, ready]
      exact fated_of_same watchable same rfl

/-! ### Connections that do not answer -/

theorem isPublished_eq (found : c.destinations[i]? = some d) (generation : Nat) :
    c.isPublished i generation = decide (d.live.map (·.generation) = some generation) := by
  rw [Bool.eq_iff_iff, decide_eq_true_eq, Option.map_eq_some_iff]
  simp [isPublished, found, Option.any_eq_true]

theorem fate_of_timedOut (watchable : c.Watchable) (found : c.destinations[i]? = some d)
    (found' : (c.act a).destinations[i]? = some d') (inFlight : d'.inFlight = d.inFlight)
    (generation : d'.generation = d.generation) (lastAttempt : d'.lastAttempt = d.lastAttempt)
    (before : d.failures = 0) (failures : d'.failures = 1) (late : c.timesOut i a = true) :
    d.Fate c.now (c.happening? i a) d' := by
  rw [happening?_of_still watchable found found' inFlight generation, late]
  exact .timedOut inFlight before failures lastAttempt

theorem fated_markFailed (watchable : c.Watchable) (j generation : Nat) :
    Fated i c (.markFailed j generation) := by
  intro d found
  have found' : (c.act (.markFailed j generation)).destinations[i]? =
      some (if j = i then (d.markFailed generation).1 else d) := by
    rw [act, markFailed, destinations_releaseLost, found_onDestination, found]
    rfl
  refine ⟨_, found', ?_⟩
  by_cases here : j = i
  · subst here
    simp only [if_true] at found' ⊢
    have late : c.timesOut j (.markFailed j generation) =
        decide (d.live.map (·.generation) = some generation) := by
      simp [timesOut, isPublished_eq found]
    by_cases published : d.live.map (·.generation) = some generation
    · obtain ⟨live, on, rfl⟩ := Option.map_eq_some_iff.mp published
      have unfailed := (watchable.published found on).2
      have revoked : (d.markFailed live.generation).1 =
          { d with
            live := none
            state := .failed
            failures := 1
            stats := d.stats.recordDisconnect } := by
        simp [Destination.markFailed, Destination.revoke, on, unfailed, Destination.maxFailures]
      rw [revoked] at found' ⊢
      exact fate_of_timedOut watchable found found' rfl rfl rfl unfailed rfl
        (late.trans (decide_eq_true published))
    · have same : (d.markFailed generation).1 = d :=
        congrArg Prod.fst (Destination.revoke_of_stale published .failed)
      rw [same] at found' ⊢
      exact fate_of_rested watchable found found' (.refl d) (late.trans (decide_eq_false published))
  · have calm : c.timesOut i (.markFailed j generation) = false := by
      simp [timesOut, here]
    simp only [here, if_false] at found' ⊢
    exact fate_of_rested watchable found found' (.refl d) calm

/-! ### Attempts that begin -/

/-- Nothing has happened but that attempts have begun. -/
structure Begins (c c' : Client T) : Prop where
  now : c'.now = c.now
  destinations : ∀ {i : Nat} {d : Destination}, c.destinations[i]? = some d →
    c'.destinations[i]? = some d ∨
    d.state ≠ .connected ∧ d.inFlight = none ∧ d.retired = false ∧
      ∃ a, c'.destinations[i]? = some (d.connecting c.now a)

theorem Begins.of_same {c c' : Client T} (now : c'.now = c.now)
    (destinations : c'.destinations = c.destinations) : Begins c c' :=
  ⟨now, fun found => .inl (destinations ▸ found)⟩

theorem Begins.trans {c c' c'' : Client T} (first : Begins c c') (second : Begins c' c'') :
    Begins c c'' := by
  refine ⟨second.now.trans first.now, ?_⟩
  intro i d found
  rcases first.destinations found with same | ⟨off, idle, kept, a, begun⟩
  · have later := second.destinations same
    rwa [first.now] at later
  · right
    refine ⟨off, idle, kept, a, ?_⟩
    -- An attempt under way is joined.
    rcases second.destinations begun with same | ⟨-, idle', -⟩
    · exact same
    · cases idle'

theorem begins_beginConnect (c : Client T) (i : Nat) : Begins c (c.beginConnect i).1 := by
  cases found : c.destinations[i]? with
  | none =>
    rw [beginConnect_of_absent found]
    exact .of_same rfl rfl
  | some d =>
    have asked := beginConnect_asked found
    generalize c.beginConnect i = asking at asked ⊢
    cases asked with
    | connected => exact .of_same rfl rfl
    | joined => exact .of_same rfl rfl
    | refused => exact .of_same rfl rfl
    | started off idle kept =>
      refine ⟨rfl, ?_⟩
      intro j d₁ found₁
      by_cases here : j = i
      · subst here
        obtain rfl : d = d₁ := Option.some.inj (found.symm.trans found₁)
        exact .inr ⟨off, idle, kept, c.nextAttempt, found_setDestination found _⟩
      · left
        rw [destinations_attemptBegun, List.getElem?_set_ne (Ne.symm here), found₁]

theorem begins_foldl (is : List Nat) (c : Client T) :
    Begins c (is.foldl (fun c i => (c.beginConnect i).1) c) := by
  induction is generalizing c with
  | nil => exact .of_same rfl rfl
  | cons i rest ih => exact (begins_beginConnect c i).trans (ih _)

theorem begins_scan (c : Client T) (policy : Reconnect.Policy) : Begins c (c.scan policy).1 :=
  begins_foldl (c.due policy) c

theorem begins_supervisor (c : Client T) : Begins c (c.act (.step .supervisor)) := by
  have turned := turned_act c (.step .supervisor)
  generalize c.act (.step .supervisor) = c' at turned
  cases turned with
  | other other => cases other
  | waits => exact .of_same rfl rfl
  | @turned s supervisor =>
    have heard : Begins c (c.hear c.signal s) :=
      .of_same (now_hear c.signal s c) (unmoved_hear c.signal s c).1.destinations
    cases running : s.running with
    | false =>
      rw [stepSupervisor_of_halted running]
      exact heard.trans (.of_same rfl rfl)
    | true =>
      rw [stepSupervisor_of_running supervisor running]
      exact (heard.trans (begins_scan _ s.policy)).trans (.of_same rfl rfl)

theorem fated_of_begins (watchable : c.Watchable) (begins : Begins c (c.act a))
    (calm : c.timesOut i a = false) : Fated i c a := by
  intro d found
  rcases begins.destinations found with found' | ⟨off, idle, kept, id, found'⟩
  · exact ⟨d, found', fate_of_rested watchable found found' (.refl d) calm⟩
  · refine ⟨_, found', ?_⟩
    have happened : c.happening? i a = some .begun := by
      rw [happening?_of_found watchable found found']
      simp [idle, Destination.connecting]
    rw [happened]
    exact .begun off idle kept

/-! ### Attempts that go on -/

/-- What a step of an attempt makes of its destination. -/
inductive Attempt.Proceeds (b : Attempt T) (d : Destination) (c c' : Client T) : Prop
  | waits (destinations : c'.destinations = c.destinations)
  | failed (destinations : c'.destinations = c.destinations.set b.destination d.recordFailure)
      (deliveries : c'.deliveries b.destination = c.deliveries b.destination)
  | delivered (h : Handle)
      (destinations : c'.destinations = c.destinations.set b.destination (d.publish h).1)
      (deliveries : c'.deliveries b.destination = h :: c.deliveries b.destination)

theorem Attempt.Proceeds.before {b : Attempt T} {c₁ c' : Client T} (proceeds : b.Proceeds d c₁ c')
    (destinations : c₁.destinations = c.destinations)
    (deliveries : c₁.deliveries b.destination = c.deliveries b.destination) : b.Proceeds d c c' := by
  cases proceeds with
  | waits same => exact .waits (same.trans destinations)
  | failed set kept => exact .failed (by rw [set, destinations]) (kept.trans deliveries)
  | delivered h set more => exact .delivered h (by rw [set, destinations]) (by rw [more, deliveries])

theorem continueAttempt_proceeds {b : Attempt T} (found : c.destinations[b.destination]? = some d)
    (deadline : Instant) (p : Progress (Transport.Opening T) (Except TransportError Handle)) :
    b.Proceeds d c (c.continueAttempt b deadline p) := by
  have fails (failure : Destination → AttemptFailure) : b.Proceeds d c (c.failAttempt b failure) := by
    unfold failAttempt
    rw [onDestination_of_found found]
    exact .failed rfl rfl
  cases p with
  | waiting o =>
    unfold continueAttempt
    dsimp only
    split
    · exact fails _
    · exact .waits rfl
  | done result =>
    cases result with
    | error e => exact fails _
    | ok h =>
      have logged : (c.log (.delivered b.destination b.id h)).destinations[b.destination]? = some d :=
        found
      unfold continueAttempt deliver
      simp only [onDestination_of_found logged]
      cases (d.publish h).2 <;>
        exact .delivered h rfl (by
          simp [deliveries, endAttempt, closeHandle, log, setDestination, List.filterMap_cons])

theorem stepAttempt_proceeds {b : Attempt T} (found : c.destinations[b.destination]? = some d) :
    b.Proceeds d c (c.stepAttempt b) := by
  unfold stepAttempt
  cases b.opening with
  | none =>
    simp only [found]
    apply Attempt.Proceeds.before
    · apply continueAttempt_proceeds
      exact found
    · rfl
    · rfl
  | some waiting =>
    dsimp only
    apply Attempt.Proceeds.before
    · apply continueAttempt_proceeds
      exact found
    · rfl
    · rfl

theorem Attempt.Proceeds.fate {b : Attempt T} (watchable : c.Watchable)
    (found : c.destinations[b.destination]? = some d) (running : d.inFlight.isSome)
    (proceeds : b.Proceeds d c (c.act a)) (calm : c.timesOut b.destination a = false) :
    ∃ d', (c.act a).destinations[b.destination]? = some d' ∧
      d.Fate c.now (c.happening? b.destination a) d' := by
  obtain ⟨id, inFlight⟩ := Option.isSome_iff_exists.mp running
  cases proceeds with
  | waits same =>
    have found' := same ▸ found
    exact ⟨d, found', fate_of_rested watchable found found' (.refl d) calm⟩
  | failed set kept =>
    have found' : (c.act a).destinations[b.destination]? = some d.recordFailure := by
      rw [set]
      exact found_setDestination found _
    refine ⟨_, found', ?_⟩
    rw [happening?_of_found watchable found found', calm, kept]
    simp only [Destination.recordFailure, inFlight, Nat.lt_irrefl, if_false]
    exact .failed running
  | delivered h set more =>
    have found' : (c.act a).destinations[b.destination]? = some (d.publish h).1 := by
      rw [set]
      exact found_setDestination found _
    refine ⟨_, found', ?_⟩
    rw [happening?_of_found watchable found found', calm, more]
    cases retired : d.retired with
    | false =>
      have later : d.generation < (d.publish h).1.generation := by
        simp [Destination.publish, retired]
      simp only [later, if_true]
      exact .published running retired
    | true =>
      have same : (d.publish h).1.generation = d.generation := by
        simp [Destination.publish, retired]
      simp only [same, Nat.lt_irrefl, if_false, inFlight, reduceCtorEq, false_and,
        List.cons_ne_self, and_false, Bool.false_eq_true, Option.or_none]
      exact .discarded running retired

theorem Attempt.Proceeds.elsewhere {b : Attempt T} {c' : Client T} (proceeds : b.Proceeds d c c')
    (other : b.destination ≠ i) : c'.destinations[i]? = c.destinations[i]? := by
  cases proceeds with
  | waits same => rw [same]
  | failed set => rw [set, List.getElem?_set_ne other]
  | delivered h set => rw [set, List.getElem?_set_ne other]

theorem fated_attempt (watchable : c.Watchable) (id : AttemptId) :
    Fated i c (.step (.attempt id)) := by
  cases looked : c.attempts.find? (·.id == id) with
  | none =>
    have same : c.act (.step (.attempt id)) = c := by simp [act, step, looked]
    exact fated_of_same watchable same rfl
  | some b =>
    intro d found
    obtain ⟨d₁, found₁, running, -⟩ :=
      running_of_sound watchable.sound (List.mem_of_find?_eq_some looked)
    have proceeds : b.Proceeds d₁ c (c.act (.step (.attempt id))) := by
      have acts : c.act (.step (.attempt id)) = c.stepAttempt b := by simp [act, step, looked]
      rw [acts]
      exact stepAttempt_proceeds found₁
    by_cases here : b.destination = i
    · subst here
      obtain rfl : d = d₁ := Option.some.inj (found.symm.trans found₁)
      exact proceeds.fate watchable found running rfl
    · have found' := (proceeds.elsewhere here).trans found
      exact ⟨d, found', fate_of_rested watchable found found' (.refl d) rfl⟩

/-! ### Calls that go on -/

theorem begins_stepConnect (c : Client T) (i : Nat) (attempt : Option AttemptId) :
    Begins c (c.stepConnect i attempt).1 := by
  unfold stepConnect
  cases attempt with
  | none =>
    have begins := begins_beginConnect c i
    dsimp only
    generalize c.beginConnect i = asking at begins ⊢
    obtain ⟨c₁, _ | _ | _ | _⟩ := asking <;> exact begins
  | some id =>
    dsimp only
    cases c.outcome? i id <;> exact .of_same rfl rfl

theorem Walked.begins {id : Nat} {w : Invocation (PendingSend T)}
    {next : Client T × Invocation.Next (PendingSend T)} (walked : Walked id c w next)
    (errandless : (Call.invoke w).errand? = none) : Begins c next.1 := by
  cases walked with
  | @joined r c₁ j place asked =>
    have begins := begins_beginConnect c r.destination
    rw [asked] at begins
    exact begins.trans (.of_same rfl rfl)
  | sent place => simp [Call.errand?, place] at errandless
  | dispatched place => simp [Call.errand?, place] at errandless
  | resumed place => simp [Call.errand?, place] at errandless
  | answered place => simp [Call.errand?, place] at errandless
  | _ => exact .of_same rfl rfl

theorem Advanced.begins {id : Nat} {call : Call T} {next : Client T × Progress (Call T) CallResult}
    (advanced : Advanced id c call next) (errandless : call.errand? = none) : Begins c next.1 := by
  have connects {i : Nat} {attempt : Option AttemptId} {c₁ : Client T}
      {p : Progress AttemptId ConnectOutcome} (stepped : c.stepConnect i attempt = (c₁, p)) :
      Begins c c₁ := by
    have begins := begins_stepConnect c i attempt
    rwa [stepped] at begins
  have walks {w : Invocation (PendingSend T)} {c₁ : Client T} {p : Invocation.Next (PendingSend T)}
      (stepped : c.stepInvocation id w = (c₁, p)) (errandless : (Call.invoke w).errand? = none) :
      Begins c c₁ := by
    have walked := stepInvocation_walked c id w
    rw [stepped] at walked
    exact walked.begins errandless
  cases advanced with
  | connecting stepped => exact connects stepped
  | connected stepped => exact connects stepped
  | joining stepped => exact connects stepped
  | joined stepped => exact connects stepped
  | missed stepped => exact connects stepped
  | sent => cases errandless
  | dispatched => cases errandless
  | resumed => cases errandless
  | answered => cases errandless
  | walks stepped => exact walks stepped errandless
  | walked stepped => exact walks stepped errandless
  | _ => exact .of_same rfl rfl

theorem begins_stepCall {call : Call T} (errandless : call.errand? = none) (c : Client T) (id : Nat) :
    Begins c (c.stepCall id call) := by
  have advanced := advance_advanced c id call
  unfold stepCall
  generalize c.advance id call = r at advanced ⊢
  obtain ⟨c₁, next | result⟩ := r <;> exact (advanced.begins errandless).trans (.of_same rfl rfl)

theorem elsewhere_advance (e : Errand T) (c : Client T) (id : Nat) (other : i ≠ e.destination) :
    (e.advance id c).1.destinations[i]? = c.destinations[i]? := by
  unfold Errand.advance
  cases e.send with
  | none => exact elsewhere_startDispatch c id other e.target e.payload
  | some s => exact (resumeDispatch_sent c e.destination e.payload.length s).elsewhere i other

theorem breaks?_down {outcome : SendOutcome} {next : ConnectionState}
    (breaks : outcome.breaks? = some next) : next = .disconnected ∨ next = .failed := by
  unfold SendOutcome.breaks? at breaks
  split at breaks <;> cases breaks
  · exact .inl rfl
  · exact .inr rfl

/-- What a dispatch changes is a failure where its send was not answered in time over the connection
that is still published. -/
theorem Confined.fate {heard : Hearing T} (watchable : c.Watchable)
    (found : c.destinations[i]? = some d) (confined : Confined i d heard c (c.act a))
    (late : c.timesOut i a = ((heard.outcome? c.now).bind SendOutcome.breaks? == some .failed &&
      c.isPublished i heard.generation)) :
    ∃ d', (c.act a).destinations[i]? = some d' ∧ d.Fate c.now (c.happening? i a) d' := by
  rw [isPublished_eq found] at late
  cases finished : heard.outcome? c.now with
  | none =>
    have found' := (confined.waits finished).1.destinations ▸ found
    exact ⟨d, found', fate_of_rested watchable found found' (.refl d) (by simp [late, finished])⟩
  | some outcome =>
    cases breaks : outcome.breaks? with
    | none =>
      obtain ⟨stats, -, -, same, -⟩ := confined.spared outcome finished breaks
      have found' := same.destinations ▸ found_setDestination found { d with stats := stats }
      exact ⟨_, found', fate_of_rested watchable found found' ⟨rfl, rfl, rfl, rfl⟩
        (by simp [late, finished, breaks])⟩
    | some next =>
      by_cases published : d.live.map (·.generation) = some heard.generation
      · obtain ⟨live, on, same⟩ := Option.map_eq_some_iff.mp published
        have unfailed := (watchable.published found on).2
        have rest := (confined.broken outcome next live finished breaks on same).2.1
        have found' : (c.act a).destinations[i]? = some (d.broken next) := by
          rw [rest]
          exact found_setDestination found _
        refine ⟨_, found', ?_⟩
        rcases breaks?_down breaks with rfl | rfl
        · exact fate_of_rested watchable found found' ⟨rfl, rfl, rfl, rfl⟩
            (by simp [late, finished, breaks])
        · refine fate_of_timedOut watchable found found' rfl rfl rfl unfailed ?_
            (by simp [late, finished, breaks, published])
          simp [Destination.broken, unfailed]
      · have same := (confined.stale outcome next finished breaks published).1
        have found' := same.destinations ▸ found_setDestination found
          { d with stats := { d.stats with dispatchFailures := d.stats.dispatchFailures + 1 } }
        exact ⟨_, found', fate_of_rested watchable found found' ⟨rfl, rfl, rfl, rfl⟩
          (by simp [late, published])⟩

theorem fated_errand (watchable : c.Watchable) {id : Nat} {call : Call T} {e : Errand T}
    (calling : c.calls.lookup id = some call) (errand : call.errand? = some e) :
    Fated i c (.step (.call id)) := by
  intro d found
  have act : c.act (.step (.call id)) = c.stepCall id call := act_call calling
  have followed := stepCall_errand errand c id
  rw [← act] at followed
  have late : c.timesOut i (.step (.call id)) =
      (e.destination == i && (e.hearing? c).any fun heard =>
        (heard.outcome? c.now).bind SendOutcome.breaks? == some .failed &&
          c.isPublished i heard.generation) := by
    simp [timesOut, calling, errand]
  by_cases here : e.destination = i
  · subst here
    cases hears : e.hearing? c with
    | some heard =>
      have went := Errand.advance_went watchable found hears id
      have confined := went.confined.undisturbed followed.undisturbed followed.transport
      exact confined.fate watchable found (by simp [late, hears])
    | none =>
      have idle : (e.advance id c).1 = c := by
        unfold Errand.hearing? at hears
        unfold Errand.advance
        cases send : e.send with
        | some s => simp [send] at hears
        | none =>
          have off : d.current = none := by simpa [send, found] using hears
          simp [startDispatch, found, off]
      have found' := followed.undisturbed.destinations.trans (congrArg _ idle) ▸ found
      exact ⟨d, found', fate_of_rested watchable found found' (.refl d) (by simp [late, hears])⟩
  · have same := elsewhere_advance e c id (Ne.symm here)
    rw [← followed.undisturbed.destinations] at same
    have found' := same.trans found
    exact ⟨d, found', fate_of_rested watchable found found' (.refl d) (by simp [late, here])⟩

theorem fated_call (watchable : c.Watchable) (id : Nat) : Fated i c (.step (.call id)) := by
  cases calling : c.calls.lookup id with
  | none =>
    have same : c.act (.step (.call id)) = c := by
      simp [act, step, calling]
    exact fated_of_same watchable same (by simp [timesOut, calling])
  | some call =>
    cases errand : call.errand? with
    | none =>
      have begins := begins_stepCall errand c id
      rw [← act_call calling] at begins
      exact fated_of_begins watchable begins (by simp [timesOut, calling, errand])
    | some e => exact fated_errand watchable calling errand

/-! ### Actions -/

/-- At most one thing happens to a destination in one action, and it makes of it what it does. -/
theorem fated_act (watchable : c.Watchable) (i : Nat) (a : Action T) : Fated i c a := by
  have aside
      (others : a.deeds.all fun δ => δ ≠ .begun ∧ δ ≠ .failed ∧ δ ≠ .delivered ∧ δ ≠ .revoked)
      (calm : c.timesOut i a = false) : Fated i c a := by
    have others (δ : Deed) (allowed : δ ∈ a.deeds) :=
      of_decide_eq_true (List.all_eq_true.mp others δ allowed)
    exact fated_of_effects watchable (effects_act watchable.sound a) (fun h => (others _ h).1 rfl)
      (fun h => (others _ h).2.1 rfl) (fun h => (others _ h).2.2.1 rfl)
      (fun h => (others _ h).2.2.2 rfl) calm
  cases a with
  | step task =>
    cases task with
    | attempt id => exact fated_attempt watchable id
    | watcher id => exact fated_watcher watchable id
    | supervisor => exact fated_of_begins watchable (begins_supervisor c) rfl
    | call id => exact fated_call watchable id
  | beginConnect j => exact fated_of_begins watchable (begins_beginConnect c j) rfl
  | scan policy => exact fated_of_begins watchable (begins_scan c policy) rfl
  | handleLost j generation => exact fated_of_lost watchable rfl rfl rfl
  | markFailed j generation => exact fated_markFailed watchable j generation
  | _ => exact aside rfl rfl

end Client

end Switchboard
