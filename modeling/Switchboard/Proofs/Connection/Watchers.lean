import Switchboard.Proofs.Connection.Dealings
import Switchboard.Proofs.Connection.Effects
import Switchboard.Proofs.Lookup

/-!
Every published connection is watched: among the watchers there is one for its handle and its generation,
until that watcher itself reports the loss. A client begins a watcher where it publishes and ends it where
it reports; in everything else it does, it only deals with its transport.
-/
namespace Switchboard

open Text (Bytes)

/-- Only what an attempt hands over is published. -/
theorem Destination.Undergoes.live {δ : Deed} {d d' : Destination} (deed : d.Undergoes δ d')
    (other : δ ≠ .delivered) {live : Live} (on : d'.live = some live) : d.live = some live := by
  cases deed with
  | begun => exact on
  | failed => exact on
  | delivered => exact absurd rfl other
  | revoked before => simp [Destination.revoke, before] at on
  | tornDown => cases on
  | retired => exact on
  | counted => exact on

namespace Client

variable {T : Type} [Transport T]

/-! ### What is published -/

/-- The connection is the published one of a destination. -/
def Publishes (c : Client T) (i : Nat) (live : Live) : Prop :=
  ∃ d, c.destinations[i]? = some d ∧ d.live = some live

/-- Nothing is published that was not published before. -/
def Retains (c c' : Client T) : Prop := ∀ i live, c'.Publishes i live → c.Publishes i live

section Retains

variable {c c' c'' : Client T}

theorem Retains.refl (c : Client T) : Retains c c := fun _ _ published => published

theorem Retains.trans (first : Retains c c') (second : Retains c' c'') : Retains c c'' :=
  fun i live published => first i live (second i live published)

theorem retains_same (same : c'.destinations = c.destinations) : Retains c c' := by
  rintro i live ⟨d, found, on⟩
  exact ⟨d, same ▸ found, on⟩

theorem retains_set {i : Nat} {d d' : Destination} (found : c.destinations[i]? = some d)
    (destinations : c'.destinations = c.destinations.set i d')
    (kept : ∀ live, d'.live = some live → d.live = some live) : Retains c c' := by
  rintro j live ⟨d₁, found₁, on⟩
  rw [destinations] at found₁
  by_cases here : i = j
  · subst here
    obtain rfl : d' = d₁ := by simpa [length_of_found found] using found₁
    exact ⟨d, found, kept live on⟩
  · rw [List.getElem?_set_ne here] at found₁
    exact ⟨d₁, found₁, on⟩

theorem Effects.retains {A : List Deed} (undelivered : Deed.delivered ∉ A)
    (effects : Effects A c c') : Retains c c' := by
  induction effects with
  | refl => exact .refl c
  | @tail c₁ c₂ _ last ih =>
    refine ih.trans ?_
    cases last with
    | aside destinations => exact retains_same destinations
    | did found allowed deed destinations =>
      have other := ne_of_mem_of_not_mem allowed undelivered
      exact retains_set found destinations fun live on => deed.live other on
    | @added d _ destinations =>
      rintro i live ⟨d₁, found₁, on⟩
      rw [destinations, List.getElem?_append] at found₁
      split at found₁
      · exact ⟨d₁, found₁, on⟩
      · obtain rfl : ({ descriptor := d, created := c₁.now } : Destination) = d₁ := by
          simpa using List.mem_of_getElem? found₁ |> List.mem_singleton.mp |> Eq.symm
        cases on
    | stopped _ destinations => exact retains_same destinations
    | supervised _ destinations => exact retains_same destinations

end Retains

/-! ### Attempts and watchers -/

/-- Everything but that a handle is published as the last thing, if there is one to publish. -/
def HandsOver (k : Terms) (a : Attempt T) (c c' : Client T) : Prop :=
  ∃ c₁, Tends k c c₁ ∧ Retains c c₁ ∧ (c' = c₁ ∨
    ∃ d h, c₁.destinations[a.destination]? = some d ∧ d.retired = false ∧
      c' = c₁.handlePublished a h d)

section Attempts

variable {k : Terms} {a : Attempt T} {c c' c'' : Client T}

theorem HandsOver.of_tends (tends : Tends k c c') (retains : Retains c c') : HandsOver k a c c' :=
  ⟨c', tends, retains, .inl rfl⟩

theorem HandsOver.after (hands : HandsOver k a c' c'') (tends : Tends k c c')
    (retains : Retains c c') : HandsOver k a c c'' := by
  obtain ⟨c₁, tends₁, retains₁, published⟩ := hands
  exact ⟨c₁, tends.trans tends₁, retains.trans retains₁, published⟩

theorem handsOver_deliver (c : Client T) (a : Attempt T) (h : Handle) :
    HandsOver k a c (c.deliver a h) := by
  have noted := tends_log (k := k) c (e := .delivered a.destination a.id h) rfl
  have closed (c₁ : Client T) (outcome : ConnectOutcome) :
      Tends k c₁ ((c₁.closeHandle a.destination h).endAttempt a.id outcome) :=
    (tends_closeHandle c₁ a.destination h).trans (tends_aside rfl rfl (Nat.le_refl _) rfl rfl)
  unfold deliver
  cases found : c.destinations[a.destination]? with
  | none =>
    have missing : (c.log (.delivered a.destination a.id h)).destinations[a.destination]? = none :=
      found
    simp only [onDestination_of_absent missing]
    exact .of_tends (noted.trans (closed _ _)) (retains_same rfl)
  | some d =>
    have logged : (c.log (.delivered a.destination a.id h)).destinations[a.destination]? = some d :=
      found
    simp only [onDestination_of_found logged]
    cases retired : d.retired with
    | false =>
      have published : d.publish h = ((d.publish h).1, some (d.generation + 1)) := by
        simp [Destination.publish, retired]
      rw [published]
      exact ⟨c, .refl c, .refl c, .inr ⟨d, h, found, retired, rfl⟩⟩
    | true =>
      have discarded : d.publish h = ({ d with inFlight := none, state := .disconnected }, none) := by
        simp [Destination.publish, retired]
      rw [discarded]
      refine .of_tends (noted.trans (.trans ?_ (closed _ _))) ?_
      · exact tends_aside rfl rfl (Nat.le_refl _) rfl rfl
      · exact retains_set found rfl fun live on => on

theorem handsOver_failAttempt (c : Client T) (a : Attempt T)
    (failure : Destination → AttemptFailure) : HandsOver k a c (c.failAttempt a failure) := by
  refine .of_tends (tends_failAttempt c a failure) ?_
  unfold failAttempt
  cases found : c.destinations[a.destination]? with
  | none =>
    rw [onDestination_of_absent found]
    exact retains_same rfl
  | some d =>
    rw [onDestination_of_found found]
    exact retains_set found rfl fun live on => on

theorem handsOver_continueAttempt (c : Client T) (a : Attempt T) (deadline : Instant)
    (p : Progress (Transport.Opening T) (Except TransportError Handle)) :
    HandsOver k a c (c.continueAttempt a deadline p) := by
  cases p with
  | done result =>
    cases result with
    | ok h => exact handsOver_deliver c a h
    | error e => exact handsOver_failAttempt c a _
  | waiting o =>
    unfold continueAttempt
    dsimp only
    split
    · exact handsOver_failAttempt c a _
    · exact .of_tends (tends_aside rfl rfl (Nat.le_refl _) rfl rfl) (retains_same rfl)

theorem handsOver_stepAttempt {c : Client T} {a : Attempt T}
    (own : ∀ d, c.destinations[a.destination]? = some d → k.descriptor a.destination = some d.descriptor) :
    HandsOver k a c (c.stepAttempt a) := by
  unfold stepAttempt
  cases a.opening with
  | none =>
    dsimp only
    cases found : c.destinations[a.destination]? with
    | none => exact .of_tends (tends_aside rfl rfl (Nat.le_refl _) rfl rfl) (retains_same rfl)
    | some d =>
      exact (handsOver_continueAttempt _ a _ _).after (tends_deal (.opened c.now a.id (own d found)))
        (retains_same rfl)
  | some waiting =>
    obtain ⟨o, deadline⟩ := waiting
    exact (handsOver_continueAttempt _ a deadline _).after (tends_deal (.reopened c.now o))
      (retains_same rfl)

theorem HandsOver.deals (hands : HandsOver k a c c') :
    c.now ≤ c'.now ∧ Deals k (c.transport, c.journal) (c'.transport, c'.journal) := by
  obtain ⟨c₁, tends, -, rfl | ⟨d, h, -, -, rfl⟩⟩ := hands
  · exact ⟨tends.later, tends.deals⟩
  · exact ⟨tends.later, (tends.deals.tail (.noted rfl)).tail (.noted rfl)⟩

theorem deals_stepWatcher (c : Client T) (w : Watcher) :
    c.now ≤ (c.stepWatcher w).now ∧
      Deals k (c.transport, c.journal) ((c.stepWatcher w).transport, (c.stepWatcher w).journal) := by
  have lost := tends_handleLost (k := k) { c with watchers := c.watchers.filter (·.id != w.id) }
    w.destination w.generation
  exact ⟨lost.later, lost.deals⟩

/-- Whatever a client does by itself, it only deals with its transport; and its clock does not go back. -/
theorem deals_act {users : Prop}
    (allowed : ∀ id call, c.calls.lookup id = some call → call.isDirect → users) {a : Action T}
    (own : ∀ f, a ≠ .transport f) :
    c.now ≤ (c.act a).now ∧
      Deals (c.terms users) (c.transport, c.journal) ((c.act a).transport, (c.act a).journal) := by
  by_cases tending : a.Tending
  · have tends : Tends (c.terms users) c (c.act a) := tends_act allowed tending
    exact ⟨tends.later, tends.deals⟩
  · cases a with
    | step task =>
      cases task with
      | attempt id =>
        dsimp only [act, step]
        cases c.attempts.find? (·.id == id) with
        | none => exact ⟨Nat.le_refl _, .refl⟩
        | some a => exact (handsOver_stepAttempt fun d => terms_of_found).deals
      | watcher id =>
        dsimp only [act, step]
        cases c.watchers.find? (·.id == id) with
        | none => exact ⟨Nat.le_refl _, .refl⟩
        | some w =>
          dsimp only
          split
          · exact deals_stepWatcher c w
          · exact ⟨Nat.le_refl _, .refl⟩
      | supervisor => exact absurd trivial tending
      | call => exact absurd trivial tending
    | transport f => exact absurd rfl (own f)
    | _ => exact absurd trivial tending

/-- Whatever a client does by itself puts its transport to use at most. -/
theorem uses_act (c : Client T) {a : Action T} (own : ∀ f, a ≠ .transport f) :
    Uses c.transport (c.act a).transport :=
  (deals_act (fun _ _ _ _ => trivial) own).2.uses

theorem later_act (c : Client T) (a : Action T) : c.now ≤ (c.act a).now := by
  cases a with
  | transport f => exact Nat.le_refl _
  | _ => exact (deals_act (fun _ _ _ _ => trivial) (by simp)).1

end Attempts

/-- Every published connection has a watcher, and no two watchers have the same number. -/
structure Guarded (c : Client T) : Prop where
  distinct : (c.watchers.map (·.id)).Nodup
  earlier : ∀ w ∈ c.watchers, w.id < c.nextWatcher
  watched : ∀ i live, c.Publishes i live →
    ∃ w ∈ c.watchers, w.destination = i ∧ w.handle = live.handle ∧ w.generation = live.generation

section Guarded

variable {c c' : Client T}

theorem guarded_create (name : String) (transport : T) (policy : Reconnect.Policy) :
    (create name transport policy).Guarded where
  distinct := .nil
  earlier := by simp [create]
  watched := by
    rintro i live ⟨d, found, -⟩
    simp [create] at found

theorem Guarded.kept (guarded : c.Guarded) {k : Terms} (tends : Tends k c c') (retains : Retains c c') :
    c'.Guarded where
  distinct := tends.watchers ▸ guarded.distinct
  earlier := by
    rw [tends.watchers, tends.nextWatcher]
    exact guarded.earlier
  watched := by
    intro i live published
    rw [tends.watchers]
    exact guarded.watched i live (retains i live published)

theorem Guarded.published (guarded : c.Guarded) {a : Attempt T} {d : Destination}
    (found : c.destinations[a.destination]? = some d) (kept : d.retired = false) (h : Handle) :
    (c.handlePublished a h d).Guarded := by
  have watchers : (c.handlePublished a h d).watchers =
      c.watchers ++ [⟨c.nextWatcher, a.destination, h, d.generation + 1⟩] := rfl
  have destinations : (c.handlePublished a h d).destinations =
      c.destinations.set a.destination (d.publish h).1 := rfl
  constructor
  · have fresh : c.nextWatcher ∉ c.watchers.map (·.id) := by
      intro there
      obtain ⟨w, listed, same⟩ := List.mem_map.mp there
      exact absurd (guarded.earlier w listed) (by omega)
    rw [watchers, List.map_append, List.map_singleton, ← List.concat_eq_append]
    exact guarded.distinct.concat fresh
  · intro w listed
    show w.id < c.nextWatcher + 1
    rw [watchers] at listed
    rcases List.mem_append.mp listed with old | new
    · exact Nat.lt_succ_of_lt (guarded.earlier w old)
    · rw [List.mem_singleton.mp new]
      exact Nat.lt_succ_self _
  · rintro i live ⟨d₁, found₁, on⟩
    rw [destinations] at found₁
    rw [watchers]
    by_cases here : a.destination = i
    · obtain rfl : (d.publish h).1 = d₁ := by
        rw [here] at found found₁
        simpa [length_of_found found] using found₁
      obtain rfl : ⟨h, d.generation + 1⟩ = live := by
        simpa [Destination.publish, kept] using on
      exact ⟨_, List.mem_append_right _ (List.mem_singleton_self _), here, rfl, rfl⟩
    · rw [List.getElem?_set_ne here] at found₁
      obtain ⟨w, listed, same⟩ := guarded.watched i live ⟨d₁, found₁, on⟩
      exact ⟨w, List.mem_append_left _ listed, same⟩

/-- A report leaves nothing published under its generation. -/
theorem not_publishes_handleLost (c : Client T) (i generation : Nat) {live : Live}
    (published : (c.handleLost i generation).Publishes i live) : live.generation ≠ generation := by
  obtain ⟨d', found', on⟩ := published
  unfold handleLost at found'
  cases found : c.destinations[i]? with
  | none =>
    rw [onDestination_of_absent found] at found'
    exact absurd (found.symm.trans found') (by simp)
  | some d =>
    rw [onDestination_of_found found, destinations_releaseLost] at found'
    obtain rfl := Option.some.inj ((found_setDestination found _).symm.trans found')
    rintro rfl
    by_cases current : d.live.map (·.generation) = some live.generation
    · obtain ⟨before, was, same⟩ := Option.map_eq_some_iff.mp current
      simp [Destination.handleLost, Destination.revoke, was, same] at on
    · rw [Destination.handleLost, Destination.revoke_of_stale current] at on
      exact current (by rw [on]; rfl)

theorem Guarded.stepWatcher (guarded : c.Guarded) {w : Watcher} (watching : w ∈ c.watchers) :
    (c.stepWatcher w).Guarded := by
  have tends := tends_handleLost (k := c.terms True) { c with watchers := c.watchers.filter (·.id != w.id) }
    w.destination w.generation
  have retains : Retains c (c.stepWatcher w) :=
    (effects_stepWatcher (A := [.revoked]) (List.mem_singleton_self _) c w).retains (by decide)
  constructor
  · rw [Client.stepWatcher, tends.watchers]
    exact guarded.distinct.sublist (List.filter_sublist.map _)
  · rw [Client.stepWatcher, tends.watchers, tends.nextWatcher]
    intro w' listed
    exact guarded.earlier w' (List.mem_of_mem_filter listed)
  · intro i live published
    obtain ⟨w', listed, rfl, handle, generation⟩ := guarded.watched i live (retains i live published)
    rw [Client.stepWatcher, tends.watchers]
    refine ⟨w', List.mem_filter.mpr ⟨listed, ?_⟩, rfl, handle, generation⟩
    -- The watcher that has reported is not the one of a connection that is still published.
    rw [bne_iff_ne]
    intro same
    obtain rfl : w' = w := List.inj_on_of_nodup_map guarded.distinct listed watching same
    exact not_publishes_handleLost _ _ _ published generation.symm

/-- When a published connection is gone, its watcher can go on, and what it does is to report the loss. -/
theorem Guarded.reports (guarded : c.Guarded) {i : Nat} {d : Destination} {live : Live}
    (found : c.destinations[i]? = some d) (on : d.live = some live)
    (gone : Transport.isClosed live.handle c.transport = true) :
    ∃ w ∈ c.watchers, c.canStep (.watcher w.id) = true ∧
      (c.step (.watcher w.id)).destinations[i]? = some (d.handleLost live.generation).1 := by
  obtain ⟨w, watching, rfl, handle, generation⟩ := guarded.watched i live ⟨d, found, on⟩
  have looked : c.watchers.find? (·.id == w.id) = some w := find?_of_mem guarded.distinct watching
  have ready : c.watcherReady w = true := by
    rw [watcherReady, handle, gone, Bool.true_or]
  refine ⟨w, watching, ?_, ?_⟩
  · rw [canStep, looked, Option.any_some, ready]
  · have found' : ({ c with watchers := c.watchers.filter (·.id != w.id) } :
        Client T).destinations[w.destination]? = some d := found
    simp only [step, looked, ready, if_true]
    rw [Client.stepWatcher, Client.handleLost, onDestination_of_found found', generation,
      destinations_releaseLost]
    exact found_setDestination found' _

theorem Guarded.act (guarded : c.Guarded) (sound : c.Sound) (a : Action T) : (c.act a).Guarded := by
  by_cases tending : a.Tending
  · refine guarded.kept (k := c.terms True) (tends_act (fun _ _ _ _ => trivial) tending) ((effects_act sound a).retains ?_)
    cases a with
    | step task => cases task <;> simp_all [Action.Tending, Action.deeds]
    | transport => exact absurd tending id
    | _ => simp [Action.deeds]
  · cases a with
    | step task =>
      cases task with
      | attempt id =>
        dsimp only [Client.act, step]
        cases c.attempts.find? (·.id == id) with
        | none => exact guarded
        | some a =>
          dsimp only
          obtain ⟨c₁, tends, retains, same | ⟨d, h, found, kept, published⟩⟩ :=
            handsOver_stepAttempt (k := c.terms True) (a := a) fun d => terms_of_found
          · rw [same]
            exact guarded.kept tends retains
          · rw [published]
            exact (guarded.kept tends retains).published found kept h
      | watcher id =>
        dsimp only [Client.act, step]
        cases watching : c.watchers.find? (·.id == id) with
        | none => exact guarded
        | some w =>
          dsimp only
          split
          · exact guarded.stepWatcher (List.mem_of_find?_eq_some watching)
          · exact guarded
      | supervisor => exact absurd trivial tending
      | call => exact absurd trivial tending
    | transport f => exact ⟨guarded.distinct, guarded.earlier, guarded.watched⟩
    | _ => exact absurd trivial tending

theorem Reachable.guarded (reachable : c.Reachable) : c.Guarded := by
  have both : c.Sound ∧ c.Guarded := by
    refine reachable.induction (P := fun c => c.Sound ∧ c.Guarded) ?_ ?_
    · intro name transport policy
      exact ⟨Reachable.sound ⟨name, transport, policy, [], rfl⟩, guarded_create name transport policy⟩
    · rintro c a ⟨sound, guarded⟩
      exact ⟨sound.act a, guarded.act sound a⟩
  exact both.2

end Guarded

end Client

end Switchboard
