import Switchboard.Proofs.Invocation.Step
import Switchboard.Proofs.Supervisor.Watch

/-!
Destinations that are down and wait for the supervisor. A scan that comes to one finds it due, since no
attempt has failed since its last connection; and whatever is counted as a loss wakes the supervisor.
-/
namespace Switchboard

/-- Not connected, and no attempt under way. -/
structure Destination.Down (d : Destination) : Prop where
  state : d.state = .disconnected
  idle : d.inFlight = none
  off : d.live = none

/-- An attempt is under way. -/
structure Destination.Busy (d : Destination) : Prop where
  state : d.state = .connecting
  running : d.inFlight.isSome
  off : d.live = none

theorem Destination.Down.undergone {δ : Deed} {d d' : Destination} (down : d.Down)
    (deed : d.Undergoes δ d') (unbegun : δ ≠ .begun) : d'.Down := by
  obtain ⟨state, idle, off⟩ := down
  cases deed with
  | begun => exact absurd rfl unbegun
  | failed running => simp [idle] at running
  | delivered running => simp [idle] at running
  | revoked on => simp [off] at on
  | tornDown => exact ⟨by simp [Destination.disconnect, state], idle, rfl⟩
  | retired => exact ⟨state, idle, off⟩
  | counted => exact ⟨state, idle, off⟩

theorem Destination.Busy.undergone {δ : Deed} {d d' : Destination} (busy : d.Busy)
    (deed : d.Undergoes δ d') (unfailed : δ ≠ .failed) (undelivered : δ ≠ .delivered) : d'.Busy := by
  obtain ⟨state, running, off⟩ := busy
  cases deed with
  | begun _ idle => simp [idle] at running
  | failed => exact absurd rfl unfailed
  | delivered => exact absurd rfl undelivered
  | revoked on => simp [off] at on
  | tornDown => exact ⟨by simp [Destination.disconnect, state], running, rfl⟩
  | retired => exact ⟨state, running, off⟩
  | counted => exact ⟨state, running, off⟩

/-- A destination that is not retired has not been before. -/
theorem Destination.Undergoes.kept {δ : Deed} {d d' : Destination} (deed : d.Undergoes δ d')
    (kept : d'.retired = false) : d.retired = false := by
  cases deed with
  | delivered => cases retired : d.retired <;> simp_all [Destination.publish]
  | revoked on => simpa [Destination.revoke, on] using kept
  | retired => cases kept
  | begun => exact kept
  | failed => exact kept
  | tornDown => exact kept
  | counted => exact kept

theorem Destination.Down.reconnectDue {d : Destination} (down : d.Down) (kept : d.retired = false)
    (unfailed : d.failures = 0) (now : Instant) (policy : Reconnect.Policy) :
    d.reconnectDue now policy = true := by
  unfold Destination.reconnectDue
  rw [down.state, down.idle, kept, unfailed]
  cases d.lastAttempt <;> rfl

namespace Client

theorem Action.deeds_of_begun {T : Type} {a : Action T} (begun : Deed.begun ∈ a.deeds) :
    Deed.failed ∉ a.deeds ∧ Deed.delivered ∉ a.deeds := by
  cases a with
  | step task => cases task <;> simp_all [Action.deeds]
  | _ => simp_all [Action.deeds]

theorem Action.supervised {T : Type} {a : Action T} (other : a.isSupervisor = false) :
    Deed.supervised ∉ a.deeds := by
  cases a with
  | step task => cases task <;> simp_all [Action.deeds, Action.isSupervisor]
  | _ => simp [Action.deeds]

variable {T : Type} [Transport T]

/-! ### Failures -/

/-- Failures are counted from the last connection on, and a failed attempt leaves no destination
disconnected. -/
structure Ledger.Unfailed (l : Ledger) : Prop where
  connected : l.destination.state = .connected → l.destination.failures = 0
  disconnected : l.destination.state = .disconnected → l.destination.retired = false →
    l.destination.failures = 0

theorem Ledger.Unfailed.step {l l' : Ledger} (unfailed : l.Unfailed) (consistent : l.Consistent)
    (step : Ledger.Step l l') : l'.Unfailed := by
  obtain ⟨connected, disconnected⟩ := unfailed
  cases step with
  | begun => constructor <;> simp [Destination.connecting]
  | failed => constructor <;> simp [Destination.recordFailure]
  | published _ kept => constructor <;> simp [Destination.publish, kept]
  | discarded _ retired => constructor <;> simp [Destination.publish, retired]
  | revoked on down =>
    have none : l.destination.failures = 0 := connected (consistent.connected.mpr (by rw [on]; rfl))
    rcases down with rfl | rfl <;> constructor <;> simp [Destination.revoke, on, none]
  | tornDown =>
    constructor
    · by_cases on : l.destination.state = .connected <;> simp [Destination.disconnect, on]
    · by_cases on : l.destination.state = .connected
      · simp [Destination.disconnect, on, connected on]
      · simpa [Destination.disconnect, on] using disconnected
  | retired =>
    refine ⟨connected, ?_⟩
    rintro - ⟨⟩
  | counted => exact ⟨connected, disconnected⟩

/-- What is known of every ledger while the supervisor watches. -/
structure Ledger.Watchable (l : Ledger) : Prop where
  consistent : l.Consistent
  unfailed : l.Unfailed

theorem Ledger.Watchable.blank (d : Descriptor) (created : Instant) :
    (Ledger.blank d created).Watchable :=
  ⟨.blank d created, by constructor <;> simp [Ledger.blank]⟩

theorem Ledger.Watchable.step (l l' : Ledger) (watchable : l.Watchable) (step : Ledger.Step l l') :
    l'.Watchable :=
  ⟨watchable.consistent.step step, watchable.unfailed.step watchable.consistent step⟩

abbrev Watchable : Client T → Prop := Every Ledger.Watchable

theorem Watchable.sound {c : Client T} (watchable : c.Watchable) : c.Sound :=
  watchable.mono fun _ known => known.consistent

theorem Watchable.consistent {c : Client T} (watchable : c.Watchable) {i : Nat} {l : Ledger}
    (held : c.ledger i = some l) : l.Consistent :=
  (watchable.holds i l held).consistent

theorem Watchable.act {c : Client T} (watchable : c.Watchable) (a : Action T) :
    (c.act a).Watchable :=
  Every.act Ledger.Watchable.blank Ledger.Watchable.step watchable a

theorem watchable_create (name : String) (transport : T) (policy : Reconnect.Policy) :
    (create name transport policy).Watchable :=
  every_create name transport policy

theorem Reachable.watchable {c : Client T} (reachable : c.Reachable) : c.Watchable :=
  reachable.every Ledger.Watchable.blank Ledger.Watchable.step

/-! ### The supervisor goes on or is stopped -/

/-- The supervisor has been stopped, or there is none. -/
def Off (c : Client T) : Prop := ∀ s, c.supervisor = some s → s.running = false

/-- A supervisor that has not been stopped goes on. -/
def Roused (c : Client T) : Prop :=
  ∀ s, c.supervisor = some s → s.running = true → s.alive = true

theorem Off.pause {c : Client T} (off : c.Off) : c.pause.Off := by
  intro s' found
  obtain ⟨s, found', rfl⟩ := Option.map_eq_some_iff.mp found
  exact off s found'

theorem Roused.pause {c : Client T} (roused : c.Roused) : c.pause.Roused := by
  intro s' found
  obtain ⟨s, found', rfl⟩ := Option.map_eq_some_iff.mp found
  exact roused s found'

theorem Off.effects {A : List Deed} (others : Deed.supervised ∉ A) {c c' : Client T}
    (effects : Effects A c c') (off : c.Off) : c'.Off := by
  intro s' found'
  obtain ⟨s, found, _, running⟩ := (effects.supervisor others).2 s' found'
  have halted := off s found
  cases on : s'.running with
  | false => rfl
  | true => exact absurd (running on) (by simp [halted])

theorem Roused.effects {A : List Deed} (others : Deed.supervised ∉ A) {c c' : Client T}
    (effects : Effects A c c') (roused : c.Roused) : c'.Roused := by
  intro s' found' on
  obtain ⟨s, found, alive, running⟩ := (effects.supervisor others).2 s' found'
  rw [alive]
  exact roused s found (running on)

theorem Off.act {c : Client T} (sound : c.Sound) (off : c.Off) (a : Action T) : (c.act a).Off := by
  have turned := turned_act c a
  generalize c.act a = c' at turned ⊢
  cases turned with
  | other other => exact off.effects (Action.supervised other) (effects_act sound a)
  | waits => exact off
  | turned supervisor =>
    have halted := off _ supervisor
    rw [stepSupervisor_of_halted halted]
    rintro s' ⟨⟩
    exact halted

theorem Off.run {c : Client T} (sound : c.Sound) (off : c.Off) (actions : List (Action T)) :
    (c.run actions).Off := by
  induction actions generalizing c with
  | nil => exact off
  | cons a rest ih => exact ih (sound.act a) (off.act sound a)

theorem Roused.act {c : Client T} (sound : c.Sound) (roused : c.Roused) (a : Action T) :
    (c.act a).Roused := by
  have turned := turned_act c a
  generalize c.act a = c' at turned ⊢
  cases turned with
  | other other => exact roused.effects (Action.supervised other) (effects_act sound a)
  | waits => exact roused
  | @turned s supervisor =>
    cases running : s.running with
    | false =>
      rw [stepSupervisor_of_halted running]
      rintro s' ⟨⟩ on
      simp [running] at on
    | true =>
      rw [stepSupervisor_of_running supervisor running]
      apply Roused.pause
      intro s'
      rw [supervisor_scan, (unmoved_hear c.signal s c).2.2]
      exact roused s'

theorem roused_create (name : String) (transport : T) (policy : Reconnect.Policy) :
    (create name transport policy).Roused := by
  intro s supervisor _
  unfold create at supervisor
  split at supervisor <;> cases supervisor
  rfl

theorem Reachable.roused {c : Client T} (reachable : c.Reachable) : c.Roused := by
  suffices both : c.Sound ∧ c.Roused from both.2
  refine Reachable.induction (P := fun c => c.Sound ∧ c.Roused) ?_ ?_ reachable
  · intro name transport policy
    exact ⟨every_create name transport policy, roused_create name transport policy⟩
  · rintro c a ⟨sound, roused⟩
    exact ⟨sound.act a, roused.act sound a⟩

/-! ### Destinations that are down -/

/-- An attempt has begun for the destination, and nothing has come of it yet. -/
def Connecting (i : Nat) (c : Client T) : Prop :=
  ∃ d, c.destinations[i]? = some d ∧ d.state = .connecting

/-- A destination is down in both clients, and retired in the second one if it was. -/
def StaysDown (i : Nat) (c c' : Client T) : Prop :=
  ∀ d, c.destinations[i]? = some d → d.Down →
    ∃ d', c'.destinations[i]? = some d' ∧ d'.Down ∧ (d'.retired = false → d.retired = false)

/-- Whatever begins no attempt leaves a destination down. -/
theorem Effects.staysDown {A : List Deed} (unbegun : Deed.begun ∉ A) {c c' : Client T}
    (effects : Effects A c c') (i : Nat) : StaysDown i c c' := by
  intro d found down
  have undergone (δ : Deed) (allowed : δ ∈ A) (d₁ d₂ : Destination) (deed : d₁.Undergoes δ d₂)
      (before : d₁.Down ∧ (d₁.retired = false → d.retired = false)) :
      d₂.Down ∧ (d₂.retired = false → d.retired = false) := by
    have unbegun := ne_of_mem_of_not_mem allowed unbegun
    exact ⟨before.1.undergone deed unbegun, fun kept => before.2 (deed.kept kept)⟩
  exact effects.kept undergone found ⟨down, fun kept => kept⟩

/-- Whatever ends no attempt leaves a destination down or begins an attempt for it. -/
theorem Effects.downOrConnecting {A : List Deed} (unfailed : Deed.failed ∉ A)
    (undelivered : Deed.delivered ∉ A) {c c' : Client T} (effects : Effects A c c') (i : Nat) :
    Connecting i c' ∨ StaysDown i c c' := by
  by_cases connecting : Connecting i c'
  · exact .inl connecting
  right
  intro d found down
  have undergone (δ : Deed) (allowed : δ ∈ A) (d₁ d₂ : Destination) (deed : d₁.Undergoes δ d₂)
      (before : d₁.Busy ∨ d₁.Down ∧ (d₁.retired = false → d.retired = false)) :
      d₂.Busy ∨ d₂.Down ∧ (d₂.retired = false → d.retired = false) := by
    have unfailed := ne_of_mem_of_not_mem allowed unfailed
    have undelivered := ne_of_mem_of_not_mem allowed undelivered
    rcases before with busy | ⟨down, kept⟩
    · exact .inl (busy.undergone deed unfailed undelivered)
    · by_cases begun : δ = .begun
      · subst begun
        cases deed with
        | begun => exact .inl ⟨rfl, rfl, down.off⟩
      · exact .inr ⟨down.undergone deed begun, fun kept' => kept (deed.kept kept')⟩
  obtain ⟨d', found', busy | stays⟩ := effects.kept undergone found (.inr ⟨down, fun kept => kept⟩)
  · exact absurd ⟨d', found', busy.state⟩ connecting
  · exact ⟨d', found', stays⟩

/-- An action does not both begin an attempt and end it. -/
theorem downOrConnecting_act {c : Client T} (sound : c.Sound) (a : Action T) (i : Nat) :
    Connecting i (c.act a) ∨ StaysDown i c (c.act a) := by
  have effects := effects_act sound a
  by_cases begun : Deed.begun ∈ a.deeds
  · obtain ⟨unfailed, undelivered⟩ := Action.deeds_of_begun begun
    exact effects.downOrConnecting unfailed undelivered i
  · exact .inr (effects.staysDown begun i)

/-- A destination is down, and the supervisor comes to it soon unless it is out of service. -/
def Awaited (i : Nat) (soon : Prop) (c : Client T) : Prop :=
  ∃ d, c.destinations[i]? = some d ∧ d.Down ∧
    (d.retired = false → i ∈ c.loaded → c.Off ∨ soon)

theorem loaded_act {c : Client T} (numbered : c.Numbered) (a : Action T) {i : Nat} {d : Destination}
    (found : c.destinations[i]? = some d) (there : i ∈ (c.act a).loaded) : i ∈ c.loaded := by
  obtain ⟨p, listed, rfl⟩ := List.mem_map.mp there
  rcases (acted_act numbered a).tabled listed with old | ⟨missing, _⟩
  · exact List.mem_map_of_mem old
  · rw [missing] at found
    cases found

theorem Awaited.act {c : Client T} (watchable : c.Watchable) {a : Action T}
    (other : a.isSupervisor = false) {i : Nat} {soon soon' : Prop} (awaited : c.Awaited i soon)
    (later : soon → soon') : Connecting i (c.act a) ∨ (c.act a).Awaited i soon' := by
  have effects := effects_act watchable.sound a
  refine (downOrConnecting_act watchable.sound a i).imp_right fun stays => ?_
  obtain ⟨d, found, down, expected⟩ := awaited
  obtain ⟨d', found', down', kept⟩ := stays d found down
  refine ⟨d', found', down', fun kept' there => ?_⟩
  have before := expected (kept kept') (loaded_act watchable.numbered a found there)
  exact before.imp (Off.effects (Action.supervised other) effects) later

/-! ### Attempts that begin -/

theorem connecting_beginConnect {c : Client T} {i : Nat} {d : Destination}
    (found : c.destinations[i]? = some d) (down : d.Down) (kept : d.retired = false) :
    Connecting i (c.beginConnect i).1 := by
  have asked := beginConnect_asked found
  generalize c.beginConnect i = asking at asked ⊢
  cases asked with
  | connected on => simp [down.state] at on
  | joined _ running => simp [down.idle] at running
  | refused _ _ retired => simp [kept] at retired
  | started => exact ⟨_, found_setDestination found _, rfl⟩

theorem connecting_foldl {is : List Nat} {c : Client T} {i : Nat} {d : Destination}
    (found : c.destinations[i]? = some d) (down : d.Down) (kept : d.retired = false)
    (there : i ∈ is) : Connecting i (is.foldl (fun c i => (c.beginConnect i).1) c) := by
  induction is generalizing c with
  | nil => cases there
  | cons j rest ih =>
    rw [List.foldl_cons]
    by_cases here : j = i
    · subst here
      obtain ⟨d', found', state⟩ := connecting_beginConnect found down kept
      have effects := effects_foldl (A := [.begun])
        (effects_beginConnect (T := T) List.mem_cons_self) rest (c.beginConnect j).1
      refine effects.kept (P := fun d => d.state = .connecting) ?_ found' state
      intro δ allowed d₁ d₂ deed _
      obtain rfl := List.mem_singleton.mp allowed
      cases deed with
      | begun => rfl
    · have same : (c.beginConnect j).1.destinations[i]? = some d := by
        rw [elsewhere_beginConnect c (Ne.symm here), found]
      exact ih same ((List.mem_cons.mp there).resolve_left (Ne.symm here))

theorem Watchable.unfailed {c : Client T} (watchable : c.Watchable) {i : Nat} {d : Destination}
    (found : c.destinations[i]? = some d) (down : d.Down) (kept : d.retired = false) :
    d.failures = 0 :=
  (watchable.holds i _ (ledger_of_found found)).unfailed.disconnected down.state kept

/-- A scan begins an attempt for every loaded destination that is down. -/
theorem connecting_scan {c : Client T} (watchable : c.Watchable) {i : Nat} {d : Destination}
    (found : c.destinations[i]? = some d) (down : d.Down) (kept : d.retired = false)
    (there : i ∈ c.loaded) (policy : Reconnect.Policy) : Connecting i (c.scan policy).1 := by
  have due : i ∈ c.due policy := by
    have none := watchable.unfailed found down kept
    exact List.mem_filter.mpr ⟨there, by simp [found, down.reconnectDue kept none]⟩
  exact connecting_foldl found down kept due

theorem Awaited.stepSupervisor {c : Client T} (watchable : c.Watchable) {s : Supervisor}
    (supervisor : c.supervisor = some s) {i : Nat} {soon soon' : Prop}
    (awaited : c.Awaited i soon) :
    Connecting i (c.stepSupervisor s) ∨ (c.stepSupervisor s).Awaited i soon' := by
  have effects := effects_stepSupervisor (A := [.begun, .supervised]) (by simp) (by simp) c s
  have changed := effects.downOrConnecting (by simp) (by simp) i
  refine changed.imp_right fun stays => ?_
  obtain ⟨d, found, down, -⟩ := awaited
  obtain ⟨d', found', down', kept⟩ := stays d found down
  refine ⟨d', found', down', fun kept' there => ?_⟩
  clear effects changed stays
  cases running : s.running with
  | false =>
    left
    rw [stepSupervisor_of_halted running]
    rintro s' ⟨⟩
    exact running
  | true =>
    -- The scan would have begun an attempt for it.
    rw [stepSupervisor_of_running supervisor running] at found' there
    obtain ⟨unmoved, table, -⟩ := unmoved_hear c.signal s c
    have found₁ := unmoved.destinations ▸ found
    have same := (Aloof.of_moves (moves_scan none (c.hear c.signal s) s.policy)).table
    have there₁ : i ∈ (c.hear c.signal s).loaded := by
      unfold loaded at there ⊢
      rwa [← same]
    obtain ⟨d₁, found₂, state⟩ :=
      connecting_scan (watchable.unmoved unmoved) found₁ down (kept kept') there₁ s.policy
    obtain rfl : d₁ = d' := Option.some.inj (found₂.symm.trans found')
    exact absurd (state.symm.trans down'.state) (by simp)

theorem Awaited.act_any {c : Client T} (watchable : c.Watchable) {i : Nat}
    (awaited : c.Awaited i (c.signal = true)) (a : Action T) :
    Connecting i (c.act a) ∨ (c.act a).Awaited i ((c.act a).signal = true) := by
  have turned := turned_act c a
  have effects := effects_act watchable.sound a
  have acted (other : a.isSupervisor = false) :=
    awaited.act watchable other (effects.supervisor (Action.supervised other)).1
  generalize c.act a = c' at turned acted ⊢
  cases turned with
  | other other => exact acted other
  | waits => exact .inr awaited
  | turned supervisor => exact awaited.stepSupervisor watchable supervisor

theorem Awaited.run {c : Client T} (watchable : c.Watchable) {i : Nat}
    (awaited : c.Awaited i (c.signal = true)) (actions : List (Action T)) :
    (∃ first later, actions = first ++ later ∧ Connecting i (c.run first)) ∨
      (c.run actions).Awaited i ((c.run actions).signal = true) := by
  induction actions generalizing c with
  | nil => exact .inr awaited
  | cons a rest ih =>
    rcases awaited.act_any watchable a with connecting | awaited'
    · exact .inl ⟨[a], rest, rfl, connecting⟩
    · refine (ih (watchable.act a) awaited').imp_left ?_
      rintro ⟨first, later, rfl, connecting⟩
      exact ⟨a :: first, later, rfl, connecting⟩

/-! ### Losses -/

/-- A connection was published, and now the destination is disconnected and one loss more is counted. -/
def Loses (i : Nat) (c c' : Client T) : Prop :=
  ∃ d d', c.destinations[i]? = some d ∧ c'.destinations[i]? = some d' ∧ d.state = .connected ∧
    d'.state = .disconnected ∧ d'.stats.disconnects = d.stats.disconnects + 1

theorem Loses.changed {c c' : Client T} {i : Nat} (loses : Loses i c c') {d : Destination}
    (found : c.destinations[i]? = some d) :
    ¬∃ d', c'.destinations[i]? = some d' ∧ d'.stats.disconnects = d.stats.disconnects := by
  rintro ⟨d', found', same⟩
  obtain ⟨d₁, d₂, found₁, found₂, -, -, one⟩ := loses
  obtain rfl : d = d₁ := by simpa [found] using found₁
  obtain rfl : d' = d₂ := by simpa [found'] using found₂
  rw [same] at one
  exact absurd one (by simp)

/-- The supervisor is told of every loss. -/
theorem Loses.told {c : Client T} (watchable : c.Watchable) {a : Action T} {i : Nat}
    (loses : Loses i c (c.act a)) : a.isSupervisor = false ∧ (c.act a).signal = true := by
  have effects := effects_act watchable.sound a
  obtain ⟨d, d', found, found', -⟩ := id loses
  have unchanged := loses.changed found
  have revoked : Deed.revoked ∈ a.deeds := by
    by_contra unreported
    exact unchanged (effects.disconnects unreported found)
  have other : a.isSupervisor = false := by
    cases supervisor : a.isSupervisor with
    | false => rfl
    | true =>
      obtain rfl := Action.eq_of_isSupervisor supervisor
      simp [Action.deeds] at revoked
  refine ⟨other, (effects.told (Action.supervised other) found found').resolve_right fun same => ?_⟩
  exact unchanged ⟨d', found', same⟩

theorem Loses.awaited {c c' : Client T} (watchable : c'.Watchable) {i : Nat} (loses : Loses i c c')
    {soon : Prop} (told : soon) : c'.Awaited i soon := by
  obtain ⟨-, d, -, found, -, state, -⟩ := loses
  have consistent := (watchable.holds i _ (ledger_of_found found)).consistent
  have connected := consistent.connected
  have connecting := consistent.connecting
  simp only [state, reduceCtorEq, false_iff, Bool.not_eq_true, Option.isSome_eq_false_iff,
    Option.isNone_iff_eq_none] at connected connecting
  exact ⟨d, found, ⟨state, connecting, connected⟩, fun _ _ => .inr told⟩

/-! ### Rest -/

/-- Nothing can go on at this moment, and no destination is halfway out of service. -/
structure AtRest (c : Client T) : Prop where
  still : ∀ task ∈ c.tasks, c.canStep task = false
  settled : ∀ i d, c.destinations[i]? = some d → d.retired = true ∨ i ∈ c.loaded

theorem AtRest.signal {c : Client T} (atRest : c.AtRest) (roused : c.Roused) {s : Supervisor}
    (supervisor : c.supervisor = some s) (running : s.running = true) : c.signal = false := by
  have alive := roused s supervisor running
  have listed : TaskId.supervisor ∈ c.tasks := by
    simp [tasks, supervisor, alive]
  have waits := atRest.still _ listed
  cases signal : c.signal with
  | false => rfl
  | true =>
    cases next : s.next <;>
      simp [canStep, supervisorReady, supervisor, alive, signal, next] at waits

/-- At rest the supervisor has not come to hear of anything soon. -/
theorem AtRest.not_awaited {c : Client T} (atRest : c.AtRest) {s : Supervisor}
    (supervisor : c.supervisor = some s) (running : s.running = true) {i : Nat} {d : Destination}
    (found : c.destinations[i]? = some d) (kept : d.retired = false) {soon : Prop} (none : ¬soon) :
    ¬c.Awaited i soon := by
  rintro ⟨d', found', -, expected⟩
  obtain rfl : d = d' := by simpa [found] using found'
  have there := (atRest.settled i d found).resolve_left (by simp [kept])
  rcases expected kept there with off | soon
  · simp [off s supervisor] at running
  · exact none soon

/-- A wake-up that has gone was taken by the supervisor, which then has scanned. -/
theorem scanned {c : Client T} (sound : c.Sound) (told : c.signal = true) {actions : List (Action T)}
    (quiet : (c.run actions).signal = false) (on : ¬(c.run actions).Off) :
    ∃ first later s, actions = first ++ .step .supervisor :: later ∧
      (c.run first).supervisor = some s ∧ s.running = true ∧
      (c.run first).supervisorReady s = true := by
  induction actions generalizing c with
  | nil => simp [told] at quiet
  | cons a rest ih =>
    cases still : (c.act a).signal with
    | true =>
      obtain ⟨first, later, s, rfl, scans⟩ := ih (sound.act a) still quiet on
      exact ⟨a :: first, later, s, rfl, scans⟩
    | false =>
      have turned := turned_act c a
      have begun : ¬c.Off := fun off => on (off.run sound (a :: rest))
      have kept (other : a.isSupervisor = false) : (c.act a).signal = true :=
        ((effects_act sound a).supervisor (Action.supervised other)).1 told
      generalize c.act a = c' at turned still kept
      cases turned with
      | other other => exact absurd (kept other) (by simp [still])
      | waits => simp [still] at told
      | @turned s supervisor ready =>
        refine ⟨[], rest, s, rfl, supervisor, ?_, ready⟩
        by_contra halted
        rw [Bool.not_eq_true] at halted
        exact begun fun s' found => by rwa [← Option.some.inj (supervisor.symm.trans found)]

end Client

end Switchboard
