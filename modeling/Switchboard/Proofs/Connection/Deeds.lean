import Switchboard.Proofs.Connection.State

/-!
The things that can happen to a destination, by their kinds. An action is a sequence of effects, each of
them one deed at one destination. What no kind of deed takes away is kept by all effects of such kinds;
so is the wake-up for the supervisor: a lost connection raises it, and nobody but the supervisor takes it.
-/
namespace Switchboard

/-- The kinds of deeds. -/
inductive Deed
  | begun
  | failed
  /-- An attempt hands over its handle, which a retired destination does not publish. -/
  | delivered
  | revoked
  | tornDown
  | retired
  /-- A send has ended, and the counters that are not about connections may change. -/
  | counted
  | added
  /-- The supervisor is told to stop. -/
  | stopped
  /-- The supervisor itself goes on. -/
  | supervised
deriving DecidableEq, Repr

/-- What a deed makes of a destination. -/
inductive Destination.Undergoes : Deed → Destination → Destination → Prop
  | begun {d now a} (off : d.state ≠ .connected) (idle : d.inFlight = none)
      (kept : d.retired = false) : Undergoes .begun d (d.connecting now a)
  | failed {d} (running : d.inFlight.isSome) : Undergoes .failed d d.recordFailure
  | delivered {d h} (running : d.inFlight.isSome) (off : d.live = none) :
      Undergoes .delivered d (d.publish h).1
  | revoked {d live next} (on : d.live = some live) (down : next = .disconnected ∨ next = .failed) :
      Undergoes .revoked d (d.revoke live.generation next).1
  | tornDown {d} : Undergoes .tornDown d d.disconnect.1
  | retired {d} : Undergoes .retired d d.markRetired
  | counted {d stats} (attempts : stats.connectAttempts = d.stats.connectAttempts)
      (failures : stats.connectFailures = d.stats.connectFailures)
      (disconnects : stats.disconnects = d.stats.disconnects) :
      Undergoes .counted d { d with stats := stats }

/-- Only taking a lost connection back is counted as a loss. -/
theorem Destination.Undergoes.disconnects {δ : Deed} {d d' : Destination} (deed : d.Undergoes δ d')
    (other : δ ≠ .revoked) : d'.stats.disconnects = d.stats.disconnects := by
  cases deed with
  | begun => rfl
  | failed => rfl
  | delivered => cases retired : d.retired <;> simp [Destination.publish, retired]
  | revoked => exact absurd rfl other
  | tornDown => rfl
  | retired => rfl
  | counted _ _ disconnects => exact disconnects

namespace Client

variable {T : Type} [Transport T]

/-- One deed of an allowed kind, or something that no destination notices. -/
inductive Effect (A : List Deed) (c c' : Client T) : Prop
  | aside (destinations : c'.destinations = c.destinations)
      (supervisor : c'.supervisor = c.supervisor) (signal : c.signal = true → c'.signal = true)
  | did {i d δ d'} (found : c.destinations[i]? = some d) (allowed : δ ∈ A) (deed : d.Undergoes δ d')
      (destinations : c'.destinations = c.destinations.set i d')
      (supervisor : c'.supervisor = c.supervisor) (signal : c.signal = true → c'.signal = true)
      (heard : δ = .revoked → c'.signal = true)
  | added {d : Descriptor} (allowed : Deed.added ∈ A)
      (destinations : c'.destinations = c.destinations ++ [{ descriptor := d, created := c.now }])
      (supervisor : c'.supervisor = c.supervisor) (signal : c.signal = true → c'.signal = true)
  | stopped (allowed : Deed.stopped ∈ A) (destinations : c'.destinations = c.destinations)
      (supervisor : c'.supervisor = c.supervisor.map fun s => { s with running := false })
      (signal : c.signal = true → c'.signal = true)
  | supervised (allowed : Deed.supervised ∈ A) (destinations : c'.destinations = c.destinations)

abbrev Effects (A : List Deed) : Client T → Client T → Prop := Relation.ReflTransGen (Effect A)

/-- What no allowed deed takes from a destination it keeps. -/
theorem Effects.kept {A : List Deed} {P : Destination → Prop}
    (undergone : ∀ δ ∈ A, ∀ d d', d.Undergoes δ d' → P d → P d') {c c' : Client T}
    (effects : Effects A c c') {i : Nat} {d : Destination} (found : c.destinations[i]? = some d)
    (p : P d) : ∃ d', c'.destinations[i]? = some d' ∧ P d' := by
  induction effects with
  | refl => exact ⟨d, found, p⟩
  | @tail c₁ c₂ _ last ih =>
    obtain ⟨d₁, found₁, p₁⟩ := ih
    cases last with
    | aside destinations => exact ⟨d₁, destinations ▸ found₁, p₁⟩
    | @did j d₂ δ d' found₂ allowed deed destinations =>
      rw [destinations]
      by_cases here : j = i
      · subst here
        obtain rfl : d₂ = d₁ := by simpa [found₂] using found₁
        exact ⟨d', found_setDestination found₂ d', undergone δ allowed _ _ deed p₁⟩
      · exact ⟨d₁, by rw [List.getElem?_set_ne here, found₁], p₁⟩
    | added _ destinations =>
      have there := (List.getElem?_eq_some_iff.mp found₁).1
      exact ⟨d₁, by rw [destinations, List.getElem?_append_left there, found₁], p₁⟩
    | stopped _ destinations => exact ⟨d₁, destinations ▸ found₁, p₁⟩
    | supervised _ destinations => exact ⟨d₁, destinations ▸ found₁, p₁⟩

theorem Effects.missing {A : List Deed} {c c' : Client T} (effects : Effects A c c') {i : Nat}
    (missing : c.destinations[i]? = none) (closed : Deed.added ∉ A) :
    c'.destinations[i]? = none := by
  induction effects with
  | refl => exact missing
  | tail _ last ih =>
    cases last with
    | aside destinations => exact destinations ▸ ih
    | @did j d₂ δ d' found₂ allowed deed destinations =>
      rw [destinations, List.getElem?_eq_none_iff, List.length_set]
      exact List.getElem?_eq_none_iff.mp ih
    | added allowed => exact absurd allowed closed
    | stopped _ destinations => exact destinations ▸ ih
    | supervised _ destinations => exact destinations ▸ ih

/-- Only a report of a loss counts one. -/
theorem Effects.disconnects {A : List Deed} (unreported : Deed.revoked ∉ A) {c c' : Client T}
    (effects : Effects A c c') {i : Nat} {d : Destination} (found : c.destinations[i]? = some d) :
    ∃ d', c'.destinations[i]? = some d' ∧ d'.stats.disconnects = d.stats.disconnects := by
  refine effects.kept (P := fun d' => d'.stats.disconnects = d.stats.disconnects) ?_ found rfl
  intro δ allowed d₁ d₂ deed same
  exact (deed.disconnects (ne_of_mem_of_not_mem allowed unreported)).trans same

/-- Nobody but the supervisor takes its wake-up, and nobody else sets it going. -/
theorem Effects.supervisor {A : List Deed} (others : Deed.supervised ∉ A) {c c' : Client T}
    (effects : Effects A c c') :
    (c.signal = true → c'.signal = true) ∧ ∀ s', c'.supervisor = some s' →
      ∃ s, c.supervisor = some s ∧ s'.alive = s.alive ∧ (s'.running = true → s.running = true) := by
  induction effects with
  | refl => exact ⟨fun on => on, fun s found => ⟨s, found, rfl, fun on => on⟩⟩
  | tail _ last ih =>
    obtain ⟨kept, earlier⟩ := ih
    cases last with
    | aside _ supervisor signal => exact ⟨fun on => signal (kept on), supervisor ▸ earlier⟩
    | did _ _ _ _ supervisor signal => exact ⟨fun on => signal (kept on), supervisor ▸ earlier⟩
    | added _ _ supervisor signal => exact ⟨fun on => signal (kept on), supervisor ▸ earlier⟩
    | stopped _ _ supervisor signal =>
      refine ⟨fun on => signal (kept on), ?_⟩
      intro s' found'
      rw [supervisor, Option.map_eq_some_iff] at found'
      obtain ⟨s₁, found₁, rfl⟩ := found'
      obtain ⟨s, found, alive, _⟩ := earlier s₁ found₁
      exact ⟨s, found, alive, nofun⟩
    | supervised allowed => exact absurd allowed others

/-- Whoever counts a loss wakes the supervisor. -/
theorem Effects.told {A : List Deed} (others : Deed.supervised ∉ A) {c c' : Client T}
    (effects : Effects A c c') {i : Nat} {d d' : Destination} (found : c.destinations[i]? = some d)
    (found' : c'.destinations[i]? = some d') :
    c'.signal = true ∨ d'.stats.disconnects = d.stats.disconnects := by
  induction effects generalizing d' with
  | refl =>
    obtain rfl : d = d' := by simpa [found] using found'
    exact .inr rfl
  | @tail c₁ c₂ first last ih =>
    obtain ⟨d₁, found₁, -⟩ := Effects.kept (P := fun _ => True) (fun _ _ _ _ _ _ => trivial) first
      found trivial
    have before := ih found₁
    have unchanged (same : c₂.destinations[i]? = c₁.destinations[i]?)
        (signal : c₁.signal = true → c₂.signal = true) :
        c₂.signal = true ∨ d'.stats.disconnects = d.stats.disconnects := by
      obtain rfl : d₁ = d' := by simpa [same, found₁] using found'
      exact before.imp_left signal
    cases last with
    | aside destinations _ signal => exact unchanged (by rw [destinations]) signal
    | @did j d₂ δ d₃ found₂ allowed deed destinations _ signal heard =>
      by_cases here : j = i
      · subst here
        obtain rfl : d₂ = d₁ := by simpa [found₂] using found₁
        obtain rfl : d₃ = d' := by simpa [destinations, length_of_found found₂] using found'
        rcases before with on | same
        · exact .inl (signal on)
        · by_cases lost : δ = .revoked
          · exact .inl (heard lost)
          · exact .inr ((deed.disconnects lost).trans same)
      · exact unchanged (by rw [destinations, List.getElem?_set_ne here]) signal
    | added _ destinations _ signal =>
      have there := length_of_found found₁
      exact unchanged (by rw [destinations, List.getElem?_append_left there]) signal
    | stopped _ destinations _ signal => exact unchanged (by rw [destinations]) signal
    | supervised allowed => exact absurd allowed others

/-- State, handle, attempt and generation of every destination agree. -/
abbrev Sound : Client T → Prop := Every Ledger.Consistent

theorem Reachable.sound {c : Client T} (reachable : c.Reachable) : c.Sound :=
  reachable.every Ledger.Consistent.blank fun _ _ consistent step => consistent.step step

theorem Sound.act {c : Client T} (sound : c.Sound) (a : Action T) : (c.act a).Sound :=
  Every.act Ledger.Consistent.blank (fun _ _ consistent step => consistent.step step) sound a

theorem Sound.run {c : Client T} (sound : c.Sound) (actions : List (Action T)) :
    (c.run actions).Sound :=
  Every.run Ledger.Consistent.blank (fun _ _ consistent step => consistent.step step) sound actions

end Client

end Switchboard
