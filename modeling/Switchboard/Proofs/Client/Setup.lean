import Switchboard.Proofs.Client.Outcomes

/-!
Runs cover the ways in which a client is set up and changed: the client of a configuration can be
reached, and so can whatever adding, unloading and shutting down makes of it, all at once or step by
step.
-/
namespace Switchboard

namespace Client

variable {T : Type} [Transport T]

/-- The table knows destinations by their names. -/
def Tabled (c : Client T) : Prop := ∀ p ∈ c.table, c.NamedAt p.2 p.1

/-- What comes into the table is new. -/
theorem Acted.tabled {c c' : Client T} {a : Action T} (acted : Acted c a c') {p : String × Nat}
    (there : p ∈ c'.table) :
    p ∈ c.table ∨ c.destinations[p.2]? = none ∧ c'.NamedAt p.2 p.1 := by
  cases acted with
  | moved moves =>
    rw [(Aloof.of_moves (moves none)).table] at there
    exact .inl there
  | attempted running moves =>
    rw [(Aloof.of_moves moves).table] at there
    exact .inl there
  | @called id call =>
    rw [(registry_stepCall c id call).2] at there
    exact .inl there
  | requested => exact .inl there
  | @abandoned id call calling =>
    left
    simp only [abandonCall, calling] at there
    cases sending : call.sending? <;> rw [sending] at there <;> exact there
  | @added d new =>
    rcases List.mem_append.mp there with old | here
    · exact .inl old
    · rw [List.mem_singleton] at here
      subst here
      exact .inr ⟨by simp, { descriptor := d, created := c.now }, by simp, rfl⟩
  | removed => exact .inl (List.mem_filter.mp there).1
  | registered => exact .inl there
  | unregistered => exact .inl there

theorem Reachable.tabled {c : Client T} (reachable : c.Reachable) : c.Tabled := by
  suffices both : c.Numbered ∧ c.Tabled from both.2
  refine Reachable.induction (P := fun c => c.Numbered ∧ c.Tabled) ?_ ?_ reachable
  · intro name transport policy
    have new : (create name transport policy).Reachable := ⟨name, transport, policy, [], rfl⟩
    refine ⟨new.numbered, ?_⟩
    intro p there
    cases there
  · rintro c a ⟨numbered, tabled⟩
    refine ⟨numbered.act a, ?_⟩
    intro p there
    rcases (acted_act numbered a).tabled there with old | ⟨_, new⟩
    · exact (tabled p old).act numbered a
    · exact new

theorem lookup_named {c : Client T} {name : String} {i : Nat} (reachable : c.Reachable)
    (found : c.lookup name = .ok i) : c.NamedAt i name := by
  unfold lookup at found
  cases listed : c.table.lookup name with
  | none =>
    rw [listed] at found
    cases found
  | some j =>
    rw [listed] at found
    cases found
    obtain ⟨before, after, split, _⟩ := List.lookup_eq_some_iff.mp listed
    apply reachable.tabled (name, i)
    rw [split]
    exact List.mem_append_right _ List.mem_cons_self

/-! ### Changes -/

namespace Reachable

variable {c c' : Client T}

theorem addDestination {d : Descriptor} {i : Nat} (reachable : c.Reachable)
    (added : c.addDestination d = .ok (c', i)) : c'.Reachable := by
  have next := reachable.act (.addDestination d)
  rw [Client.act, added] at next
  exact next

theorem register {i : Nat} {name : String} {selectors : List Selector} {r : Receiver}
    (reachable : c.Reachable) (named : c.NamedAt i name)
    (registered : c.register i name selectors = .ok (c', r)) : c'.Reachable := by
  obtain ⟨d, found, rfl⟩ := named
  have next := reachable.act (.register i selectors)
  rw [Client.act, found] at next
  dsimp only at next
  rw [registered] at next
  exact next

theorem addReceiver {name : String} {selectors : List Selector} {r : Receiver}
    (reachable : c.Reachable)
    (added : c.addReceiver name selectors = .ok (c', r)) : c'.Reachable := by
  unfold Client.addReceiver at added
  cases found : c.lookup name with
  | error e =>
    rw [found] at added
    cases added
  | ok i =>
    rw [found] at added
    exact reachable.register (lookup_named reachable found) added

theorem removeFromTable {name : String} {i : Nat} (reachable : c.Reachable)
    (removed : c.removeFromTable name = .ok (c', i)) : c'.Reachable := by
  have next := reachable.act (.removeFromTable name)
  rw [Client.act, removed] at next
  exact next

theorem unload {name : String} {n : Nat} (reachable : c.Reachable)
    (unloaded : c.unload name = .ok (c', n)) : c'.Reachable := by
  unfold Client.unload at unloaded
  cases removed : c.removeFromTable name with
  | error e =>
    rw [removed] at unloaded
    cases unloaded
  | ok taken =>
    obtain ⟨c₁, i⟩ := taken
    rw [removed] at unloaded
    cases unloaded
    have unregistered := (reachable.removeFromTable removed).act (.unregister name)
    exact (unregistered.act (.flagRetired i)).act (.disconnect i)

theorem addDestinations {ds : List Config.Destination} (reachable : c.Reachable)
    (added : c.addDestinations ds = .ok c') : c'.Reachable := by
  induction ds generalizing c with
  | nil =>
    cases added
    exact reachable
  | cons d rest ih =>
    unfold Client.addDestinations at added
    cases first : c.addDestination d.descriptor with
    | error e =>
      rw [first] at added
      cases added
    | ok next =>
      rw [first] at added
      exact ih (reachable.addDestination first) added

theorem addReceivers {rs : List Config.Receiver} (reachable : c.Reachable)
    (added : c.addReceivers rs = .ok c') : c'.Reachable := by
  induction rs generalizing c with
  | nil =>
    cases added
    exact reachable
  | cons r rest ih =>
    unfold Client.addReceivers at added
    cases first : c.addReceiver r.destination r.targets with
    | error e =>
      rw [first] at added
      cases added
    | ok next =>
      rw [first] at added
      exact ih (reachable.addReceiver first) added

/-- The client of a configuration can be reached, and with it all that becomes of it in a run. -/
theorem ofConfig {config : Config} {transport : T} {c : Client T}
    (set : ofConfig config transport = .ok c) : c.Reachable := by
  unfold Client.ofConfig at set
  cases valid : config.validate.mapError ClientError.config with
  | error e =>
    rw [valid] at set
    cases set
  | ok =>
    rw [valid] at set
    cases added : (create config.name transport config.reconnect.policy).addDestinations
        config.destinations with
    | error e =>
      simp only [bind, Except.bind, added] at set
      cases set
    | ok c₁ =>
      simp only [bind, Except.bind, added] at set
      have new : (create config.name transport config.reconnect.policy).Reachable :=
        ⟨config.name, transport, config.reconnect.policy, [], rfl⟩
      exact (new.addDestinations added).addReceivers set

end Reachable

/-- A change that has looked its destination up has the right name for it. -/
def Change.Named (c : Client T) : Change → Prop
  | .register i name _ => c.NamedAt i name
  | _ => True

theorem Reachable.change {c : Client T} {change : Change} (reachable : c.Reachable)
    (named : change.Named c) :
    (change.step c).1.Reachable ∧ (change.step c).2.Named (change.step c).1 := by
  cases change with
  | addDestination d =>
    unfold Change.step
    dsimp only
    cases added : c.addDestination d with
    | error e => exact ⟨reachable, trivial⟩
    | ok next => exact ⟨reachable.addDestination added, trivial⟩
  | addReceiver name selectors =>
    unfold Change.step
    dsimp only
    cases found : c.lookup name with
    | error e => exact ⟨reachable, trivial⟩
    | ok i => exact ⟨reachable, lookup_named reachable found⟩
  | register i name selectors =>
    unfold Change.step
    dsimp only
    cases registered : c.register i name selectors with
    | error e => exact ⟨reachable, trivial⟩
    | ok next => exact ⟨reachable.register named registered, trivial⟩
  | unload name =>
    unfold Change.step
    dsimp only
    cases removed : c.removeFromTable name with
    | error e => exact ⟨reachable, trivial⟩
    | ok next => exact ⟨reachable.removeFromTable removed, trivial⟩
  | unregister i name => exact ⟨reachable.act (.unregister name), trivial⟩
  | flagRetired i => exact ⟨reachable.act (.flagRetired i), trivial⟩
  | disconnect i => exact ⟨reachable.act (.disconnect i), trivial⟩
  | finished => exact ⟨reachable, trivial⟩

end Client

end Switchboard
