import Switchboard.Proofs.Client.Setup
import Switchboard.Proofs.Lookup

/-!
The steps of changes, and what they do to the destinations that are loaded. A destination that has been
taken out of the table does not come back, and only such a destination is retired.
-/
namespace Switchboard

namespace Client

variable {T : Type} [Transport T]

/-- A change that nothing has been done for. -/
def Change.Whole : Change → Prop
  | .addDestination _ | .addReceiver _ _ | .unload _ => True
  | _ => False

/-- An unloading that has taken its destination out of the table. -/
def Change.Leaves (i : Nat) : Change → Prop
  | .unregister j _ | .flagRetired j | .disconnect j => j = i
  | _ => False

/-- A destination that is not loaded any more. -/
def Gone (c : Client T) (i : Nat) : Prop :=
  i < c.destinations.length ∧ ∀ p ∈ c.table, p.2 ≠ i

/-- The table holds destinations in service, each under its own name. -/
structure Loaded (c : Client T) : Prop where
  distinct : (c.table.map (·.1)).Nodup
  held : ∀ p ∈ c.table, ∃ d, c.destinations[p.2]? = some d ∧ d.name = p.1 ∧ d.retired = false

/-- Every receiver is bound to the destination in service that has its name. -/
structure Consistent (c : Client T) : Prop extends Loaded c where
  bound : ∀ r ∈ c.registry, c.table.lookup r.name = some r.destination

theorem consistent_create (name : String) (transport : T) (policy : Reconnect.Policy) :
    (create name transport policy).Consistent where
  distinct := List.nodup_nil
  held := by simp [create]
  bound := by simp [create]

/-- A destination that is not in the table under its name is in it under none. -/
theorem Loaded.gone {c : Client T} (loaded : c.Loaded) {i : Nat} {name : String}
    (named : c.NamedAt i name) (unlisted : c.table.lookup name ≠ some i) : c.Gone i := by
  obtain ⟨d, there, rfl⟩ := named
  refine ⟨(List.getElem?_eq_some_iff.mp there).1, ?_⟩
  rintro ⟨name, j⟩ listed rfl
  obtain ⟨d', there', same, _⟩ := loaded.held _ listed
  obtain rfl : d = d' := Option.some.inj (there.symm.trans there')
  obtain rfl : d.name = name := same
  exact unlisted (lookup_of_mem loaded.distinct listed)

/-! ### Steps -/

/-- What a step does to the table, the registry and the destinations, and which step comes next. -/
inductive Change.Steps (c : Client T) : Change → Client T → Change → Prop
  /-- The change is over, or it fails. -/
  | ended {change : Change} (loaded : ∀ i, ¬ change.Leaves i) : Change.Steps c change c .finished
  | added {d : Descriptor} (new : c.table.lookup d.name = none) :
    Change.Steps c (.addDestination d)
      { c with
        destinations := c.destinations ++ [{ descriptor := d, created := c.now }]
        table := c.table ++ [(d.name, c.destinations.length)] } .finished
  | found {name : String} {selectors : List Selector} {i : Nat}
    (listed : c.table.lookup name = some i) :
    Change.Steps c (.addReceiver name selectors) c (.register i name selectors)
  | registered {i : Nat} {name : String} {selectors : List Selector} :
    Change.Steps c (.register i name selectors)
      { c with registry := c.registry ++ [⟨i, name, selectors⟩] } .finished
  | removed {name : String} {i : Nat} (listed : c.table.lookup name = some i) :
    Change.Steps c (.unload name) { c with table := c.table.filter (·.1 != name) } (.unregister i name)
  | unregistered {i : Nat} {name : String} :
    Change.Steps c (.unregister i name)
      { c with registry := c.registry.filter (·.name != name) } (.flagRetired i)
  | parted {i : Nat} {change next : Change} {c' : Client T}
    (which : change = .flagRetired i ∧ next = .disconnect i ∨ change = .disconnect i ∧ next = .finished)
    (table : c'.table = c.table) (registry : c'.registry = c.registry)
    (names : ∀ j : Nat, c'.destinations[j]?.map Destination.name = c.destinations[j]?.map Destination.name)
    (others : ∀ j : Nat, j ≠ i → c'.destinations[j]? = c.destinations[j]?) : Change.Steps c change c' next

/-- A change of one destination that leaves its name. -/
theorem parted_onDestination {α : Type} (i : Nat) (absent : α) {f : Destination → Destination × α}
    (named : ∀ d, (f d).1.name = d.name) (c : Client T) :
    (∀ j : Nat, (c.onDestination i absent f).1.destinations[j]?.map Destination.name =
        c.destinations[j]?.map Destination.name) ∧
      ∀ j : Nat, j ≠ i → (c.onDestination i absent f).1.destinations[j]? = c.destinations[j]? := by
  unfold onDestination
  cases there : c.destinations[i]? with
  | none => exact ⟨fun _ => rfl, fun _ _ => rfl⟩
  | some d =>
    constructor
    · intro j
      by_cases same : i = j
      · subst same
        obtain ⟨within, rfl⟩ := List.getElem?_eq_some_iff.mp there
        simp [within, named]
      · simp [List.getElem?_set_ne same]
    · intro j other
      exact List.getElem?_set_ne (Ne.symm other)

theorem steps_step (change : Change) (c : Client T) :
    Change.Steps c change (change.step c).1 (change.step c).2 := by
  cases change with
  | addDestination d =>
    simp only [Change.step, addDestination]
    cases listed : c.table.lookup d.name with
    | some i => exact .ended fun _ => id
    | none => exact .added listed
  | addReceiver name selectors =>
    simp only [Change.step, lookup]
    cases listed : c.table.lookup name with
    | some i => exact .found listed
    | none => exact .ended fun _ => id
  | register i name selectors =>
    simp only [Change.step, register, Registry.register]
    by_cases empty : selectors = []
    · rw [if_pos empty]
      exact .ended fun _ => id
    · rw [if_neg empty]
      cases c.registry.conflict ⟨i, name, selectors⟩ with
      | some s => exact .ended fun _ => id
      | none => exact .registered
  | unload name =>
    simp only [Change.step, removeFromTable, lookup]
    cases listed : c.table.lookup name with
    | some i => exact .removed listed
    | none => exact .ended fun _ => id
  | unregister i name => exact .unregistered
  | flagRetired i =>
    have kept (d : Destination) : (d.markRetired, ()).1.name = d.name := rfl
    obtain ⟨names, others⟩ := parted_onDestination i () kept c
    have aloof := Aloof.of_moves (moves_flagRetired none c i)
    exact .parted (.inl ⟨rfl, rfl⟩) aloof.table aloof.registry names others
  | disconnect i =>
    have kept (d : Destination) : d.disconnect.1.name = d.name := rfl
    obtain ⟨names, others⟩ := parted_onDestination i none kept c
    have aloof := Aloof.of_moves (moves_disconnect none c i)
    have released : (c.disconnect i).destinations =
        (c.onDestination i none Destination.disconnect).1.destinations := by
      unfold Client.disconnect
      generalize c.onDestination i none Destination.disconnect = parted
      obtain ⟨c', h⟩ := parted
      cases h <;> rfl
    refine .parted (.inr ⟨rfl, rfl⟩) aloof.table aloof.registry ?_ ?_
    · intro j
      rw [Change.step, released, names j]
    · intro j other
      rw [Change.step, released, others j other]
  | finished => exact .ended fun _ => id

section Steps

variable {change next : Change} {c c' : Client T}

theorem Change.Steps.gone (steps : Change.Steps c change c' next) {i : Nat} (gone : c.Gone i) :
    c'.Gone i := by
  obtain ⟨within, unlisted⟩ := gone
  cases steps with
  | ended => exact ⟨within, unlisted⟩
  | found => exact ⟨within, unlisted⟩
  | registered => exact ⟨within, unlisted⟩
  | unregistered => exact ⟨within, unlisted⟩
  | added new =>
    refine ⟨by rw [List.length_append]; omega, ?_⟩
    intro p there
    rcases List.mem_append.mp there with old | last
    · exact unlisted p old
    · rw [List.mem_singleton] at last
      subst last
      exact Nat.ne_of_gt within
  | removed => exact ⟨within, fun p there => unlisted p (List.mem_filter.mp there).1⟩
  | parted which table registry names others =>
    refine ⟨?_, fun p there => unlisted p (table ▸ there)⟩
    have named := names i
    rw [List.getElem?_eq_getElem within] at named
    obtain ⟨d, there, _⟩ := Option.map_eq_some_iff.mp named
    exact (List.getElem?_eq_some_iff.mp there).1

theorem Change.Steps.named (steps : Change.Steps c change c' next) {i : Nat} {name : String}
    (named : c.NamedAt i name) : c'.NamedAt i name := by
  obtain ⟨d, there, same⟩ := named
  cases steps with
  | added new =>
    have within := (List.getElem?_eq_some_iff.mp there).1
    exact ⟨d, (List.getElem?_append_left within).trans there, same⟩
  | parted which table registry names others =>
    have kept := names i
    rw [there] at kept
    obtain ⟨d', there', same'⟩ := Option.map_eq_some_iff.mp kept
    exact ⟨d', there', same'.trans same⟩
  | _ => exact ⟨d, there, same⟩

theorem Change.Steps.asked (steps : Change.Steps c change c' next) {other : Change}
    (named : other.Named c) : other.Named c' := by
  cases other with
  | register i name selectors => exact steps.named named
  | _ => trivial

/-- The table stays loaded: only a destination that is gone already is marked. -/
theorem Change.Steps.loaded (steps : Change.Steps c change c' next) (loaded : c.Loaded)
    (leaving : ∀ i, change.Leaves i → c.Gone i) : c'.Loaded := by
  obtain ⟨distinct, held⟩ := loaded
  cases steps with
  | ended => exact ⟨distinct, held⟩
  | found => exact ⟨distinct, held⟩
  | registered => exact ⟨distinct, held⟩
  | unregistered => exact ⟨distinct, held⟩
  | @added d new =>
    constructor
    · rw [List.map_append, List.nodup_append]
      refine ⟨distinct, List.nodup_singleton _, ?_⟩
      rintro _ old _ last rfl
      obtain ⟨p, listed, same⟩ := List.mem_map.mp old
      rw [List.map_singleton, List.mem_singleton] at last
      exact absurd (same.trans last).symm (by simpa using List.lookup_eq_none_iff.mp new p listed)
    · intro p there
      rcases List.mem_append.mp there with old | last
      · obtain ⟨d, found, same, kept⟩ := held p old
        have within := (List.getElem?_eq_some_iff.mp found).1
        exact ⟨d, (List.getElem?_append_left within).trans found, same, kept⟩
      · rw [List.mem_singleton] at last
        subst last
        exact ⟨_, List.getElem?_concat_length, rfl, rfl⟩
  | removed =>
    refine ⟨distinct.sublist (List.filter_sublist.map _), ?_⟩
    exact fun p there => held p (List.mem_filter.mp there).1
  | @parted i _ _ _ which table registry names others =>
    rw [← table] at distinct
    refine ⟨distinct, ?_⟩
    intro p there
    rw [table] at there
    have leaves : change.Leaves i := by
      rcases which with ⟨rfl, _⟩ | ⟨rfl, _⟩ <;> rfl
    rw [others p.2 ((leaving i leaves).2 p there)]
    exact held p there

/-- What the next step is about was there when the change was looked at. -/
theorem Change.Steps.follow (steps : Change.Steps c change c' next) (loaded : c.Loaded)
    (leaving : ∀ i, change.Leaves i → c.Gone i) :
    next.Named c' ∧ ∀ i, next.Leaves i → c'.Gone i := by
  have gone {i : Nat} (leaves : change.Leaves i) : c'.Gone i := steps.gone (leaving i leaves)
  cases steps with
  | ended => exact ⟨trivial, fun _ => False.elim⟩
  | added => exact ⟨trivial, fun _ => False.elim⟩
  | registered => exact ⟨trivial, fun _ => False.elim⟩
  | found listed =>
    obtain ⟨d, there, same, _⟩ := loaded.held _ (mem_of_lookup listed)
    exact ⟨⟨d, there, same⟩, fun _ => False.elim⟩
  | @removed name i listed =>
    refine ⟨trivial, ?_⟩
    rintro _ rfl
    obtain ⟨d, there, same, _⟩ := loaded.held _ (mem_of_lookup listed)
    refine ⟨(List.getElem?_eq_some_iff.mp there).1, ?_⟩
    rintro ⟨other, j⟩ left rfl
    obtain ⟨kept, different⟩ := List.mem_filter.mp left
    obtain ⟨d', there', same', _⟩ := loaded.held _ kept
    obtain rfl : d = d' := Option.some.inj (there.symm.trans there')
    exact absurd (same'.symm.trans same) (by simpa using different)
  | unregistered =>
    refine ⟨trivial, ?_⟩
    rintro _ rfl
    exact gone rfl
  | parted which =>
    rcases which with ⟨rfl, rfl⟩ | ⟨rfl, rfl⟩
    · refine ⟨trivial, ?_⟩
      rintro _ rfl
      exact gone rfl
    · exact ⟨trivial, fun _ => False.elim⟩

end Steps

end Client

end Switchboard
