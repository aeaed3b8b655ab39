import Switchboard.Client.Setup
import Switchboard.Proofs.Config.Faults
import Switchboard.Proofs.Lookup
import Switchboard.Proofs.Registry.Conflict
import Switchboard.Transport.InProcess

/-!
Clients made from configurations. What a valid configuration names can all be added, in its order. Only
receivers that claim a target twice are found out by the registry, and by nobody before it.
-/
namespace Switchboard

/-! ### Valid configurations -/

namespace Config

theorem valid_parts {config : Config} (valid : config.validate = .ok ()) :
    (config.destinations.map (·.name)).Nodup ∧
      ∀ r ∈ config.receivers, r.destination ∈ config.destinations.map (·.name) ∧ r.targets ≠ [] := by
  obtain ⟨-, -, distinct, receivers, -, -⟩ := validate_eq_ok.mp valid
  refine ⟨distinct, fun r listed => ⟨?_, (receivers r listed).2⟩⟩
  obtain ⟨d, named, same⟩ := (receivers r listed).1
  exact List.mem_map.mpr ⟨d, named, same⟩

/-- Two receivers do not claim the same at one destination. -/
def Receiver.Apart (earlier later : Receiver) : Prop :=
  earlier.destination = later.destination → ∀ s ∈ later.targets, s ∉ earlier.targets

instance (earlier later : Receiver) : Decidable (earlier.Apart later) :=
  inferInstanceAs (Decidable (_ → ∀ s ∈ later.targets, _))

end Config

namespace Client

variable {T : Type} [Transport T]

/-! ### Destinations -/

theorem addDestinations_ok {ds : List Config.Destination} {c : Client T}
    (distinct : (ds.map (·.name)).Nodup) (new : ∀ d ∈ ds, c.table.lookup d.name = none) :
    c.addDestinations ds = .ok { c with
      destinations := c.destinations ++
        ds.map fun d => { descriptor := d.descriptor, created := c.now }
      table := c.table ++ (ds.map (·.name)).zipIdx c.destinations.length } := by
  induction ds generalizing c with
  | nil => simp [addDestinations]
  | cons d rest ih =>
    rw [List.map_cons, List.nodup_cons] at distinct
    have absent : c.table.lookup d.descriptor.name = none := new d List.mem_cons_self
    let next : Client T := { c with
      destinations := c.destinations ++ [{ descriptor := d.descriptor, created := c.now }]
      table := c.table ++ [(d.name, c.destinations.length)] }
    have added : c.addDestination d.descriptor = .ok (next, c.destinations.length) := by
      simp [addDestination, absent]
      rfl
    have later : ∀ other ∈ rest, next.table.lookup other.name = none := by
      intro other listed
      have different : other.name ≠ d.name := by
        intro same
        exact distinct.1 (same ▸ List.mem_map_of_mem listed)
      rw [lookup_concat_of_ne different, new other (List.mem_cons_of_mem d listed)]
    rw [addDestinations, added]
    simp [bind, Except.bind, ih distinct.2 later, next]

/-! ### Receivers -/

/-- The receiver that a configured one becomes. -/
def bound (table : List (String × Nat)) (r : Config.Receiver) : Receiver :=
  ⟨(table.lookup r.destination).getD 0, r.destination, r.targets⟩

theorem addReceiver_eq {c : Client T} {r : Config.Receiver}
    (known : (c.table.lookup r.destination).isSome) (filled : r.targets ≠ []) :
    c.addReceiver r.destination r.targets =
      match c.registry.conflict (bound c.table r) with
      | none => .ok ({ c with registry := c.registry ++ [bound c.table r] }, bound c.table r)
      | some s => .error (.registry (.duplicateTarget r.destination s.text)) := by
  obtain ⟨i, found⟩ := Option.isSome_iff_exists.mp known
  have receiver : bound c.table r = ⟨i, r.destination, r.targets⟩ := by
    rw [bound, found]
    rfl
  rw [receiver]
  simp only [addReceiver, lookup, found, bind, Except.bind, register, Registry.register, filled,
    if_false]
  cases c.registry.conflict ⟨i, r.destination, r.targets⟩ <;> rfl

section Receivers

variable {rs : List Config.Receiver} {c : Client T}

theorem addReceivers_ok (known : ∀ r ∈ rs, (c.table.lookup r.destination).isSome)
    (filled : ∀ r ∈ rs, r.targets ≠ [])
    (apart : (c.registry ++ rs.map (bound c.table)).Pairwise Receiver.Apart) :
    c.addReceivers rs = .ok { c with registry := c.registry ++ rs.map (bound c.table) } := by
  induction rs generalizing c with
  | nil => simp [addReceivers]
  | cons r rest ih =>
    have free : c.registry.conflict (bound c.table r) = none := by
      rw [Registry.conflict_none]
      intro held listed
      exact (List.pairwise_append.mp apart).2.2 held listed _ List.mem_cons_self
    let next : Client T := { c with registry := c.registry ++ [bound c.table r] }
    have added : c.addReceiver r.destination r.targets = .ok (next, bound c.table r) := by
      rw [addReceiver_eq (known r List.mem_cons_self) (filled r List.mem_cons_self), free]
    have rearranged : next.registry ++ rest.map (bound next.table) =
        c.registry ++ (r :: rest).map (bound c.table) := by simp [next]
    have later := @ih next (fun other listed => known other (List.mem_cons_of_mem r listed))
      (fun other listed => filled other (List.mem_cons_of_mem r listed)) (rearranged ▸ apart)
    rw [rearranged] at later
    rw [addReceivers, added]
    exact later

/-- The first receiver that claims something twice is the one reported. -/
theorem addReceivers_clash (known : ∀ r ∈ rs, (c.table.lookup r.destination).isSome)
    (filled : ∀ r ∈ rs, r.targets ≠ []) (before : c.registry.Pairwise Receiver.Apart)
    (clash : ¬ (c.registry ++ rs.map (bound c.table)).Pairwise Receiver.Apart) :
    ∃ earlier later s, [earlier, later].Sublist (c.registry ++ rs.map (bound c.table)) ∧
      earlier.name = later.name ∧ s ∈ earlier.selectors ∧ s ∈ later.selectors ∧
      c.addReceivers rs = .error (.registry (.duplicateTarget later.name s.text)) := by
  induction rs generalizing c with
  | nil => exact absurd (by simpa using before) clash
  | cons r rest ih =>
    have step := addReceiver_eq (known r List.mem_cons_self) (filled r List.mem_cons_self)
    cases found : c.registry.conflict (bound c.table r) with
    | some s =>
      obtain ⟨held, listed, same, claimed, twice⟩ := Registry.conflict_some found
      refine ⟨held, bound c.table r, s, ?_, same, claimed, twice, ?_⟩
      · have first : [held].Sublist c.registry := List.singleton_sublist.mpr listed
        have second : [bound c.table r].Sublist ((r :: rest).map (bound c.table)) :=
          List.singleton_sublist.mpr List.mem_cons_self
        exact first.append second
      · rw [addReceivers, step, found]
        rfl
    | none =>
      let next : Client T := { c with registry := c.registry ++ [bound c.table r] }
      have free := Registry.conflict_none.mp found
      have kept : next.registry.Pairwise Receiver.Apart := by
        rw [List.pairwise_append]
        refine ⟨before, List.pairwise_singleton _ _, ?_⟩
        intro held listed other there
        rw [List.mem_singleton] at there
        exact there ▸ free held listed
      have rearranged : next.registry ++ rest.map (bound next.table) =
          c.registry ++ (r :: rest).map (bound c.table) := by simp [next]
      have later := @ih next (fun other listed => known other (List.mem_cons_of_mem r listed))
        (fun other listed => filled other (List.mem_cons_of_mem r listed)) kept
        (rearranged ▸ clash)
      rw [rearranged] at later
      obtain ⟨earlier, later, s, listed, same, claimed, twice, fails⟩ := later
      refine ⟨earlier, later, s, listed, same, claimed, twice, ?_⟩
      rw [addReceivers, step, found]
      exact fails

end Receivers

/-! ### Configurations -/

/-- A client holds what its configuration names: every destination, disconnected, and the receivers in
their order, each bound to the destination of its name. -/
structure Holds (config : Config) (c : Client T) : Prop where
  names : c.table.map (·.1) = config.destinations.map (·.name)
  destinations : ∀ d ∈ config.destinations, ∃ i held, c.table.lookup d.name = some i ∧
    c.destinations[i]? = some held ∧ held.descriptor = d.descriptor ∧ held.state = .disconnected
  receivers : c.registry.map (fun r => (r.name, r.selectors)) =
    config.receivers.map fun r => (r.destination, r.targets)
  bindings : ∀ r ∈ c.registry, c.table.lookup r.name = some r.destination

/-- The client of a configuration before its receivers are added. -/
def unclaimed (config : Config) (transport : T) : Client T :=
  { create config.name transport config.reconnect.policy with
    destinations := config.destinations.map fun d => { descriptor := d.descriptor }
    table := (config.destinations.map (·.name)).zipIdx }

section Configurations

variable {config : Config}

theorem lookup_unclaimed (transport : T) (distinct : (config.destinations.map (·.name)).Nodup)
    {i : Nat} {d : Config.Destination} (there : config.destinations[i]? = some d) :
    (unclaimed config transport).table.lookup d.name = some i := by
  have named : (config.destinations.map (·.name))[i]? = some d.name := by
    rw [List.getElem?_map, there]
    rfl
  exact lookup_zipIdx distinct named

theorem ofConfig_valid (transport : T) (valid : config.validate = .ok ()) :
    ofConfig config transport = (unclaimed config transport).addReceivers config.receivers := by
  have distinct := (Config.valid_parts valid).1
  have added : (create config.name transport config.reconnect.policy).addDestinations
      config.destinations = .ok (unclaimed config transport) := by
    rw [addDestinations_ok distinct fun _ _ => rfl]
    simp [unclaimed, create]
  rw [ofConfig, valid]
  simp [bind, Except.bind, Except.mapError, added]

theorem holds_bound (transport : T) (valid : config.validate = .ok ()) :
    Holds config { unclaimed config transport with
      registry := config.receivers.map (bound (unclaimed config transport).table) } := by
  obtain ⟨distinct, receivers⟩ := Config.valid_parts valid
  have found {d : Config.Destination} (listed : d ∈ config.destinations) : ∃ i,
      config.destinations[i]? = some d ∧ (unclaimed config transport).table.lookup d.name = some i := by
    obtain ⟨i, there⟩ := List.mem_iff_getElem?.mp listed
    exact ⟨i, there, lookup_unclaimed transport distinct there⟩
  constructor
  · simp [unclaimed, List.zipIdx_map_fst]
  · intro d listed
    obtain ⟨i, there, known⟩ := found listed
    refine ⟨i, { descriptor := d.descriptor }, known, ?_, rfl, rfl⟩
    simp [unclaimed, there]
  · simp [bound]
  · intro r listed
    obtain ⟨configured, there, rfl⟩ := List.mem_map.mp listed
    obtain ⟨d, named, same⟩ := List.mem_map.mp (receivers configured there).1
    obtain ⟨i, _, known⟩ := found named
    rw [same] at known
    simp only [bound, known]
    rfl

end Configurations

/-- A valid configuration whose receivers claim nothing twice makes a client that holds what it names.
If a receiver claims what one before it claims at the same destination, that is the only thing to be
wrong with it. -/
theorem valid_loads (config : Config) (transport : T) (valid : config.validate = .ok ()) :
    (config.receivers.Pairwise Config.Receiver.Apart →
        ∃ c, ofConfig config transport = .ok c ∧ Holds config c) ∧
      (¬ config.receivers.Pairwise Config.Receiver.Apart →
        ∃ earlier later s, [earlier, later].Sublist config.receivers ∧
          earlier.destination = later.destination ∧ s ∈ earlier.targets ∧ s ∈ later.targets ∧
          ofConfig config transport =
            .error (.registry (.duplicateTarget later.destination s.text))) := by
  obtain ⟨distinct, receivers⟩ := Config.valid_parts valid
  let c := unclaimed config transport
  have filled : ∀ r ∈ config.receivers, r.targets ≠ [] := fun r listed => (receivers r listed).2
  have known : ∀ r ∈ config.receivers, (c.table.lookup r.destination).isSome := by
    intro r listed
    obtain ⟨d, named, same⟩ := List.mem_map.mp (receivers r listed).1
    obtain ⟨i, there⟩ := List.mem_iff_getElem?.mp named
    rw [← same, lookup_unclaimed transport distinct there]
    rfl
  have apart : (c.registry ++ config.receivers.map (bound c.table)).Pairwise Receiver.Apart ↔
      config.receivers.Pairwise Config.Receiver.Apart := List.pairwise_map
  rw [ofConfig_valid transport valid]
  constructor
  · intro disjoint
    exact ⟨_, addReceivers_ok known filled (apart.mpr disjoint), holds_bound transport valid⟩
  · intro overlapping
    obtain ⟨earlier, later, s, listed, same, claimed, twice, fails⟩ :=
      addReceivers_clash known filled List.Pairwise.nil (fun disjoint => overlapping (apart.mp disjoint))
    obtain ⟨pair, within, split⟩ := List.sublist_map_iff.mp listed
    rcases pair with _ | ⟨e, _ | ⟨l, _ | ⟨_, _⟩⟩⟩ <;> cases split
    exact ⟨e, l, s, within, same, claimed, twice, fails⟩

/-- Two destinations of which each is claimed the same module. -/
theorem valid_loads_pair :
    let b : Config.Destination := { name := "b", host := "b", port := 1 }
    let config : Config :=
      { destinations := [b, { b with name := "a" }],
        receivers := [⟨"a", [⟨"m", "*", "*"⟩]⟩, ⟨"b", [⟨"n", "*", "*"⟩, ⟨"m", "*", "*"⟩]⟩] }
    ∃ c, ofConfig config ({} : InProcess) = .ok c ∧ Holds config c := by
  intro b config
  have valid : config.validate = .ok () := rfl
  exact (valid_loads config ({} : InProcess) valid).1 (by decide)

/-- A configuration is valid even if no client can be made from it: two receivers of one destination
claim the same module. -/
theorem valid_clash :
    let config : Config :=
      { destinations := [{ name := "b", host := "b", port := 1 }],
        receivers := [⟨"b", [⟨"m", "*", "*"⟩]⟩, ⟨"b", [⟨"n", "*", "*"⟩, ⟨"m", "*", "*"⟩]⟩],
        reconnect := { enabled := false } }
    config.validate = .ok () ∧
      ofConfig config ({} : InProcess) = .error (.registry (.duplicateTarget "b" "m/*!*")) :=
  ⟨rfl, rfl⟩

end Client

end Switchboard
