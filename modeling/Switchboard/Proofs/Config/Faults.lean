import Switchboard.Config.Document
import Mathlib.Data.List.Nodup

/-!
What a configuration may be refused for. Here its faults are listed all together, in the order in which they
are looked for: those of the destinations, one destination after the other, those of the receivers, and
those of reconnecting. The check ends at the first of them, and a configuration without any is valid.
-/
namespace Switchboard.Config

/-! ### All faults -/

/-- The faults of those rules that are broken. -/
def broken (rules : List (Bool × Fault)) : List Fault := (rules.filter (·.1)).map (·.2)

/-- The faults of one destination; `earlier` holds the names of those in front of it. -/
def Destination.faults (index : Nat) (earlier : List String) (d : Destination) : List Fault :=
  broken [(d.name = "", .emptyName index),
    (d.name ∈ earlier, .duplicateDestination d.name),
    (d.host = "", .emptyHost d.name),
    (d.port = 0, .zeroPort d.name),
    (d.connectTimeoutMs = 0 ∨ d.invokeTimeoutMs = 0, .zeroTimeout d.name),
    (d.heartbeatIntervalMs = some 0, .zeroHeartbeat d.name)]

def Receiver.faults (names : List String) (index : Nat) (r : Receiver) : List Fault :=
  broken [(r.destination ∉ names, .unknownDestination index r.destination),
    (r.targets = [], .noTargets index)]

def Reconnect.faults (r : Reconnect) : List Fault :=
  broken [(r.maxDelayMs < r.initialDelayMs, .delaysOutOfOrder r.initialDelayMs r.maxDelayMs),
    (r.scanIntervalMs = 0, .zeroScanInterval)]

/-- Everything that is wrong with a configuration. -/
def faults (c : Config) : List Fault :=
  let names := c.destinations.map (·.name)
  broken [(c.destinations = [], .noDestinations)] ++
    (c.destinations.zipIdx.flatMap fun (d, i) => d.faults i (names.take i)) ++
    (c.receivers.zipIdx.flatMap fun (r, i) => r.faults names i) ++
    c.reconnect.faults

/-- What is wrong with a configuration, rule by rule. -/
inductive Breaks (c : Config) : Fault → Prop
  | noDestinations (none : c.destinations = []) : Breaks c .noDestinations
  | emptyName {i d} (there : c.destinations[i]? = some d) (empty : d.name = "") :
      Breaks c (.emptyName i)
  | duplicate {i j : Nat} {d e : Destination} (there : c.destinations[i]? = some d)
      (other : c.destinations[j]? = some e) (earlier : j < i) (same : e.name = d.name) :
      Breaks c (.duplicateDestination d.name)
  | emptyHost {d} (there : d ∈ c.destinations) (empty : d.host = "") : Breaks c (.emptyHost d.name)
  | zeroPort {d} (there : d ∈ c.destinations) (zero : d.port = 0) : Breaks c (.zeroPort d.name)
  | zeroTimeout {d} (there : d ∈ c.destinations)
      (zero : d.connectTimeoutMs = 0 ∨ d.invokeTimeoutMs = 0) : Breaks c (.zeroTimeout d.name)
  | zeroHeartbeat {d} (there : d ∈ c.destinations) (zero : d.heartbeatIntervalMs = some 0) :
      Breaks c (.zeroHeartbeat d.name)
  | unknownDestination {i r} (there : c.receivers[i]? = some r)
      (unknown : ∀ d ∈ c.destinations, d.name ≠ r.destination) :
      Breaks c (.unknownDestination i r.destination)
  | noTargets {i r} (there : c.receivers[i]? = some r) (none : r.targets = []) :
      Breaks c (.noTargets i)
  | delays (above : c.reconnect.maxDelayMs < c.reconnect.initialDelayMs) :
      Breaks c (.delaysOutOfOrder c.reconnect.initialDelayMs c.reconnect.maxDelayMs)
  | scan (zero : c.reconnect.scanIntervalMs = 0) : Breaks c .zeroScanInterval

/-- A destination that can be connected to. -/
structure Destination.Valid (d : Destination) : Prop where
  name : d.name ≠ ""
  host : d.host ≠ ""
  port : d.port ≠ 0
  connectTimeout : d.connectTimeoutMs ≠ 0
  invokeTimeout : d.invokeTimeoutMs ≠ 0
  heartbeat : d.heartbeatIntervalMs ≠ some 0

structure Valid (c : Config) : Prop where
  some : c.destinations ≠ []
  destinations : ∀ d ∈ c.destinations, d.Valid
  distinct : (c.destinations.map (·.name)).Nodup
  receivers : ∀ r ∈ c.receivers, (∃ d ∈ c.destinations, d.name = r.destination) ∧ r.targets ≠ []
  delays : c.reconnect.initialDelayMs ≤ c.reconnect.maxDelayMs
  scan : c.reconnect.scanIntervalMs ≠ 0

/-! ### The first fault -/

section Rules

variable {rule : Prop} [Decidable rule] {f : Fault} {rules : List (Bool × Fault)}

@[simp] theorem broken_nil : broken [] = [] := rfl

theorem head?_broken_cons : (broken ((decide rule, f) :: rules)).head? =
    if rule then some f else (broken rules).head? := by
  by_cases holds : rule <;> simp [broken, holds]

@[simp] theorem mem_broken : f ∈ broken rules ↔ (true, f) ∈ rules := by
  simp [broken]

end Rules

theorem destinationFault_eq (index : Nat) (seen : List String) (d : Destination) :
    destinationFault index seen d = (d.faults index seen).head? := by
  simp only [destinationFault, Destination.faults, head?_broken_cons, broken_nil, List.head?_nil]

theorem receiverFault_eq (index : Nat) (names : List String) (r : Receiver) :
    receiverFault index names r = (r.faults names index).head? := by
  simp only [receiverFault, Receiver.faults, head?_broken_cons, broken_nil, List.head?_nil]

theorem Reconnect.fault_eq (r : Reconnect) : r.fault = r.faults.head? := by
  simp only [Reconnect.fault, Reconnect.faults, head?_broken_cons, broken_nil, List.head?_nil]

theorem receiversFault_eq (names : List String) (index : Nat) (rs : List Receiver) :
    receiversFault names index rs =
      ((rs.zipIdx index).flatMap fun (r, i) => r.faults names i).head? := by
  induction rs generalizing index with
  | nil => rfl
  | cons r rest ih =>
    rw [receiversFault, Option.orElse_eq_or, receiverFault_eq, ih, List.zipIdx_cons, List.flatMap_cons,
      List.head?_append]

/-- Whether a destination repeats a name depends on the names in front of it, not on their order. -/
theorem Destination.faults_congr {earlier seen : List String}
    (same : ∀ name, name ∈ earlier ↔ name ∈ seen) (index : Nat) (d : Destination) :
    d.faults index earlier = d.faults index seen := by
  simp only [Destination.faults, same]

theorem destinationsFault_eq (before : List Destination) {seen : List String} (rest : List Destination)
    (same : ∀ name, name ∈ seen ↔ name ∈ before.map (·.name)) :
    destinationsFault before.length seen rest = ((rest.zipIdx before.length).flatMap fun (d, i) =>
      d.faults i (((before ++ rest).map (·.name)).take i)).head? := by
  induction rest generalizing before seen with
  | nil => rfl
  | cons d rest ih =>
    have earlier : ((before ++ d :: rest).map (·.name)).take before.length = before.map (·.name) := by
      simp
    -- The names seen grow at their front, those of the list at their end: only their members agree.
    have later : ∀ name, name ∈ d.name :: seen ↔ name ∈ (before ++ [d]).map (·.name) := by
      intro name
      simp [same, or_comm]
    have next := ih (before ++ [d]) later
    rw [List.length_append, List.append_assoc] at next
    rw [destinationsFault, Option.orElse_eq_or, destinationFault_eq, Destination.faults_congr same,
      List.zipIdx_cons, List.flatMap_cons, List.head?_append]
    dsimp only
    rw [earlier]
    exact congrArg _ next

/-- The check finds the first of all faults. -/
theorem fault_eq_head? (c : Config) : c.fault = c.faults.head? := by
  have unseen : ∀ name, name ∈ [] ↔ name ∈ ([] : List Destination).map (·.name) := by simp
  have destinations := destinationsFault_eq [] c.destinations unseen
  unfold fault faults
  simp only [List.head?_append, head?_broken_cons, broken_nil, List.head?_nil]
  split
  · rfl
  · rw [receiversFault_eq, Reconnect.fault_eq]
    rw [Option.orElse_eq_or, Option.orElse_eq_or, Option.none_or, Option.or_assoc]
    exact congrArg (Option.or · _) destinations

/-! ### What the faults are -/

section Members

variable {f : Fault} {index : Nat}

theorem Destination.mem_faults {earlier : List String} {d : Destination} :
    f ∈ d.faults index earlier ↔ d.name = "" ∧ f = .emptyName index ∨
      d.name ∈ earlier ∧ f = .duplicateDestination d.name ∨ d.host = "" ∧ f = .emptyHost d.name ∨
      d.port = 0 ∧ f = .zeroPort d.name ∨
      (d.connectTimeoutMs = 0 ∨ d.invokeTimeoutMs = 0) ∧ f = .zeroTimeout d.name ∨
      d.heartbeatIntervalMs = some 0 ∧ f = .zeroHeartbeat d.name := by
  simp [Destination.faults]

theorem Receiver.mem_faults {names : List String} {r : Receiver} :
    f ∈ r.faults names index ↔ r.destination ∉ names ∧ f = .unknownDestination index r.destination ∨
      r.targets = [] ∧ f = .noTargets index := by
  simp [Receiver.faults]

theorem Reconnect.mem_faults {r : Reconnect} : f ∈ r.faults ↔
    r.maxDelayMs < r.initialDelayMs ∧ f = .delaysOutOfOrder r.initialDelayMs r.maxDelayMs ∨
      r.scanIntervalMs = 0 ∧ f = .zeroScanInterval := by
  simp [Reconnect.faults]

end Members

theorem mem_take_names {c : Config} {name : String} {i : Nat} :
    name ∈ (c.destinations.map (·.name)).take i ↔
      ∃ j e, j < i ∧ c.destinations[j]? = some e ∧ e.name = name := by
  constructor
  · intro there
    obtain ⟨j, bound, found⟩ := List.mem_take_iff_getElem.mp there
    have named : (c.destinations.map (·.name))[j]? = some name := by
      rw [List.getElem?_eq_getElem (by omega), found]
    rw [List.getElem?_map, Option.map_eq_some_iff] at named
    obtain ⟨e, listed, same⟩ := named
    exact ⟨j, e, by omega, listed, same⟩
  · rintro ⟨j, e, earlier, listed, rfl⟩
    apply List.mem_of_getElem? (i := j)
    rw [List.getElem?_take_of_lt earlier, List.getElem?_map, listed]
    rfl

section Members

variable {c : Config} {f : Fault}

theorem mem_faults_cases : f ∈ c.faults ↔
    c.destinations = [] ∧ f = .noDestinations ∨
      (∃ (d : Destination) (i : Nat), c.destinations[i]? = some d ∧
        f ∈ d.faults i ((c.destinations.map (·.name)).take i)) ∨
      (∃ (r : Receiver) (i : Nat), c.receivers[i]? = some r ∧
        f ∈ r.faults (c.destinations.map (·.name)) i) ∨
      f ∈ c.reconnect.faults := by
  simp only [faults, List.mem_append, mem_broken, List.mem_flatMap, Prod.exists,
    List.mk_mem_zipIdx_iff_getElem?, List.mem_singleton, Prod.mk.injEq, eq_comm (a := true),
    decide_eq_true_eq, or_assoc]

theorem mem_faults_at {d : Destination} {i : Nat} (there : c.destinations[i]? = some d)
    (fault : f ∈ d.faults i ((c.destinations.map (·.name)).take i)) : f ∈ c.faults :=
  mem_faults_cases.mpr (.inr (.inl ⟨d, i, there, fault⟩))

theorem mem_faults_of_destination {d : Destination} (listed : d ∈ c.destinations)
    (fault : ∀ i earlier, f ∈ d.faults i earlier) : f ∈ c.faults := by
  obtain ⟨i, there⟩ := List.mem_iff_getElem?.mp listed
  exact mem_faults_at there (fault _ _)

theorem mem_faults_of_receiver {r : Receiver} {i : Nat} (there : c.receivers[i]? = some r)
    (fault : f ∈ r.faults (c.destinations.map (·.name)) i) : f ∈ c.faults :=
  mem_faults_cases.mpr (.inr (.inr (.inl ⟨r, i, there, fault⟩)))

theorem mem_faults_of_reconnect (fault : f ∈ c.reconnect.faults) : f ∈ c.faults :=
  mem_faults_cases.mpr (.inr (.inr (.inr fault)))

/-- The list of faults has every rule in it that is broken, and no other. -/
theorem mem_faults : f ∈ c.faults ↔ c.Breaks f := by
  constructor
  · intro fault
    rcases mem_faults_cases.mp fault with ⟨none, rfl⟩ | ⟨d, i, there, fault⟩ |
      ⟨r, i, there, fault⟩ | fault
    · exact .noDestinations none
    · have listed := List.mem_of_getElem? there
      rcases Destination.mem_faults.mp fault with ⟨empty, rfl⟩ | ⟨repeated, rfl⟩ | ⟨empty, rfl⟩ |
        ⟨zero, rfl⟩ | ⟨zero, rfl⟩ | ⟨zero, rfl⟩
      · exact .emptyName there empty
      · obtain ⟨j, e, earlier, other, same⟩ := mem_take_names.mp repeated
        exact .duplicate there other earlier same
      · exact .emptyHost listed empty
      · exact .zeroPort listed zero
      · exact .zeroTimeout listed zero
      · exact .zeroHeartbeat listed zero
    · rcases Receiver.mem_faults.mp fault with ⟨unknown, rfl⟩ | ⟨none, rfl⟩
      · exact .unknownDestination there (by simpa using unknown)
      · exact .noTargets there none
    · rcases Reconnect.mem_faults.mp fault with ⟨above, rfl⟩ | ⟨zero, rfl⟩
      · exact .delays above
      · exact .scan zero
  · intro breaks
    cases breaks with
    | noDestinations none => exact mem_faults_cases.mpr (.inl ⟨none, rfl⟩)
    | emptyName there empty =>
      exact mem_faults_at there (Destination.mem_faults.mpr (.inl ⟨empty, rfl⟩))
    | duplicate there other earlier same =>
      have repeated := mem_take_names.mpr ⟨_, _, earlier, other, same⟩
      exact mem_faults_at there (Destination.mem_faults.mpr (.inr (.inl ⟨repeated, rfl⟩)))
    | emptyHost listed empty =>
      exact mem_faults_of_destination listed (by simp [Destination.mem_faults, empty])
    | zeroPort listed zero =>
      exact mem_faults_of_destination listed (by simp [Destination.mem_faults, zero])
    | zeroTimeout listed zero =>
      exact mem_faults_of_destination listed (by simp [Destination.mem_faults, zero])
    | zeroHeartbeat listed zero =>
      exact mem_faults_of_destination listed (by simp [Destination.mem_faults, zero])
    | @unknownDestination i r there unknown =>
      have unlisted : r.destination ∉ c.destinations.map (·.name) := by simpa using unknown
      exact mem_faults_of_receiver there (Receiver.mem_faults.mpr (.inl ⟨unlisted, rfl⟩))
    | noTargets there none =>
      exact mem_faults_of_receiver there (Receiver.mem_faults.mpr (.inr ⟨none, rfl⟩))
    | delays above => exact mem_faults_of_reconnect (Reconnect.mem_faults.mpr (.inl ⟨above, rfl⟩))
    | scan zero => exact mem_faults_of_reconnect (Reconnect.mem_faults.mpr (.inr ⟨zero, rfl⟩))

end Members

/-! ### Validity -/

theorem nodup_iff_unrepeated {c : Config} : (c.destinations.map (·.name)).Nodup ↔
    ∀ (i j : Nat) (d e : Destination), c.destinations[i]? = some d →
      c.destinations[j]? = some e → j < i → e.name ≠ d.name := by
  rw [List.Nodup, List.pairwise_map, List.pairwise_iff_getElem]
  constructor
  · intro distinct i j d e there other earlier
    obtain ⟨within, rfl⟩ := List.getElem?_eq_some_iff.mp there
    obtain ⟨within', rfl⟩ := List.getElem?_eq_some_iff.mp other
    exact distinct j i within' within earlier
  · intro unrepeated j i within' within earlier
    exact unrepeated i j _ _ (List.getElem?_eq_getElem within) (List.getElem?_eq_getElem within') earlier

/-- A configuration is valid if it breaks no rule. -/
theorem valid_iff {c : Config} : c.Valid ↔ ∀ f, ¬ c.Breaks f := by
  constructor
  · rintro ⟨some, destinations, distinct, receivers, delays, scan⟩ f breaks
    cases breaks with
    | noDestinations none => exact some none
    | emptyName there empty => exact (destinations _ (List.mem_of_getElem? there)).name empty
    | duplicate there other earlier same =>
      exact nodup_iff_unrepeated.mp distinct _ _ _ _ there other earlier same
    | emptyHost listed empty => exact (destinations _ listed).host empty
    | zeroPort listed zero => exact (destinations _ listed).port zero
    | zeroTimeout listed zero =>
      exact zero.elim (destinations _ listed).connectTimeout (destinations _ listed).invokeTimeout
    | zeroHeartbeat listed zero => exact (destinations _ listed).heartbeat zero
    | unknownDestination there unknown =>
      obtain ⟨d, listed, same⟩ := (receivers _ (List.mem_of_getElem? there)).1
      exact unknown d listed same
    | noTargets there none => exact (receivers _ (List.mem_of_getElem? there)).2 none
    | delays above => exact absurd delays (UInt64.not_le.mpr above)
    | scan zero => exact scan zero
  · intro faultless
    constructor
    · exact fun none => faultless _ (.noDestinations none)
    · intro d listed
      obtain ⟨i, there⟩ := List.mem_iff_getElem?.mp listed
      constructor
      · exact fun empty => faultless _ (.emptyName there empty)
      · exact fun empty => faultless _ (.emptyHost listed empty)
      · exact fun zero => faultless _ (.zeroPort listed zero)
      · exact fun zero => faultless _ (.zeroTimeout listed (.inl zero))
      · exact fun zero => faultless _ (.zeroTimeout listed (.inr zero))
      · exact fun zero => faultless _ (.zeroHeartbeat listed zero)
    · rw [nodup_iff_unrepeated]
      exact fun i j d e there other earlier same => faultless _ (.duplicate there other earlier same)
    · intro r listed
      obtain ⟨i, there⟩ := List.mem_iff_getElem?.mp listed
      constructor
      · by_contra unknown
        push Not at unknown
        exact faultless _ (.unknownDestination there unknown)
      · exact fun none => faultless _ (.noTargets there none)
    · exact UInt64.not_lt.mp fun above => faultless _ (.delays above)
    · exact fun zero => faultless _ (.scan zero)

theorem validate_eq_ok {c : Config} : c.validate = .ok () ↔ c.Valid := by
  have accepted : c.validate = .ok () ↔ c.fault = none := by
    unfold validate
    cases c.fault <;> simp
  rw [accepted, fault_eq_head?, List.head?_eq_none_iff, List.eq_nil_iff_forall_not_mem, valid_iff]
  exact forall_congr' fun f => not_congr mem_faults

theorem validate_eq_error {c : Config} {e : Error} :
    c.validate = .error e ↔ ∃ f, c.faults.head? = some f ∧ e = .invalid f := by
  rw [validate, fault_eq_head?]
  cases c.faults.head? <;> simp [eq_comm]

/-- The check accepts exactly the valid configurations, and it refuses any other one for the first of its
faults. -/
theorem validation_exact (c : Config) :
    (c.validate = .ok () ↔ c.Valid) ∧
      (∀ e, c.validate = .error e ↔ ∃ f, c.faults.head? = some f ∧ e = .invalid f) ∧
      ∀ f, f ∈ c.faults ↔ c.Breaks f :=
  ⟨validate_eq_ok, fun _ => validate_eq_error, fun _ => mem_faults⟩

example :
    let b : Destination := { name := "b", host := "b", port := 1 }
    let c : Config :=
      { destinations := [b, { b with host := "", heartbeatIntervalMs := some 0 }],
        receivers := [⟨"b", []⟩, ⟨"a", []⟩],
        reconnect := { scanIntervalMs := 0 } }
    c.faults = [.duplicateDestination "b", .emptyHost "b", .zeroHeartbeat "b", .noTargets 0,
      .unknownDestination 1 "a", .noTargets 1, .zeroScanInterval] := by decide

end Switchboard.Config
