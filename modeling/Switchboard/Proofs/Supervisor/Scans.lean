import Switchboard.Proofs.Reconnect.Backoff
import Switchboard.Proofs.Supervisor.Departures

/-!
A scan that nobody comes between. The table lists every destination once, in whatever order it is looked
through, so one attempt begins for each destination that is due and none for any other.
-/
namespace Switchboard

/-! ### Waits -/

namespace Reconnect.Policy

/-- The wait has long stopped growing where the count of failures stops. -/
theorem backoff_maxFailures (p : Policy) (n : Nat) :
    (p.backoff n).nanos ≤ (p.backoff (min Destination.maxFailures n)).nanos := by
  by_cases within : n ≤ Destination.maxFailures
  · exact Nat.le_of_eq (by rw [Nat.min_eq_right within])
  · have many : Destination.maxFailures < n := Nat.lt_of_not_le within
    have capped : min (n - 1) 31 = min (Destination.maxFailures - 1) 31 := by
      simp only [Destination.maxFailures] at many ⊢
      omega
    refine Nat.le_of_eq ?_
    rw [Nat.min_eq_left (Nat.le_of_lt many), nanos_backoff p (Nat.zero_lt_of_lt many),
      nanos_backoff p (show 0 < Destination.maxFailures by decide), capped]

end Reconnect.Policy

theorem Destination.reconnectDue_iff {d : Destination} {now : Instant} {policy : Reconnect.Policy} :
    d.reconnectDue now policy = true ↔ d.retired = false ∧ d.inFlight = none ∧
      (d.state = .disconnected ∨ d.state = .failed) ∧
      ∀ last, d.lastAttempt = some last → 0 < d.failures →
        (policy.backoff d.failures).nanos ≤ now - last := by
  unfold reconnectDue
  cases d.lastAttempt with
  | none => simp [and_assoc]
  | some last =>
    have waited : (d.failures = 0 ∨ (policy.backoff d.failures).nanos ≤ now - last) ↔
        (0 < d.failures → (policy.backoff d.failures).nanos ≤ now - last) := by
      rw [Nat.pos_iff_ne_zero, ← or_iff_not_imp_left]
    simp [and_assoc, waited]

theorem Destination.unconnected_of_due {d : Destination} {now : Instant} {policy : Reconnect.Policy}
    (due : d.reconnectDue now policy = true) : d.state ≠ .connected := by
  obtain ⟨-, -, down | failed, -⟩ := reconnectDue_iff.mp due
  · simp [down]
  · simp [failed]

namespace Client

variable {T : Type} [Transport T]

/-! ### The table -/

/-- What an action does to the table. -/
theorem Acted.table {c c' : Client T} {a : Action T} (acted : Acted c a c') :
    c'.table.Sublist c.table ∨ ∃ name, c'.table = c.table ++ [(name, c.destinations.length)] ∧
      c'.destinations.length = c.destinations.length + 1 := by
  have same (table : c'.table = c.table) : c'.table.Sublist c.table := table ▸ List.Sublist.refl _
  cases acted with
  | moved moves => exact .inl (same (Aloof.of_moves (moves none)).table)
  | attempted running moves => exact .inl (same (Aloof.of_moves moves).table)
  | @called id call => exact .inl (same (registry_stepCall c id call).2)
  | requested => exact .inl (same rfl)
  | @abandoned id call calling =>
    left
    apply same
    simp only [abandonCall, calling]
    cases call.sending? <;> rfl
  | @added d => exact .inr ⟨d.name, rfl, by simp⟩
  | removed => exact .inl List.filter_sublist
  | registered => exact .inl (same rfl)
  | unregistered => exact .inl (same rfl)

/-- The table lists destinations that are there, each once, in the order of their numbers. -/
structure Listed (c : Client T) : Prop where
  increasing : c.loaded.Pairwise (· < ·)
  there : ∀ i ∈ c.loaded, i < c.destinations.length

theorem Listed.act {c : Client T} (listed : c.Listed) (numbered : c.Numbered) (a : Action T) :
    (c.act a).Listed := by
  have stays (i : Nat) (there : i < c.destinations.length) : i < (c.act a).destinations.length := by
    have held := ledger_of_found (List.getElem?_eq_getElem there)
    obtain ⟨l, held', -⟩ := (ledger_act numbered a i).2 _ held
    obtain ⟨d, found, -⟩ := Option.map_eq_some_iff.mp held'
    exact length_of_found found
  rcases (acted_act numbered a).table with kept | ⟨name, added, length⟩
  · have loaded : (c.act a).loaded.Sublist c.loaded := kept.map _
    exact ⟨listed.increasing.sublist loaded,
      fun i there => stays i (listed.there i (loaded.subset there))⟩
  · have loaded : (c.act a).loaded = c.loaded ++ [c.destinations.length] := by
      simp [Client.loaded, added]
    constructor
    · rw [loaded, List.pairwise_append]
      refine ⟨listed.increasing, List.pairwise_singleton _ _, ?_⟩
      intro i there j new
      rw [List.mem_singleton.mp new]
      exact listed.there i there
    · intro i there
      rw [loaded, List.mem_append, List.mem_singleton] at there
      rcases there with old | rfl
      · exact stays i (listed.there i old)
      · omega

theorem stable_listed : Stable (T := T) fun _ c => c.Listed where
  besides besides := by
    rintro ⟨increasing, there⟩
    exact ⟨besides.loaded ▸ increasing, besides.destinations ▸ besides.loaded ▸ there⟩
  act numbered listed a := listed.act numbered a

theorem Watched.listed_run (name : String) (transport : T) (policy : Reconnect.Policy)
    (turns : List (Turn T)) : ((start name transport policy).run turns).client.Listed := by
  have new : (create name transport policy).Reachable := ⟨name, transport, policy, [], rfl⟩
  refine kept_run (P := fun _ c => c.Listed) stable_listed new.numbered [] ?_ turns
  constructor <;> simp [start, create, loaded]

/-! ### Scans -/

/-- Attempts have begun for the destinations of a list, one for each, and nothing else has happened to
any destination. -/
structure BeginsAll (is : List Nat) (c c' : Client T) : Prop where
  started : c'.underWay.map (·.2) = c.underWay.map (·.2) ++ is
  now : c'.now = c.now
  destinations : ∀ {i : Nat} {d : Destination}, c.destinations[i]? = some d →
    if i ∈ is then ∃ a, c'.destinations[i]? = some (d.connecting c.now a)
    else c'.destinations[i]? = some d

theorem beginConnect_of_ready {c : Client T} {i : Nat} {d : Destination}
    (found : c.destinations[i]? = some d) (off : d.state ≠ .connected) (idle : d.inFlight = none)
    (kept : d.retired = false) : (c.beginConnect i).1 = c.attemptBegun i d := by
  have asked := beginConnect_asked found
  generalize c.beginConnect i = asking at asked ⊢
  cases asked with
  | connected on => exact absurd on off
  | joined _ running => simp [idle] at running
  | refused _ _ retired => simp [kept] at retired
  | started => rfl

theorem beginsAll_foldl {is : List Nat} {c : Client T} (distinct : is.Nodup)
    (ready : ∀ i ∈ is, ∃ d, c.destinations[i]? = some d ∧ d.state ≠ .connected ∧ d.inFlight = none ∧
      d.retired = false) :
    BeginsAll is c (is.foldl (fun c i => (c.beginConnect i).1) c) := by
  induction is generalizing c with
  | nil => exact ⟨by simp, rfl, fun found => by simpa using found⟩
  | cons i rest ih =>
    obtain ⟨new, distinct⟩ := List.nodup_cons.mp distinct
    obtain ⟨d, found, off, idle, kept⟩ := ready i List.mem_cons_self
    have elsewhere {j : Nat} (other : j ≠ i) :
        (c.attemptBegun i d).destinations[j]? = c.destinations[j]? := by
      rw [destinations_attemptBegun, List.getElem?_set_ne (Ne.symm other)]
    have later := ih (c := c.attemptBegun i d) distinct fun j there => by
      obtain ⟨d', found', ready⟩ := ready j (List.mem_cons_of_mem _ there)
      exact ⟨d', (elsewhere (ne_of_mem_of_not_mem there new)).trans found', ready⟩
    rw [List.foldl_cons, beginConnect_of_ready found off idle kept]
    refine ⟨?_, later.now, ?_⟩
    · rw [later.started, underWay_attemptBegun]
      simp
    · intro j d' found'
      by_cases here : j = i
      · subst here
        obtain rfl : d = d' := Option.some.inj (found.symm.trans found')
        have after := later.destinations (found_setDestination found _)
        rw [if_neg new] at after
        rw [if_pos List.mem_cons_self]
        exact ⟨_, after⟩
      · have after := later.destinations ((elsewhere here).trans found')
        simp only [List.mem_cons, here, false_or]
        exact after

/-- What a scan comes to: one attempt has begun for each destination that is due, and for no other. -/
structure Scanned (policy : Reconnect.Policy) (is : List Nat) (c c' : Client T) : Prop where
  distinct : is.Nodup
  due : ∀ i, i ∈ is ↔ c.isDue c.now policy i = true
  begun : BeginsAll is c c'

theorem isDue_iff {c : Client T} {now : Instant} {policy : Reconnect.Policy} {i : Nat} :
    c.isDue now policy i = true ↔
      i ∈ c.loaded ∧ ∃ d, c.destinations[i]? = some d ∧ d.reconnectDue now policy = true := by
  simp [isDue, Option.any_eq_true]

/-- The table may be looked through in any order. -/
theorem scanned_scan {c c₁ : Client T} (listed : c.Listed) (unmoved : Unmoved c c₁)
    (now : c₁.now = c.now) (order : c₁.table.Perm c.table) (policy : Reconnect.Policy) :
    Scanned policy (c₁.due policy) c (c₁.scan policy).1 := by
  have loaded : c₁.loaded.Perm c.loaded := order.map _
  have distinct : (c₁.due policy).Nodup :=
    (loaded.nodup_iff.mpr (listed.increasing.imp Nat.ne_of_lt)).filter _
  have due (i : Nat) : i ∈ c₁.due policy ↔ c.isDue c.now policy i = true := by
    rw [← Watched.due_loaded, List.mem_filter, loaded.mem_iff, isDue_iff, isDue_iff, loaded.mem_iff,
      unmoved.destinations, now]
    simp
  have begun : BeginsAll (c₁.due policy) c₁ (c₁.scan policy).1 := by
    refine beginsAll_foldl distinct ?_
    intro i there
    obtain ⟨-, d, found, ready⟩ := isDue_iff.mp ((due i).mp there)
    obtain ⟨kept, idle, -⟩ := Destination.reconnectDue_iff.mp ready
    exact ⟨d, unmoved.destinations ▸ found, Destination.unconnected_of_due ready, idle, kept⟩
  refine ⟨distinct, due, ?_, begun.now.trans now, ?_⟩
  · rw [begun.started, unmoved.underWay]
  · intro i d found
    rw [← now]
    exact begun.destinations (unmoved.destinations ▸ found)

/-- The actions that scan, by the policy that they follow. -/
inductive Scans (c : Client T) : Action T → Reconnect.Policy → Prop
  | scan {policy} : Scans c (.scan policy) policy
  | turn {s} (supervisor : c.supervisor = some s) (running : s.running = true)
      (ready : c.supervisorReady s = true) : Scans c (.step .supervisor) s.policy

theorem Scans.scanned {c : Client T} (listed : c.Listed) {a : Action T} {policy : Reconnect.Policy}
    (scans : Scans c a policy) : ∃ is, Scanned policy is c (c.act a) := by
  cases scans with
  | scan => exact ⟨_, scanned_scan listed (.refl c) rfl (.refl _) policy⟩
  | @turn s supervisor running ready =>
    have turn : c.act (.step .supervisor) = ((c.hear c.signal s).scan s.policy).1.pause := by
      rw [← stepSupervisor_of_running supervisor running]
      simp [act, step, supervisor, ready]
    obtain ⟨unmoved, table, -⟩ := unmoved_hear c.signal s c
    obtain ⟨distinct, due, begun⟩ :=
      scanned_scan listed unmoved (now_hear c.signal s c) (.of_eq table) s.policy
    rw [turn]
    exact ⟨_, distinct, due, begun.started, begun.now, begun.destinations⟩

end Client

end Switchboard
