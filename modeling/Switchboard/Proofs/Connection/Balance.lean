import Switchboard.Proofs.Connection.Effects

/-!
The connection counters of a destination balance. Every attempt has failed, has published a connection,
has come too late for it or is under way; every connection has been lost, has been torn down by its own
side or is published. So a loss is counted once, however many report it.
-/
namespace Switchboard

/-- The generation counts what was lost, what was torn down, and the published connection. -/
def Destination.Accounted (tornDown : Nat) (d : Destination) : Prop :=
  UInt64.ofNat d.generation = d.stats.disconnects + UInt64.ofNat (tornDown + d.live.toList.length)

theorem Destination.Accounted.undergone {δ : Deed} (kept : δ ≠ .tornDown) {n : Nat} :
    ∀ d d' : Destination, d.Undergoes δ d' → d.Accounted n → d'.Accounted n := by
  intro d d' deed accounted
  unfold Destination.Accounted at *
  cases deed with
  | begun => exact accounted
  | failed => exact accounted
  | @delivered _ h running off =>
    cases retired : d.retired with
    | true => simpa [Destination.publish, retired] using accounted
    | false =>
      simp [Destination.publish, retired, off, UInt64.ofNat_add] at accounted ⊢
      rw [accounted, UInt64.add_assoc]
  | @revoked _ live next on down =>
    simp [Destination.revoke, on, Stats.recordDisconnect, UInt64.ofNat_add] at accounted ⊢
    rw [accounted]
    ac_rfl
  | tornDown => exact absurd rfl kept
  | retired => exact accounted
  | counted _ _ disconnects => rwa [disconnects]

theorem Destination.retired_again (d : Destination) :
    d.markRetired.disconnect.1.markRetired.disconnect.1 = d.markRetired.disconnect.1 := by
  by_cases on : d.state = .connected <;> simp [Destination.markRetired, Destination.disconnect, on]

namespace Client

variable {T : Type} [Transport T]

/-! ### Attempts -/

/-- The handles that were delivered to a destination and not published. -/
def discards (i : Nat) (c : Client T) : Nat := (c.deliveries i).length - (c.publications i).length

/-- Every attempt has failed, has delivered a handle or is under way; the handle of one attempt at
most was not published, and then there are no attempts any more. -/
structure Ledger.Attempted (l : Ledger) : Prop where
  attempts : l.destination.stats.connectAttempts = l.destination.stats.connectFailures +
    UInt64.ofNat (l.deliveries.length + l.destination.inFlight.toList.length)
  discarded : l.deliveries.length = l.publications.length ∨
    l.deliveries.length = l.publications.length + 1 ∧ l.destination.retired = true ∧
      l.destination.inFlight = none

theorem Ledger.Attempted.step {l l' : Ledger} (attempted : l.Attempted) (consistent : l.Consistent)
    (step : Ledger.Step l l') : l'.Attempted := by
  obtain ⟨attempts, discarded⟩ := attempted
  cases step with
  | begun off idle kept =>
    constructor
    · simp [Destination.connecting, Stats.recordConnectAttempt, attempts, idle, UInt64.ofNat_add,
        UInt64.add_assoc]
    · left
      simpa [kept] using discarded
  | failed running =>
    obtain ⟨_, inFlight, _⟩ := consistent.running running
    constructor
    · simp [Destination.recordFailure, Stats.recordConnectFailure, attempts, inFlight,
        UInt64.ofNat_add, UInt64.add_assoc, UInt64.add_comm]
    · left
      simpa [inFlight] using discarded
  | published running kept =>
    obtain ⟨_, inFlight, _⟩ := consistent.running running
    constructor
    · simp [Destination.publish, kept, attempts, inFlight]
    · left
      simpa [kept] using discarded
  | discarded running retired =>
    obtain ⟨_, inFlight, _⟩ := consistent.running running
    constructor
    · simp [Destination.publish, retired, attempts, inFlight]
    · right
      simpa [Destination.publish, retired, inFlight] using discarded
  | revoked on down =>
    constructor
    · simpa [Destination.revoke, on, Stats.recordDisconnect] using attempts
    · simpa [Destination.revoke, on] using discarded
  | tornDown => exact ⟨attempts, discarded⟩
  | retired =>
    refine ⟨attempts, discarded.imp_right ?_⟩
    rintro ⟨late, -, idle⟩
    exact ⟨late, rfl, idle⟩
  | counted connectAttempts connectFailures =>
    exact ⟨by simpa only [connectAttempts, connectFailures] using attempts, discarded⟩

theorem Reachable.attempted {c : Client T} (reachable : c.Reachable) {i : Nat} {l : Ledger}
    (held : c.ledger i = some l) : l.Attempted := by
  suffices both : l.Consistent ∧ l.Attempted from both.2
  refine reachable.ledger (P := fun l => l.Consistent ∧ l.Attempted) ?_ ?_ held
  · intro d created
    exact ⟨.blank d created, rfl, .inl rfl⟩
  · rintro l l' ⟨consistent, attempted⟩ step
    exact ⟨consistent.step step, attempted.step consistent step⟩

/-! ### Connections -/

/-- An action that takes a published connection down from this side. -/
def tearsDown (i : Nat) (c : Client T) : Action T → Bool
  | .disconnect j => j == i && (c.destinations[i]?).any (·.isUsable)
  | .shutdown => !c.shutDown && (c.table.map (·.2)).contains i &&
      (c.destinations[i]?).any (·.isUsable)
  | _ => false

/-- How many connections a run takes down from this side. -/
def tornDown (i : Nat) : Client T → List (Action T) → Nat
  | _, [] => 0
  | c, a :: rest => (c.tearsDown i a).toNat + tornDown i (c.act a) rest

/-- A destination that is not there has lost nothing. -/
structure Accounted (i n : Nat) (c : Client T) : Prop where
  unborn : c.destinations[i]? = none → n = 0
  balanced : ∀ d, c.destinations[i]? = some d → d.Accounted n

theorem Accounted.effects {A : List Deed} (kept : Deed.tornDown ∉ A) (closed : Deed.added ∉ A)
    {c c' : Client T} (effects : Effects A c c') {i n : Nat} (accounted : c.Accounted i n) :
    c'.Accounted i n := by
  cases found : c.destinations[i]? with
  | none =>
    have missing := effects.missing found closed
    exact ⟨fun _ => accounted.unborn found, by simp [missing]⟩
  | some d =>
    obtain ⟨d', found', balanced⟩ := effects.kept (P := Destination.Accounted n)
      (fun δ allowed => Destination.Accounted.undergone (ne_of_mem_of_not_mem allowed kept))
      found (accounted.balanced d found)
    constructor
    · simp [found']
    · intro d₁ found₁
      obtain rfl : d' = d₁ := by simpa [found'] using found₁
      exact balanced

theorem found_onDestination (c : Client T) (i j : Nat) {α : Type} (absent : α)
    (f : Destination → Destination × α) :
    (c.onDestination j absent f).1.destinations[i]? =
      (c.destinations[i]?).map fun d => if j = i then (f d).1 else d := by
  cases found : c.destinations[j]? with
  | none =>
    rw [onDestination_of_absent found]
    by_cases here : j = i
    · subst here
      simp [found]
    · simp [here]
  | some d =>
    rw [onDestination_of_found found]
    by_cases here : j = i
    · subst here
      simp [found_setDestination found, found]
    · simp [setDestination, here]

theorem found_disconnect (c : Client T) (i j : Nat) :
    (c.disconnect j).destinations[i]? =
      (c.destinations[i]?).map fun d => if j = i then d.disconnect.1 else d := by
  rw [disconnect, destinations_release, found_onDestination]

theorem found_retire (c : Client T) (i j : Nat) :
    (c.retire j).destinations[i]? =
      (c.destinations[i]?).map fun d => if j = i then d.markRetired.disconnect.1 else d := by
  rw [retire, found_disconnect, flagRetired, found_onDestination, Option.map_map]
  congr 1
  funext d
  by_cases here : j = i <;> simp [here]

theorem found_retireAll (c : Client T) (i : Nat) (is : List Nat) :
    (is.foldl (fun c j => c.retire j) c).destinations[i]? =
      (c.destinations[i]?).map fun d => if i ∈ is then d.markRetired.disconnect.1 else d := by
  induction is generalizing c with
  | nil => simp
  | cons j rest ih =>
    rw [List.foldl_cons, ih, found_retire, Option.map_map]
    congr 1
    funext d
    -- A destination that is in the list twice is retired twice, which comes to the same.
    by_cases here : j = i
    · by_cases again : i ∈ rest <;> simp [here, again, Destination.retired_again]
    · simp [here, Ne.symm here]

theorem found_shutdown (c : Client T) (i : Nat) :
    c.shutdown.destinations[i]? = (c.destinations[i]?).map fun d =>
      if !c.shutDown && (c.table.map (·.2)).contains i then d.markRetired.disconnect.1 else d := by
  unfold shutdown
  cases c.shutDown with
  | true => simp
  | false =>
    have stopped : ({ c with shutDown := true } : Client T).stopSupervisor.destinations =
          c.destinations ∧
        ({ c with shutDown := true } : Client T).stopSupervisor.table = c.table := by
      unfold stopSupervisor
      cases c.supervisor <;> exact ⟨rfl, rfl⟩
    simp only [Bool.false_eq_true, if_false]
    rw [found_retireAll, stopped.1, stopped.2]
    simp only [Bool.not_false, Bool.true_and, List.contains_iff_mem]

/-- A connection that is taken down from this side goes over to the other side of the account. -/
theorem Accounted.torn {c c' : Client T} (sound : c.Sound) {i n : Nat} (accounted : c.Accounted i n)
    {here : Bool} {f : Destination → Destination}
    (torn : ∀ d, (f d).generation = d.generation ∧ (f d).stats = d.stats ∧ (f d).live = none)
    (found' : c'.destinations[i]? = (c.destinations[i]?).map fun d => if here then f d else d) :
    c'.Accounted i (n + (here && (c.destinations[i]?).any (·.isUsable)).toNat) := by
  cases found : c.destinations[i]? with
  | none => exact ⟨fun _ => by simp [accounted.unborn found], by simp [found', found]⟩
  | some d =>
    refine ⟨by simp [found', found], ?_⟩
    intro d' found₁
    obtain rfl : (if here then f d else d) = d' := by simpa [found', found] using found₁
    have balanced := accounted.balanced d found
    cases here with
    | false => simpa using balanced
    | true =>
      obtain ⟨generation, stats, live⟩ := torn d
      have usable : d.isUsable.toNat = d.live.toList.length := by
        have connected := (sound.holds i _ (ledger_of_found found)).connected
        cases on : d.live <;> cases state : d.state <;>
          simp_all [Destination.isUsable, ConnectionState.isUsable]
      simpa [Destination.Accounted, generation, stats, live, usable] using balanced

theorem Accounted.added {c : Client T} {i n : Nat} (accounted : c.Accounted i n) (d : Descriptor) :
    (c.orSame (c.addDestination d)).Accounted i n := by
  unfold addDestination
  split
  · exact accounted
  · constructor
    · intro missing
      refine accounted.unborn (List.getElem?_eq_none_iff.mpr ?_)
      simp only [orSame, List.getElem?_eq_none_iff, List.length_append] at missing
      omega
    · intro d' found
      simp only [orSame, List.getElem?_append, List.getElem?_singleton] at found
      split at found
      · exact accounted.balanced d' found
      · next late =>
        have unborn := accounted.unborn (List.getElem?_eq_none_iff.mpr (Nat.le_of_not_lt late))
        split at found
        · cases found
          simp [Destination.Accounted, unborn]
        · cases found

theorem Accounted.act {c : Client T} (sound : c.Sound) {i n : Nat} (accounted : c.Accounted i n)
    (a : Action T) : (c.act a).Accounted i (n + (c.tearsDown i a).toNat) := by
  have effects := effects_act sound a
  cases a with
  | disconnect j =>
    refine accounted.torn sound (f := fun d => d.disconnect.1) (fun d => ⟨rfl, rfl, rfl⟩) ?_
    simp only [beq_iff_eq]
    exact found_disconnect c i j
  | shutdown =>
    exact accounted.torn sound (f := fun d => d.markRetired.disconnect.1)
      (fun d => ⟨rfl, rfl, rfl⟩) (found_shutdown c i)
  | addDestination descriptor => exact accounted.added descriptor
  | step task =>
    cases task <;> exact accounted.effects (by simp [Action.deeds]) (by simp [Action.deeds]) effects
  | _ => exact accounted.effects (by simp [Action.deeds]) (by simp [Action.deeds]) effects

theorem accounted_run {c : Client T} (sound : c.Sound) {i n : Nat} (accounted : c.Accounted i n)
    (actions : List (Action T)) : (c.run actions).Accounted i (n + c.tornDown i actions) := by
  induction actions generalizing c n with
  | nil => exact accounted
  | cons a rest ih =>
    rw [tornDown, ← Nat.add_assoc]
    exact ih (sound.act a) (accounted.act sound a)

theorem tornDown_balances {start : Client T} (sound : start.Sound) {i : Nat}
    (unborn : start.destinations[i]? = none) (actions : List (Action T)) {d : Destination}
    (found : (start.run actions).destinations[i]? = some d) :
    UInt64.ofNat d.generation = d.stats.disconnects +
      UInt64.ofNat (start.tornDown i actions + if d.state = .connected then 1 else 0) := by
  have blank : start.Accounted i 0 := ⟨fun _ => rfl, by simp [unborn]⟩
  have balanced := (accounted_run sound blank actions).balanced d found
  have connected := ((sound.run actions).holds i _ (ledger_of_found found)).connected
  have live : d.live.toList.length = if d.state = .connected then 1 else 0 := by
    cases on : d.live <;> simp_all
  rw [Destination.Accounted, live, Nat.zero_add] at balanced
  exact balanced

/-! ### Losses -/

/-- At most one loss is counted, and then a connection is gone that was there. -/
def Ledger.LostOnce (l l' : Ledger) : Prop :=
  (l'.destination.stats.disconnects = l.destination.stats.disconnects ∧
      (l'.destination.live = l.destination.live ∨ l'.destination.live = none)) ∨
    (l'.destination.stats.disconnects = l.destination.stats.disconnects + 1 ∧
      l.destination.live.isSome ∧ l'.destination.live = none)

theorem Ledger.LostOnce.step {l l₁ l₂ : Ledger} (once : l.LostOnce l₁) (step : Ledger.Step l₁ l₂) :
    l₁.publications.length < l₂.publications.length ∨ l.LostOnce l₂ := by
  cases step with
  | published => exact .inl (by simp)
  | begun => exact .inr once
  | failed => exact .inr once
  | discarded _ retired =>
    right
    simpa [LostOnce, Destination.publish, retired] using once
  | @revoked live next on down =>
    right
    rcases once with ⟨same, live' | live'⟩ | ⟨_, _, live'⟩
    · right
      simp [Destination.revoke, on, Stats.recordDisconnect, same, ← live']
    · rw [on] at live'
      cases live'
    · rw [on] at live'
      cases live'
  | tornDown =>
    right
    rcases once with ⟨same, _⟩ | ⟨one, was, _⟩
    · exact .inl ⟨same, .inr rfl⟩
    · exact .inr ⟨one, was, rfl⟩
  | retired => exact .inr once
  | counted _ _ disconnects =>
    right
    simpa [LostOnce, disconnects] using once

/-- Until another connection is published, one loss is counted at most. -/
theorem Ledger.Steps.lostOnce {l l' : Ledger} (steps : Ledger.Steps l l') :
    l.publications.length < l'.publications.length ∨ l.LostOnce l' := by
  induction steps with
  | refl => exact .inr (.inl ⟨rfl, .inl rfl⟩)
  | @tail l₁ l₂ first last ih =>
    obtain ⟨earlier, before⟩ := Ledger.Steps.publications first
    obtain ⟨new, added⟩ := last.publications
    have grown : l.publications.length ≤ l₁.publications.length := by simp [before]
    have grows : l₁.publications.length ≤ l₂.publications.length := by simp [added]
    rcases ih with more | once
    · exact .inl (Nat.lt_of_lt_of_le more grows)
    · exact (once.step last).imp_left (Nat.lt_of_le_of_lt grown)

/-- While no other connection is published, one loss of the one that is published is counted at most. -/
theorem Reachable.lost_once {c : Client T} (reachable : c.Reachable) {i : Nat} {d : Destination}
    (found : c.destinations[i]? = some d) (later : List (Action T)) :
    ∃ d', (c.run later).destinations[i]? = some d' ∧ (d'.generation = d.generation →
      d'.stats.disconnects = d.stats.disconnects ∨
        (d'.stats.disconnects = d.stats.disconnects + 1 ∧ d.state = .connected ∧
          d'.state ≠ .connected)) := by
  have held := ledger_of_found found
  have consistent := reachable.consistent held
  obtain ⟨l', held', steps⟩ := ledger_run reachable.numbered held later
  have consistent' := (reachable.run later).consistent held'
  obtain ⟨d', found', rfl⟩ := Option.map_eq_some_iff.mp held'
  refine ⟨d', found', ?_⟩
  intro same
  rcases steps.lostOnce with more | ⟨none, _⟩ | ⟨one, was, gone⟩
  · have generation : d.generation = (c.publications i).length := consistent.generation
    have generation' : d'.generation = ((c.run later).publications i).length :=
      consistent'.generation
    dsimp only at more
    omega
  · exact .inl none
  · right
    refine ⟨one, consistent.connected.mpr was, ?_⟩
    intro on
    have live := consistent'.connected.mp on
    rw [gone] at live
    cases live

/-! ### The account -/

theorem toNat_of_words {a b : UInt64} {n : Nat} (words : a = b + UInt64.ofNat n)
    (small : b.toNat + n < UInt64.size) : a.toNat = b.toNat + n := by
  have short : n < UInt64.size := Nat.lt_of_le_of_lt (Nat.le_add_left n _) small
  rw [words, UInt64.toNat_add, UInt64.toNat_ofNat_of_lt' short]
  exact Nat.mod_eq_of_lt small

/-- The connection counters of every destination balance after every run. Attempts: those that failed,
those that published, one at most that was discarded because the destination had been retired, and the
one under way. Publications: those that were lost, those that were torn down from this side, and the
one that stands. While no other connection is published one loss is counted at most, and tearing a
connection down counts none. -/
theorem connections_balance {name : String} {transport : T} {policy : Reconnect.Policy}
    {actions : List (Action T)} {c : Client T}
    (reached : (create name transport policy).run actions = c) {i : Nat} {d : Destination}
    (found : c.destinations[i]? = some d) :
    d.generation = (c.publications i).length ∧
    (c.deliveries i).length = d.generation + c.discards i ∧
    c.discards i ≤ 1 ∧ (d.retired = false → c.discards i = 0) ∧
    d.stats.connectAttempts = d.stats.connectFailures +
      UInt64.ofNat (d.generation + c.discards i + d.inFlight.toList.length) ∧
    (d.stats.connectFailures.toNat +
        (d.generation + c.discards i + d.inFlight.toList.length) < UInt64.size →
      d.stats.connectAttempts.toNat = d.stats.connectFailures.toNat +
        (d.generation + c.discards i + d.inFlight.toList.length)) ∧
    UInt64.ofNat d.generation = d.stats.disconnects +
      UInt64.ofNat ((create name transport policy).tornDown i actions +
        if d.state = .connected then 1 else 0) ∧
    (d.generation < UInt64.size → d.stats.disconnects.toNat +
        ((create name transport policy).tornDown i actions +
          if d.state = .connected then 1 else 0) < UInt64.size →
      d.generation = d.stats.disconnects.toNat +
        ((create name transport policy).tornDown i actions +
          if d.state = .connected then 1 else 0)) ∧
    (∀ later, ∃ d', (c.run later).destinations[i]? = some d' ∧
      (d'.generation = d.generation →
        d'.stats.disconnects = d.stats.disconnects ∨
          (d'.stats.disconnects = d.stats.disconnects + 1 ∧ d.state = .connected ∧
            d'.state ≠ .connected))) ∧
    ∀ j, ∀ a ∈ [Action.disconnect j, .flagRetired j, .shutdown],
      ∃ d', (c.act a).destinations[i]? = some d' ∧ d'.stats.disconnects = d.stats.disconnects := by
  have reachable : c.Reachable := ⟨_, _, _, _, reached.symm⟩
  have held := ledger_of_found found
  have consistent := reachable.consistent held
  obtain ⟨attempts, discarded⟩ := reachable.attempted held
  dsimp only at attempts discarded
  have generation : d.generation = (c.publications i).length := consistent.generation
  have delivered : (c.deliveries i).length = d.generation + c.discards i := by
    rw [discards, generation]
    omega
  have words₁ : d.stats.connectAttempts = d.stats.connectFailures +
      UInt64.ofNat (d.generation + c.discards i + d.inFlight.toList.length) := by
    rw [← delivered]
    exact attempts
  have words₂ := tornDown_balances (every_create name transport policy) rfl actions
    (reached ▸ found)
  refine ⟨generation, delivered, ?_, ?_, words₁, toNat_of_words words₁, words₂, ?_,
    reachable.lost_once found, ?_⟩
  · rw [discards]
    omega
  · intro kept
    have same : (c.deliveries i).length = (c.publications i).length := by
      simpa [kept] using discarded
    rw [discards, same, Nat.sub_self]
  · intro below small
    have wide := toNat_of_words words₂ small
    rwa [UInt64.toNat_ofNat_of_lt' below] at wide
  · intro j a own
    have effects := effects_act reachable.sound a
    have unreported : Deed.revoked ∉ a.deeds := by
      simp only [List.mem_cons, List.not_mem_nil, or_false] at own
      rcases own with rfl | rfl | rfl <;> simp [Action.deeds]
    exact effects.disconnects unreported found

/-- A destination whose first connection is reported lost by two dispatches and by its watcher. Then an
attempt fails, the next connection is torn down from this side, and the last attempt comes too late. -/
def worn : List (Action Scripted) :=
  [.addDestination { name := "a", host := "h", port := 1 }, .beginConnect 0, .step (.attempt 0),
    .request (.dispatch 0 ⟨"m", "c", "i"⟩ [1]), .request (.dispatch 0 ⟨"m", "c", "i"⟩ [2]),
    .step (.call 0), .step (.call 1), .transport fun t => t.close 0, .passTo 1000000000,
    .step (.call 0), .step (.call 1), .step (.watcher 0),
    .beginConnect 0, .step (.attempt 1), .beginConnect 0, .step (.attempt 2), .disconnect 0,
    .beginConnect 0, .step (.attempt 3), .flagRetired 0, .disconnect 0, .passTo 2000000000,
    .step (.attempt 3)]

def wearing : Scripted where
  opens := [{}, { failure := some (.refused "busy") }, {}, { delay := .ofSecs 1 }]
  sends := [{ delay := .ofSecs 1, failure := some (.closed "gone") },
    { delay := .ofSecs 1, failure := some (.closed "gone") }]

theorem found_worn : ((create "client" wearing {}).run worn).destinations[0]? = some {
    descriptor := { name := "a", host := "h", port := 1 }
    created := 0
    generation := 2
    lastAttempt := some 1000000000
    retired := true
    stats := {
      dispatchFailures := 2, connectAttempts := 4, connectFailures := 1, disconnects := 1 } } := by
  rfl

theorem connections_balance_worn :
    ∃ d, ((create "client" wearing {}).run worn).destinations[0]? = some d ∧
      ((create "client" wearing {}).run worn).discards 0 = 1 ∧
      d.stats.connectAttempts.toNat = d.stats.connectFailures.toNat + (d.generation + 1 + 0) ∧
      d.generation = d.stats.disconnects.toNat + (1 + 0) := by
  obtain ⟨_, _, _, _, _, attempts, _, connections, _⟩ := connections_balance rfl found_worn
  have late : ((create "client" wearing {}).run worn).discards 0 = 1 := by rfl
  have torn : (create "client" wearing {}).tornDown 0 worn = 1 := by rfl
  rw [late] at attempts
  rw [torn] at connections
  exact ⟨_, found_worn, late, attempts (by decide), connections (by decide) (by decide)⟩

end Client

end Switchboard
