import Switchboard.Proofs.Connection.Bystanders
import Switchboard.Proofs.Connection.Genuine
import Switchboard.Proofs.Invocation.Step
import Switchboard.Transport.Scripted

/-!
Connecting is single-flight. While an attempt is in flight nothing else is opened at its destination,
whoever asks joins it, and all who have joined hear the same.

With the step that ends an attempt its destination is free for the next one, but its callers have not
been told yet. A caller hears when it takes its next step, and by then the destination may have lost its
connection and other attempts may have begun and ended there; what it hears is how its own attempt ended
all the same.
-/
namespace Switchboard

namespace Client

variable {T : Type} [Transport T]

section InFlight

variable {c : Client T} {i : Nat} {a : AttemptId}

/-- The destination of an attempt under way has no other and is not connected. -/
theorem inFlight_of_underWay (reachable : c.Reachable) (running : (a, i) ∈ c.underWay) :
    ∃ d, c.destinations[i]? = some d ∧ c.attemptsOf i = [a] ∧ d.inFlight = some a ∧
      d.state ≠ .connected := by
  have placed := reachable.numbered.placed _ running
  have found : c.destinations[i]? = some c.destinations[i] := List.getElem?_eq_getElem placed
  have consistent := reachable.consistent (ledger_of_found found)
  obtain ⟨attempts, inFlight, live⟩ := consistent.running (mem_attemptsOf_iff.mpr running)
  refine ⟨_, found, attempts, inFlight, ?_⟩
  intro on
  have published := consistent.connected.mp on
  rw [live] at published
  cases published

theorem beginConnect_inFlight (reachable : c.Reachable) (running : (a, i) ∈ c.underWay) :
    c.beginConnect i = (c, .joined a) := by
  obtain ⟨d, found, -, inFlight, off⟩ := inFlight_of_underWay reachable running
  have asked := beginConnect_asked found
  generalize c.beginConnect i = r at asked
  cases asked with
  | connected on => exact absurd on off
  | @joined a' _ running' =>
    rw [inFlight] at running'
    cases running'
    rfl
  | refused _ idle => rw [inFlight] at idle; cases idle
  | started _ idle => rw [inFlight] at idle; cases idle

theorem notDue_inFlight (reachable : c.Reachable) (running : (a, i) ∈ c.underWay)
    (policy : Reconnect.Policy) : i ∉ c.due policy := by
  obtain ⟨d, found, -, inFlight, -⟩ := inFlight_of_underWay reachable running
  simp [due, found, Destination.reconnectDue, inFlight]

theorem elsewhere_foldl {is : List Nat} {c : Client T} {j : Nat} (other : j ∉ is) :
    (is.foldl (fun c i => (c.beginConnect i).1) c).destinations[j]? = c.destinations[j]? := by
  induction is generalizing c with
  | nil => rfl
  | cons k rest ih =>
    obtain ⟨here, later⟩ := not_or.mp (List.mem_cons.not.mp other)
    exact (ih later).trans (elsewhere_beginConnect c here)

/-- A scan passes a destination that is connecting. -/
theorem scan_inFlight (reachable : c.Reachable) (running : (a, i) ∈ c.underWay)
    (policy : Reconnect.Policy) :
    (c.scan policy).1.destinations[i]? = c.destinations[i]? :=
  elsewhere_foldl (notDue_inFlight reachable running policy)

/-- A caller that asks joins, and changes nothing else. -/
theorem act_asking (reachable : c.Reachable) (running : (a, i) ∈ c.underWay) {id : Nat}
    {call : Call T} (calling : c.calls.lookup id = some call) (asks : call.Asks i) :
    (c.act (.step (.call id))).Went id (.waiting (call.joining a)) ∧
      (c.act (.step (.call id))).destinations = c.destinations ∧
      (c.act (.step (.call id))).attempts = c.attempts ∧
      (c.act (.step (.call id))).openings = c.openings := by
  have went := act_went reachable calling
  obtain ⟨c₁, joined, untouched⟩ := advance_asking (beginConnect_inFlight reachable running) asks id
  rw [joined] at went
  refine ⟨went, ?_⟩
  rw [act_call calling, stepCall, joined]
  cases untouched <;> exact ⟨rfl, rfl, rfl⟩

/-! ### While the attempt is under way -/

theorem underWay_or_ended_act (reachable : c.Reachable) (running : (a, i) ∈ c.underWay) (x : Action T) :
    (a, i) ∈ (c.act x).underWay ∨ ∃ outcome, (c.act x).outcome? i a = some outcome := by
  have owned := (act_owned reachable.numbered reachable.outcomesNumbered x).2 a i (.inl running)
  obtain still | ⟨outcome, known, -⟩ := owned
  · exact .inl still
  · obtain ⟨-, o, rfl, -⟩ := (reachable.act x).openedOnce.ended a outcome known
    exact .inr ⟨o, (outcome?_eq_some (reachable.act x)).mpr known⟩

theorem underWay_or_ended (reachable : c.Reachable) (running : (a, i) ∈ c.underWay)
    (actions : List (Action T)) :
    (a, i) ∈ (c.run actions).underWay ∨ ∃ outcome, (c.run actions).outcome? i a = some outcome := by
  induction actions generalizing c with
  | nil => exact .inl running
  | cons x rest ih =>
    obtain still | ⟨outcome, known⟩ := underWay_or_ended_act reachable running x
    · exact ih (reachable.act x) still
    · exact .inr ⟨outcome, outcome?_run (reachable.act x) known rest⟩

theorem outcome?_underWay (reachable : c.Reachable) (running : (a, i) ∈ c.underWay) :
    c.outcome? i a = none := by
  cases heard : c.outcome? i a with
  | none => rfl
  | some outcome =>
    have known := (outcome?_eq_some reachable).mp heard
    exact absurd running ((reachable.outcomesNumbered a _ known).2 i)

theorem opens_underWay (reachable : c.Reachable) (running : (a, i) ∈ c.underWay) : c.opens a ≤ 1 := by
  obtain ⟨b, there, -, rfl, -⟩ := find?_running reachable.numbered running
  rw [reachable.openedOnce.running b there]
  split <;> simp

/-- What an action opens at the destination of an attempt under way is that attempt. -/
theorem openings_act (reachable : c.Reachable) (running : (a, i) ∈ c.underWay) (x : Action T) :
    ∃ new, (c.act x).openings = new ++ c.openings ∧ ∀ p ∈ new, p.1 = i → p = (i, a) := by
  obtain unopened | ⟨b, there, deadline, tried⟩ := act_tried reachable.numbered x
  · exact ⟨[], unopened.openings, by simp⟩
  · refine ⟨b.newOpenings, ?_, ?_⟩
    · cases tried with
      | ended outcome attempts outcomes openings => exact openings
      | waits o early attempts outcomes openings => exact openings
    · intro p opened at_
      obtain rfl := mem_newOpenings opened
      obtain rfl : b.destination = i := at_
      obtain ⟨d, -, only, -⟩ := inFlight_of_underWay reachable running
      have member := mem_attemptsOf there
      rw [only, List.mem_singleton] at member
      rw [member]

/-- Up to the action that ends it, an attempt is all that is opened at its destination. -/
theorem openings_run (reachable : c.Reachable) (running : (a, i) ∈ c.underWay)
    (actions : List (Action T)) (last : Action T) (still : (a, i) ∈ (c.run actions).underWay) :
    ∃ new, ((c.run actions).act last).openings = new ++ c.openings ∧
      ∀ p ∈ new, p.1 = i → p = (i, a) := by
  induction actions generalizing c with
  | nil => exact openings_act reachable running last
  | cons x rest ih =>
    obtain here | ⟨outcome, known⟩ := underWay_or_ended_act reachable running x
    · obtain ⟨new, added, own⟩ := openings_act reachable running x
      obtain ⟨later, added', own'⟩ := ih (reachable.act x) here still
      refine ⟨later ++ new, ?_, List.forall_mem_append.mpr ⟨own', own⟩⟩
      rw [run_cons, added', added, List.append_assoc]
    · have unknown := outcome?_underWay (reachable.run (x :: rest)) still
      rw [run_cons, outcome?_run (reachable.act x) known rest] at unknown
      cases unknown

end InFlight

/-- What an attempt in flight means for its destination and its callers, in every run that goes on from
there. Those who ask join it, and a scan passes its destination. Up to its end nothing else is opened
there, and it is opened once. Those who have joined wait until they are abandoned or hear how it ended,
which stays the same for all, and they come to hear it. Whether those that only wait are abandoned makes
no difference to anything but themselves. No call returns the failure of an attempt that was cut off,
which is not genuine (`Destination.not_genuine_abandoned`). -/
structure SingleFlight (i : Nat) (a : AttemptId) (c : Client T) : Prop where
  only : c.attemptsOf i = [a]
  asked : c.beginConnect i = (c, .joined a)
  passed : ∀ policy, (c.scan policy).1.destinations[i]? = c.destinations[i]?
  joins : ∀ id call, c.calls.lookup id = some call → call.Asks i →
    (call.joining a).Joined i a ∧
    (c.act (.step (.call id))).Went id (.waiting (call.joining a)) ∧
    (c.act (.step (.call id))).destinations = c.destinations ∧
    (c.act (.step (.call id))).attempts = c.attempts ∧
    (c.act (.step (.call id))).openings = c.openings
  alone : ∀ actions last, (a, i) ∈ (c.run actions).underWay →
    ∃ new, ((c.run actions).act last).openings = new ++ c.openings ∧
      ∀ p ∈ new, p.1 = i → p = (i, a)
  once : ∀ actions,
    ((a, i) ∈ (c.run actions).underWay ∧ (c.run actions).opens a ≤ 1 ∧
      (c.run actions).outcome? i a = none) ∨
    ((c.run actions).opens a = 1 ∧ ∃ outcome, (c.run actions).outcome? i a = some outcome ∧
      ∀ more, ((c.run actions).run more).outcome? i a = some outcome)
  followed : ∀ id call, c.calls.lookup id = some call → call.Joined i a → ∀ actions,
    Followed id call ((c.run actions).outcome? i a) c actions
  heard : ∀ id call, c.calls.lookup id = some call → call.Joined i a → ∀ actions,
    (c.run actions).calls.lookup id = some call →
      ∃ (rest : List (Action T)) (outcome : ConnectOutcome), (∀ x ∈ rest, x.drives id) ∧
        ((c.run actions).run rest).outcome? i a = some outcome ∧
        ((c.run actions).run rest).Went id (call.heard outcome)
  abandoned : ∀ S : List Nat, (∀ id ∈ S, ∃ call, c.calls.lookup id = some call ∧ call.Joined i a) →
    ∀ actions : List (Action T), let patient := actions.filter (!·.abandons S)
      (∀ before id after, patient = before ++ .step (.call id) :: after → id ∈ S →
        ∀ call, c.calls.lookup id = some call → (c.run before).OnlyWaits i a call) →
      SameBut S (c.run patient) (c.run actions)
  genuine : ∀ actions id, ∀ result ∈ (c.run actions).endings id, ∀ f ∈ result.failures, f.Genuine

/-- Connecting is single-flight. -/
theorem connects_single_flight {c : Client T} (reachable : c.Reachable) {i : Nat} {a : AttemptId}
    (running : (a, i) ∈ c.underWay) : SingleFlight i a c where
  only := by
    obtain ⟨d, -, only, -⟩ := inFlight_of_underWay reachable running
    exact only
  asked := beginConnect_inFlight reachable running
  passed := scan_inFlight reachable running
  joins := by
    intro id call calling asks
    exact ⟨asks.joined a, act_asking reachable running calling asks⟩
  alone := openings_run reachable running
  once := by
    intro actions
    have there := reachable.run actions
    obtain still | ⟨outcome, heard⟩ := underWay_or_ended reachable running actions
    · exact .inl ⟨still, opens_underWay there still, outcome?_underWay there still⟩
    · have known := (outcome?_eq_some there).mp heard
      exact .inr ⟨(there.openedOnce.ended a _ known).1, outcome, heard, outcome?_run there heard⟩
  followed := by
    intro id call calling joined
    exact followed_run reachable joined calling
  heard := by
    intro id call calling joined actions waiting
    exact hears (reachable.run actions) joined waiting (underWay_or_ended reachable running actions)
  abandoned := by
    intro S joined actions patient waits
    refine sameBut_run reachable reachable (.refl S c) ?_ actions waits
    intro id member
    obtain ⟨call, calling, join⟩ := joined id member
    exact ⟨call, calling, join, .inl calling, .inl calling⟩
  genuine := by
    intro actions id
    exact (reachable.run actions).candid.endings id

/-- A connect call, one for all destinations and an invocation that wait for the same attempt. -/
def coalesced : Client Scripted :=
  (create "client" { opens := [{ delay := .ofMillis 100 }] } {}).run
    [.addDestination { name := "a", host := "h", port := 1 }, .register 0 [{ moduleName := "m" }],
      .request (.connect 0), .request (.connectAll [0]), .request (.invoke ⟨"m", "c", "i"⟩ [1]),
      .step (.call 0), .step (.attempt 0), .step (.call 1), .step (.call 2), .step (.call 2),
      .step (.call 2), .step (.call 2)]

/-- Whether the first of them gives up makes no difference to the second, which counts the
connection. -/
theorem connects_single_flight_coalesced :
    let rest : List (Action Scripted) := [.passTo 100000000, .step (.attempt 0), .step (.call 1),
      .step (.call 1), .step (.call 0)]
    (coalesced.run rest).opens 0 = 1 ∧ (coalesced.run rest).endings 0 = [.connected (.ok ())] ∧
      (coalesced.run (.abandon 0 :: rest)).endings 0 = [.aborted] ∧
      (coalesced.run (.abandon 0 :: rest)).endings 1 = [.connectedCount 1] ∧
      (coalesced.run (.abandon 0 :: rest)).destinations = (coalesced.run rest).destinations := by
  intro rest
  have underWay : coalesced.underWay = [(0, 0)] := rfl
  have calling : coalesced.calls.lookup 0 = some (.connect 0 (some 0)) := rfl
  have single := connects_single_flight (c := coalesced) (i := 0) (a := 0) ⟨_, _, _, _, rfl⟩
    (by rw [underWay]; exact List.mem_singleton_self _)
  have same : SameBut [0] (coalesced.run rest) (coalesced.run (.abandon 0 :: rest)) := by
    refine single.abandoned [0] ?_ (.abandon 0 :: rest) ?_
    · intro id member
      obtain rfl := List.mem_singleton.mp member
      exact ⟨_, calling, .connect⟩
    · intro before id after _ member call calling'
      obtain rfl := List.mem_singleton.mp member
      rw [calling] at calling'
      cases calling'
      exact .inr rfl
  refine ⟨rfl, rfl, rfl, ?_, same.destinations⟩
  rw [same.endings 1 (by decide)]
  rfl

end Client

end Switchboard
