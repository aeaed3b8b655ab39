import Switchboard.Proofs.Client.Advance
import Mathlib.Data.List.Nodup

/-!
The ledger of one destination: its own state, its attempts under way, and what has been noted of its
handles. `Ledger.Step` says everything that can happen to it, and a move of a client is such a step
for one destination and nothing for the others.
-/
namespace Switchboard

namespace Client

variable {T : Type} [Transport T]

/-- The destination whose handle an event is about. -/
@[simp] def Event.concerns? : Event → Option Nat
  | .delivered i _ _ => some i
  | .published i _ _ => some i
  | .closed i _ => some i
  | _ => none

@[simp] def Event.publication? (i : Nat) : Event → Option Live
  | .published j h generation => if j = i then some ⟨h, generation⟩ else none
  | _ => none

@[simp] def Event.delivery? (i : Nat) : Event → Option Handle
  | .delivered j _ h => if j = i then some h else none
  | _ => none

@[simp] def Event.closure? (i : Nat) : Event → Option Handle
  | .closed j h => if j = i then some h else none
  | _ => none

/-- The attempts of a destination that are under way. -/
def attemptsOf (i : Nat) (c : Client T) : List AttemptId := (c.underWay.filter (·.2 == i)).map (·.1)

/-- The connections that a destination has published, the last one first. -/
def publications (i : Nat) (c : Client T) : List Live := c.journal.filterMap (Event.publication? i)

/-- The handles that attempts have delivered to a destination, the last one first. -/
def deliveries (i : Nat) (c : Client T) : List Handle := c.journal.filterMap (Event.delivery? i)

/-- The handles that a destination has closed, the last one first. -/
def closures (i : Nat) (c : Client T) : List Handle := c.journal.filterMap (Event.closure? i)

/-- A destination with its attempts under way and what has been noted of it, the last first. -/
structure Ledger where
  destination : Destination
  attempts : List AttemptId := []
  publications : List Live := []
  deliveries : List Handle := []
  closures : List Handle := []

def ledger (i : Nat) (c : Client T) : Option Ledger :=
  (c.destinations[i]?).map fun d =>
    ⟨d, c.attemptsOf i, c.publications i, c.deliveries i, c.closures i⟩

/-- Everything that can happen to a destination. -/
inductive Ledger.Step : Ledger → Ledger → Prop
  | begun {l now a} (off : l.destination.state ≠ .connected) (idle : l.destination.inFlight = none)
      (kept : l.destination.retired = false) :
      Step l { l with destination := l.destination.connecting now a, attempts := l.attempts ++ [a] }
  | failed {l a} (running : a ∈ l.attempts) :
      Step l { l with
        destination := l.destination.recordFailure
        attempts := l.attempts.filter (· != a) }
  | published {l a h} (running : a ∈ l.attempts) (kept : l.destination.retired = false) :
      Step l { l with
        destination := (l.destination.publish h).1
        attempts := l.attempts.filter (· != a)
        publications := ⟨h, l.destination.generation + 1⟩ :: l.publications
        deliveries := h :: l.deliveries }
  | discarded {l a h} (running : a ∈ l.attempts) (retired : l.destination.retired = true) :
      Step l { l with
        destination := (l.destination.publish h).1
        attempts := l.attempts.filter (· != a)
        deliveries := h :: l.deliveries
        closures := h :: l.closures }
  | revoked {l live next} (on : l.destination.live = some live)
      (down : next = .disconnected ∨ next = .failed) :
      Step l { l with
        destination := (l.destination.revoke live.generation next).1
        closures := live.handle :: l.closures }
  | tornDown {l} :
      Step l { l with
        destination := l.destination.disconnect.1
        closures := l.destination.disconnect.2.toList ++ l.closures }
  | retired {l} : Step l { l with destination := l.destination.markRetired }
  | counted {l stats} (attempts : stats.connectAttempts = l.destination.stats.connectAttempts)
      (failures : stats.connectFailures = l.destination.stats.connectFailures)
      (disconnects : stats.disconnects = l.destination.stats.disconnects) :
      Step l { l with destination := { l.destination with stats := stats } }

abbrev Ledger.Steps : Ledger → Ledger → Prop := Relation.ReflTransGen Ledger.Step

/-- Attempts have numbers of their own, and destinations that exist; so does whatever is noted. -/
structure Numbered (c : Client T) : Prop where
  distinct : (c.underWay.map (·.1)).Nodup
  fresh : ∀ p ∈ c.underWay, p.1 < c.nextAttempt
  placed : ∀ p ∈ c.underWay, p.2 < c.destinations.length
  noted : ∀ e ∈ c.journal, ∀ i, e.concerns? = some i → i < c.destinations.length

/-! ### What the pieces of a move do to a ledger -/

@[simp] theorem journal_log (c : Client T) (e : Event) : (c.log e).journal = e :: c.journal := rfl

@[simp] theorem journal_setDestination (c : Client T) (i : Nat) (d : Destination) :
    (c.setDestination i d).journal = c.journal := rfl

@[simp] theorem underWay_setDestination (c : Client T) (i : Nat) (d : Destination) :
    (c.setDestination i d).underWay = c.underWay := rfl

@[simp] theorem underWay_endAttempt (c : Client T) (id : AttemptId) (outcome : ConnectOutcome) :
    (c.endAttempt id outcome).underWay = c.underWay.filter (·.1 != id) := by
  simp [underWay, endAttempt, List.filter_map, Function.comp_def]

@[simp] theorem destinations_endAttempt (c : Client T) (id : AttemptId) (outcome : ConnectOutcome) :
    (c.endAttempt id outcome).destinations = c.destinations := rfl

@[simp] theorem journal_release (c : Client T) (i : Nat) (h : Option Handle) :
    (c.release i h).journal = h.toList.map (.closed i) ++ c.journal := by
  cases h <;> rfl

@[simp] theorem underWay_release (c : Client T) (i : Nat) (h : Option Handle) :
    (c.release i h).underWay = c.underWay := by
  cases h <;> rfl

@[simp] theorem destinations_release (c : Client T) (i : Nat) (h : Option Handle) :
    (c.release i h).destinations = c.destinations := by
  cases h <;> rfl

@[simp] theorem journal_releaseLost (c : Client T) (i : Nat) (h : Option Handle) :
    (c.releaseLost i h).journal = h.toList.map (.closed i) ++ c.journal := by
  cases h <;> rfl

@[simp] theorem underWay_releaseLost (c : Client T) (i : Nat) (h : Option Handle) :
    (c.releaseLost i h).underWay = c.underWay := by
  cases h <;> rfl

@[simp] theorem underWay_attemptBegun (c : Client T) (i : Nat) (d : Destination) :
    (c.attemptBegun i d).underWay = c.underWay ++ [(c.nextAttempt, i)] := by
  simp [attemptBegun, underWay]

@[simp] theorem journal_attemptBegun (c : Client T) (i : Nat) (d : Destination) :
    (c.attemptBegun i d).journal = c.journal := rfl

@[simp] theorem destinations_attemptBegun (c : Client T) (i : Nat) (d : Destination) :
    (c.attemptBegun i d).destinations =
      c.destinations.set i (d.connecting c.now c.nextAttempt) := rfl

@[simp] theorem underWay_attemptWaits (c : Client T) (id : AttemptId)
    (opening : Option (Transport.Opening T × Instant)) :
    (c.attemptWaits id opening).underWay = c.underWay := by
  simp only [underWay, attemptWaits, List.map_map]
  apply List.map_congr_left
  intro b _
  by_cases same : b.id = id <;> simp [same]

@[simp] theorem underWay_handlePublished (c : Client T) (a : Attempt T) (h : Handle)
    (d : Destination) :
    (c.handlePublished a h d).underWay = c.underWay.filter (·.1 != a.id) := by
  simp [handlePublished, underWay, log, setDestination, endAttempt, List.filter_map,
    Function.comp_def]

@[simp] theorem journal_handlePublished (c : Client T) (a : Attempt T) (h : Handle)
    (d : Destination) :
    (c.handlePublished a h d).journal =
      .published a.destination h (d.generation + 1) ::
        .delivered a.destination a.id h :: c.journal := rfl

@[simp] theorem destinations_handlePublished (c : Client T) (a : Attempt T) (h : Handle)
    (d : Destination) :
    (c.handlePublished a h d).destinations = c.destinations.set a.destination (d.publish h).1 := rfl

@[simp] theorem underWay_handleDiscarded (c : Client T) (a : Attempt T) (h : Handle)
    (d : Destination) :
    (c.handleDiscarded a h d).underWay = c.underWay.filter (·.1 != a.id) := by
  rw [handleDiscarded, underWay_endAttempt]
  rfl

@[simp] theorem journal_handleDiscarded (c : Client T) (a : Attempt T) (h : Handle)
    (d : Destination) :
    (c.handleDiscarded a h d).journal =
      .closed a.destination h :: .delivered a.destination a.id h :: c.journal := rfl

@[simp] theorem destinations_handleDiscarded (c : Client T) (a : Attempt T) (h : Handle)
    (d : Destination) :
    (c.handleDiscarded a h d).destinations = c.destinations.set a.destination (d.publish h).1 := rfl

theorem attemptsOf_ended {c c' : Client T} {id : AttemptId}
    (ended : c'.underWay = c.underWay.filter (·.1 != id)) (i : Nat) :
    c'.attemptsOf i = (c.attemptsOf i).filter (· != id) := by
  simp only [attemptsOf, ended, List.filter_map, List.filter_filter]
  congr 1
  apply List.filter_congr
  intro p _
  simp [Bool.and_comm]

theorem mem_underWay {c : Client T} {a : Attempt T} (running : a ∈ c.attempts) :
    (a.id, a.destination) ∈ c.underWay :=
  List.mem_map_of_mem running

theorem mem_attemptsOf {c : Client T} {a : Attempt T} (running : a ∈ c.attempts) :
    a.id ∈ c.attemptsOf a.destination := by
  simp only [attemptsOf, List.mem_map, List.mem_filter, beq_iff_eq]
  exact ⟨_, ⟨mem_underWay running, rfl⟩, rfl⟩

/-- The number of an attempt occurs at no other destination. -/
theorem Numbered.attemptsOf_other {c : Client T} (numbered : c.Numbered) {a : Attempt T}
    (running : a ∈ c.attempts) {i : Nat} (other : i ≠ a.destination) :
    (c.attemptsOf i).filter (· != a.id) = c.attemptsOf i := by
  rw [List.filter_eq_self]
  intro b hb
  simp only [attemptsOf, List.mem_map, List.mem_filter, beq_iff_eq] at hb
  obtain ⟨p, ⟨hp, rfl⟩, rfl⟩ := hb
  simp only [bne_iff_ne]
  intro same
  have := List.inj_on_of_nodup_map numbered.distinct hp (mem_underWay running) same
  exact other (by rw [this])

theorem ledger_congr {c c' : Client T} {i : Nat}
    (destinations : c'.destinations[i]? = c.destinations[i]?)
    (attempts : c'.attemptsOf i = c.attemptsOf i)
    (publications : c'.publications i = c.publications i)
    (deliveries : c'.deliveries i = c.deliveries i) (closures : c'.closures i = c.closures i) :
    c'.ledger i = c.ledger i := by
  simp only [ledger, destinations, attempts, publications, deliveries, closures]

theorem ledger_of_found {c : Client T} {i : Nat} {d : Destination}
    (found : c.destinations[i]? = some d) :
    c.ledger i = some ⟨d, c.attemptsOf i, c.publications i, c.deliveries i, c.closures i⟩ := by
  simp [ledger, found]

/-- An event about no handle changes no ledger. -/
theorem ledger_log (c : Client T) {e : Event} (unrelated : e.concerns? = none) (i : Nat) :
    (c.log e).ledger i = c.ledger i := by
  cases e <;> first | rfl | cases unrelated

/-- Two clients with the same destinations, attempts and journal. -/
structure Unmoved (c c' : Client T) : Prop where
  destinations : c'.destinations = c.destinations
  underWay : c'.underWay = c.underWay
  nextAttempt : c'.nextAttempt = c.nextAttempt
  outcomes : c'.outcomes = c.outcomes
  journal : c'.journal = c.journal

theorem Alike.unmoved {c c' : Client T} (alike : Alike c c') : Unmoved c c' :=
  ⟨alike.destinations, alike.underWay, alike.nextAttempt, alike.outcomes, alike.journal⟩

theorem ledger_unmoved {c c' : Client T} (unmoved : Unmoved c c') (i : Nat) :
    c'.ledger i = c.ledger i := by
  apply ledger_congr
  · rw [unmoved.destinations]
  · simp only [attemptsOf, unmoved.underWay]
  · simp only [publications, unmoved.journal]
  · simp only [deliveries, unmoved.journal]
  · simp only [closures, unmoved.journal]

/-- How a ledger fares in a move: it stays as it is, or takes a step of its own. -/
def Fares (i : Nat) (c c' : Client T) : Prop :=
  c'.ledger i = c.ledger i ∨ ∃ l l', c.ledger i = some l ∧ c'.ledger i = some l' ∧ Ledger.Step l l'

/-- A change of the destination at `j` is a step of its ledger and leaves the others alone. -/
theorem fares_of_set {c c' : Client T} {j : Nat} {d : Destination} (i : Nat)
    (found : c.destinations[j]? = some d) (d' : Destination)
    (set : c'.destinations = c.destinations.set j d')
    (others : j ≠ i → c'.attemptsOf i = c.attemptsOf i ∧ c'.publications i = c.publications i ∧
      c'.deliveries i = c.deliveries i ∧ c'.closures i = c.closures i)
    (step : Ledger.Step ⟨d, c.attemptsOf j, c.publications j, c.deliveries j, c.closures j⟩
      ⟨d', c'.attemptsOf j, c'.publications j, c'.deliveries j, c'.closures j⟩) : Fares i c c' := by
  by_cases here : j = i
  · subst here
    right
    have found' : c'.destinations[j]? = some d' := by
      rw [set]
      exact found_setDestination found d'
    exact ⟨_, _, ledger_of_found found, ledger_of_found found', step⟩
  · left
    obtain ⟨attempts, publications, deliveries, closures⟩ := others here
    apply ledger_congr _ attempts publications deliveries closures
    rw [set, List.getElem?_set_ne here]

/-- A move at one destination leaves every other ledger as it is, and is a step of its own. -/
theorem ledger_move {k : Option Nat} {c c' : Client T} (m : Move k c c') (numbered : c.Numbered)
    (i : Nat) : Fares i c c' := by
  cases m with
  | aside alike => exact .inl (ledger_unmoved alike.unmoved i)
  | noted own =>
    left
    apply ledger_log
    rename_i e
    cases e <;> first | rfl | cases own
  | opened => exact .inl (ledger_log c rfl i)
  | @waits _ id opening =>
    have unmoved : Unmoved c (c.attemptWaits id opening) :=
      ⟨rfl, underWay_attemptWaits c id opening, rfl, rfl, rfl⟩
    exact .inl (ledger_unmoved unmoved i)
  | @begun _ _ j d found off idle kept =>
    apply fares_of_set i found _ (destinations_attemptBegun c j d)
    · intro other
      simp [attemptsOf, publications, deliveries, closures, other]
    · have attempts : (c.attemptBegun j d).attemptsOf j = c.attemptsOf j ++ [c.nextAttempt] := by
        simp [attemptsOf]
      rw [attempts]
      exact .begun off idle kept
  | @failed _ a d f found running named =>
    have attempts := attemptsOf_ended
      (underWay_endAttempt (c.setDestination a.destination d.recordFailure) a.id (.error f))
    apply fares_of_set i found d.recordFailure rfl
    · intro other
      have same := numbered.attemptsOf_other running (Ne.symm other)
      exact ⟨(attempts i).trans same, rfl, rfl, rfl⟩
    · rw [attempts]
      exact .failed (mem_attemptsOf running)
  | @published _ a d h found running kept =>
    have attempts := attemptsOf_ended (underWay_handlePublished c a h d)
    apply fares_of_set i found _ (destinations_handlePublished c a h d)
    · intro other
      have same := numbered.attemptsOf_other running (Ne.symm other)
      refine ⟨(attempts i).trans same, ?_⟩
      simp [publications, deliveries, closures, List.filterMap_cons, other]
    · rw [attempts]
      have step := Ledger.Step.published (h := h)
        (l := ⟨d, c.attemptsOf a.destination, c.publications a.destination,
          c.deliveries a.destination, c.closures a.destination⟩) (mem_attemptsOf running) kept
      simpa [publications, deliveries, closures, List.filterMap_cons] using step
  | @discarded _ a d h found running retired =>
    have attempts := attemptsOf_ended (underWay_handleDiscarded c a h d)
    apply fares_of_set i found _ (destinations_handleDiscarded c a h d)
    · intro other
      have same := numbered.attemptsOf_other running (Ne.symm other)
      refine ⟨(attempts i).trans same, ?_⟩
      simp [publications, deliveries, closures, List.filterMap_cons, other]
    · rw [attempts]
      have step := Ledger.Step.discarded (h := h)
        (l := ⟨d, c.attemptsOf a.destination, c.publications a.destination,
          c.deliveries a.destination, c.closures a.destination⟩) (mem_attemptsOf running) retired
      simpa [publications, deliveries, closures, List.filterMap_cons] using step
  | @revoked _ _ j d live next found on down =>
    apply fares_of_set i found (d.revoke live.generation next).1 (by simp [setDestination])
    · intro other
      simp [attemptsOf, publications, deliveries, closures, List.filterMap_cons, other]
    · have step := Ledger.Step.revoked
        (l := ⟨d, c.attemptsOf j, c.publications j, c.deliveries j, c.closures j⟩) on down
      simpa [attemptsOf, publications, deliveries, closures, List.filterMap_cons] using step
  | @tornDown _ _ j d found =>
    apply fares_of_set i found d.disconnect.1 (by simp [setDestination])
    · intro other
      cases d.disconnect.2 <;>
        simp [attemptsOf, publications, deliveries, closures, List.filterMap_cons, other]
    · have step := Ledger.Step.tornDown
        (l := ⟨d, c.attemptsOf j, c.publications j, c.deliveries j, c.closures j⟩)
      cases h : d.disconnect.2 <;>
        simpa [attemptsOf, publications, deliveries, closures, List.filterMap_cons, h] using step
  | retired found =>
    exact fares_of_set i found _ rfl (fun _ => ⟨rfl, rfl, rfl, rfl⟩) .retired
  | counted found attempts failures disconnects =>
    exact fares_of_set i found _ rfl (fun _ => ⟨rfl, rfl, rfl, rfl⟩)
      (.counted attempts failures disconnects)

end Client

end Switchboard
