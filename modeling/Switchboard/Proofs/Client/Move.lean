import Switchboard.Proofs.Client.Run
import Mathlib.Logic.Relation

/-!
What a step can do to the destinations of a client. Every action comes down to a few moves, each of
which concerns one destination: an attempt starts, fails, is published or is discarded; a connection
is taken back or torn down; a destination is retired, or its counters change. What a property needs
to know about the functions of a client it can read off the moves.
-/
namespace Switchboard

/-- The destination with an attempt that has just begun. -/
def Destination.connecting (now : Instant) (attempt : AttemptId) (d : Destination) : Destination :=
  { d with
    state := .connecting
    lastAttempt := some now
    inFlight := some attempt
    stats := d.stats.recordConnectAttempt }

namespace Client

open Text (Bytes)

variable {T : Type} [Transport T]

/-- The call that an event is about. -/
def Event.caller? : Event → Option Nat
  | .sendStarted call _ _ => some call
  | .told call _ => some call
  | _ => none

/-- The attempts under way, each with its destination. -/
def underWay (c : Client T) : List (AttemptId × Nat) :=
  c.attempts.map fun a => (a.id, a.destination)

def setDestination (i : Nat) (d : Destination) (c : Client T) : Client T :=
  { c with destinations := c.destinations.set i d }

/-- The client whose destination has just begun an attempt. -/
def attemptBegun (i : Nat) (d : Destination) (c : Client T) : Client T :=
  { c.setDestination i (d.connecting c.now c.nextAttempt) with
    nextAttempt := c.nextAttempt + 1
    attempts := c.attempts ++ [{ id := c.nextAttempt, destination := i }] }

/-- The client in which an attempt goes on waiting for what it opens. -/
def attemptWaits (id : AttemptId) (opening : Option (Transport.Opening T × Instant)) (c : Client T) :
    Client T :=
  { c with attempts := c.attempts.map fun b =>
    if b.id = id then { b with opening := opening } else b }

/-- The client that has just published a handle and watches it. -/
def handlePublished (a : Attempt T) (h : Handle) (d : Destination) (c : Client T) : Client T :=
  let c := (c.log (.delivered a.destination a.id h)).setDestination a.destination (d.publish h).1
  let c := c.log (.published a.destination h (d.generation + 1))
  let watcher := ⟨c.nextWatcher, a.destination, h, d.generation + 1⟩
  ({ c with nextWatcher := c.nextWatcher + 1, watchers := c.watchers ++ [watcher] }).endAttempt a.id
    (.ok ())

/-- The client that has just closed a handle that came too late. -/
def handleDiscarded (a : Attempt T) (h : Handle) (d : Destination) (c : Client T) : Client T :=
  let c := (c.log (.delivered a.destination a.id h)).setDestination a.destination (d.publish h).1
  (c.closeHandle a.destination h).endAttempt a.id (.error d.removedWhileConnecting)

/-- Two clients that differ in nothing that destinations, attempts, calls and receivers know of. -/
structure Alike (c c' : Client T) : Prop where
  destinations : c'.destinations = c.destinations
  attempts : c'.attempts = c.attempts
  nextAttempt : c'.nextAttempt = c.nextAttempt
  outcomes : c'.outcomes = c.outcomes
  calls : c'.calls = c.calls
  results : c'.results = c.results
  nextCall : c'.nextCall = c.nextCall
  registry : c'.registry = c.registry
  table : c'.table = c.table
  journal : c'.journal = c.journal

theorem Alike.underWay {c c' : Client T} (alike : Alike c c') : c'.underWay = c.underWay := by
  simp only [Client.underWay, alike.attempts]

/-- One thing that can happen to one destination, on behalf of a call if there is one. What an attempt
does is on behalf of nobody. -/
inductive Move : Option Nat → Client T → Client T → Prop
  /-- Transport, clock, supervisor, watchers. -/
  | aside {k c c'} (alike : Alike c c') : Move k c c'
  /-- The call notes something. -/
  | noted {id c e} (own : e.caller? = some id) : Move (some id) c (c.log e)
  | opened {c i a} : Move none c (c.log (.openStarted i a))
  | waits {c id opening} : Move none c (c.attemptWaits id opening)
  | begun {k c i d} (found : c.destinations[i]? = some d) (off : d.state ≠ .connected)
      (idle : d.inFlight = none) (kept : d.retired = false) : Move k c (c.attemptBegun i d)
  | failed {c a d f} (found : c.destinations[a.destination]? = some d) (running : a ∈ c.attempts)
      (named : f.destination = d.name) :
      Move none c ((c.setDestination a.destination d.recordFailure).endAttempt a.id (.error f))
  | published {c a d h} (found : c.destinations[a.destination]? = some d)
      (running : a ∈ c.attempts)
      (kept : d.retired = false) : Move none c (c.handlePublished a h d)
  | discarded {c a d h} (found : c.destinations[a.destination]? = some d)
      (running : a ∈ c.attempts)
      (retired : d.retired = true) : Move none c (c.handleDiscarded a h d)
  /-- The published connection is lost or has stopped answering. -/
  | revoked {k c i d live next} (found : c.destinations[i]? = some d) (on : d.live = some live)
      (down : next = .disconnected ∨ next = .failed) :
      Move k c ((c.setDestination i (d.revoke live.generation next).1).releaseLost i
        (some live.handle))
  | tornDown {k c i d} (found : c.destinations[i]? = some d) :
      Move k c ((c.setDestination i d.disconnect.1).release i d.disconnect.2)
  | retired {k c i d} (found : c.destinations[i]? = some d) :
      Move k c (c.setDestination i d.markRetired)
  /-- A dispatch is counted. -/
  | counted {k c i d stats} (found : c.destinations[i]? = some d)
      (attempts : stats.connectAttempts = d.stats.connectAttempts)
      (failures : stats.connectFailures = d.stats.connectFailures)
      (disconnects : stats.disconnects = d.stats.disconnects) :
      Move k c (c.setDestination i { d with stats := stats })

/-- Any number of moves. -/
abbrev Moves (k : Option Nat) : Client T → Client T → Prop := Relation.ReflTransGen (Move k)

theorem Move.moves {k : Option Nat} {c c' : Client T} (m : Move k c c') : Moves k c c' :=
  Relation.ReflTransGen.single m

theorem Alike.moves {k : Option Nat} {c c' : Client T} (alike : Alike c c') : Moves k c c' :=
  (Move.aside alike).moves

/-! ### Steps of one destination -/

theorem onDestination_of_found {α : Type} {c : Client T} {i : Nat} {d : Destination}
    (found : c.destinations[i]? = some d) (absent : α) (f : Destination → Destination × α) :
    c.onDestination i absent f = (c.setDestination i (f d).1, (f d).2) := by
  simp [onDestination, found, setDestination]

theorem onDestination_of_absent {α : Type} {c : Client T} {i : Nat}
    (missing : c.destinations[i]? = none) (absent : α) (f : Destination → Destination × α) :
    c.onDestination i absent f = (c, absent) := by
  simp [onDestination, missing]

theorem setDestination_self {c : Client T} {i : Nat} {d : Destination}
    (found : c.destinations[i]? = some d) : c.setDestination i d = c := by
  obtain ⟨h, rfl⟩ := List.getElem?_eq_some_iff.mp found
  simp [setDestination]

/-- What asking a destination to connect comes to. -/
inductive Asked (c : Client T) (i : Nat) (d : Destination) : Client T × Joining → Prop
  | connected (on : d.state = .connected) : Asked c i d (c, .connected)
  | joined {a} (off : d.state ≠ .connected) (running : d.inFlight = some a) :
      Asked c i d (c, .joined a)
  | refused (off : d.state ≠ .connected) (idle : d.inFlight = none) (retired : d.retired = true) :
      Asked c i d (c, .refused d.removed)
  | started (off : d.state ≠ .connected) (idle : d.inFlight = none) (kept : d.retired = false) :
      Asked c i d (c.attemptBegun i d, .started c.nextAttempt)

theorem beginConnect_asked {c : Client T} {i : Nat} {d : Destination}
    (found : c.destinations[i]? = some d) : Asked c i d (c.beginConnect i) := by
  unfold beginConnect
  rw [onDestination_of_found found]
  by_cases on : d.state = .connected
  · simp only [Destination.beginConnect, on, if_true, setDestination_self found]
    exact .connected on
  · cases inFlight : d.inFlight with
    | some a =>
      simp only [Destination.beginConnect, on, if_false, inFlight, setDestination_self found]
      exact .joined on inFlight
    | none =>
      cases retired : d.retired with
      | true =>
        simp only [Destination.beginConnect, on, if_false, inFlight, retired, if_true,
          setDestination_self found]
        exact .refused on inFlight retired
      | false =>
        have started : d.beginConnect c.now c.nextAttempt =
            (d.connecting c.now c.nextAttempt, .started c.nextAttempt) := by
          simp [Destination.beginConnect, Destination.connecting, on, inFlight, retired]
        simp only [started]
        exact .started on inFlight retired

theorem beginConnect_of_absent {c : Client T} {i : Nat} (missing : c.destinations[i]? = none) :
    c.beginConnect i = (c, .connected) := by
  simp [beginConnect, onDestination_of_absent missing]

theorem moves_beginConnect (k : Option Nat) (c : Client T) (i : Nat) :
    Moves k c (c.beginConnect i).1 := by
  cases found : c.destinations[i]? with
  | none => rw [beginConnect_of_absent found]
  | some d =>
    have asked := beginConnect_asked found
    generalize c.beginConnect i = asking at asked ⊢
    cases asked with
    | connected => exact .refl
    | joined => exact .refl
    | refused => exact .refl
    | started off idle kept => exact (Move.begun found off idle kept).moves

end Client

end Switchboard
