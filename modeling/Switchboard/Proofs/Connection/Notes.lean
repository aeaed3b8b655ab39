import Switchboard.Proofs.Connection.Fates
import Switchboard.Proofs.Connection.OutOfService

/-!
What is noted of a destination. A history tells what has happened to it, when, and whether the supervisor
brought it about; the count of failures, the last attempt and the one under way can be read off it. Whoever
lets a client act, its histories are made in the same way, so all this is proved of chronicles.
-/
namespace Switchboard

namespace Client

/-! ### Histories -/

structure Note where
  happening : Happening
  time : Instant
  /-- The supervisor brought it about. -/
  supervised : Bool
deriving DecidableEq, Repr

/-- The notes since a connection was last published, of a history whose last note comes first. -/
def sincePublished (notes : List Note) : List Note :=
  notes.takeWhile (·.happening != .published)

/-- How many attempts have failed since a connection was last published. -/
def failedAttempts (notes : List Note) : Nat :=
  (sincePublished notes).countP (·.happening == .failed)

/-- Whether the connection that was last published was given up since it did not answer. -/
def gaveUp (notes : List Note) : Bool :=
  (sincePublished notes).any (·.happening == .timedOut)

/-- The attempts that have begun since a connection was last published, the last one first. -/
def begunSince (notes : List Note) : List Note :=
  (sincePublished notes).filter (·.happening == .begun)

def lastBegun (notes : List Note) : Option Instant :=
  (notes.find? (·.happening == .begun)).map (·.time)

variable {T : Type} [Transport T]

def note? (i : Nat) (c : Client T) (a : Action T) : Option Note :=
  (c.happening? i a).map (⟨·, c.now, a.isSupervisor⟩)

/-- What happens to a destination in a run, the last happening first. -/
def history (i : Nat) : Client T → List (Action T) → List Note
  | _, [] => []
  | c, a :: rest => history i (c.act a) rest ++ (c.note? i a).toList

theorem history_concat (c : Client T) (i : Nat) (actions : List (Action T)) (a : Action T) :
    c.history i (actions ++ [a]) = ((c.run actions).note? i a).toList ++ c.history i actions := by
  induction actions generalizing c with
  | nil => simp [history]
  | cons b rest ih => simp [history, ih]

/-! ### What a history tells -/

theorem failedAttempts_cons (note : Note) (notes : List Note) :
    failedAttempts (note :: notes) = match note.happening with
      | .published => 0
      | .failed => failedAttempts notes + 1
      | .begun | .timedOut => failedAttempts notes := by
  obtain ⟨happening, time, supervised⟩ := note
  cases happening <;> simp +decide [failedAttempts, sincePublished]

theorem gaveUp_cons (note : Note) (notes : List Note) :
    gaveUp (note :: notes) = match note.happening with
      | .published => false
      | .timedOut => true
      | .begun | .failed => gaveUp notes := by
  obtain ⟨happening, time, supervised⟩ := note
  cases happening <;> simp +decide [gaveUp, sincePublished]

/-- The count of failures of a destination with a history. -/
def Counted (notes : List Note) (d : Destination) : Prop :=
  d.failures = min Destination.maxFailures (failedAttempts notes + (gaveUp notes).toNat)

theorem Counted.next {notes : List Note} {d d' : Destination} {now : Instant}
    {happening : Option Happening} (counted : Counted notes d) (fate : d.Fate now happening d')
    (supervised : Bool) :
    Counted ((happening.map (⟨·, now, supervised⟩)).toList ++ notes) d' := by
  unfold Counted at counted ⊢
  cases fate with
  | rested rested => exact rested.failures.trans counted
  | begun =>
    simp only [Option.map_some, Option.toList_some, List.singleton_append, failedAttempts_cons,
      gaveUp_cons]
    exact counted
  | failed =>
    simp only [Option.map_some, Option.toList_some, List.singleton_append, failedAttempts_cons,
      gaveUp_cons, Destination.recordFailure]
    omega
  | published _ kept => simp [failedAttempts_cons, gaveUp_cons, Destination.publish, kept]
  | discarded _ retired => simpa [Destination.publish, retired] using counted
  | timedOut _ before failures =>
    -- The connection was published last, so nothing was counted for it yet.
    have zero : failedAttempts notes = 0 := by
      simp only [before, Destination.maxFailures] at counted
      omega
    simp [failedAttempts_cons, gaveUp_cons, failures, zero, Destination.maxFailures]

theorem lastBegun_cons (note : Note) (notes : List Note) :
    lastBegun (note :: notes) =
      if note.happening = .begun then some note.time else lastBegun notes := by
  by_cases begun : note.happening = .begun <;> simp [lastBegun, begun]

/-- The last attempt is the one that the history tells of. -/
theorem lastAttempt_next {notes : List Note} {d d' : Destination} {now : Instant}
    {happening : Option Happening} (noted : d.lastAttempt = lastBegun notes)
    (fate : d.Fate now happening d') (supervised : Bool) :
    d'.lastAttempt = lastBegun ((happening.map (⟨·, now, supervised⟩)).toList ++ notes) := by
  cases fate with
  | rested rested => exact rested.lastAttempt.trans noted
  | begun => simp [lastBegun_cons, Destination.connecting]
  | failed => simpa [lastBegun_cons, Destination.recordFailure] using noted
  | published _ kept => simpa [lastBegun_cons, Destination.publish, kept] using noted
  | discarded _ retired => simpa [Destination.publish, retired] using noted
  | timedOut _ _ _ lastAttempt => simpa [lastBegun_cons] using lastAttempt.trans noted

theorem begunSince_cons (note : Note) (notes : List Note) :
    begunSince (note :: notes) = match note.happening with
      | .published => []
      | .begun => note :: begunSince notes
      | .failed | .timedOut => begunSince notes := by
  obtain ⟨happening, time, supervised⟩ := note
  cases happening <;> simp +decide [begunSince, sincePublished]

theorem lastBegun_of_begunSince {notes earlier : List Note} {y : Note}
    (same : begunSince notes = y :: earlier) : lastBegun notes = some y.time := by
  induction notes with
  | nil => cases same
  | cons note notes ih =>
    rw [begunSince_cons] at same
    rw [lastBegun_cons]
    cases happening : note.happening with
    | published => simp [happening] at same
    | begun =>
      simp only [happening] at same
      rw [if_pos rfl, (List.cons.inj same).1]
    | failed =>
      simp only [happening] at same
      rw [if_neg (by decide), ih same]
    | timedOut =>
      simp only [happening] at same
      rw [if_neg (by decide), ih same]

/-- All attempts since a connection was last published have failed but for the one under way. -/
def Spent (notes : List Note) (d : Destination) : Prop :=
  d.retired = false → (begunSince notes).length = failedAttempts notes + d.inFlight.toList.length

theorem Spent.next {notes : List Note} {d d' : Destination} {now : Instant}
    {happening : Option Happening} (spent : Spent notes d) (fate : d.Fate now happening d')
    (kept : d'.retired = false → d.retired = false) (supervised : Bool) :
    Spent ((happening.map (⟨·, now, supervised⟩)).toList ++ notes) d' := by
  intro kept'
  have spent := spent (kept kept')
  cases fate with
  | rested rested => simpa [rested.inFlight] using spent
  | begun off idle => simpa [begunSince_cons, failedAttempts_cons, Destination.connecting, idle] using spent
  | failed running =>
    obtain ⟨a, running⟩ := Option.isSome_iff_exists.mp running
    simpa [begunSince_cons, failedAttempts_cons, Destination.recordFailure, running] using spent
  | published _ on => simp [begunSince_cons, failedAttempts_cons, Destination.publish, on]
  | discarded _ retired => simp [Destination.publish, retired] at kept'
  | timedOut inFlight => simpa [begunSince_cons, failedAttempts_cons, inFlight] using spent

/-- What a history tells of its destination. -/
structure Tracked (notes : List Note) (d : Destination) : Prop where
  counted : Counted notes d
  lastAttempt : d.lastAttempt = lastBegun notes
  spent : Spent notes d

/-! ### Chronicles -/

/-- A history of a destination, the last note first, along with all that has led to a client. -/
inductive Chronicle (i : Nat) : Client T → List Note → Prop
  | created (name : String) (transport : T) (policy : Reconnect.Policy) :
      Chronicle i (create name transport policy) []
  | acted {c c' notes} (before : Chronicle i c notes) (a : Action T) (supervised : Bool)
      (unmoved : Unmoved (c.act a) c') :
      Chronicle i c' (((c.happening? i a).map (⟨·, c.now, supervised⟩)).toList ++ notes)
  | aside {c c' notes} (before : Chronicle i c notes) (unmoved : Unmoved c c') : Chronicle i c' notes

section Chronicles

variable {c : Client T} {i : Nat} {notes : List Note}

theorem Chronicle.every {P : Ledger → Prop} (blank : ∀ d created, P (Ledger.blank d created))
    (kept : ∀ l l', P l → Ledger.Step l l' → P l') (chronicle : Chronicle i c notes) : c.Every P := by
  induction chronicle with
  | created name transport policy => exact every_create name transport policy
  | acted _ a _ unmoved ih => exact (ih.act blank kept a).unmoved unmoved
  | aside _ unmoved ih => exact ih.unmoved unmoved

theorem Chronicle.watchable (chronicle : Chronicle i c notes) : c.Watchable :=
  chronicle.every .blank .step

/-- Nothing has happened to a destination before it is added. -/
theorem Chronicle.missing (chronicle : Chronicle i c notes) (missing : c.destinations[i]? = none) :
    notes = [] := by
  induction chronicle with
  | created => rfl
  | @acted c c' notes before a supervised unmoved ih =>
    rw [unmoved.destinations] at missing
    have absent : c.destinations[i]? = none := by
      by_contra there
      obtain ⟨d, found⟩ := Option.ne_none_iff_exists'.mp there
      obtain ⟨d', found', -⟩ := fated_act before.watchable i a d found
      rw [found'] at missing
      cases missing
    rw [ih absent]
    simp [happening?, ledger, absent]
  | aside _ unmoved ih => exact ih (unmoved.destinations ▸ missing)

/-- What holds of every new destination and is kept by whatever happens to it holds of every destination
and its history. -/
theorem Chronicle.holds {P : List Note → Destination → Prop}
    (added : ∀ descriptor created, P [] { descriptor := descriptor, created := created })
    (kept : ∀ {notes d d' now happening}, d.Fate now happening d' →
      (d'.retired = false → d.retired = false) → ∀ supervised, P notes d →
      P ((happening.map (⟨·, now, supervised⟩)).toList ++ notes) d')
    (chronicle : Chronicle i c notes) {d : Destination} (found : c.destinations[i]? = some d) :
    P notes d := by
  induction chronicle generalizing d with
  | created => simp [create] at found
  | @acted c c' notes before a supervised unmoved ih =>
    rw [unmoved.destinations] at found
    obtain ⟨new, old⟩ := ledger_act before.watchable.numbered a i
    -- The destination was there before the action, or the action has added it.
    cases there : c.destinations[i]? with
    | some d₀ =>
      obtain ⟨d', found', fate⟩ := fated_act before.watchable i a d₀ there
      obtain ⟨l', held', steps⟩ := old _ (ledger_of_found there)
      obtain rfl : d' = d := Option.some.inj (found'.symm.trans found)
      cases held'.symm.trans (ledger_of_found found')
      refine kept fate ?_ supervised (ih there)
      intro on
      by_contra retired
      have still := steps.retired (Bool.not_eq_false _ ▸ retired)
      simp [on] at still
    | none =>
      have none : c.ledger i = none := by simp [ledger, there]
      have held := ledger_of_found found
      obtain ⟨descriptor, same⟩ := (new none).resolve_left (by simp [held])
      have nothing : c.happening? i a = Option.none := by simp [happening?, none]
      obtain rfl : d = { descriptor := descriptor, created := c.now } :=
        congrArg Ledger.destination (Option.some.inj (held.symm.trans same))
      rw [before.missing there, nothing]
      exact added descriptor c.now
  | aside _ unmoved ih => exact ih (unmoved.destinations ▸ found)

theorem Chronicle.tracked (chronicle : Chronicle i c notes) {d : Destination}
    (found : c.destinations[i]? = some d) : Tracked notes d := by
  refine chronicle.holds (P := Tracked) ?_ ?_ found
  · intro descriptor created
    exact ⟨rfl, rfl, fun _ => rfl⟩
  · intro notes d d' now happening fate kept supervised tracked
    exact ⟨tracked.counted.next fate supervised, lastAttempt_next tracked.lastAttempt fate supervised,
      tracked.spent.next fate kept supervised⟩

/-- A run of a client is a chronicle. -/
theorem chronicle_run (name : String) (transport : T) (policy : Reconnect.Policy) (i : Nat)
    (actions : List (Action T)) :
    Chronicle i ((create name transport policy).run actions)
      ((create name transport policy).history i actions) := by
  induction actions using List.reverseRecOn with
  | nil => exact .created name transport policy
  | append_singleton before a ih =>
    rw [history_concat, run_append]
    exact .acted ih a a.isSupervisor (.refl _)

end Chronicles

end Client

end Switchboard
