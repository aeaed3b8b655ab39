import Switchboard.Proofs.Client.Loaded
import Switchboard.Transport.InProcess

/-!
Changes of one client that are under way at the same time. Their steps come in any order. Between the two
steps of adding a receiver its destination may be unloaded; a receiver that comes after its destination's
receivers have been removed stays, bound to a destination that is gone. No other receiver does.
-/
namespace Switchboard

/-! ### Runs of changes -/

structure Changing (T : Type) [Transport T] where
  client : Client T
  changes : List Client.Change

namespace Changing

variable {T : Type} [Transport T]

open Client (Change)

/-- Take the next step of one change. -/
def turn (k : Nat) (s : Changing T) : Changing T :=
  match s.changes[k]? with
  | none => s
  | some change => ⟨(change.step s.client).1, s.changes.set k (change.step s.client).2⟩

def run : List Nat → Changing T → Changing T
  | [], s => s
  | k :: schedule, s => run schedule (s.turn k)

/-- The receiver that a change registers too late: its destination is not loaded, and its unloading has
removed the receivers already. -/
def tooLate (s : Changing T) : Change → List Receiver
  | .register i name selectors =>
    if s.client.table.lookup name = some i ∨ .unregister i name ∈ s.changes then []
    else [⟨i, name, selectors⟩]
  | _ => []

def lateTurn (k : Nat) (s : Changing T) : List Receiver :=
  match s.changes[k]? with
  | none => []
  | some change => s.tooLate change

/-- The receivers that are registered too late in a run. -/
def late : List Nat → Changing T → List Receiver
  | [], _ => []
  | k :: schedule, s => s.lateTurn k ++ late schedule (s.turn k)

/-! ### What is kept -/

/-- Between the turns every receiver is bound to a loaded destination, or its destination is still to
lose its receivers, or it was registered too late. -/
structure Orderly (late : List Receiver) (s : Changing T) : Prop extends s.client.Loaded where
  asked : ∀ change ∈ s.changes, change.Named s.client
  leaving : ∀ change ∈ s.changes, ∀ i, change.Leaves i → s.client.Gone i
  missed : ∀ r ∈ late, s.client.Gone r.destination
  bound : ∀ r ∈ s.client.registry, (r.name, r.destination) ∈ s.client.table ∨
    .unregister r.destination r.name ∈ s.changes ∨ r ∈ late

theorem mem_set_of_ne {changes : List Change} {k : Nat} {change other : Change}
    (there : changes[k]? = some change) (listed : other ∈ changes) (different : other ≠ change)
    (next : Change) : other ∈ changes.set k next := by
  obtain ⟨j, at_⟩ := List.mem_iff_getElem?.mp listed
  have apart : k ≠ j := by
    rintro rfl
    exact different (Option.some.inj (at_.symm.trans there))
  rw [List.mem_iff_getElem?]
  exact ⟨j, (List.getElem?_set_ne apart).trans at_⟩

section Turn

variable {late : List Receiver} {s : Changing T} {k : Nat} {change next : Change} {c : Client T}

theorem Orderly.bound_turn (orderly : s.Orderly late) (there : s.changes[k]? = some change)
    (steps : Change.Steps s.client change c next) :
    ∀ r ∈ c.registry, (r.name, r.destination) ∈ c.table ∨
      .unregister r.destination r.name ∈ s.changes.set k next ∨ r ∈ late ++ s.tooLate change := by
  -- What holds of a receiver goes on to hold unless the turn is the unloading's own.
  have goesOn {r : Receiver} (listed : r ∈ s.client.registry)
      (other : .unregister r.destination r.name ≠ change) :
      (r.name, r.destination) ∈ s.client.table ∨
        .unregister r.destination r.name ∈ s.changes.set k next ∨ r ∈ late ++ s.tooLate change := by
    rcases orderly.bound r listed with loaded | pending | late
    · exact .inl loaded
    · exact .inr (.inl (mem_set_of_ne there pending other next))
    · exact .inr (.inr (List.mem_append_left _ late))
  intro r listed
  cases steps with
  | ended unloading =>
    apply goesOn listed
    rintro rfl
    exact unloading _ rfl
  | added => exact (goesOn listed nofun).imp_left (List.mem_append_left _)
  | found => exact goesOn listed nofun
  | @registered i name selectors =>
    rcases List.mem_append.mp listed with old | new
    · exact goesOn old nofun
    · rw [List.mem_singleton] at new
      subst new
      by_cases inTime : s.client.table.lookup name = some i ∨ .unregister i name ∈ s.changes
      · rcases inTime with loaded | pending
        · exact .inl (mem_of_lookup loaded)
        · exact .inr (.inl (mem_set_of_ne there pending nofun _))
      · right; right
        apply List.mem_append_right
        rw [tooLate, if_neg inTime]
        exact List.mem_singleton_self _
  | @removed name i found =>
    rcases goesOn listed nofun with loaded | others
    · by_cases same : r.name = name
      · subst same
        have known := lookup_of_mem orderly.distinct loaded
        obtain rfl : r.destination = i := Option.some.inj (known.symm.trans found)
        right; left
        exact List.mem_set (List.getElem?_eq_some_iff.mp there).1 _
      · exact .inl (List.mem_filter.mpr ⟨loaded, by simpa using same⟩)
    · exact .inr others
  | unregistered =>
    obtain ⟨old, other⟩ := List.mem_filter.mp listed
    apply goesOn old
    rintro ⟨⟩
    simp at other
  | parted which table registry =>
    rw [registry] at listed
    rw [table]
    apply goesOn listed
    rcases which with ⟨rfl, _⟩ | ⟨rfl, _⟩ <;> nofun

/-- What is registered too late is bound to a destination that is gone. -/
theorem Orderly.gone_tooLate (orderly : s.Orderly late) (listed : change ∈ s.changes) :
    ∀ r ∈ s.tooLate change, s.client.Gone r.destination := by
  intro r missed
  cases change with
  | register i name selectors =>
    simp only [tooLate] at missed
    split at missed
    · cases missed
    · next tooLate =>
      rw [List.mem_singleton] at missed
      subst missed
      exact orderly.toLoaded.gone (orderly.asked _ listed) fun loaded => tooLate (.inl loaded)
  | _ => cases missed

theorem Orderly.turn (orderly : s.Orderly late) (k : Nat) :
    (s.turn k).Orderly (late ++ s.lateTurn k) := by
  unfold Changing.turn lateTurn
  cases there : s.changes[k]? with
  | none =>
    rw [List.append_nil]
    exact orderly
  | some change =>
    have listed := List.mem_of_getElem? there
    have leaving := orderly.leaving change listed
    have steps := Client.steps_step change s.client
    obtain ⟨named, leaves⟩ := steps.follow orderly.toLoaded leaving
    refine ⟨steps.loaded orderly.toLoaded leaving, ?_, ?_, ?_, orderly.bound_turn there steps⟩
    · intro other among
      rcases List.mem_or_eq_of_mem_set among with old | rfl
      · exact steps.asked (orderly.asked other old)
      · exact named
    · intro other among
      rcases List.mem_or_eq_of_mem_set among with old | rfl
      · exact fun i leaves => steps.gone (orderly.leaving other old i leaves)
      · exact leaves
    · intro r missed
      apply steps.gone
      rcases List.mem_append.mp missed with before | now
      · exact orderly.missed r before
      · exact orderly.gone_tooLate listed r now

theorem Orderly.run (orderly : s.Orderly late) (schedule : List Nat) :
    (run schedule s).Orderly (late ++ s.late schedule) := by
  induction schedule generalizing late s with
  | nil => simpa [Changing.run, Changing.late] using orderly
  | cons k schedule ih =>
    have rest := ih (orderly.turn k)
    rwa [List.append_assoc] at rest

end Turn

/-! ### Ends -/

/-- Nothing is late before the first turn. -/
theorem orderly_whole {s : Changing T} (consistent : s.client.Consistent)
    (whole : ∀ change ∈ s.changes, change.Whole) : s.Orderly [] := by
  refine ⟨consistent.toLoaded, ?_, ?_, nofun, ?_⟩
  · intro change listed
    have begun := whole change listed
    cases change with
    | register => exact begun.elim
    | _ => trivial
  · intro change listed i leaves
    have begun := whole change listed
    cases change with
    | unregister => exact begun.elim
    | flagRetired => exact begun.elim
    | disconnect => exact begun.elim
    | _ => exact leaves.elim
  · exact fun r listed => .inl (mem_of_lookup (consistent.bound r listed))

/-- Once all changes are over, the loaded destinations are in service, and a receiver is bound to the one
of its name unless it was registered too late. Then it is bound to a destination that is gone. -/
theorem bound_unless_late {s : Changing T} (consistent : s.client.Consistent)
    (whole : ∀ change ∈ s.changes, change.Whole) (schedule : List Nat)
    (ended : ∀ change ∈ (run schedule s).changes, change = .finished) :
    let c := (run schedule s).client
    c.Loaded ∧
      (∀ r ∈ c.registry, c.table.lookup r.name = some r.destination ↔ r ∉ s.late schedule) ∧
      ∀ r ∈ s.late schedule, c.Gone r.destination := by
  intro c
  have orderly : (run schedule s).Orderly (s.late schedule) :=
    (orderly_whole consistent whole).run schedule
  refine ⟨orderly.toLoaded, fun r listed => ⟨?_, ?_⟩, orderly.missed⟩
  · intro bound late
    exact (orderly.missed r late).2 _ (mem_of_lookup bound) rfl
  · intro inTime
    rcases orderly.bound r listed with loaded | pending | late
    · exact lookup_of_mem orderly.distinct loaded
    · exact nomatch ended _ pending
    · exact absurd late inTime

/-- A destination is unloaded while a receiver is added to it, which is registered before the receivers
are removed. The destination that is added under its name meanwhile has only its own receiver. -/
theorem bound_unless_late_overlapping :
    let b : Descriptor := { name := "b", host := "b", port := 1 }
    let s : Changing InProcess := ⟨Client.create "c" {} {},
      [.addDestination b, .addReceiver "b" [⟨"m", "*", "*"⟩], .unload "b", .addDestination b,
        .addReceiver "b" [⟨"m", "*", "*"⟩]]⟩
    let schedule := [0, 1, 2, 1, 3, 2, 4, 2, 4, 2]
    let c := (run schedule s).client
    c.registry = [⟨1, "b", [⟨"m", "*", "*"⟩]⟩] ∧
      ∀ r ∈ c.registry, c.table.lookup r.name = some r.destination := by
  intro b s schedule c
  have consistent := Client.consistent_create "c" ({} : InProcess) {}
  have whole : ∀ change ∈ s.changes, change.Whole := by simp [s, Change.Whole]
  have ended : ∀ change ∈ (run schedule s).changes, change = .finished := by decide
  have inTime : s.late schedule = [] := by decide
  have bound := (bound_unless_late consistent whole schedule ended).2.1
  refine ⟨by decide, fun r listed => (bound r listed).mpr ?_⟩
  rw [inTime]
  exact List.not_mem_nil

/-- The receiver comes after the receivers have been removed. It claims its target for a destination that
is retired, and keeps the destination that is added under the same name from having a receiver for it. -/
theorem orphaned_when_late :
    let b : Descriptor := { name := "b", host := "b", port := 1 }
    let s : Changing InProcess := ⟨Client.create "c" {} {},
      [.addDestination b, .addReceiver "b" [⟨"m", "*", "*"⟩], .unload "b", .addDestination b,
        .addReceiver "b" [⟨"m", "*", "*"⟩]]⟩
    let schedule := [0, 1, 2, 2, 2, 2, 1, 3, 4, 4]
    let c := (run schedule s).client
    (∀ change ∈ (run schedule s).changes, change = .finished) ∧
      c.registry.candidates ⟨"m", "c", "i"⟩ = [⟨0, "b", [⟨"m", "*", "*"⟩]⟩] ∧
      c.table.lookup "b" = some 1 ∧ c.destinations.map Destination.retired = [true, false] := by
  decide

end Changing

end Switchboard
