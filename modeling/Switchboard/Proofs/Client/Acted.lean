import Switchboard.Proofs.Client.Ledger

/-!
What an action comes to. Most are moves and nothing else; the others take a call a step further,
make it or give it up, or change the destinations, the table or the receivers in one place.
-/
namespace Switchboard

namespace Client

variable {T : Type} [Transport T]

inductive Acted (c : Client T) : Action T → Client T → Prop
  | moved {a c'} (moves : ∀ k, Moves k c c') : Acted c a c'
  | attempted {id a} (running : a ∈ c.attempts) (moves : Moves none c (c.stepAttempt a)) :
      Acted c (.step (.attempt id)) (c.stepAttempt a)
  | called {id call} (calling : c.calls.lookup id = some call) :
      Acted c (.step (.call id)) (c.stepCall id call)
  | requested {r} : Acted c (.request r) (c.startCall r.call).1
  | abandoned {id call} (calling : c.calls.lookup id = some call) :
      Acted c (.abandon id) (c.abandonCall id)
  | added {d} (new : c.table.lookup d.name = none) :
      Acted c (.addDestination d) { c with
        destinations := c.destinations ++ [{ descriptor := d, created := c.now }]
        table := c.table ++ [(d.name, c.destinations.length)] }
  | removed {name} :
      Acted c (.removeFromTable name) { c with table := c.table.filter (·.1 != name) }
  | registered {i selectors d registry} (found : c.destinations[i]? = some d)
      (accepted : c.registry.register ⟨i, d.name, selectors⟩ = .ok registry) :
      Acted c (.register i selectors) { c with registry := registry }
  | unregistered {name} : Acted c (.unregister name) (c.unregister name).1

theorem Acted.same {c : Client T} {a : Action T} : Acted c a c := .moved fun _ => .refl

theorem Acted.aside {c c' : Client T} {a : Action T} (alike : Alike c c') : Acted c a c' :=
  .moved fun _ => alike.moves

/-- An attempt under way belongs to a destination that is there. -/
theorem Numbered.found {c : Client T} (numbered : c.Numbered) {a : Attempt T}
    (running : a ∈ c.attempts) :
    ∃ d, c.destinations[a.destination]? = some d := by
  have placed := numbered.placed _ (mem_underWay running)
  exact ⟨_, List.getElem?_eq_getElem placed⟩

theorem acted_step {c : Client T} (numbered : c.Numbered) (task : TaskId) :
    Acted c (.step task) (c.step task) := by
  unfold step
  cases task with
  | attempt id =>
    dsimp only
    cases looked : c.attempts.find? (·.id == id) with
    | none => exact .same
    | some a =>
      have running := List.mem_of_find?_eq_some looked
      obtain ⟨d, found⟩ := numbered.found running
      exact .attempted running (moves_stepAttempt found running)
  | watcher id =>
    dsimp only
    cases c.watchers.find? (·.id == id) with
    | none => exact .same
    | some w =>
      dsimp only
      split
      · exact .moved fun k => moves_stepWatcher k c w
      · exact .same
  | supervisor =>
    dsimp only
    cases c.supervisor with
    | none => exact .same
    | some s =>
      dsimp only
      split
      · exact .moved fun k => moves_stepSupervisor k c s
      · exact .same
  | call id =>
    dsimp only
    cases calling : c.calls.lookup id with
    | none => exact .same
    | some call => exact .called calling

theorem acted_act {c : Client T} (numbered : c.Numbered) (a : Action T) : Acted c a (c.act a) := by
  cases a with
  | step task => exact acted_step numbered task
  | request r => exact .requested
  | abandon id =>
    cases calling : c.calls.lookup id with
    | none =>
      have same : c.abandonCall id = c := by
        simp only [abandonCall, calling]
      rw [act, same]
      exact .same
    | some call => exact .abandoned calling
  | beginConnect i => exact .moved fun k => moves_beginConnect k c i
  | handleLost i generation => exact .moved fun k => moves_handleLost k c i generation
  | markFailed i generation => exact .moved fun k => moves_markFailed k c i generation
  | disconnect i => exact .moved fun k => moves_disconnect k c i
  | flagRetired i => exact .moved fun k => moves_flagRetired k c i
  | addDestination d =>
    dsimp only [act, addDestination]
    cases new : c.table.lookup d.name with
    | some i => exact .same
    | none => exact .added new
  | removeFromTable name =>
    dsimp only [act, removeFromTable, lookup]
    cases c.table.lookup name with
    | none => exact .same
    | some i => exact .removed
  | register i selectors =>
    dsimp only [act]
    cases found : c.destinations[i]? with
    | none => exact .same
    | some d =>
      dsimp only [register]
      cases accepted : c.registry.register ⟨i, d.name, selectors⟩ with
      | error e => exact .same
      | ok registry => exact .registered found accepted
  | unregister name => exact .unregistered
  | scan policy => exact .moved fun k => moves_scan k c policy
  | wake => exact .aside ⟨rfl, rfl, rfl, rfl, rfl, rfl, rfl, rfl, rfl, rfl⟩
  | stopSupervisor => exact .moved fun k => moves_stopSupervisor k c
  | shutdown => exact .moved fun k => moves_shutdown k c
  | transport f => exact .aside (alike_transport c (f c.transport))
  | passTo t => exact .aside ⟨rfl, rfl, rfl, rfl, rfl, rfl, rfl, rfl, rfl, rfl⟩

end Client

end Switchboard
