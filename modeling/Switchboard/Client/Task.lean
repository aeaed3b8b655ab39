import Switchboard.Client.Call

/-!
Everything that is under way in a client, as tasks that take one step at a time. The steps of different
tasks may come in any order.
-/
namespace Switchboard.Client

variable {T : Type} [Transport T]

def canStep (task : TaskId) (c : Client T) : Bool :=
  match task with
  | .attempt id => (c.attempts.find? (·.id == id)).any fun a => c.attemptReady a
  | .watcher id => (c.watchers.find? (·.id == id)).any fun w => c.watcherReady w
  | .supervisor => c.supervisor.any fun s => c.supervisorReady s
  | .call id => (c.calls.lookup id).any fun call => c.callReady call

def step (task : TaskId) (c : Client T) : Client T :=
  match task with
  | .attempt id => match c.attempts.find? (·.id == id) with
    | some a => c.stepAttempt a
    | none => c
  | .watcher id => match c.watchers.find? (·.id == id) with
    | some w => if c.watcherReady w then c.stepWatcher w else c
    | none => c
  | .supervisor => match c.supervisor with
    | some s => if c.supervisorReady s then c.stepSupervisor s else c
    | none => c
  | .call id => match c.calls.lookup id with
    | some call => c.stepCall id call
    | none => c

def tasks (c : Client T) : List TaskId :=
  c.attempts.map (.attempt ·.id) ++ c.watchers.map (.watcher ·.id)
    ++ (if c.supervisor.any (·.alive) then [.supervisor] else [])
    ++ c.calls.map (.call ·.1)

/-- When a task goes on by itself. -/
def dueTimes (task : TaskId) (c : Client T) : List Instant :=
  match task with
  | .attempt id =>
    match (c.attempts.find? (·.id == id)).bind (·.opening) with
    | some (o, deadline) => (Transport.openDue o).toList ++ [deadline]
    | none => []
  | .watcher _ => []
  | .supervisor => (c.supervisor.bind (·.next)).toList
  | .call id =>
    match c.calls.lookup id with
    | none => []
    | some call =>
      let pending (s : PendingSend T) := (Transport.sendDue s.sending).toList ++ [s.deadline]
      match call with
      | .dispatch _ _ _ (some s) => pending s
      | .invoke w => match w.place with
        | .sending _ s => pending s
        | _ => []
      | .openHandle _ (some o) => (Transport.openDue o).toList
      | .sendOn _ _ _ (some s) => (Transport.sendDue s).toList
      | .awaitClosed _ deadline => [deadline]
      | .sleep deadline => [deadline]
      | _ => []

/-- The next moment at which something goes on by itself. -/
def nextDue (c : Client T) : Option Instant :=
  ((c.tasks.flatMap fun task => c.dueTimes task).filter (c.now < ·)).min?

end Switchboard.Client
