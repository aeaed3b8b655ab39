import Switchboard.Proofs.Client.Setup
import Switchboard.Proofs.Connection.Effects

/-!
The supervisor's loop in finer steps. In a client its turn is one step; here it looks at one destination
after the other and then begins the attempts one by one, and everything else may come in between. A
report, too, may reach it later than what it reports.
-/
namespace Switchboard

namespace Client

/-- Where the supervisor is in its loop. -/
inductive Phase
  | waiting
  /-- It looks at the loaded destinations. -/
  | looking (now : Instant) (unseen due : List Nat)
  /-- It asks those that were due to connect. -/
  | asking (due : List Nat)
deriving DecidableEq, Repr

/-- The destinations that the scan under way may still come to. -/
def Phase.ahead : Phase → List Nat
  | .waiting => []
  | .looking _ unseen due => unseen ++ due
  | .asking due => due

/-- A client whose supervisor may be in the middle of a scan. -/
structure Watched (T : Type) [Transport T] where
  client : Client T
  phase : Phase := .waiting
  /-- Reports that are on their way to the supervisor. -/
  withheld : Nat := 0
  /-- How many scans have begun. -/
  scans : Nat := 0

inductive Turn (T : Type)
  /-- Anybody but the supervisor does something. -/
  | act (a : Action T)
  /-- The same, but what the supervisor is to hear of it is withheld. -/
  | late (a : Action T)
  | report
  /-- The supervisor wakes up and takes the permit, or its interval is over. -/
  | wake (permit : Bool)
  | look (i : Nat)
  /-- The scan meets a destination that it has not met at its beginning. -/
  | meet (i : Nat)
  | goOn

def Action.isSupervisor {T : Type} : Action T → Bool
  | .step .supervisor => true
  | _ => false

theorem Action.eq_of_isSupervisor {T : Type} {a : Action T} (supervisor : a.isSupervisor = true) :
    a = .step .supervisor := by
  unfold Action.isSupervisor at supervisor
  split at supervisor
  · rfl
  · cases supervisor

/-- The supervisor's own turns. -/
def Turn.isSupervisor {T : Type} : Turn T → Bool
  | .act _ => false
  | .late _ => false
  | _ => true

variable {T : Type} [Transport T]

def loaded (c : Client T) : List Nat := c.table.map (·.2)

def isDue (now : Instant) (policy : Reconnect.Policy) (i : Nat) (c : Client T) : Bool :=
  c.loaded.contains i && (c.destinations[i]?).any (·.reconnectDue now policy)

def wakes (permit : Bool) (s : Supervisor) (c : Client T) : Bool :=
  s.alive && match s.next with
    | none => true
    | some next => if permit then c.signal else next ≤ c.now

def hear (permit : Bool) (s : Supervisor) (c : Client T) : Client T :=
  if permit && s.next.isSome then { c with signal := false } else c

def pause (c : Client T) : Client T :=
  { c with supervisor := c.supervisor.map fun s =>
    { s with next := some (c.now + s.policy.scanInterval.nanos) } }

def setSupervisor (s : Supervisor) (c : Client T) : Client T := { c with supervisor := some s }

/-! ### A turn of the supervisor -/

@[simp] theorem now_hear (permit : Bool) (s : Supervisor) (c : Client T) :
    (c.hear permit s).now = c.now := by
  unfold hear
  split <;> rfl

@[simp] theorem loaded_hear (permit : Bool) (s : Supervisor) (c : Client T) :
    (c.hear permit s).loaded = c.loaded := by
  unfold hear
  split <;> rfl

theorem unmoved_hear (permit : Bool) (s : Supervisor) (c : Client T) :
    Unmoved c (c.hear permit s) ∧ (c.hear permit s).table = c.table ∧
      (c.hear permit s).supervisor = c.supervisor := by
  unfold hear
  split <;> exact ⟨⟨rfl, rfl, rfl, rfl, rfl⟩, rfl, rfl⟩

theorem supervisor_beginConnect (c : Client T) (i : Nat) :
    (c.beginConnect i).1.supervisor = c.supervisor := by
  cases found : c.destinations[i]? with
  | none => rw [beginConnect_of_absent found]
  | some d =>
    have asked := beginConnect_asked found
    generalize c.beginConnect i = asking at asked ⊢
    cases asked <;> rfl

theorem hear_signal (c : Client T) (s : Supervisor) :
    c.hear c.signal s = if s.next.isSome then { c with signal := false } else c := by
  unfold hear
  cases signal : c.signal with
  | true => simp
  | false =>
    have same : { c with signal := false } = c := by
      rw [← signal]
    simp [same]

theorem supervisor_scan (c : Client T) (policy : Reconnect.Policy) :
    (c.scan policy).1.supervisor = c.supervisor := by
  unfold scan
  dsimp only
  generalize c.due policy = due
  induction due generalizing c with
  | nil => rfl
  | cons i rest ih => exact (ih _).trans (supervisor_beginConnect c i)

theorem stepSupervisor_of_halted {c : Client T} {s : Supervisor} (halted : s.running = false) :
    c.stepSupervisor s = (c.hear c.signal s).setSupervisor { s with alive := false } := by
  rw [stepSupervisor, ← hear_signal, halted]
  rfl

theorem stepSupervisor_of_running {c : Client T} {s : Supervisor} (supervisor : c.supervisor = some s)
    (running : s.running = true) :
    c.stepSupervisor s = ((c.hear c.signal s).scan s.policy).1.pause := by
  have kept : ((c.hear c.signal s).scan s.policy).1.supervisor = some s := by
    rw [supervisor_scan, (unmoved_hear c.signal s c).2.2, supervisor]
  rw [stepSupervisor, ← hear_signal]
  simp [running, pause, kept]

/-- What an action is to the supervisor: that of another, nothing since it still waits, or its turn. -/
inductive Turned (c : Client T) : Action T → Client T → Prop
  | other {a} (other : a.isSupervisor = false) : Turned c a (c.act a)
  | waits : Turned c (.step .supervisor) c
  | turned {s} (supervisor : c.supervisor = some s) (ready : c.supervisorReady s = true) :
      Turned c (.step .supervisor) (c.stepSupervisor s)

theorem turned_act (c : Client T) (a : Action T) : Turned c a (c.act a) := by
  cases other : a.isSupervisor with
  | false => exact .other other
  | true =>
    obtain rfl := Action.eq_of_isSupervisor other
    simp only [act, step]
    cases supervisor : c.supervisor with
    | none => exact .waits
    | some s =>
      dsimp only
      split
      · next ready => exact .turned supervisor ready
      · exact .waits

/-! ### Finer steps -/

namespace Watched

def take (w : Watched T) : Turn T → Watched T
  | .act a => if a.isSupervisor then w else { w with client := w.client.act a }
  | .late a =>
    if a.isSupervisor then w
    else { w with
      client := { w.client.act a with signal := w.client.signal }
      withheld := w.withheld + 1 }
  | .report =>
    if w.withheld = 0 then w
    else { w with client := w.client.wake, withheld := w.withheld - 1 }
  | .wake permit =>
    match w.phase, w.client.supervisor with
    | .waiting, some s =>
      if !w.client.wakes permit s then w
      else
        let c := w.client.hear permit s
        if !s.running then { w with client := c.setSupervisor { s with alive := false } }
        else { w with client := c, phase := .looking c.now c.loaded [], scans := w.scans + 1 }
    | _, _ => w
  | .look i =>
    match w.phase, w.client.supervisor with
    | .looking now unseen due, some s =>
      if unseen.contains i then
        let due := if w.client.isDue now s.policy i then due ++ [i] else due
        { w with phase := .looking now (unseen.erase i) due }
      else w
    | _, _ => w
  | .meet i =>
    match w.phase with
    | .looking now unseen due =>
      if w.client.loaded.contains i then { w with phase := .looking now (unseen ++ [i]) due } else w
    | _ => w
  | .goOn =>
    match w.phase with
    | .looking _ [] due => { w with phase := .asking due }
    | .asking (i :: due) => { w with client := (w.client.beginConnect i).1, phase := .asking due }
    | .asking [] => { w with client := w.client.pause, phase := .waiting }
    | _ => w

def run (w : Watched T) (turns : List (Turn T)) : Watched T := turns.foldl take w

@[simp] theorem run_nil (w : Watched T) : w.run [] = w := rfl

@[simp] theorem run_cons (w : Watched T) (t : Turn T) (rest : List (Turn T)) :
    w.run (t :: rest) = (w.take t).run rest := rfl

@[simp] theorem run_append (w : Watched T) (first rest : List (Turn T)) :
    w.run (first ++ rest) = (w.run first).run rest := by
  simp [run]

def start (name : String) (transport : T) (policy : Reconnect.Policy) : Watched T where
  client := create name transport policy

/-- What a turn comes to. -/
inductive Took (w : Watched T) : Turn T → Watched T → Prop
  | nothing {t} : Took w t w
  | acted {a} (other : a.isSupervisor = false) : Took w (.act a) { w with client := w.client.act a }
  | late {a} (other : a.isSupervisor = false) :
      Took w (.late a) { w with
        client := { w.client.act a with signal := w.client.signal }
        withheld := w.withheld + 1 }
  | reported (withheld : w.withheld ≠ 0) :
      Took w .report { w with client := w.client.wake, withheld := w.withheld - 1 }
  | stopped {permit s} (supervisor : w.client.supervisor = some s) (halted : s.running = false) :
      Took w (.wake permit) { w with
        client := (w.client.hear permit s).setSupervisor { s with alive := false } }
  | woke {permit s} (phase : w.phase = .waiting) (supervisor : w.client.supervisor = some s) :
      Took w (.wake permit) { w with
        client := w.client.hear permit s
        phase := .looking w.client.now w.client.loaded []
        scans := w.scans + 1 }
  | looked {i now unseen due s} (phase : w.phase = .looking now unseen due)
      (supervisor : w.client.supervisor = some s) :
      Took w (.look i) { w with
        phase := .looking now (unseen.erase i)
          (if w.client.isDue now s.policy i then due ++ [i] else due) }
  | met {i now unseen due} (phase : w.phase = .looking now unseen due) :
      Took w (.meet i) { w with phase := .looking now (unseen ++ [i]) due }
  | listed {now due} (phase : w.phase = .looking now [] due) :
      Took w .goOn { w with phase := .asking due }
  | asked {i due} (phase : w.phase = .asking (i :: due)) :
      Took w .goOn { w with client := (w.client.beginConnect i).1, phase := .asking due }
  | paused (phase : w.phase = .asking []) :
      Took w .goOn { w with client := w.client.pause, phase := .waiting }

theorem took_take (w : Watched T) (t : Turn T) : Took w t (w.take t) := by
  unfold take
  cases t with
  | act a =>
    dsimp only
    cases other : a.isSupervisor with
    | true => exact .nothing
    | false => exact .acted other
  | late a =>
    dsimp only
    cases other : a.isSupervisor with
    | true => exact .nothing
    | false => exact .late other
  | report =>
    dsimp only
    split
    · exact .nothing
    · next withheld => exact .reported withheld
  | wake permit =>
    dsimp only
    split
    · next s phase supervisor =>
      split
      · exact .nothing
      · split
        · next halted => exact .stopped supervisor (by simpa using halted)
        · rw [now_hear, loaded_hear]
          exact .woke phase supervisor
    · exact .nothing
  | look i =>
    dsimp only
    split
    · next now unseen due s phase supervisor =>
      split
      · exact .looked phase supervisor
      · exact .nothing
    · exact .nothing
  | meet i =>
    dsimp only
    split
    · next phase =>
      split
      · exact .met phase
      · exact .nothing
    · exact .nothing
  | goOn =>
    dsimp only
    split
    · next phase => exact .listed phase
    · next phase => exact .asked phase
    · next phase => exact .paused phase
    · exact .nothing

/-! ### Runs of a client -/

theorem run_looks {c : Client T} {s : Supervisor} (supervisor : c.supervisor = some s) (now : Instant)
    (unseen due : List Nat) (withheld scans : Nat) :
    ({ client := c, phase := .looking now unseen due, withheld, scans } : Watched T).run
        (unseen.map .look) =
      { client := c
        phase := .looking now [] (due ++ unseen.filter (c.isDue now s.policy))
        withheld, scans } := by
  induction unseen generalizing due with
  | nil => simp
  | cons i rest ih =>
    have looked : ({ client := c, phase := .looking now (i :: rest) due, withheld, scans } :
        Watched T).take (.look i) =
        { client := c
          phase := .looking now rest (if c.isDue now s.policy i then due ++ [i] else due)
          withheld, scans } := by
      simp [take, supervisor]
    rw [List.map_cons, run_cons, looked, ih]
    by_cases is : c.isDue now s.policy i = true <;> simp [is]

theorem run_asks (c : Client T) (due : List Nat) (withheld scans : Nat) :
    ({ client := c, phase := .asking due, withheld, scans } : Watched T).run
        (due.map fun _ => .goOn) =
      { client := due.foldl (fun c i => (c.beginConnect i).1) c
        phase := .asking []
        withheld, scans } := by
  induction due generalizing c with
  | nil => rfl
  | cons i rest ih => exact ih _

theorem due_loaded (c : Client T) (policy : Reconnect.Policy) :
    c.loaded.filter (c.isDue c.now policy) = c.due policy := by
  unfold due
  apply List.filter_congr
  intro i there
  have listed : c.loaded.contains i = true := List.contains_iff_mem.mpr there
  rw [isDue, listed, Bool.true_and]

/-- The supervisor's turn in a client is a whole round of its loop, in which it meets no destination that
was not loaded when it woke. -/
theorem run_round {c : Client T} {s : Supervisor} (supervisor : c.supervisor = some s)
    (ready : c.supervisorReady s = true) (scans : Nat) :
    ∃ turns scans', ({ client := c, scans } : Watched T).run turns =
      { client := c.stepSupervisor s, scans := scans' } ∧
      ∀ t ∈ turns, t.isSupervisor = true ∧ ∀ i, t ≠ .meet i := by
  have wakes : c.wakes c.signal s = true := by
    unfold wakes
    unfold supervisorReady at ready
    cases next : s.next <;> cases signal : c.signal <;> simp_all
  have heard : (c.hear c.signal s).supervisor = some s :=
    (unmoved_hear c.signal s c).2.2.trans supervisor
  cases running : s.running with
  | false =>
    refine ⟨[.wake c.signal], scans, ?_, by simp [Turn.isSupervisor]⟩
    rw [stepSupervisor_of_halted running]
    simp [take, supervisor, wakes, running]
  | true =>
    rw [stepSupervisor_of_running supervisor running]
    have woken : ({ client := c, scans } : Watched T).take (.wake c.signal) =
        { client := c.hear c.signal s
          phase := .looking (c.hear c.signal s).now (c.hear c.signal s).loaded []
          scans := scans + 1 } := by
      simp [take, supervisor, wakes, running]
    generalize c.hear c.signal s = c₁ at heard woken ⊢
    refine ⟨.wake c.signal :: (c₁.loaded.map .look ++ .goOn ::
      ((c₁.due s.policy).map (fun _ => .goOn) ++ [.goOn])), scans + 1, ?_, ?_⟩
    · rw [run_cons, woken, run_append, run_looks heard, due_loaded, List.nil_append, run_cons]
      have listed (due : List Nat) :
          ({ client := c₁, phase := .looking c₁.now [] due, scans := scans + 1 } :
            Watched T).take .goOn = { client := c₁, phase := .asking due, scans := scans + 1 } := rfl
      rw [listed, run_append, run_asks]
      rfl
    · intro t there
      simp only [List.mem_cons, List.mem_append, List.mem_map, List.not_mem_nil, or_false] at there
      rcases there with rfl | ⟨i, -, rfl⟩ | rfl | ⟨i, -, rfl⟩ | rfl <;> simp [Turn.isSupervisor]

/-- An action in finer steps: the same by another, or a round of the supervisor's. -/
theorem run_of_act (a : Action T) (c : Client T) (scans : Nat) :
    ∃ turns scans', ({ client := c, scans } : Watched T).run turns =
      { client := c.act a, scans := scans' } ∧
      (a.isSupervisor = false ∧ turns = [.act a] ∨
        a.isSupervisor = true ∧ ∀ t ∈ turns, t.isSupervisor = true ∧ ∀ i, t ≠ .meet i) := by
  have turned := turned_act c a
  generalize c.act a = c' at turned ⊢
  cases turned with
  | other other => exact ⟨[.act a], scans, by simp [take, other], .inl ⟨other, rfl⟩⟩
  | waits => exact ⟨[], scans, rfl, .inr ⟨rfl, by simp⟩⟩
  | turned supervisor ready =>
    obtain ⟨turns, scans', ran, own⟩ := run_round supervisor ready scans
    exact ⟨turns, scans', ran, .inr ⟨rfl, own⟩⟩

/-- Whatever a client can come to, it can come to in finer steps. -/
theorem run_of_client (actions : List (Action T)) (c : Client T) (scans : Nat) :
    ∃ turns scans', ({ client := c, scans } : Watched T).run turns =
      { client := c.run actions, scans := scans' } := by
  induction actions generalizing c scans with
  | nil => exact ⟨[], scans, rfl⟩
  | cons a rest ih =>
    obtain ⟨first, scans₁, ran, -⟩ := run_of_act a c scans
    obtain ⟨later, scans₂, ran'⟩ := ih (c.act a) scans₁
    exact ⟨first ++ later, scans₂, by rw [run_append, ran, ran']; rfl⟩

end Watched

end Client

end Switchboard
