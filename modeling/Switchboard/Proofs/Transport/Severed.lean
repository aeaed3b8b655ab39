import Switchboard.Proofs.Connection.Watchers
import Switchboard.Proofs.Transport.Listed

/-!
Clients of the endpoints inside the process. Whatever a client does by itself opens, sends and closes, so it
strikes no handle off a list; when an endpoint ends its epoch and tells, every handle that the client has
opened there is closed, whoever waits for that hears of it, and the destination that has published it is
disconnected by the watcher.
-/
namespace Switchboard

namespace InProcess

/-- What a client does to the endpoints by itself. -/
def Action.Asks : Action → Prop
  | startOpen _ _ | resumeOpen _ _ | startSend _ _ _ _ | resumeSend _ _ | close _ => True
  | _ => False

theorem use_asked {t t' : InProcess} (use : Use t t') :
    t' = t ∨ ∃ a : Action, a.Asks ∧ t' = a.act t := by
  cases use with
  | opened now d => exact .inr ⟨.startOpen now d, trivial, rfl⟩
  | reopened now o => exact .inr ⟨.resumeOpen now o, trivial, rfl⟩
  | sent now h target payload => exact .inr ⟨.startSend now h target payload, trivial, rfl⟩
  | resent now s => exact .inr ⟨.resumeSend now s, trivial, rfl⟩
  | abandoned s => exact .inl rfl
  | closed h => exact .inr ⟨.close h, trivial, rfl⟩

theorem kept_uses {P : InProcess → Prop} (kept : ∀ (a : Action) t, a.Asks → P t → P (a.act t))
    {t t' : InProcess} (uses : Uses t t') (p : P t) : P t' := by
  induction uses with
  | refl => exact p
  | tail _ use ih =>
    rcases use_asked use with rfl | ⟨a, asks, rfl⟩
    · exact ih
    · exact kept a _ asks ih

end InProcess

namespace Client

/-- What an action does to the endpoints from outside is one of the given things. -/
def Action.Within (allowed : InProcess.Action → Prop) : Action InProcess → Prop
  | .transport f => ∃ a, allowed a ∧ f = a.act
  | _ => True

section Endpoints

variable {P : InProcess → Prop} {allowed : InProcess.Action → Prop} {c : Client InProcess}

theorem kept_act (kept : ∀ (a : InProcess.Action) t, a.Asks ∨ allowed a → P t → P (a.act t))
    (p : P c.transport) {a : Action InProcess} (within : a.Within allowed) : P (c.act a).transport := by
  by_cases own : ∀ f, a ≠ .transport f
  · exact InProcess.kept_uses (fun a t asks => kept a t (.inl asks)) (uses_act c own) p
  · obtain ⟨f, rfl⟩ := by simpa using own
    obtain ⟨b, allowed, rfl⟩ := within
    exact kept b c.transport (.inr allowed) p

theorem kept_run (kept : ∀ (a : InProcess.Action) t, a.Asks ∨ allowed a → P t → P (a.act t))
    (p : P c.transport)
    {actions : List (Action InProcess)} (within : ∀ a ∈ actions, a.Within allowed) :
    P (c.run actions).transport := by
  induction actions generalizing c with
  | nil => exact p
  | cons a actions ih =>
    exact ih (kept_act kept p (within a List.mem_cons_self))
      fun other later => within other (List.mem_cons_of_mem a later)

variable {authority : String} {h : Handle}

theorem listed_run (listed : InProcess.Listed authority h c.transport)
    {actions : List (Action InProcess)}
    (within : ∀ a ∈ actions, a.Within fun b => ¬ b.Forgets authority ∧ b ≠ .drop h) :
    InProcess.Listed authority h (c.run actions).transport := by
  refine kept_run (fun a t either listed => ?_) listed within
  rcases either with asks | ⟨remembered, held⟩
  · refine listed.act a ?_ ?_
    · cases a <;> first | exact id | exact absurd asks id
    · rintro rfl
      exact asks
  · exact listed.act a remembered held

theorem shut_run (shut : InProcess.Shut authority h c.transport) {actions : List (Action InProcess)}
    (within : ∀ a ∈ actions, a.Within (· ≠ .drop h)) :
    InProcess.Shut authority h (c.run actions).transport := by
  refine kept_run (fun a t either shut => ?_) shut within
  have held : a ≠ .drop h := by
    rcases either with asks | held
    · rintro rfl
      exact asks
    · exact held
  have still : InProcess.Shut authority h (InProcess.run [a] t) := shut.run (by simpa using Ne.symm held)
  exact still

/-- Whoever waits for the end of a handle hears of it. -/
theorem awaitClosed_hears {id : Nat} {deadline : Instant}
    (waits : c.calls.lookup id = some (.awaitClosed h deadline))
    (gone : c.transport.isClosed h = true) :
    c.canStep (.call id) = true ∧ (c.step (.call id)).results = (id, .closed true) :: c.results := by
  have gone' : Transport.isClosed h c.transport = true := gone
  constructor
  · rw [canStep, waits, Option.any_some, callReady, gone', Bool.true_or]
  · simp only [step, waits, stepCall, advance, gone', if_true]
    rfl

end Endpoints

end Client

namespace InProcess

/-- A stop, or dropping the connections, closes every handle that was opened to the endpoint since it was
last registered or stopped silently and that somebody still holds, and no handle of another authority.
Neither openings nor closes nor dropping other handles take a handle off the list of those. A closed handle
is noticed: by whoever waits for that, and by the destination that has published it, which is disconnected. -/
theorem severed_with_endpoint (authority : String) (h : Handle) :
    (∀ (a : Action) t, a.Opens authority h t ↔ t.connection h = none ∧
      ∃ n, (a.act t).connection h = some n ∧ n.authority = authority) ∧
    (∀ t since (closing : Action) later n, t.connection h = none →
      (∀ a ∈ since, ¬ a.Forgets authority) → Action.drop h ∉ since ++ later →
      (run since t).connection h = some n → n.authority = authority → closing.Severs authority →
      (run (since ++ closing :: later) t).isClosed h = true) ∧
    (∀ actions (closing : Action) n, closing.Severs authority →
      (run actions {}).connection h = some n → n.authority ≠ authority →
      (run (actions ++ [closing]) {}).connection h = some n) ∧
    (∀ t (a : Action), Attached authority h t → ¬ a.Registers authority → ¬ a.Ends authority →
      a ≠ .drop h → Attached authority h (a.act t)) ∧
    (∀ (c : Client InProcess) since (closing : Action) later n, c.transport.connection h = none →
      (∀ a ∈ since, a.Within fun b => ¬ b.Forgets authority ∧ b ≠ .drop h) →
      (∀ a ∈ later, a.Within (· ≠ .drop h)) →
      (c.run since).transport.connection h = some n → n.authority = authority →
      closing.Severs authority →
      (c.run (since ++ .transport closing.act :: later)).transport.isClosed h = true) ∧
    (∀ c : Client InProcess, c.Reachable → c.transport.isClosed h = true →
      (∀ id deadline, c.calls.lookup id = some (.awaitClosed h deadline) →
        c.canStep (.call id) = true ∧
          (c.step (.call id)).results = (id, .closed true) :: c.results) ∧
      ∀ (i : Nat) d, c.destinations[i]? = some d → d.live.map (·.handle) = some h →
        d.state = .connected ∧ ∃ w ∈ c.watchers, c.canStep (.watcher w.id) = true ∧
          ∃ d', (c.step (.watcher w.id)).destinations[i]? = some d' ∧
            d'.state = .disconnected ∧ d'.live = none) := by
  refine ⟨fun a t => opens_iff a authority h t, ?_, ?_, ?_, ?_, ?_⟩
  · intro t since closing later n absent remembered held there ofEndpoint severs
    rw [List.mem_append, not_or] at held
    have fresh : Listed authority h t := listed_absent absent
    have listed := fresh.run remembered held.1
    have shut := (listed.severed there ofEndpoint severs).run held.2
    simpa [run] using shut.isClosed
  · intro actions closing n severs there other
    simpa [run] using (homed_run actions).elsewhere severs there other
  · intro t a attached unregistered unended held
    exact attached.act a unregistered unended held
  · intro c since closing later n absent within within' there ofEndpoint severs
    have fresh : Listed authority h c.transport := listed_absent absent
    have listed := Client.listed_run fresh within
    have shut := listed.severed there ofEndpoint severs
    rw [Client.run_append, Client.run_cons]
    exact (Client.shut_run (c := (c.run since).act (.transport closing.act)) shut within').isClosed
  · intro c reachable gone
    refine ⟨fun id deadline waits => Client.awaitClosed_hears waits gone, ?_⟩
    intro i d found published
    obtain ⟨live, on, rfl⟩ := Option.map_eq_some_iff.mp published
    have connected : d.state = .connected :=
      (reachable.consistent (Client.ledger_of_found found)).connected.mpr (by rw [on]; rfl)
    obtain ⟨w, watching, ready, found'⟩ := reachable.guarded.reports found on gone
    refine ⟨connected, w, watching, ready, _, found', ?_, ?_⟩ <;>
      simp [Destination.handleLost, Destination.revoke, on]

/-- Two endpoints are up, and a handle is opened to each of them. -/
def openedBoth : List Action :=
  let echo : Handler := fun _ payload => .ok payload
  [.register "b:1" echo, .start "b:1", .register "b:2" echo, .start "b:2",
    .startOpen 0 { name := "b", host := "b", port := 1 },
    .startOpen 0 { name := "o", host := "b", port := 2 }]

/-- A client that adds a destination, connects it and waits for the end of its handle. -/
def connectsAndWaits : List (Client.Action InProcess) :=
  [.addDestination { name := "b", host := "b", port := 1 }, .beginConnect 0, .step (.attempt 0),
    .request (.awaitClosed 2 5), .step (.call 0)]

/-- A stop closes the first of two handles and leaves the one to the other endpoint. The client that has
published a third one hears of it twice: by its call, and by the watcher that disconnects the destination. -/
theorem severed_with_endpoint_stopped :
    let stop : Action := .stop "b:1"
    let stopped := run (openedBoth ++ [stop]) {}
    let c := (Client.create "c" (run openedBoth {}) {}).run (connectsAndWaits ++ [.transport stop.act])
    stopped.isClosed 0 = true ∧ stopped.connection 1 = some ⟨"b:2", 0, false, false⟩ ∧
      c.transport.isClosed 2 = true ∧ (c.step (.call 0)).results = [(0, .closed true)] ∧
      ∃ w ∈ c.watchers, ∃ d', (c.step (.watcher w.id)).destinations[0]? = some d' ∧
        d'.state = .disconnected := by
  intro stop stopped c
  obtain ⟨-, closes, -⟩ := severed_with_endpoint "b:1" 0
  obtain ⟨-, -, spares, -⟩ := severed_with_endpoint "b:1" 1
  obtain ⟨-, -, -, -, reaches, noticed⟩ := severed_with_endpoint "b:1" 2
  have third : c.transport.isClosed 2 = true := by
    refine reaches (Client.create "c" (run openedBoth {}) {}) connectsAndWaits stop [] _ rfl ?_
      (by simp) rfl rfl rfl
    simp [connectsAndWaits, Client.Action.Within]
  have reachable : c.Reachable := ⟨_, _, _, _, rfl⟩
  obtain ⟨hears, reports⟩ := noticed c reachable third
  obtain ⟨-, w, watching, -, d', found, down, -⟩ := reports 0 _ rfl rfl
  refine ⟨?_, ?_, third, (hears 0 5 rfl).2, w, watching, d', found, down⟩
  · refine closes (run (openedBoth.take 4) {}) (openedBoth.drop 4) stop [] _ rfl ?_ ?_ rfl rfl rfl
    · simp [openedBoth, Action.Forgets]
    · simp [openedBoth]
  · exact spares openedBoth stop _ rfl rfl (by decide)

end InProcess

end Switchboard
