import Switchboard.Proofs.Supervisor.Departures
import Switchboard.Proofs.Supervisor.Losses

/-!
A shutdown, step by step. It stops the supervisor and comes to one loaded destination after the other,
and everything else may come in between; the supervisor, too, may be in the middle of a scan. What it
leaves behind of the destinations that were there before it has been torn down, for good.
-/
namespace Switchboard

namespace Client

variable {T : Type} [Transport T]

namespace Watched

/-! ### The supervisor is stopped -/

/-- The supervisor was stopped and has begun no scan since. It may still have been in one. -/
structure Halted (w w' : Watched T) : Prop where
  off : w'.client.Off
  scans : w'.scans = w.scans
  waits : w.phase = .waiting → w'.phase = .waiting

theorem halted_take {w : Watched T} (sound : w.Sound) (off : w.client.Off) (t : Turn T) :
    Halted w (w.take t) := by
  have took := took_take w t
  generalize taken : w.take t = w' at took
  cases took with
  | nothing => exact ⟨off, rfl, id⟩
  | @acted a => exact ⟨off.act sound.watchable.sound a, rfl, id⟩
  | @late a => exact ⟨off.act sound.watchable.sound a, rfl, id⟩
  | reported => exact ⟨off, rfl, id⟩
  | stopped _ halted =>
    refine ⟨?_, rfl, id⟩
    rintro s' ⟨⟩
    exact halted
  | @woke permit s phase supervisor =>
    -- To begin a scan the supervisor would have to be running.
    have same : (w.take (.wake permit)).scans = w.scans := by
      simp only [take, phase, supervisor, off s supervisor]
      split <;> rfl
    rw [taken] at same
    exact absurd same (Nat.succ_ne_self _)
  | looked phase => exact ⟨off, rfl, fun waits => by simp [phase] at waits⟩
  | met phase => exact ⟨off, rfl, fun waits => by simp [phase] at waits⟩
  | listed phase => exact ⟨off, rfl, fun waits => by simp [phase] at waits⟩
  | @asked i _ phase =>
    have off' : (w.client.act (.beginConnect i)).Off := off.act sound.watchable.sound _
    exact ⟨off', rfl, fun waits => by simp [phase] at waits⟩
  | paused => exact ⟨off.pause, rfl, fun _ => rfl⟩

theorem halted_run {w : Watched T} (sound : w.Sound) (off : w.client.Off) (turns : List (Turn T)) :
    Halted w (w.run turns) := by
  induction turns generalizing w with
  | nil => exact ⟨off, rfl, id⟩
  | cons t rest ih =>
    have first := halted_take sound off t
    have later := ih (sound.took (took_take w t)) first.off
    exact ⟨later.off, later.scans.trans first.scans, later.waits ∘ first.waits⟩

end Watched

/-- Nothing begins for a destination that is out of service. -/
theorem OutOfService.unbegun {c : Client T} {i : Nat} (out : c.OutOfService i) :
    (c.beginConnect i).1 = c := by
  obtain ⟨d, found, retired, -⟩ := out
  have asked := beginConnect_asked found
  generalize c.beginConnect i = asking at asked
  cases asked with
  | started _ _ kept => simp [retired] at kept
  | connected => rfl
  | joined => rfl
  | refused => rfl

/-! ### A shutdown taken apart -/

/-- The steps of a shutdown that comes to these destinations. -/
def closing (own : List Nat) : List (Action T) :=
  .stopSupervisor :: own.flatMap fun i => [.flagRetired i, .disconnect i]

/-- A first shutdown is these steps, one after the other. -/
theorem shutdown_closing {c : Client T} (first : c.shutDown = false) :
    c.shutdown = ({ c with shutDown := true }).run (closing c.loaded) := by
  have table : ({ c with shutDown := true } : Client T).stopSupervisor.table = c.table := by
    unfold stopSupervisor
    cases c.supervisor <;> rfl
  unfold shutdown
  rw [first, if_neg Bool.false_ne_true]
  dsimp only
  rw [table, run, closing, List.foldl_cons, List.foldl_flatMap]
  rfl

namespace Watched

theorem exists_of_cons_sublist {α : Type} {a : α} {rest as : List α} (sub : (a :: rest).Sublist as) :
    ∃ before after, as = before ++ a :: after ∧ rest.Sublist after := by
  obtain ⟨first, last, rfl, there, later⟩ := List.cons_sublist_iff.mp sub
  obtain ⟨before, after, rfl⟩ := List.append_of_mem there
  exact ⟨before, after ++ last, by simp, later.trans (List.sublist_append_right _ _)⟩

/-- A shutdown has begun: no further one will do anything. -/
def shutting (w : Watched T) : Watched T :=
  { w with client := { w.client with shutDown := true } }

/-- Marked, and later torn down, a destination is out of service, whatever comes in between. -/
theorem outOfService_apart {w : Watched T} (numbered : w.client.Numbered) {i : Nat}
    (there : i < w.client.destinations.length) (between : List (Turn T)) :
    (((w.take (.act (.flagRetired i))).run between).take
      (.act (.disconnect i))).client.OutOfService i := by
  have marked : (w.take (.act (.flagRetired i))).client.ledger i = some _ :=
    ledger_of_found (found_flagRetired (List.getElem?_eq_getElem there))
  obtain ⟨l, held, retired⟩ := held_run (fun _ _ steps retired => steps.retired retired)
    (numbered_take numbered _) marked rfl between
  obtain ⟨d, found, rfl⟩ := Option.map_eq_some_iff.mp held
  exact outOfService_disconnect found retired

theorem outOfService_retiring {own : List Nat} {turns : List (Turn T)}
    (steps : ((own.flatMap fun i => [.flagRetired i, .disconnect i]).map Turn.act).Sublist turns)
    {w : Watched T} (numbered : w.client.Numbered) {i : Nat} (listed : i ∈ own)
    (there : i < w.client.destinations.length) : (w.run turns).client.OutOfService i := by
  induction own generalizing w turns with
  | nil => cases listed
  | cons j rest ih =>
    obtain ⟨before, rest₁, rfl, steps₁⟩ := exists_of_cons_sublist steps
    obtain ⟨between, after, rfl, steps₂⟩ := exists_of_cons_sublist steps₁
    rw [run_append, run_cons, run_append, run_cons]
    have there := placed_run numbered there before
    have numbered := numbered_run numbered before
    have ended := numbered_take
      (numbered_run (numbered_take numbered (.act (.flagRetired j))) between) (.act (.disconnect j))
    obtain rfl | later := List.mem_cons.mp listed
    · exact outOfService_run ended (outOfService_apart numbered there between) after
    · have there := placed_run numbered there
        (.act (.flagRetired j) :: between ++ [.act (.disconnect j)])
      rw [run_append] at there
      exact ih steps₂ ended later there

theorem off_closing {own : List Nat} {turns : List (Turn T)}
    (steps : ((closing own).map Turn.act).Sublist turns) {w : Watched T} (sound : w.Sound) :
    (w.run turns).client.Off := by
  obtain ⟨before, after, rfl, -⟩ := exists_of_cons_sublist steps
  rw [run_append, run_cons]
  have sound := sound.run before
  generalize w.run before = w₁ at sound ⊢
  have stopped : (w₁.take (.act .stopSupervisor)).client.Off := by
    intro s found
    change w₁.client.stopSupervisor.supervisor = some s at found
    unfold stopSupervisor at found
    cases supervisor : w₁.client.supervisor with
    | none => simp [supervisor] at found
    | some s₁ =>
      rw [supervisor] at found
      cases found
      rfl
  exact (halted_run (sound.took (took_take w₁ _)) stopped after).off

/-! ### What is left -/

/-- What the supervisor does by itself is no more than to begin an attempt, when it asks for one. -/
theorem unmoved_take {w : Watched T} {t : Turn T} (own : t.isSupervisor = true) :
    Unmoved w.client (w.take t).client ∨
      ∃ i due, w.phase = .asking (i :: due) ∧ ¬w.client.OutOfService i := by
  have besides := (w.besides_take t).toUnmoved
  cases t with
  | act => cases own
  | late => cases own
  | report => exact .inl besides
  | wake => exact .inl besides
  | look => exact .inl besides
  | meet => exact .inl besides
  | goOn =>
    unfold action? at besides
    dsimp only at besides
    split at besides
    · next i due phase =>
      by_cases out : w.client.OutOfService i
      · left
        have same : w.client.act (.beginConnect i) = w.client := out.unbegun
        rwa [Option.elim_some, same] at besides
      · exact .inr ⟨i, due, phase, out⟩
    · exact .inl besides

/-- What a shutdown that was over at `w` has left by `w'` of the destinations that were there before it.
There were so many, and some may be on their way out by the hand of another. -/
structure TornDown (count : Nat) (leaving : List Nat) (w w' : Watched T) : Prop
    extends Halted w w' where
  /-- A scan that was under way begins attempts at most for others. -/
  begins : ∀ t, t.isSupervisor = true → Unmoved w'.client (w'.take t).client ∨
    ∃ i due, w'.phase = .asking (i :: due) ∧ (count ≤ i ∨ i ∈ leaving)
  loaded : ∀ i ∈ w'.client.loaded, i < count → w'.client.OutOfService i
  closed : ∀ i < count, i ∉ leaving →
    w'.client.OutOfService i ∧ w'.client.deliveries i = w'.client.closures i

/-- A client and its supervisor have come so far, and these destinations are on their way out. -/
def Reaches (w : Watched T) (leaving : List Nat) : Prop :=
  ∃ name transport policy turns, w = (start name transport policy).run turns ∧
    leaving = (start name transport policy).leaving [] turns

theorem Reaches.inHand {w : Watched T} {leaving : List Nat} (reaches : w.Reaches leaving) :
    w.client.InHand leaving := by
  obtain ⟨name, transport, policy, turns, rfl, rfl⟩ := reaches
  have new := inHand_create name transport policy
  exact kept_run stable_inHand (w := start name transport policy) new.every.numbered [] new turns

theorem Reaches.sound {w : Watched T} {leaving : List Nat} (reaches : w.Reaches leaving) :
    w.Sound := by
  obtain ⟨name, transport, policy, turns, ran, -⟩ := reaches
  exact Reachable.sound ⟨name, transport, policy, turns, ran⟩

theorem run_acts {w : Watched T} {actions : List (Action T)}
    (others : ∀ a ∈ actions, a.isSupervisor = false) :
    w.run (actions.map .act) = { w with client := w.client.run actions } := by
  induction actions generalizing w with
  | nil => rfl
  | cons a rest ih =>
    obtain ⟨other, others⟩ := List.forall_mem_cons.mp others
    have took : w.take (.act a) = { w with client := w.client.act a } := by
      simp [take, other]
    rw [List.map_cons, run_cons, took]
    exact ih others

/-- Taken in one piece a shutdown is these steps too, and it takes nothing out of the table. -/
theorem run_closing {w : Watched T} (first : w.client.shutDown = false) :
    w.shutting.run ((closing w.client.loaded).map .act) = { w with client := w.client.shutdown } ∧
      w.client.shutdown.loaded = w.client.loaded := by
  constructor
  · have others (a : Action T) (there : a ∈ closing w.client.loaded) : a.isSupervisor = false := by
      simp only [closing, List.mem_cons, List.mem_flatMap] at there
      rcases there with rfl | ⟨i, -, rfl | rfl | nothing⟩
      · rfl
      · rfl
      · rfl
      · cases nothing
    rw [run_acts others, shutdown_closing first]
    rfl
  · unfold Client.loaded
    rw [(Aloof.of_moves (moves_shutdown none w.client)).table]

/-- A shutdown is complete for all that was there before it. The first one of a client, in whatever
state it and its supervisor are, and whatever is done between its steps, leaves the supervisor stopped,
every loaded destination out of service, and no handle open; and so it stays, for attempts that were in
flight as well. Of the destinations that are not loaded only those that another is unloading at that
time have still to be torn down. -/
theorem teardown_complete {w : Watched T} {leaving : List Nat} (reaches : w.Reaches leaving)
    (first : w.client.shutDown = false) :
    (w.shutting.run ((closing w.client.loaded).map .act) = { w with client := w.client.shutdown } ∧
      w.client.shutdown.loaded = w.client.loaded) ∧
    ∀ own during, ((closing own).map Turn.act).Sublist during →
      (∀ i ∈ (w.shutting.run during).client.loaded, i < w.client.destinations.length → i ∈ own) →
      ∀ later, TornDown w.client.destinations.length
        (w.shutting.leaving leaving (during ++ later))
        (w.shutting.run during) (w.shutting.run (during ++ later)) := by
  refine ⟨run_closing first, fun own during steps met later => ?_⟩
  have begun : Besides w.client w.shutting.client := ⟨⟨rfl, rfl, rfl, rfl, rfl⟩, rfl⟩
  have sound : w.shutting.Sound :=
    ⟨reaches.sound.watchable.unmoved begun.toUnmoved, reaches.sound.roused⟩
  have numbered := sound.watchable.numbered
  have inHand := stable_inHand.besides begun reaches.inHand
  have now := kept_run stable_inHand numbered leaving inHand (during ++ later)
  have ended := sound.run during
  have halted := halted_run ended (off_closing steps sound) later
  rw [← run_append] at halted
  -- What is loaded now was loaded when the shutdown came by.
  have torn (i : Nat) (there : i < w.client.destinations.length)
      (loaded : i ∈ (w.shutting.run (during ++ later)).client.loaded) :
      (w.shutting.run (during ++ later)).client.OutOfService i := by
    rw [run_append] at loaded ⊢
    have placed := placed_run numbered there during
    have listed := met i (loaded_run ended.watchable.numbered placed later loaded) there
    have out := outOfService_retiring ((List.sublist_cons_self _ _).trans steps) numbered listed there
    exact outOfService_run ended.watchable.numbered out later
  have out (i : Nat) (there : i < w.client.destinations.length)
      (unlisted : i ∉ w.shutting.leaving leaving (during ++ later)) :
      (w.shutting.run (during ++ later)).client.OutOfService i := by
    have placed := placed_run numbered there (during ++ later)
    rcases now.housed i placed with loaded | listed | out
    · exact torn i there loaded
    · exact absurd listed unlisted
    · exact out
  exact {
    toHalted := halted
    begins := by
      intro t own
      refine (unmoved_take own).imp_right ?_
      rintro ⟨i, due, phase, on⟩
      refine ⟨i, due, phase, ?_⟩
      by_contra neither
      obtain ⟨there, unlisted⟩ := not_or.mp neither
      exact on (out i (Nat.lt_of_not_le there) unlisted)
    loaded := fun i loaded there => torn i there loaded
    closed := fun i there unlisted => ⟨out i there unlisted, now.closed (out i there unlisted)⟩ }

/-- The first of four destinations is connected, the second one connecting. The supervisor has found
the other two due, and somebody has begun to unload the last one. -/
def engaged : Watched Scripted :=
  (start "client" {} {}).run
    [.act (.addDestination { name := "a", host := "h", port := 1 }),
      .act (.addDestination { name := "b", host := "h", port := 2 }),
      .act (.beginConnect 0), .act (.step (.attempt 0)), .act (.beginConnect 1),
      .act (.addDestination { name := "c", host := "h", port := 3 }),
      .act (.addDestination { name := "d", host := "h", port := 4 }),
      .wake false, .look 0, .look 1, .look 2, .look 3, .goOn, .act (.removeFromTable "d")]

/-- A shutdown during which the attempt for the third destination begins and that for the second one
ends. -/
def interrupted : List (Turn Scripted) :=
  [.act .stopSupervisor, .act (.flagRetired 0), .goOn, .act (.disconnect 0), .act (.flagRetired 1),
    .act (.step (.attempt 1)), .act (.disconnect 1), .act (.flagRetired 2), .act (.disconnect 2)]

/-- The supervisor goes on with its scan; then the unloading and the attempts come to their ends. -/
def settling : List (Turn Scripted) :=
  [.goOn, .act (.flagRetired 3), .act (.disconnect 3), .act (.step (.attempt 2)),
    .act (.step (.attempt 3)), .act .shutdown]

theorem teardown_complete_interrupted :
    TornDown 4 [3] (engaged.shutting.run interrupted) (engaged.shutting.run interrupted) ∧
      TornDown 4 [] (engaged.shutting.run interrupted)
        (engaged.shutting.run (interrupted ++ settling)) ∧
      (engaged.shutting.run interrupted).client.underWay = [(2, 2)] ∧
      (engaged.shutting.run (interrupted ++ settling)).client.closures 2 = [2] := by
  have reaches : engaged.Reaches [3] := ⟨"client", {}, {}, _, rfl, rfl⟩
  have steps : ((closing [0, 1, 2]).map Turn.act).Sublist interrupted :=
    .cons_cons _ <| .cons_cons _ <| .cons _ <| .cons_cons _ <| .cons_cons _ <| .cons _ <|
      .cons_cons _ <| .cons_cons _ <| .cons_cons _ .slnil
  have met : ∀ i ∈ (engaged.shutting.run interrupted).client.loaded, i < 4 → i ∈ [0, 1, 2] := by
    decide
  have torn := (teardown_complete reaches rfl).2 [0, 1, 2] interrupted steps met
  exact ⟨torn [], torn settling, rfl, rfl⟩

end Watched

/-- After a first shutdown a destination is added and connected. -/
def reopened : Client Scripted :=
  (create "client" {} { enabled := false }).run
    [.shutdown, .addDestination { name := "b", host := "b", port := 1 }, .beginConnect 0,
      .step (.attempt 0)]

/-- A further shutdown passes it over: it stays loaded and connected, and its handle open. -/
theorem shutdown_passes_over :
    reopened.shutdown.table = [("b", 0)] ∧
      reopened.shutdown.destinations.map (fun d => (d.state, d.retired)) = [(.connected, false)] ∧
      reopened.shutdown.deliveries 0 = [0] ∧ reopened.shutdown.closures 0 = [] :=
  ⟨rfl, rfl, rfl, rfl⟩

end Client

end Switchboard
