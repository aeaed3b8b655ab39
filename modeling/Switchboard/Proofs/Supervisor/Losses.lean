import Switchboard.Proofs.Supervisor.Down
import Switchboard.Transport.Scripted

/-!
No report of a loss goes unheeded. From a loss on, until an attempt begins, the supervisor's wake-up is
set, or the report is on its way, or the scan under way has still to come to the destination. At rest
none of this can be.
-/
namespace Switchboard

namespace Client

variable {T : Type} [Transport T]

theorem Awaited.same {c c' : Client T} {i : Nat} {soon soon' : Prop} (awaited : c.Awaited i soon)
    (destinations : c'.destinations = c.destinations) (table : c'.table = c.table)
    (off : c.Off → c'.Off)
    (later : ∀ d, c.destinations[i]? = some d → d.Down → d.retired = false → i ∈ c.loaded → soon →
      soon') : c'.Awaited i soon' := by
  obtain ⟨d, found, down, expected⟩ := awaited
  refine ⟨d, by rw [destinations, found], down, fun kept there => ?_⟩
  have there' : i ∈ c.loaded := by
    unfold loaded at there ⊢
    rwa [table] at there
  exact (expected kept there').imp off (later d found down kept there')

namespace Watched

/-- What is known of the client at all times, also in the middle of a scan. -/
structure Sound (w : Watched T) : Prop where
  watchable : w.client.Watchable
  roused : w.client.Roused

theorem Sound.took {w w' : Watched T} {t : Turn T} (sound : w.Sound) (took : Took w t w') :
    w'.Sound := by
  obtain ⟨watchable, roused⟩ := sound
  cases took with
  | nothing => exact ⟨watchable, roused⟩
  | @acted a => exact ⟨watchable.act a, roused.act watchable.sound a⟩
  | @late a =>
    exact ⟨(watchable.act a).unmoved ⟨rfl, rfl, rfl, rfl, rfl⟩, roused.act watchable.sound a⟩
  | reported => exact ⟨watchable.unmoved ⟨rfl, rfl, rfl, rfl, rfl⟩, roused⟩
  | @stopped permit s supervisor halted =>
    have unmoved := (unmoved_hear permit s w.client).1
    refine ⟨(watchable.unmoved unmoved).unmoved ⟨rfl, rfl, rfl, rfl, rfl⟩, ?_⟩
    rintro s' ⟨⟩ running
    simp [halted] at running
  | @woke permit s =>
    obtain ⟨unmoved, _, supervisor⟩ := unmoved_hear permit s w.client
    refine ⟨watchable.unmoved unmoved, ?_⟩
    intro s' found
    exact roused s' (supervisor.symm.trans found)
  | looked => exact ⟨watchable, roused⟩
  | met => exact ⟨watchable, roused⟩
  | listed => exact ⟨watchable, roused⟩
  | @asked i => exact ⟨watchable.act (.beginConnect i), roused.act watchable.sound (.beginConnect i)⟩
  | paused => exact ⟨watchable.unmoved ⟨rfl, rfl, rfl, rfl, rfl⟩, roused.pause⟩

theorem Sound.run {w : Watched T} (sound : w.Sound) (turns : List (Turn T)) :
    (w.run turns).Sound := by
  induction turns generalizing w with
  | nil => exact sound
  | cons t rest ih => exact ih (sound.took (took_take w t))

def Reachable (w : Watched T) : Prop :=
  ∃ name transport policy turns, w = (start name transport policy).run turns

theorem reachable_run (name : String) (transport : T) (policy : Reconnect.Policy)
    (turns : List (Turn T)) : ((start name transport policy).run turns).Reachable :=
  ⟨name, transport, policy, turns, rfl⟩

theorem Reachable.sound {w : Watched T} (reachable : w.Reachable) : w.Sound := by
  obtain ⟨name, transport, policy, turns, rfl⟩ := reachable
  have new : (start name transport policy).Sound :=
    ⟨watchable_create name transport policy, roused_create name transport policy⟩
  exact new.run turns

/-- The supervisor is woken, or will be, or comes to the destination in the scan under way. -/
def Soon (i : Nat) (w : Watched T) : Prop :=
  w.client.signal = true ∨ 0 < w.withheld ∨ i ∈ w.phase.ahead

def Awaited (i : Nat) (w : Watched T) : Prop := w.client.Awaited i (w.Soon i)

/-- The scan goes on, and does not forget the destination. -/
theorem Awaited.scans {w : Watched T} {i : Nat} (awaited : w.Awaited i) {phase : Phase}
    (kept : ∀ d, w.client.destinations[i]? = some d → d.Down → d.retired = false →
      i ∈ w.client.loaded → i ∈ w.phase.ahead → i ∈ phase.ahead) :
    ({ w with phase := phase } : Watched T).Awaited i := by
  refine Client.Awaited.same awaited rfl rfl (fun off => off) ?_
  intro d found down inService there soon
  exact soon.imp_right (.imp_right (kept d found down inService there))

theorem Awaited.took {w w' : Watched T} {t : Turn T} (sound : w.Sound) {i : Nat}
    (awaited : w.Awaited i) (took : Took w t w') : Connecting i w'.client ∨ w'.Awaited i := by
  have watchable := sound.watchable
  cases took with
  | nothing => exact .inr awaited
  | @acted a other =>
    have signal := ((effects_act watchable.sound a).supervisor (Action.supervised other)).1
    exact Client.Awaited.act watchable other awaited fun soon => soon.imp_left signal
  | @late a other =>
    have late (soon : w.Soon i) :
        w.client.signal = true ∨ 0 < w.withheld + 1 ∨ i ∈ w.phase.ahead :=
      soon.imp_right (.imp_left Nat.lt_succ_of_lt)
    exact (Client.Awaited.act watchable other awaited late).imp_right fun awaited' =>
      awaited'.same rfl rfl (fun off => off) fun _ _ _ _ _ soon => soon
  | reported =>
    exact .inr (awaited.same rfl rfl (fun off => off) fun _ _ _ _ _ _ => .inl rfl)
  | @stopped permit s supervisor halted =>
    obtain ⟨unmoved, table, -⟩ := unmoved_hear permit s w.client
    obtain ⟨d, found, down, -⟩ := awaited
    refine .inr ⟨d, by rw [← found, ← unmoved.destinations]; rfl, down, fun _ _ => .inl ?_⟩
    rintro s' ⟨⟩
    exact halted
  | @woke permit s =>
    obtain ⟨unmoved, table, supervisor⟩ := unmoved_hear permit s w.client
    refine .inr (awaited.same unmoved.destinations table ?_ ?_)
    · intro off s' found
      exact off s' (supervisor.symm.trans found)
    · intro _ _ _ _ there _
      exact .inr (.inr (by simpa [Phase.ahead] using there))
  | @looked j now unseen due s phase supervisor =>
    refine .inr (awaited.scans fun d found down kept there ahead => ?_)
    have isDue : w.client.isDue now s.policy i = true := by
      simp [isDue, there, found, down.reconnectDue kept (watchable.unfailed found down kept)]
    rw [phase] at ahead
    simp only [Phase.ahead, List.mem_append] at ahead ⊢
    rcases ahead with unseen | listed
    · by_cases here : i = j
      · subst here
        simp [isDue]
      · exact .inl ((List.mem_erase_of_ne here).mpr unseen)
    · right
      split
      · exact List.mem_append_left _ listed
      · exact listed
  | @met j now unseen due phase =>
    refine .inr (awaited.scans fun _ _ _ _ _ ahead => ?_)
    rw [phase] at ahead
    simp only [Phase.ahead, List.mem_append] at ahead ⊢
    exact ahead.imp_left .inl
  | @listed now due phase =>
    refine .inr (awaited.scans fun _ _ _ _ _ ahead => ?_)
    simpa [phase, Phase.ahead] using ahead
  | @asked j due phase =>
    -- The destination is taken from those ahead, but not before its attempt has begun.
    by_cases here : i = j
    · subst here
      obtain ⟨d, found, down, -⟩ := awaited
      cases retired : d.retired with
      | false => exact .inl (connecting_beginConnect found down retired)
      | true =>
        refine (downOrConnecting_act watchable.sound (.beginConnect i) i).imp_right fun stays => ?_
        obtain ⟨d', found', down', kept⟩ := stays d found down
        refine ⟨d', found', down', fun kept' _ => ?_⟩
        simp [retired] at kept
        simp [kept] at kept'
    · have signal := ((effects_act watchable.sound (.beginConnect j)).supervisor
        (Action.supervised rfl)).1
      refine Client.Awaited.act (a := .beginConnect j) watchable rfl awaited fun soon => ?_
      refine soon.imp signal (.imp_right fun ahead => ?_)
      rw [phase] at ahead
      exact (List.mem_cons.mp ahead).resolve_left here
  | paused phase =>
    refine .inr (awaited.same rfl rfl Off.pause ?_)
    intro _ _ _ _ _ soon
    rw [Soon, phase] at soon
    exact soon

/-- Since a moment at which so many scans had begun the supervisor has been stopped, or is to be woken,
or has begun another scan. -/
structure Heard (scans : Nat) (w : Watched T) : Prop where
  before : scans ≤ w.scans
  heard : w.client.Off ∨ w.client.signal = true ∨ 0 < w.withheld ∨ scans < w.scans

theorem Heard.took {w w' : Watched T} {t : Turn T} (sound : w.Sound) {scans : Nat}
    (heard : w.Heard scans) (took : Took w t w') : w'.Heard scans := by
  obtain ⟨before, heard⟩ := heard
  cases took with
  | nothing => exact ⟨before, heard⟩
  | @acted a other =>
    have effects := effects_act sound.watchable.sound a
    have others := Action.supervised other
    exact ⟨before, heard.imp (Off.effects others effects) (.imp_left (effects.supervisor others).1)⟩
  | @late a other =>
    have effects := effects_act sound.watchable.sound a
    have off (off : w.client.Off) : (w.client.act a).Off :=
      off.effects (Action.supervised other) effects
    exact ⟨before, heard.imp off (.imp_right (.imp_left Nat.lt_succ_of_lt))⟩
  | reported => exact ⟨before, .inr (.inl rfl)⟩
  | stopped _ halted =>
    refine ⟨before, .inl ?_⟩
    rintro s' ⟨⟩
    exact halted
  | woke => exact ⟨Nat.le_succ_of_le before, .inr (.inr (.inr (Nat.lt_succ_of_le before)))⟩
  | looked => exact ⟨before, heard⟩
  | met => exact ⟨before, heard⟩
  | listed => exact ⟨before, heard⟩
  | @asked i =>
    have effects := effects_act sound.watchable.sound (.beginConnect i)
    have others : Deed.supervised ∉ (Action.beginConnect i : Action T).deeds :=
      Action.supervised rfl
    exact ⟨before, heard.imp (Off.effects others effects) (.imp_left (effects.supervisor others).1)⟩
  | paused => exact ⟨before, heard.imp_left Off.pause⟩

theorem Awaited.run {w : Watched T} (sound : w.Sound) {i : Nat} (awaited : w.Awaited i)
    (turns : List (Turn T)) :
    (∃ first later, turns = first ++ later ∧ Connecting i (w.run first).client) ∨
      (w.run turns).Awaited i := by
  induction turns generalizing w with
  | nil => exact .inr awaited
  | cons t rest ih =>
    have took := took_take w t
    rcases awaited.took sound took with connecting | awaited'
    · exact .inl ⟨[t], rest, rfl, connecting⟩
    · refine (ih (sound.took took) awaited').imp_left ?_
      rintro ⟨first, later, rfl, connecting⟩
      exact ⟨t :: first, later, rfl, connecting⟩

theorem Heard.run {w : Watched T} (sound : w.Sound) {scans : Nat} (heard : w.Heard scans)
    (turns : List (Turn T)) : (w.run turns).Heard scans := by
  induction turns generalizing w with
  | nil => exact heard
  | cons t rest ih => exact ih (sound.took (took_take w t)) (heard.took sound (took_take w t))

/-- Only what others do loses a connection, and the supervisor is told of it, now or later. -/
theorem told_of_loses {w w' : Watched T} {t : Turn T} (sound : w.Sound) (took : Took w t w')
    {i : Nat} (loses : Loses i w.client w'.client) : w'.client.signal = true ∨ 0 < w'.withheld := by
  obtain ⟨d, d', found, found', -⟩ := id loses
  have unchanged := loses.changed found
  have moved (destinations : w'.client.destinations = w.client.destinations) : False :=
    unchanged ⟨d, by rw [destinations, found], rfl⟩
  cases took with
  | acted other => exact .inl (loses.told sound.watchable).2
  | late => exact .inr (Nat.succ_pos _)
  | reported => exact .inl rfl
  | @asked j =>
    have effects := effects_act sound.watchable.sound (.beginConnect j)
    exact absurd (effects.disconnects (by simp [Action.deeds]) found) unchanged
  | @stopped permit s => exact (moved (unmoved_hear permit s w.client).1.destinations).elim
  | @woke permit s => exact (moved (unmoved_hear permit s w.client).1.destinations).elim
  | nothing => exact (moved rfl).elim
  | looked => exact (moved rfl).elim
  | met => exact (moved rfl).elim
  | listed => exact (moved rfl).elim
  | paused => exact (moved rfl).elim

/-- Nothing can go on at this moment, and no report is on its way. -/
structure AtRest (w : Watched T) : Prop where
  client : w.client.AtRest
  phase : w.phase = .waiting
  reported : w.withheld = 0

end Watched

/-- Every loss is heeded: when nothing can go on any more and the supervisor has not been stopped, a scan
has begun since, and an attempt has begun for the destination, unless it has been retired. This is so for
a client and its supervisor's turns, and also if the supervisor's turns are taken apart, so that losses
fall in the middle of a scan and reports of them come late; whatever the client can come to, it can come
to in these finer steps. -/
theorem losses_heeded :
    (∀ c : Client T, c.Reachable → ∀ a rest i, Loses i c (c.act a) →
      ((c.act a).run rest).AtRest →
      ∀ s, ((c.act a).run rest).supervisor = some s → s.running = true →
      ∀ d, ((c.act a).run rest).destinations[i]? = some d → d.retired = false →
        (∃ first later s', rest = first ++ .step .supervisor :: later ∧
          ((c.act a).run first).supervisor = some s' ∧ s'.running = true ∧
          ((c.act a).run first).supervisorReady s' = true) ∧
        ∃ first later, rest = first ++ later ∧ Connecting i ((c.act a).run first)) ∧
    (∀ (c : Client T) actions scans, ∃ turns scans', ({ client := c, scans } : Watched T).run turns =
      { client := c.run actions, scans := scans' }) ∧
    ∀ w : Watched T, w.Reachable → ∀ t rest i, Loses i w.client (w.take t).client →
      ((w.take t).run rest).AtRest →
      ∀ s, ((w.take t).run rest).client.supervisor = some s → s.running = true →
      ∀ d, ((w.take t).run rest).client.destinations[i]? = some d → d.retired = false →
        (w.take t).scans < ((w.take t).run rest).scans ∧
        ∃ first later, rest = first ++ later ∧ Connecting i ((w.take t).run first).client := by
  refine ⟨?_, fun c actions => Watched.run_of_client actions c, ?_⟩
  · intro c reachable a rest i loses atRest s supervisor running d found kept
    obtain ⟨-, told⟩ := loses.told reachable.watchable
    have after := reachable.act a
    have ended := after.run rest
    have quiet := atRest.signal ended.roused supervisor running
    have on : ¬((c.act a).run rest).Off := fun off => by simp [off s supervisor] at running
    refine ⟨scanned after.sound told quiet on, ?_⟩
    have awaited := loses.awaited after.watchable told
    refine (awaited.run after.watchable rest).resolve_right ?_
    exact atRest.not_awaited supervisor running found kept (by simp [quiet])
  · intro w reachable t rest i loses atRest s supervisor running d found kept
    have sound := reachable.sound
    have took := Watched.took_take w t
    have told := Watched.told_of_loses sound took loses
    have after := sound.took took
    have quiet := atRest.client.signal (after.run rest).roused supervisor running
    constructor
    · have heard : (w.take t).Heard (w.take t).scans := ⟨Nat.le_refl _, .inr (told.imp_right .inl)⟩
      rcases (heard.run after rest).heard with off | on | late | more
      · simp [off s supervisor] at running
      · simp [quiet] at on
      · simp [atRest.reported] at late
      · exact more
    · have awaited : (w.take t).Awaited i :=
        loses.awaited after.watchable (told.imp_right .inl)
      refine (awaited.run after rest).resolve_right ?_
      refine atRest.client.not_awaited supervisor running found kept ?_
      simp [Watched.Soon, quiet, atRest.reported, atRest.phase, Phase.ahead]

/-- Two destinations are connected, the supervisor waits, and the first connection is reported lost. -/
def alerted : Client Scripted :=
  (create "client" {} {}).run
    [.addDestination { name := "a", host := "h", port := 1 },
      .addDestination { name := "b", host := "h", port := 2 },
      .beginConnect 0, .beginConnect 1, .step (.attempt 0), .step (.attempt 1), .step .supervisor,
      .handleLost 0 1]

/-- The one scan after both losses, and what it begins. -/
def rescued : List (Action Scripted) :=
  [.step .supervisor, .step (.attempt 2), .step (.attempt 3), .step (.watcher 0), .step (.watcher 1)]

/-- Two destinations are connected, and the supervisor is scanning: it has looked at the first one. -/
def scanning : Watched Scripted :=
  (Watched.start "client" {} {}).run
    [.act (.addDestination { name := "a", host := "h", port := 1 }),
      .act (.addDestination { name := "b", host := "h", port := 2 }),
      .act (.beginConnect 0), .act (.beginConnect 1), .act (.step (.attempt 0)),
      .act (.step (.attempt 1)), .wake false, .look 0, .look 1, .goOn, .goOn,
      .act (.passTo 500000000), .wake false, .look 0]

/-- The rest of that scan, which finds nothing, and the next one after the late report. -/
def heeding : List (Turn Scripted) :=
  [.look 1, .goOn, .goOn, .report, .wake true, .look 0, .look 1, .goOn, .goOn, .goOn,
    .act (.step (.attempt 2)), .act (.step (.watcher 0))]

theorem settled_of_loaded {c : Client T} (loaded : c.loaded = List.range c.destinations.length)
    (i : Nat) (d : Destination) (found : c.destinations[i]? = some d) :
    d.retired = true ∨ i ∈ c.loaded := by
  rw [loaded]
  exact .inr (List.mem_range.mpr (length_of_found found))

theorem losses_heeded_scanning :
    (∃ first later, rescued = first ++ later ∧
      Connecting 1 ((alerted.act (.handleLost 1 1)).run first)) ∧
    (scanning.take (.late (.handleLost 0 1))).scans <
        ((scanning.take (.late (.handleLost 0 1))).run heeding).scans ∧
      ∃ first later, heeding = first ++ later ∧
        Connecting 0 ((scanning.take (.late (.handleLost 0 1))).run first).client := by
  constructor
  · have reachable : alerted.Reachable := ⟨_, _, _, _, rfl⟩
    have loses : Loses 1 alerted (alerted.act (.handleLost 1 1)) :=
      ⟨_, _, rfl, rfl, rfl, rfl, rfl⟩
    have atRest : ((alerted.act (.handleLost 1 1)).run rescued).AtRest :=
      ⟨by decide, settled_of_loaded rfl⟩
    exact (losses_heeded.1 alerted reachable _ rescued 1 loses atRest _ rfl rfl _ rfl rfl).2
  · have reachable : scanning.Reachable := ⟨_, _, _, _, rfl⟩
    have loses : Loses 0 scanning.client (scanning.take (.late (.handleLost 0 1))).client :=
      ⟨_, _, rfl, rfl, rfl, rfl, rfl⟩
    have atRest : ((scanning.take (.late (.handleLost 0 1))).run heeding).AtRest :=
      ⟨⟨by decide, settled_of_loaded rfl⟩, rfl, rfl⟩
    exact losses_heeded.2.2 scanning reachable _ heeding 0 loses atRest _ rfl rfl _ rfl rfl

end Client

end Switchboard
