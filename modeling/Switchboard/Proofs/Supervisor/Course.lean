import Switchboard.Proofs.Supervisor.Losses
import Switchboard.Proofs.Supervisor.Scans

/-!
The course of a scan that others come between. It looks at every destination that was loaded when it
started, and at those that it meets on its way, and then asks those that it has found due, in the order in
which it has found them and no others.
-/
namespace Switchboard

namespace Client

variable {T : Type} [Transport T]

/-- The destinations that the scan under way has not looked at. -/
def Phase.unseen : Phase → List Nat
  | .looking _ unseen _ => unseen
  | _ => []

/-- The destinations that the scan under way has found due and has not asked. -/
def Phase.due : Phase → List Nat
  | .waiting => []
  | .looking _ _ due => due
  | .asking due => due

/-! ### The supervisor's policy -/

theorem Effects.policy {A : List Deed} (others : Deed.supervised ∉ A) {c c' : Client T}
    (effects : Effects A c c') {s' : Supervisor} (supervisor : c'.supervisor = some s') :
    ∃ s, c.supervisor = some s ∧ s'.policy = s.policy := by
  induction effects generalizing s' with
  | refl => exact ⟨s', supervisor, rfl⟩
  | tail _ last ih =>
    cases last with
    | aside _ same => exact ih (same ▸ supervisor)
    | did _ _ _ _ same => exact ih (same ▸ supervisor)
    | added _ _ same => exact ih (same ▸ supervisor)
    | stopped _ _ stopped =>
      rw [stopped, Option.map_eq_some_iff] at supervisor
      obtain ⟨s₁, supervisor₁, rfl⟩ := supervisor
      obtain ⟨s, before, same⟩ := ih supervisor₁
      exact ⟨s, before, same⟩
    | supervised allowed => exact absurd allowed others

namespace Watched

theorem policy_took {w w' : Watched T} {t : Turn T} (sound : w.Sound) (took : Took w t w')
    {s' : Supervisor} (supervisor : w'.client.supervisor = some s') :
    ∃ s, w.client.supervisor = some s ∧ s'.policy = s.policy := by
  have acts (a : Action T) := effects_act sound.watchable.sound a
  cases took with
  | nothing => exact ⟨s', supervisor, rfl⟩
  | @acted a other => exact (acts a).policy (Action.supervised other) supervisor
  | @late a other => exact (acts a).policy (Action.supervised other) supervisor
  | reported => exact ⟨s', supervisor, rfl⟩
  | @stopped permit s supervisor₁ =>
    cases supervisor
    exact ⟨s, supervisor₁, rfl⟩
  | @woke permit s =>
    exact ⟨s', (unmoved_hear permit s w.client).2.2.symm.trans supervisor, rfl⟩
  | looked => exact ⟨s', supervisor, rfl⟩
  | met => exact ⟨s', supervisor, rfl⟩
  | listed => exact ⟨s', supervisor, rfl⟩
  | @asked i => exact ⟨s', (supervisor_beginConnect w.client i).symm.trans supervisor, rfl⟩
  | paused =>
    obtain ⟨s, supervisor₁, rfl⟩ := Option.map_eq_some_iff.mp supervisor
    exact ⟨s, supervisor₁, rfl⟩

/-- The supervisor follows the policy that its client was set up with. -/
theorem policy_run (name : String) (transport : T) (policy : Reconnect.Policy)
    (turns : List (Turn T)) {s : Supervisor}
    (supervisor : ((start name transport policy).run turns).client.supervisor = some s) :
    s.policy = policy := by
  induction turns using List.reverseRecOn generalizing s with
  | nil =>
    unfold run start create at supervisor
    dsimp only [List.foldl_nil] at supervisor
    split at supervisor <;> cases supervisor
    rfl
  | append_singleton before t ih =>
    have sound := (reachable_run name transport policy before).sound
    rw [run_append] at supervisor
    obtain ⟨s₁, supervisor₁, same⟩ := policy_took sound (took_take _ t) supervisor
    exact same.trans (ih supervisor₁)

/-! ### What turns tell -/

/-- What the turns of a run tell, one by one, the first first. -/
def gather {α : Type} (f : Watched T → Turn T → Option α) : Watched T → List (Turn T) → List α
  | _, [] => []
  | w, t :: rest => (f w t).toList ++ gather f (w.take t) rest

section Gather

variable {α : Type} {f g : Watched T → Turn T → Option α}

@[simp] theorem gather_nil (w : Watched T) : w.gather f [] = [] := rfl

@[simp] theorem gather_cons (w : Watched T) (t : Turn T) (rest : List (Turn T)) :
    w.gather f (t :: rest) = (f w t).toList ++ (w.take t).gather f rest := rfl

@[simp] theorem gather_append (w : Watched T) (first rest : List (Turn T)) :
    w.gather f (first ++ rest) = w.gather f first ++ (w.run first).gather f rest := by
  induction first generalizing w with
  | nil => rfl
  | cons t first ih => simp [ih]

theorem mem_gather {w : Watched T} {turns : List (Turn T)} {a : α} : a ∈ w.gather f turns ↔
    ∃ before t after, turns = before ++ t :: after ∧ f (w.run before) t = some a := by
  constructor
  · intro told
    induction turns generalizing w with
    | nil => cases told
    | cons t rest ih =>
      rcases List.mem_append.mp told with first | later
      · exact ⟨[], t, rest, rfl, Option.mem_toList.mp first⟩
      · obtain ⟨before, t', after, rfl, told'⟩ := ih later
        exact ⟨t :: before, t', after, rfl, told'⟩
  · rintro ⟨before, t, after, rfl, told⟩
    simp [told]

theorem gather_sublist (fewer : ∀ w t, (f w t).toList.Sublist (g w t).toList) (w : Watched T)
    (turns : List (Turn T)) : (w.gather f turns).Sublist (w.gather g turns) := by
  induction turns generalizing w with
  | nil => exact .slnil
  | cons t rest ih => exact (fewer w t).append (ih _)

end Gather

/-- The destination that a turn looks at. -/
def looks? (w : Watched T) : Turn T → Option Nat
  | .look i =>
    match w.phase, w.client.supervisor with
    | .looking _ unseen _, some _ => if unseen.contains i then some i else none
    | _, _ => none
  | _ => none

/-- The destination that a turn looks at and finds due. -/
def finds? (policy : Reconnect.Policy) (now : Instant) (w : Watched T) (t : Turn T) : Option Nat :=
  (w.looks? t).filter (w.client.isDue now policy)

/-- The destination that the scan under way meets at a turn and had not met at its start. -/
def meets? (w : Watched T) : Turn T → Option Nat
  | .meet i =>
    match w.phase with
    | .looking _ _ _ => if w.client.loaded.contains i then some i else none
    | _ => none
  | _ => none

/-- The destination that a turn asks to connect. -/
def asks? (w : Watched T) : Turn T → Option Nat
  | .goOn => match w.phase with
    | .asking (i :: _) => some i
    | _ => none
  | _ => none

theorem looks?_eq_some {w : Watched T} {t : Turn T} {i : Nat} (looks : w.looks? t = some i) :
    t = .look i := by
  cases t with
  | look j =>
    simp only [looks?] at looks
    split at looks
    · split at looks <;> cases looks
      rfl
    · cases looks
  | _ => cases looks

theorem asks?_eq_some {w : Watched T} {t : Turn T} {i : Nat} (asks : w.asks? t = some i) :
    t = .goOn ∧ ∃ due, w.phase = .asking (i :: due) := by
  cases t with
  | goOn =>
    simp only [asks?] at asks
    split at asks
    · next due phase =>
      cases asks
      exact ⟨rfl, due, phase⟩
    · cases asks
  | _ => cases asks

/-! ### One turn -/

/-- The supervisor follows its policy, and if it looks, it goes by the time when its scan started. -/
structure Scanning (policy : Reconnect.Policy) (now : Instant) (w : Watched T) : Prop where
  sound : w.Sound
  policy : ∀ s, w.client.supervisor = some s → s.policy = policy
  since : ∀ t unseen due, w.phase = .looking t unseen due → t = now

section Scanning

variable {policy : Reconnect.Policy} {now : Instant} {w : Watched T} {turns : List (Turn T)}

theorem scans_take (w : Watched T) (t : Turn T) : w.scans ≤ (w.take t).scans := by
  have took := took_take w t
  generalize w.take t = w' at took ⊢
  cases took with
  | woke => exact Nat.le_succ _
  | _ => exact Nat.le_refl _

theorem scans_run (w : Watched T) (turns : List (Turn T)) : w.scans ≤ (w.run turns).scans := by
  induction turns generalizing w with
  | nil => exact Nat.le_refl _
  | cons t rest ih => exact Nat.le_trans (scans_take w t) (ih _)

/-- If no scan starts in a run, none starts in its first turn or later. -/
theorem scans_cons {t : Turn T} {rest : List (Turn T)} (same : (w.run (t :: rest)).scans = w.scans) :
    (w.take t).scans = w.scans ∧ ((w.take t).run rest).scans = (w.take t).scans := by
  have first := scans_take w t
  have later := scans_run (w.take t) rest
  rw [run_cons] at same
  omega

theorem Scanning.take (scanning : w.Scanning policy now) (t : Turn T)
    (same : (w.take t).scans = w.scans) : (w.take t).Scanning policy now := by
  obtain ⟨sound, follows, since⟩ := scanning
  have took := took_take w t
  generalize w.take t = w' at took same
  refine ⟨sound.took took, ?_, ?_⟩
  · intro s' supervisor
    obtain ⟨s, before, same⟩ := policy_took sound took supervisor
    exact same.trans (follows s before)
  · intro t' unseen' due' phase'
    cases took with
    | woke => exact absurd same (Nat.succ_ne_self _)
    | looked phase =>
      cases phase'
      exact since _ _ _ phase
    | met phase =>
      cases phase'
      exact since _ _ _ phase
    | listed => cases phase'
    | asked => cases phase'
    | paused => cases phase'
    | _ => exact since _ _ _ phase'

/-- What was found due is asked, or still to be asked; and what is to be looked at is looked at. -/
theorem course_take (scanning : w.Scanning policy now) (t : Turn T)
    (same : (w.take t).scans = w.scans) :
    w.phase.due ++ (w.finds? policy now t).toList = (w.asks? t).toList ++ (w.take t).phase.due ∧
    ((w.take t).phase.unseen ++ (w.looks? t).toList).Perm
      (w.phase.unseen ++ (w.meets? t).toList) := by
  have idle (still : (w.take t).phase = w.phase) (looks : w.looks? t = none)
      (asks : w.asks? t = none) (meets : w.meets? t = none) :
      w.phase.due ++ (w.finds? policy now t).toList = (w.asks? t).toList ++ (w.take t).phase.due ∧
      ((w.take t).phase.unseen ++ (w.looks? t).toList).Perm
        (w.phase.unseen ++ (w.meets? t).toList) := by
    simp [finds?, still, looks, asks, meets]
  -- `Took` does not say when a turn comes to nothing, so the turns are opened one by one.
  cases t with
  | act a =>
    refine idle ?_ rfl rfl rfl
    simp only [take]
    split <;> rfl
  | late a =>
    refine idle ?_ rfl rfl rfl
    simp only [take]
    split <;> rfl
  | report =>
    refine idle ?_ rfl rfl rfl
    simp only [take]
    split <;> rfl
  | wake permit =>
    refine idle ?_ rfl rfl rfl
    have took := took_take w (.wake permit)
    generalize w.take (.wake permit) = w' at took same
    cases took with
    | nothing => rfl
    | stopped => rfl
    | woke => exact absurd same (Nat.succ_ne_self _)
  | look i =>
    cases phase : w.phase with
    | looking t unseen due =>
      obtain rfl := scanning.since t unseen due phase
      cases supervisor : w.client.supervisor with
      | none =>
        rw [← phase]
        exact idle (by simp [take, phase, supervisor]) (by simp [looks?, phase, supervisor]) rfl rfl
      | some s =>
        obtain rfl := scanning.policy s supervisor
        by_cases unlooked : i ∈ unseen
        · have perm : (unseen.erase i ++ [i]).Perm unseen :=
            List.perm_append_comm.trans (List.perm_cons_erase unlooked).symm
          by_cases due : w.client.isDue t s.policy i = true <;>
            simpa [finds?, looks?, asks?, meets?, take, phase, supervisor, unlooked, due, Phase.due,
              Phase.unseen] using perm
        · rw [← phase]
          exact idle (by simp [take, phase, supervisor, unlooked])
            (by simp [looks?, phase, supervisor, unlooked]) rfl rfl
    | _ =>
      rw [← phase]
      exact idle (by simp [take, phase]) (by simp [looks?, phase]) rfl rfl
  | meet i =>
    cases phase : w.phase with
    | looking t unseen due =>
      by_cases there : i ∈ w.client.loaded <;>
        simp [finds?, looks?, asks?, meets?, take, phase, there, Phase.due, Phase.unseen]
    | _ =>
      rw [← phase]
      exact idle (by simp [take, phase]) rfl rfl (by simp [meets?, phase])
  | goOn =>
    cases phase : w.phase with
    | waiting =>
      rw [← phase]
      exact idle (by simp [take, phase]) rfl (by simp [asks?, phase]) rfl
    | looking t unseen due =>
      cases unseen <;> simp [finds?, looks?, asks?, meets?, take, phase, Phase.due, Phase.unseen]
    | asking due =>
      cases due <;> simp [finds?, looks?, asks?, meets?, take, phase, Phase.due, Phase.unseen]

/-- What was due and what is found due is asked, in that order, but for what is still to be asked; and what
was to be looked at and what is met is looked at, but for what is still to be looked at. -/
theorem course_run (scanning : w.Scanning policy now) (same : (w.run turns).scans = w.scans) :
    w.phase.due ++ w.gather (finds? policy now) turns =
      w.gather asks? turns ++ (w.run turns).phase.due ∧
    ((w.run turns).phase.unseen ++ w.gather looks? turns).Perm
      (w.phase.unseen ++ w.gather meets? turns) := by
  induction turns generalizing w with
  | nil => simp
  | cons t rest ih =>
    obtain ⟨first, later⟩ := scans_cons same
    obtain ⟨asked, looked⟩ := course_take scanning t first
    obtain ⟨asked', looked'⟩ := ih (scanning.take t first) later
    constructor
    · rw [gather_cons, ← List.append_assoc, asked, List.append_assoc, asked', gather_cons,
        List.append_assoc, run_cons]
    · rw [List.perm_iff_count] at looked looked' ⊢
      intro i
      have looked := looked i
      have looked' := looked' i
      simp only [gather_cons, run_cons, List.count_append] at looked looked' ⊢
      omega

end Scanning

/-! ### Whole scans -/

/-- A scan starts here: it goes by the present time and has looked at nothing yet. -/
def Starts (w : Watched T) : Prop := w.phase = .looking w.client.now w.client.loaded []

theorem Took.starts {w w' : Watched T} {t : Turn T} (took : Took w t w') (on : w'.phase ≠ .waiting) :
    w'.Starts ∨ w.phase ≠ .waiting ∧ w'.scans = w.scans := by
  cases took with
  | nothing => exact .inr ⟨on, rfl⟩
  | acted => exact .inr ⟨on, rfl⟩
  | late => exact .inr ⟨on, rfl⟩
  | reported => exact .inr ⟨on, rfl⟩
  | stopped => exact .inr ⟨on, rfl⟩
  | woke => exact .inl (by simp [Starts])
  | looked phase => exact .inr ⟨by simp [phase], rfl⟩
  | met phase => exact .inr ⟨by simp [phase], rfl⟩
  | listed phase => exact .inr ⟨by simp [phase], rfl⟩
  | asked phase => exact .inr ⟨by simp [phase], rfl⟩
  | paused => exact absurd rfl on

/-- A scan that is under way has started at some time. -/
theorem starts_run (name : String) (transport : T) (policy : Reconnect.Policy) {turns : List (Turn T)}
    (on : ((start name transport policy).run turns).phase ≠ .waiting) :
    ∃ before during, turns = before ++ during ∧ ((start name transport policy).run before).Starts ∧
      ((start name transport policy).run turns).scans =
        ((start name transport policy).run before).scans := by
  induction turns using List.reverseRecOn with
  | nil => exact absurd rfl on
  | append_singleton earlier t ih =>
    rw [run_append] at on ⊢
    rcases (took_take _ t).starts on with starts | ⟨on', same⟩
    · exact ⟨earlier ++ [t], [], by simp, by rwa [run_append], by rw [run_append]⟩
    · obtain ⟨before, during, rfl, starts, own⟩ := ih on'
      exact ⟨before, during ++ [t], by simp, starts, same.trans own⟩

theorem Starts.scanning (name : String) (transport : T) (policy : Reconnect.Policy)
    (turns : List (Turn T)) (starts : ((start name transport policy).run turns).Starts) :
    ((start name transport policy).run turns).Scanning policy
      ((start name transport policy).run turns).client.now where
  sound := (reachable_run name transport policy turns).sound
  policy _ := policy_run name transport policy turns
  since t unseen due phase := by
    rw [starts] at phase
    cases phase
    rfl

/-- No scan comes to a destination twice: it meets none a second time, and none that was loaded when it
started. -/
def MeetsOnce (w : Watched T) (turns : List (Turn T)) : Prop :=
  ∀ before during after, turns = before ++ during ++ after → (w.run before).Starts →
    ((w.run before).run during).scans = (w.run before).scans →
    ((w.run before).client.loaded ++ (w.run before).gather meets? during).Nodup

theorem MeetsOnce.leading {w : Watched T} {turns rest : List (Turn T)}
    (once : w.MeetsOnce (turns ++ rest)) : w.MeetsOnce turns := by
  rintro before during after rfl
  exact once before during (after ++ rest) (by simp)

/-- Where nothing is met, nothing is met twice. -/
theorem meetsOnce_of_none (name : String) (transport : T) (policy : Reconnect.Policy)
    {turns : List (Turn T)} (none : (start name transport policy).gather meets? turns = []) :
    (start name transport policy).MeetsOnce turns := by
  rintro before during after rfl - -
  simp only [gather_append, List.append_eq_nil_iff] at none
  rw [none.1.2, List.append_nil]
  exact (listed_run name transport policy before).increasing.imp Nat.ne_of_lt

/-- The course of a scan from its start, up to the end of some turns. -/
structure Scan (policy : Reconnect.Policy) (v : Watched T) (during : List (Turn T)) : Prop where
  starts : v.Starts
  /-- What it has found due it has asked, but for what it has still to ask. -/
  asks : v.gather (finds? policy v.client.now) during =
    v.gather asks? during ++ (v.run during).phase.due
  /-- It has looked at all that it has come to, but for what it has still to look at. -/
  looks : ((v.run during).phase.unseen ++ v.gather looks? during).Perm
    (v.client.loaded ++ v.gather meets? during)

theorem Scan.of_starts {policy : Reconnect.Policy} {v : Watched T} {during : List (Turn T)}
    (starts : v.Starts) (scanning : v.Scanning policy v.client.now)
    (own : (v.run during).scans = v.scans) : Scan policy v during := by
  obtain ⟨asks, looks⟩ := course_run scanning own
  rw [starts] at asks looks
  exact ⟨starts, asks, looks⟩

/-- If it comes to no destination twice, it finds none due twice and asks none twice. -/
theorem Scan.nodup {policy : Reconnect.Policy} {v : Watched T} {during : List (Turn T)}
    (scan : Scan policy v during) (once : (v.client.loaded ++ v.gather meets? during).Nodup) :
    (v.gather asks? during ++ (v.run during).phase.due).Nodup := by
  rw [← scan.asks]
  have looked : (v.gather looks? during).Nodup :=
    (scan.looks.nodup_iff.mpr once).sublist (List.sublist_append_right _ _)
  refine looked.sublist (gather_sublist (fun w t => ?_) v during)
  unfold finds?
  cases w.looks? t with
  | none => exact .slnil
  | some i => cases due : w.client.isDue v.client.now policy i <;> simp [due]

/-- Every turn while a scan is under way is one of a scan that has started before. -/
theorem scan_run (name : String) (transport : T) (policy : Reconnect.Policy) {turns : List (Turn T)}
    (on : ((start name transport policy).run turns).phase ≠ .waiting) :
    ∃ before during, turns = before ++ during ∧
      Scan policy ((start name transport policy).run before) during ∧
      ((start name transport policy).run turns).scans =
        ((start name transport policy).run before).scans := by
  obtain ⟨before, during, rfl, starts, own⟩ := starts_run name transport policy on
  refine ⟨before, during, rfl, .of_starts starts (starts.scanning name transport policy before) ?_, own⟩
  rw [← run_append]
  exact own

end Watched

end Client

end Switchboard
