import Switchboard.Proofs.Connection.Failures
import Switchboard.Proofs.Connection.Watchers
import Switchboard.Proofs.Supervisor.Course

/-!
What a scan asks for. The supervisor first looks at all destinations and then asks those that were due to
connect, and meanwhile anybody may begin an attempt or take a destination out of service. Unless an attempt
has begun since it looked, or the destination is out of service, it is still due when it is asked. And if
the scan comes to no destination twice, an attempt that has begun in between is not the supervisor's.
-/
namespace Switchboard

/-- If an attempt is under way that was not, it is since one has begun. -/
theorem Destination.Fate.of_running {now : Instant} {happening : Option Happening} {d d' : Destination}
    (fate : d.Fate now happening d') (idle : d.inFlight = none) (running : d'.inFlight.isSome) :
    happening = some .begun := by
  cases fate with
  | begun => rfl
  | rested rested => simp [rested.inFlight, idle] at running
  | failed ran => simp [idle] at ran
  | published ran => simp [idle] at ran
  | discarded ran => simp [idle] at ran
  | timedOut inFlight => simp [inFlight, idle] at running

/-- Due to be connected again, or out of service. -/
structure Destination.Ready (now : Instant) (policy : Reconnect.Policy) (d : Destination) : Prop where
  off : d.live = none
  idle : d.inFlight = none
  due : d.retired = false → d.reconnectDue now policy = true

theorem Destination.Ready.undergone {now : Instant} {policy : Reconnect.Policy} {δ : Deed}
    {d d' : Destination} (ready : d.Ready now policy) (deed : d.Undergoes δ d')
    (unbegun : δ ≠ .begun) : d'.Ready now policy := by
  obtain ⟨off, idle, due⟩ := ready
  cases deed with
  | begun => exact absurd rfl unbegun
  | failed running => simp [idle] at running
  | delivered running => simp [idle] at running
  | revoked on => simp [off] at on
  | tornDown =>
    refine ⟨rfl, idle, ?_⟩
    intro kept
    obtain ⟨-, -, state, waited⟩ := reconnectDue_iff.mp (due kept)
    refine reconnectDue_iff.mpr ⟨kept, idle, ?_, waited⟩
    rcases state with down | failed
    · simp [disconnect, down]
    · simp [disconnect, failed]
  | retired =>
    refine ⟨off, idle, ?_⟩
    intro kept
    cases kept
  | counted => exact ⟨off, idle, due⟩

namespace Client

variable {T : Type} [Transport T] {now : Instant} {policy : Reconnect.Policy} {i : Nat}
  {d : Destination}

/-- A destination that is ready stays so until an attempt begins. -/
theorem ready_act {c : Client T} (sound : c.Sound) (found : c.destinations[i]? = some d)
    (ready : d.Ready now policy) (a : Action T) :
    ∃ d', (c.act a).destinations[i]? = some d' ∧ (d'.Busy ∨ d'.Ready now policy) := by
  have effects := effects_act sound a
  by_cases begun : Deed.begun ∈ a.deeds
  · obtain ⟨unfailed, undelivered⟩ := Action.deeds_of_begun begun
    refine effects.kept (P := fun d => d.Busy ∨ d.Ready now policy) ?_ found (.inr ready)
    rintro δ allowed d₁ d₂ deed (busy | ready)
    · exact .inl (busy.undergone deed (ne_of_mem_of_not_mem allowed unfailed)
        (ne_of_mem_of_not_mem allowed undelivered))
    · by_cases begins : δ = .begun
      · subst begins
        cases deed
        exact .inl ⟨rfl, rfl, ready.off⟩
      · exact .inr (ready.undergone deed begins)
  · have undergone (δ : Deed) (allowed : δ ∈ a.deeds) (d₁ d₂ : Destination)
        (deed : d₁.Undergoes δ d₂) (ready : d₁.Ready now policy) : d₂.Ready now policy :=
      ready.undergone deed (ne_of_mem_of_not_mem allowed begun)
    obtain ⟨d', found', ready'⟩ := effects.kept undergone found ready
    exact ⟨d', found', .inr ready'⟩

namespace Watched

/-! ### Histories -/

/-- What happens to a destination in a turn. -/
def happening? (i : Nat) (w : Watched T) (t : Turn T) : Option Happening :=
  (w.action? t).bind (w.client.happening? i)

def note? (i : Nat) (w : Watched T) (t : Turn T) : Option Note :=
  (w.happening? i t).map (⟨·, w.client.now, t.isSupervisor⟩)

/-- What happens to a destination in a run, the last happening first. -/
def history (i : Nat) (w : Watched T) (turns : List (Turn T)) : List Note :=
  (w.gather (note? i) turns).reverse

@[simp] theorem history_append (w : Watched T) (first rest : List (Turn T)) :
    w.history i (first ++ rest) = (w.run first).history i rest ++ w.history i first := by
  simp [history]

@[simp] theorem history_single (w : Watched T) (t : Turn T) :
    w.history i [t] = (w.note? i t).toList := by
  cases told : w.note? i t <;> simp [history, told]

theorem mem_history {w : Watched T} {turns : List (Turn T)} {note : Note} :
    note ∈ w.history i turns ↔
      ∃ before t after, turns = before ++ t :: after ∧ (w.run before).note? i t = some note := by
  rw [history, List.mem_reverse, mem_gather]

theorem chronicle_run (name : String) (transport : T) (policy : Reconnect.Policy) (i : Nat)
    (turns : List (Turn T)) :
    Chronicle i ((start name transport policy).run turns).client
      ((start name transport policy).history i turns) := by
  induction turns using List.reverseRecOn with
  | nil => exact .created name transport policy
  | append_singleton before t ih =>
    rw [history_append, history_single, run_append]
    generalize (start name transport policy).run before = w at ih ⊢
    have unmoved := (w.besides_take t).toUnmoved
    unfold note? happening?
    cases acts : w.action? t with
    | none =>
      rw [acts] at unmoved
      exact .aside ih unmoved
    | some a =>
      rw [acts] at unmoved
      exact .acted ih a t.isSupervisor unmoved

theorem later_take (w : Watched T) (t : Turn T) : w.client.now ≤ (w.take t).client.now := by
  have took := took_take w t
  generalize w.take t = w' at took ⊢
  cases took with
  | @acted a => exact later_act w.client a
  | @late a => exact later_act w.client a
  | @asked i => exact later_act w.client (.beginConnect i)
  | @stopped permit s => exact Nat.le_of_eq (now_hear permit s w.client).symm
  | @woke permit s => exact Nat.le_of_eq (now_hear permit s w.client).symm
  | _ => exact Nat.le_refl _

theorem later_run (w : Watched T) (turns : List (Turn T)) :
    w.client.now ≤ (w.run turns).client.now := by
  induction turns generalizing w with
  | nil => exact Nat.le_refl _
  | cons t rest ih => exact Nat.le_trans (later_take w t) (ih _)

/-! ### Attempts of the supervisor -/

/-- All that the supervisor does to a destination is to ask it to connect. -/
theorem action?_supervisor (w : Watched T) {t : Turn T} (own : t.isSupervisor = true) :
    w.action? t = (w.asks? t).map .beginConnect := by
  cases t with
  | act => cases own
  | late => cases own
  | goOn =>
    unfold action? asks?
    cases w.phase with
    | asking due => cases due <;> rfl
    | _ => rfl
  | _ => rfl

end Watched

theorem beginConnect_elsewhere (c : Client T) {j : Nat} (other : j ≠ i) :
    (c.beginConnect j).1.destinations[i]? = c.destinations[i]? := by
  cases found : c.destinations[j]? with
  | none => rw [beginConnect_of_absent found]
  | some d =>
    have asked := beginConnect_asked found
    generalize c.beginConnect j = asking at asked ⊢
    cases asked with
    | started => rw [destinations_attemptBegun, List.getElem?_set_ne other]
    | _ => rfl

/-- An attempt begins for a destination that is asked, in service and free for one. -/
theorem begun_beginConnect {c : Client T} (watchable : c.Watchable) {j : Nat} :
    c.happening? i (.beginConnect j) = some .begun ↔ j = i ∧ ∃ d, c.destinations[i]? = some d ∧
      d.state ≠ .connected ∧ d.inFlight = none ∧ d.retired = false := by
  cases found : c.destinations[i]? with
  | none => simp [happening?, ledger, found]
  | some d =>
    obtain ⟨d', found', fate⟩ := fated_act watchable i (.beginConnect j) d found
    constructor
    · intro begun
      rw [begun] at fate
      cases fate with
      | begun off idle kept =>
        refine ⟨?_, d, rfl, off, idle, kept⟩
        by_contra elsewhere
        rw [act, beginConnect_elsewhere c elsewhere, found] at found'
        have running := congrArg Destination.inFlight (Option.some.inj found')
        rw [idle] at running
        cases running
    · rintro ⟨rfl, d₁, same, off, idle, kept⟩
      obtain rfl := Option.some.inj same
      rw [act, beginConnect_of_ready found off idle kept] at found'
      obtain rfl := Option.some.inj ((found_setDestination found _).symm.trans found')
      exact fate.of_running idle rfl

namespace Watched

variable {w : Watched T} {turns : List (Turn T)}

/-- What the supervisor begins an attempt for it asks, and if what it asks is free for an attempt, one
begins. -/
theorem begun_asked (sound : w.Sound) {t : Turn T} (own : t.isSupervisor = true) :
    w.happening? i t = some .begun ↔ w.asks? t = some i ∧ ∃ d, w.client.destinations[i]? = some d ∧
      d.state ≠ .connected ∧ d.inFlight = none ∧ d.retired = false := by
  rw [happening?, action?_supervisor w own]
  cases w.asks? t with
  | none => simp
  | some j => simpa using begun_beginConnect sound.watchable

/-! ### From the look to the asking -/

/-- A destination that is ready stays so as long as no attempt begins. -/
theorem ready_take (sound : w.Sound) (found : w.client.destinations[i]? = some d)
    (ready : d.Ready now policy) (t : Turn T) : w.happening? i t = some .begun ∨
      ∃ d', (w.take t).client.destinations[i]? = some d' ∧ d'.Ready now policy := by
  have besides := w.besides_take t
  unfold happening?
  rw [besides.destinations]
  cases w.action? t with
  | none => exact .inr ⟨d, found, ready⟩
  | some a =>
    obtain ⟨d', found', busy | ready'⟩ := ready_act sound.watchable.sound found ready a
    · obtain ⟨d₁, found₁, fate⟩ := fated_act sound.watchable i a d found
      obtain rfl := Option.some.inj (found'.symm.trans found₁)
      exact .inl (fate.of_running ready.idle busy.running)
    · exact .inr ⟨d', found', ready'⟩

theorem ready_run (sound : w.Sound) (found : w.client.destinations[i]? = some d)
    (ready : d.Ready now policy) (unbegun : ∀ note ∈ w.history i turns, note.happening ≠ .begun) :
    ∃ d', (w.run turns).client.destinations[i]? = some d' ∧ d'.Ready now policy := by
  induction turns generalizing w d with
  | nil => exact ⟨d, found, ready⟩
  | cons t rest ih =>
    rw [← List.singleton_append, history_append, history_single] at unbegun
    rcases ready_take sound found ready t with begun | ⟨d₁, found₁, ready₁⟩
    · have noted : w.note? i t = some ⟨.begun, w.client.now, t.isSupervisor⟩ := by simp [note?, begun]
      exact absurd rfl (unbegun _ (List.mem_append_right _ (Option.mem_toList.mpr noted)))
    · exact ih (sound.took (took_take w t)) found₁ ready₁ fun note there =>
        unbegun note (List.mem_append_left _ there)

theorem ready_of_due (sound : w.Sound) (due : w.client.isDue now policy i = true) :
    ∃ d, w.client.destinations[i]? = some d ∧ d.Ready now policy := by
  obtain ⟨-, d, found, due⟩ := isDue_iff.mp due
  obtain ⟨-, idle, -⟩ := Destination.reconnectDue_iff.mp due
  have consistent := sound.watchable.consistent (ledger_of_found found)
  have off : d.live = none := by
    have unconnected := Destination.unconnected_of_due due
    simpa [consistent.connected] using unconnected
  exact ⟨d, found, off, idle, fun _ => due⟩

/-! ### What is asked -/

/-- What a scan that started earlier in a run is about to ask: it has looked at it and found it due by the
time of its start. -/
structure Asked (i : Nat) (policy : Reconnect.Policy) (first : Watched T)
    (earlier before after : List (Turn T)) : Prop where
  scan : Scan policy (first.run earlier) (before ++ .look i :: after)
  own : (first.run (earlier ++ before ++ .look i :: after)).scans = (first.run earlier).scans
  listed : i ∈ (first.run (earlier ++ before ++ .look i :: after)).phase.due
  due : (first.run (earlier ++ before)).client.isDue (first.run earlier).client.now policy i = true

theorem asked_run (name : String) (transport : T) (policy : Reconnect.Policy) {turns : List (Turn T)}
    (listed : i ∈ ((start name transport policy).run turns).phase.due) :
    ∃ earlier before after, turns = earlier ++ before ++ .look i :: after ∧
      Asked i policy (start name transport policy) earlier before after := by
  have on : ((start name transport policy).run turns).phase ≠ .waiting := by
    intro waiting
    rw [waiting] at listed
    cases listed
  obtain ⟨earlier, during, rfl, scan, own⟩ := scan_run name transport policy on
  have found : i ∈ ((start name transport policy).run earlier).gather
      (finds? policy ((start name transport policy).run earlier).client.now) during := by
    rw [scan.asks, ← run_append]
    exact List.mem_append_right _ listed
  obtain ⟨before, t, after, rfl, finds⟩ := mem_gather.mp found
  obtain ⟨looks, due⟩ := Option.filter_eq_some_iff.mp finds
  obtain rfl := looks?_eq_some looks
  rw [← List.append_assoc] at own listed
  exact ⟨earlier, before, after, by simp, scan, own, listed, by rwa [run_append]⟩

theorem waits_run {w : Watched T} {turns : List (Turn T)} (waits : w.phase = .waiting)
    (same : (w.run turns).scans = w.scans) : (w.run turns).phase = .waiting := by
  induction turns generalizing w with
  | nil => exact waits
  | cons t rest ih =>
    obtain ⟨unstarted, later⟩ := scans_cons same
    refine ih ?_ later
    have took := took_take w t
    generalize w.take t = w' at took unstarted
    cases took with
    | woke => exact absurd unstarted (Nat.succ_ne_self _)
    | looked phase => simp [phase] at waits
    | met phase => simp [phase] at waits
    | listed phase => simp [phase] at waits
    | asked phase => simp [phase] at waits
    | paused phase => simp [phase] at waits
    | _ => exact waits

/-- While a scan is under way nobody but the supervisor does anything. -/
def Alone (w : Watched T) (turns : List (Turn T)) : Prop :=
  ∀ before t after, turns = before ++ t :: after → (w.run before).phase ≠ .waiting →
    t.isSupervisor = true

theorem Alone.leading {w : Watched T} {turns rest : List (Turn T)} (alone : w.Alone (turns ++ rest)) :
    w.Alone turns := by
  rintro before t after rfl
  exact alone before t (after ++ rest) (by simp)

section Asked

variable {first : Watched T} {earlier before after : List (Turn T)}
  (asked : Asked i policy first earlier before after)

include asked

/-- If a scan asks no destination twice, an attempt that has begun since it looked is not its own. -/
theorem Asked.others (sound : first.Sound)
    (once : first.MeetsOnce (earlier ++ before ++ .look i :: after)) {note : Note}
    (noted : note ∈ (first.run (earlier ++ before)).history i (.look i :: after))
    (begun : note.happening = .begun) : note.supervised = false := by
  obtain ⟨lead, t, rest, split, told⟩ := mem_history.mp noted
  obtain ⟨happening, happened, rfl⟩ := Option.map_eq_some_iff.mp told
  obtain rfl : happening = .begun := begun
  by_contra own
  rw [Bool.not_eq_false] at own
  -- It would have asked the destination before and be about to ask it again.
  have asks := ((begun_asked ((sound.run _).run lead) own).mp happened).1
  have asked' : i ∈ (first.run earlier).gather asks? (before ++ .look i :: after) := by
    refine mem_gather.mpr ⟨before ++ lead, t, rest, by rw [split, List.append_assoc], ?_⟩
    rwa [run_append, ← run_append first]
  have met := once earlier (before ++ .look i :: after) [] (by simp) asked.scan.starts
    (by rw [← run_append, ← List.append_assoc]; exact asked.own)
  have distinct := asked.scan.nodup met
  refine List.disjoint_of_nodup_append distinct asked' ?_
  rw [← run_append, ← List.append_assoc]
  exact asked.listed

theorem Asked.own_of_alone (alone : first.Alone (earlier ++ before ++ .look i :: after)) {note : Note}
    (noted : note ∈ (first.run (earlier ++ before)).history i (.look i :: after)) :
    note.supervised = true := by
  obtain ⟨lead, t, rest, split, told⟩ := mem_history.mp noted
  obtain ⟨happening, -, rfl⟩ := Option.map_eq_some_iff.mp told
  refine alone (earlier ++ before ++ lead) t rest (by rw [split, ← List.append_assoc]) ?_
  intro waits
  -- No scan has started since, so this one would be over.
  have same : first.run (earlier ++ before ++ .look i :: after) =
      (first.run (earlier ++ before ++ lead)).run (t :: rest) := by
    rw [split, ← run_append, ← List.append_assoc]
  have own := asked.own
  have listed := asked.listed
  rw [same] at own listed
  have since := scans_run (first.run earlier) (before ++ lead)
  rw [← run_append, ← List.append_assoc] at since
  have on := scans_run (first.run (earlier ++ before ++ lead)) (t :: rest)
  rw [waits_run waits (by omega)] at listed
  cases listed

/-- What is asked is due unless an attempt has begun since the look. -/
theorem Asked.still (sound : first.Sound)
    (unbegun : ∀ note ∈ (first.run (earlier ++ before)).history i (.look i :: after),
      note.happening ≠ .begun) {d : Destination}
    (found : (first.run (earlier ++ before ++ .look i :: after)).client.destinations[i]? = some d)
    (kept : d.retired = false) : d.reconnectDue (first.run earlier).client.now policy = true := by
  obtain ⟨d₀, found₀, ready₀⟩ := ready_of_due (sound.run _) asked.due
  obtain ⟨d₁, found₁, ready₁⟩ := ready_run (sound.run _) found₀ ready₀ unbegun
  rw [← run_append, found] at found₁
  obtain rfl := Option.some.inj found₁
  exact ready₁.due kept

end Asked

end Watched

end Client

end Switchboard
