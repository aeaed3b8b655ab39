import Switchboard.Proofs.Connection.Callers
import Switchboard.Proofs.Connection.OutOfService
import Switchboard.Proofs.Client.Setup

/-!
Retirement is final. Whoever asks a destination that is out of service for a connection is refused, or
waits for an attempt that was under way before and can only fail.
-/
namespace Switchboard

namespace Client

variable {T : Type} [Transport T]

/-- An attempt is still under way at a destination, or it has failed. -/
def Doomed (id : AttemptId) (i : Nat) (c : Client T) : Prop :=
  (id, i) ∈ c.underWay ∨ ∃ f, c.outcomes.lookup id = some (some (.error f))

theorem Doomed.move {k : Option Nat} {c c' : Client T} {id : AttemptId} {i : Nat}
    (doomed : c.Doomed id i) (out : c.OutOfService i) (numbered : c.Numbered)
    (past : c.OutcomesNumbered) (m : Move k c c') : c'.Doomed id i := by
  cases m.attempted with
  | kept outcomes later still new =>
    obtain running | ⟨f, failed⟩ := doomed
    · exact .inl (still _ running)
    · exact .inr ⟨f, by rw [outcomes, failed]⟩
  | ended a outcome running outcomes underWay nextAttempt named kept =>
    obtain there | ⟨f, failed⟩ := doomed
    · by_cases own : id = a.id
      · subst own
        have same := List.inj_on_of_nodup_map numbered.distinct there (mem_underWay running) rfl
        obtain rfl : i = a.destination := congrArg Prod.snd same
        right
        cases outcome with
        | ok =>
          obtain ⟨d, found, inService⟩ := kept rfl
          obtain ⟨d', found', retired, -⟩ := out
          rw [found] at found'
          cases found'
          rw [retired] at inService
          cases inService
        | error f => exact ⟨f, by rw [outcomes, lookup_cons_if, if_pos rfl]⟩
      · left
        rw [underWay, List.mem_filter]
        exact ⟨there, by simpa using own⟩
    · right
      have other : id ≠ a.id := by
        rintro rfl
        exact (past _ _ failed).2 _ (mem_underWay running)
      exact ⟨f, by rw [outcomes, lookup_cons_if, if_neg other, failed]⟩

theorem Doomed.moves {k : Option Nat} {c c' : Client T} {id : AttemptId} {i : Nat}
    (doomed : c.Doomed id i) (out : c.OutOfService i) (numbered : c.Numbered)
    (past : c.OutcomesNumbered) (m : Moves k c c') : c'.Doomed id i := by
  induction m with
  | refl => exact doomed
  | tail first last ih =>
    exact ih.move (out.moves numbered first) (numbered.moves first) (moves_owned first numbered past).1
      last

theorem Doomed.act {c : Client T} {id : AttemptId} {i : Nat} (doomed : c.Doomed id i)
    (out : c.OutOfService i) (numbered : c.Numbered) (past : c.OutcomesNumbered) (a : Action T) :
    (c.act a).Doomed id i := by
  have changed := changed_act numbered a
  generalize c.act a = c' at changed
  cases changed with
  | moved moves unmoved =>
    have moved := doomed.moves out numbered past moves
    unfold Doomed
    rw [unmoved.outcomes, unmoved.underWay]
    exact moved
  | added destinations underWay nextAttempt outcomes journal =>
    unfold Doomed
    rw [outcomes, underWay]
    exact doomed

theorem Doomed.run {c : Client T} {id : AttemptId} {i : Nat} (doomed : c.Doomed id i)
    (out : c.OutOfService i) (reachable : c.Reachable) (actions : List (Action T)) :
    (c.run actions).Doomed id i := by
  induction actions generalizing c with
  | nil => exact doomed
  | cons a rest ih =>
    exact ih (doomed.act out reachable.numbered reachable.outcomesNumbered a)
      (out.act reachable.numbered a) (reachable.act a)

/-- What is heard of such an attempt is a failure. -/
theorem Doomed.outcome? {c : Client T} {id : AttemptId} {i : Nat} (doomed : c.Doomed id i)
    (past : c.OutcomesNumbered) :
    (id, i) ∈ c.underWay ∧ c.outcome? i id = none ∨ ∃ f, c.outcome? i id = some (.error f) := by
  unfold Client.outcome?
  obtain running | ⟨f, failed⟩ := doomed
  · left
    refine ⟨running, ?_⟩
    cases known : c.outcomes.lookup id with
    | none => rfl
    | some outcome => exact absurd running ((past id outcome known).2 i)
  · right
    rw [failed]
    exact ⟨f, rfl⟩

/-! ### Asking for a connection -/

/-- Whoever asks is refused, or joins an attempt that is under way. -/
theorem OutOfService.asked {c : Client T} {i : Nat} (out : c.OutOfService i)
    (reachable : c.Reachable) :
    (∃ f, c.beginConnect i = (c, .refused f)) ∨
      ∃ a, c.beginConnect i = (c, .joined a) ∧ (a, i) ∈ c.underWay := by
  obtain ⟨d, found, retired, -, off⟩ := out
  have asked := beginConnect_asked found
  generalize c.beginConnect i = r at asked
  cases asked with
  | connected on => exact absurd on off
  | refused => exact .inl ⟨_, rfl⟩
  | started _ _ kept =>
    rw [retired] at kept
    cases kept
  | @joined a _ inFlight =>
    have attempts : c.attemptsOf i = d.inFlight.toList :=
      (reachable.consistent (ledger_of_found found)).attempts
    have there : a ∈ c.attemptsOf i := by
      rw [attempts, inFlight]
      exact List.mem_singleton_self a
    exact .inr ⟨a, rfl, mem_attemptsOf_iff.mp there⟩

/-- A connect call that ended without a connection. -/
def CallResult.unconnected : CallResult → Prop
  | .connected (.error _) => True
  | .aborted => True
  | _ => False

/-- A connect call is on its way to a failure, or has got there. -/
inductive Failing (id i : Nat) (c : Client T) : Prop
  | underway (attempt : Option AttemptId) (calling : c.calls.lookup id = some (.connect i attempt))
      (doomed : ∀ a, attempt = some a → c.Doomed a i)
  | ended (r : CallResult) (went : c.Went id (.done r)) (unconnected : r.unconnected)

/-- The next step of a connect call: it waits for an attempt that can only fail, or has failed. -/
theorem went_failing {c : Client T} {id i : Nat} (reachable : c.Reachable) (out : c.OutOfService i)
    {attempt : Option AttemptId} (calling : c.calls.lookup id = some (.connect i attempt))
    (doomed : ∀ a, attempt = some a → c.Doomed a i) :
    (∃ a, (c.act (.step (.call id))).Went id (.waiting (.connect i (some a))) ∧ c.Doomed a i) ∨
      ∃ f, (c.act (.step (.call id))).Went id (.done (.connected (.error f))) := by
  have went := act_went reachable calling
  cases attempt with
  | none =>
    obtain ⟨f, asked⟩ | ⟨a, asked, running⟩ := out.asked reachable
    · have refused : c.advance id (.connect i none) = (c, .done (.connected (.error f))) := by
        simp only [advance, stepConnect, asked]
      rw [refused] at went
      exact .inr ⟨f, went⟩
    · obtain ⟨c₁, joined, -⟩ := advance_asking asked .connect id
      rw [joined] at went
      exact .inl ⟨a, went, .inl running⟩
  | some a =>
    obtain ⟨-, unheard⟩ | ⟨f, heard⟩ := (doomed a rfl).outcome? reachable.outcomesNumbered
    · rw [advance_waiting unheard .connect] at went
      exact .inl ⟨a, went, doomed a rfl⟩
    · obtain ⟨c₁, hears, -⟩ := advance_hearing heard .connect id
      rw [hears] at went
      exact .inr ⟨f, went⟩

theorem Failing.act {c : Client T} {id i : Nat} (failing : c.Failing id i) (reachable : c.Reachable)
    (out : c.OutOfService i) (x : Action T) : (c.act x).Failing id i := by
  have stays {a} (doomed : c.Doomed a i) : (c.act x).Doomed a i :=
    doomed.act out reachable.numbered reachable.outcomesNumbered x
  cases failing with
  | ended r went unconnected => exact .ended r (went.done_act reachable x) unconnected
  | underway attempt calling doomed =>
    cases act_fared reachable calling x with
    | kept calling => exact .underway attempt calling fun a same => stays (doomed a same)
    | stepped own =>
      subst own
      obtain ⟨a, waits, doom⟩ | ⟨f, ended⟩ := went_failing reachable out calling doomed
      · refine .underway (some a) waits.1 ?_
        rintro _ ⟨⟩
        exact stays doom
      · exact .ended _ ended trivial
    | abandoned own went => exact .ended _ went trivial

theorem Failing.run {c : Client T} {id i : Nat} (failing : c.Failing id i) (reachable : c.Reachable)
    (out : c.OutOfService i) (actions : List (Action T)) : (c.run actions).Failing id i := by
  induction actions generalizing c with
  | nil => exact failing
  | cons a rest ih =>
    exact ih (failing.act reachable out a) (reachable.act a) (out.act reachable.numbered a)

end Client

end Switchboard
