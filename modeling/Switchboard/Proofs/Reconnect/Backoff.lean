import Switchboard.Proofs.Duration.Parts
import Switchboard.Reconnect.Policy

/-!
The wait behind a failed attempt. It doubles with every further failure until it meets the cap, or until
the thirty-second failure, from which on it no longer grows. The machine works it out in words, and none of
them overflows on the way.
-/
namespace Switchboard.Reconnect

open Duration (Parts)

/-- A difference of words, if it is one. -/
def less? (a b : UInt32) : Option UInt32 := if b ≤ a then some (a - b) else none

/-- A power of two as a word, if the shift stays within the width. -/
def power? (exponent : UInt32) : Option UInt32 := if exponent < 32 then some (1 <<< exponent) else none

/-- The wait worked out in the words of the first delay and of the longest; none if one of them
overflows. -/
def inWords (initial longest : Parts) (failures : UInt32) : Option Parts :=
  if failures = 0 then some Duration.zero.parts
  else do
    let doublings ← less? failures 1
    let power ← power? (if doublings ≤ 31 then doublings else 31)
    let scaled ← initial.times power
    return scaled.atMost longest

namespace Policy

theorem nanos_backoff (p : Policy) {failures : Nat} (failed : 0 < failures) :
    (p.backoff failures).nanos =
      min p.maxDelay.nanos (p.initialDelay.nanos * Nat.pow 2 (min (failures - 1) 31)) := by
  have bounded := p.maxDelay.nanos_lt
  rw [backoff, if_neg (Nat.ne_of_gt failed), Duration.nanos_atMost, Duration.nanos_scale]
  omega

theorem backoff_mono (p : Policy) {n m : Nat} (le : n ≤ m) :
    (p.backoff n).nanos ≤ (p.backoff m).nanos := by
  cases n with
  | zero => exact Nat.zero_le _
  | succ n =>
    have power : Nat.pow 2 (min (n + 1 - 1) 31) ≤ Nat.pow 2 (min (m - 1) 31) :=
      Nat.pow_le_pow_right (by decide) (by omega)
    have scaled := Nat.mul_le_mul_left p.initialDelay.nanos power
    rw [nanos_backoff p (show 0 < n + 1 by omega), nanos_backoff p (by omega)]
    omega

theorem backoff_le_maxDelay (p : Policy) (failures : Nat) :
    (p.backoff failures).nanos ≤ p.maxDelay.nanos := by
  cases failures with
  | zero => exact Nat.zero_le _
  | succ n =>
    rw [nanos_backoff p (Nat.succ_pos n)]
    exact Nat.min_le_left _ _

/-- The doublings are counted in full as long as there are few of them, or if the cap is met before. -/
theorem backoff_documented (p : Policy) {failures : Nat} (failed : 0 < failures)
    (early : failures ≤ 32 ∨ p.maxDelay.nanos ≤ p.initialDelay.nanos * Nat.pow 2 31) :
    (p.backoff failures).nanos =
      min p.maxDelay.nanos (p.initialDelay.nanos * Nat.pow 2 (failures - 1)) := by
  rw [nanos_backoff p failed]
  by_cases few : failures ≤ 32
  · rw [Nat.min_eq_left (show failures - 1 ≤ 31 by omega)]
  · have capped := early.resolve_left few
    have power : Nat.pow 2 31 ≤ Nat.pow 2 (failures - 1) :=
      Nat.pow_le_pow_right (by decide) (by omega)
    have scaled := Nat.mul_le_mul_left p.initialDelay.nanos power
    rw [Nat.min_eq_right (show 31 ≤ failures - 1 by omega), Nat.min_eq_left capped,
      Nat.min_eq_left (Nat.le_trans capped scaled)]

/-! ### In words -/

theorem power?_small {exponent : UInt32} (small : exponent.toNat ≤ 31) :
    ∃ power, power? exponent = some power ∧ power.toNat = Nat.pow 2 exponent.toNat := by
  have within : exponent < 32 := UInt32.lt_iff_toNat_lt.mpr (Nat.lt_succ_of_le small)
  have one : (1 : UInt32).toNat = 1 := rfl
  have fits : Nat.pow 2 exponent.toNat < 4294967296 :=
    Nat.pow_lt_pow_right (by decide) (Nat.lt_succ_of_le small)
  refine ⟨_, if_pos within, ?_⟩
  rw [UInt32.toNat_shiftLeft, Nat.mod_eq_of_lt (Nat.lt_succ_of_le small), one, Nat.one_shiftLeft]
  exact Nat.mod_eq_of_lt fits

/-- No word overflows: there is a failure to take off, the shift is cut off before the width, and the
multiple of a span is worked out whatever it comes to. -/
theorem inWords_eq (p : Policy) (failures : UInt32) :
    inWords p.initialDelay.parts p.maxDelay.parts failures = some (p.backoff failures.toNat).parts := by
  unfold inWords
  split
  · next none =>
    subst none
    rfl
  · next some =>
    have one : (1 : UInt32).toNat = 1 := rfl
    have most : (31 : UInt32).toNat = 31 := rfl
    have failed : 0 < failures.toNat := by
      rw [← UInt32.toNat_inj] at some
      exact Nat.pos_of_ne_zero some
    have there : 1 ≤ failures := UInt32.le_iff_toNat_le.mpr failed
    have taken : (failures - 1).toNat = failures.toNat - 1 := UInt32.toNat_sub_of_le _ _ there
    have doublings : (if failures - 1 ≤ 31 then failures - 1 else 31).toNat =
        min (failures.toNat - 1) 31 := by
      split
      · next few =>
        have few := UInt32.le_iff_toNat_le.mp few
        omega
      · next many =>
        have many := mt UInt32.le_iff_toNat_le.mpr many
        omega
    obtain ⟨power, shifted, value⟩ := power?_small (doublings ▸ Nat.min_le_right _ _)
    rw [less?, if_pos there]
    simp only [Option.bind_eq_bind, Option.bind_some, shifted, Duration.times_parts, value, doublings,
      Duration.atMost_parts, backoff, if_neg (Nat.ne_of_gt failed), pure]

/-- Every wait is worked out without an overflow and exactly. -/
theorem backoff_exact (p : Policy) (failures : UInt32) :
    inWords p.initialDelay.parts p.maxDelay.parts failures = some (p.backoff failures.toNat).parts ∧
      (p.backoff failures.toNat).nanos = (if failures = 0 then 0
        else min p.maxDelay.nanos
          (p.initialDelay.nanos * Nat.pow 2 (min (failures.toNat - 1) 31))) ∧
      (∀ more, failures ≤ more → (p.backoff failures.toNat).nanos ≤ (p.backoff more.toNat).nanos) ∧
      (0 < failures → (p.backoff failures.toNat).nanos ≤ p.maxDelay.nanos) ∧
      (0 < failures → failures ≤ 32 ∨ p.maxDelay.nanos ≤ p.initialDelay.nanos * Nat.pow 2 31 →
        (p.backoff failures.toNat).nanos =
          min p.maxDelay.nanos (p.initialDelay.nanos * Nat.pow 2 (failures.toNat - 1))) := by
  have positive (some : 0 < failures) : 0 < failures.toNat := UInt32.lt_iff_toNat_lt.mp some
  refine ⟨p.inWords_eq failures, ?_, ?_, fun _ => p.backoff_le_maxDelay _, ?_⟩
  · split
    · next none =>
      subst none
      rfl
    · next some =>
      apply nanos_backoff
      rw [← UInt32.toNat_inj] at some
      exact Nat.pos_of_ne_zero some
  · intro more le
    exact p.backoff_mono (UInt32.le_iff_toNat_le.mp le)
  · intro some early
    exact p.backoff_documented (positive some) (early.imp_left UInt32.le_iff_toNat_le.mp)

/-- A second is carried over when the wait is doubled once, and the cap is met long before the thirty-third
failure. -/
theorem backoff_exact_carried :
    let p : Policy := { initialDelay := .ofParts 1 500000000, maxDelay := .ofSecs 300 }
    inWords p.initialDelay.parts p.maxDelay.parts 2 = some (Duration.ofSecs 3).parts ∧
      (p.backoff 2).nanos ≤ (p.backoff 33).nanos ∧ (p.backoff 33).nanos ≤ p.maxDelay.nanos ∧
      (p.backoff 33).nanos = min p.maxDelay.nanos (p.initialDelay.nanos * Nat.pow 2 32) := by
  intro p
  have doubled : p.backoff 2 = .ofSecs 3 := by decide +kernel
  have capped : p.maxDelay.nanos ≤ p.initialDelay.nanos * Nat.pow 2 31 := by decide +kernel
  obtain ⟨-, -, -, below, documented⟩ := backoff_exact p 33
  obtain ⟨words, -, grows, -⟩ := backoff_exact p 2
  refine ⟨?_, grows 33 (by decide), below (by decide), documented (by decide) (.inr capped)⟩
  rw [words]
  exact congrArg (fun d : Duration => some d.parts) doubled

end Policy

end Switchboard.Reconnect
