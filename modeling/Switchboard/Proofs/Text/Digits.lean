import Switchboard.Text.Decimal
import Mathlib.Data.Nat.Digits.Defs

/-!
The decimal digits of whole numbers, and numbers read back from their digits.
-/
namespace Switchboard.Text

theorem isDigit_toDigits {n : Nat} {c : Char} (there : c ∈ Nat.toDigits 10 n) : c.isDigit = true :=
  Nat.isDigit_of_mem_toDigits (by decide) (by decide) there

/-- Only zero begins with a zero. -/
theorem head_toDigits {n : Nat} (positive : 0 < n) : (Nat.toDigits 10 n).head? ≠ some '0' := by
  induction n using Nat.base_induction 10 (by decide) with
  | single m small =>
    rw [Nat.toDigits_of_lt_base small]
    simpa using Nat.ne_of_gt positive
  | digit m k digit more ih =>
    rw [← Nat.toDigits_append_toDigits (by decide) more digit, List.head?_append]
    have first := ih more
    cases digits : Nat.toDigits 10 m with
    | nil => exact absurd digits Nat.toDigits_ne_nil
    | cons c rest => simpa [digits] using first

theorem toList_toString (n : Int) :
    (toString n).toList = (if n < 0 then ['-'] else []) ++ Nat.toDigits 10 n.natAbs := by
  cases n with
  | ofNat k => simp [toString, Int.repr]
  | negSucc k => simp [toString, Int.repr]

/-- Digits are read exactly up to the bound. -/
theorem boundedNat_digits (bound : Nat) (digits : List Char) :
    boundedNat 10 digitValue bound digits = min (Nat.ofDigitChars 10 digits 0) bound := by
  have carried (n : Nat) : digits.foldl (fun n c => min (10 * n + digitValue c) bound) (min n bound) =
      min (Nat.ofDigitChars 10 digits n) bound := by
    induction digits generalizing n with
    | nil => simp
    | cons c rest ih =>
      have next : min (10 * min n bound + digitValue c) bound = min (10 * n + digitValue c) bound := by
        omega
      rw [List.foldl_cons, next, ih, Nat.ofDigitChars_cons]
      rfl
  simpa [boundedNat] using carried 0

theorem boundedNat_toDigits {n bound : Nat} (below : n ≤ bound) :
    boundedNat 10 digitValue bound (Nat.toDigits 10 n) = n := by
  rw [boundedNat_digits, Nat.ofDigitChars_ten_toDigits, Nat.min_eq_left below]

end Switchboard.Text
