import Switchboard.Json.Token
import Switchboard.Json.Writer
import Switchboard.Proofs.Text.Digits
import Mathlib.Data.List.TakeDrop
import Mathlib.Data.List.TakeWhile

/-!
How the pieces of a written JSON text are scanned: a word or a number up to the mark behind it, and a
text, whatever its characters, up to its closing quote.
-/
namespace Switchboard.Json

/-! ### Words -/

/-- Nothing in front of these characters goes on in them. -/
def Ends : List Char → Prop
  | [] => True
  | c :: _ => isPlain c = false

theorem scan_plain (read : List Char) {word rest : List Char}
    (plain : ∀ c ∈ word, isPlain c = true) (ends : Ends rest) :
    scan (.plain read) (word ++ rest) = plainToken (read.reverse ++ word) :: scan .between rest := by
  induction word generalizing read with
  | nil =>
    cases rest with
    | nil => simp [scan, Scan.finish]
    | cons c rest =>
      have stop : isPlain c = false := ends
      simp [scan, Scan.step, stop]
  | cons c word ih =>
    have goesOn := plain c List.mem_cons_self
    have read' := ih (c :: read) fun d there => plain d (List.mem_cons_of_mem c there)
    simpa [scan, Scan.step, goesOn] using read'

theorem begin_plain {c : Char} (plain : isPlain c = true) : begin c = ([], .plain [c]) := by
  have unquoted : c ≠ '"' := by
    rintro rfl
    exact absurd plain (by decide)
  have filled : isBlank c = false := by
    rw [Bool.eq_false_iff]
    intro blank
    simp only [isBlank, Bool.or_eq_true, beq_iff_eq] at blank
    rcases blank with ((rfl | rfl) | rfl) | rfl <;> exact absurd plain (by decide)
  simp [begin, filled, unquoted, plain]

theorem scan_word {word rest : List Char} (some : word ≠ []) (plain : ∀ c ∈ word, isPlain c = true)
    (ends : Ends rest) : scan .between (word ++ rest) = plainToken word :: scan .between rest := by
  cases word with
  | nil => exact absurd rfl some
  | cons c word =>
    have goesOn := scan_plain [c] (fun d there => plain d (List.mem_cons_of_mem c there)) ends
    simpa [scan, Scan.step, begin_plain (plain c List.mem_cons_self)] using goesOn

/-! ### Whole numbers -/

theorem appendDigits_fits {digits : List Char} {n : Nat}
    (fits : Nat.ofDigitChars 10 digits n < 0x10000000000000000) :
    appendDigits n digits = (Nat.ofDigitChars 10 digits n, []) := by
  induction digits generalizing n with
  | nil => simp [appendDigits]
  | cons c rest ih =>
    rw [Nat.ofDigitChars_cons] at fits ⊢
    have grows : 10 * n + (c.toNat - '0'.toNat) ≤
        Nat.ofDigitChars 10 rest (10 * n + (c.toNat - '0'.toNat)) := by
      rw [Nat.ofDigitChars_eq_ofDigitChars_zero]
      exact Nat.le_add_right_of_le (Nat.le_mul_of_pos_left _ (Nat.pow_pos (by decide)))
    rw [appendDigits, Text.digitValue, if_pos (Nat.lt_of_le_of_lt grows fits)]
    exact ih fits

theorem number?_digits (negative : Bool) (n : Nat) :
    number? ((if negative then ['-'] else []) ++ Nat.toDigits 10 n) =
      whole negative (Nat.toDigits 10 n) := by
  have digits : (Nat.toDigits 10 n).span Char.isDigit = (Nat.toDigits 10 n, []) := by
    rw [List.span_eq_takeWhile_dropWhile,
      List.takeWhile_eq_self_iff.2 fun c there => Text.isDigit_toDigits there,
      List.dropWhile_eq_nil_iff.2 fun c there => Text.isDigit_toDigits there]
  have unsigned : ∀ rest, Nat.toDigits 10 n ≠ '-' :: rest := by
    intro rest same
    have : '-' ∈ Nat.toDigits 10 n := by simp [same]
    exact absurd (Text.isDigit_toDigits this) (by decide)
  have canonical : ¬ ((Nat.toDigits 10 n).head? = some '0' ∧ (Nat.toDigits 10 n).length ≠ 1) := by
    rintro ⟨zero, long⟩
    rcases Nat.eq_zero_or_pos n with rfl | positive
    · exact long rfl
    · exact Text.head_toDigits positive zero
  have some : ¬ (Nat.toDigits 10 n = [] ∨
      ((Nat.toDigits 10 n).head? = some '0' ∧ (Nat.toDigits 10 n).length ≠ 1)) := by
    rintro (none | leading)
    · exact Nat.toDigits_ne_nil none
    · exact canonical leading
  cases negative with
  | true => simp only [number?, if_true, List.cons_append, List.nil_append, digits, if_neg some]
  | false =>
    simp only [number?, Bool.false_eq_true, if_false, List.nil_append, digits, if_neg some]

theorem whole_digits {negative : Bool} {n : Nat} (fits : n < 0x10000000000000000)
    (signed : negative = true → 0 < n ∧ n ≤ 0x8000000000000000) :
    whole negative (Nat.toDigits 10 n) = some (.int (if negative then -(n : Int) else n)) := by
  have read : appendDigits 0 (Nat.toDigits 10 n) = (n, []) := by
    have small : Nat.ofDigitChars 10 (Nat.toDigits 10 n) 0 < 0x10000000000000000 := by
      rw [Nat.ofDigitChars_ten_toDigits]
      exact fits
    rw [appendDigits_fits small, Nat.ofDigitChars_ten_toDigits]
  cases negative with
  | false => simp [whole, read]
  | true => simp [whole, read, signed rfl]

theorem plainToken_digits {negative : Bool} {n : Nat} (fits : n < 0x10000000000000000)
    (signed : negative = true → 0 < n ∧ n ≤ 0x8000000000000000) :
    plainToken ((if negative then ['-'] else []) ++ Nat.toDigits 10 n) =
      .scalar (.int (if negative then -(n : Int) else n)) := by
  have word : ∀ w : List Char, (w.all fun c => !c.isDigit) = true →
      (if negative then ['-'] else []) ++ Nat.toDigits 10 n ≠ w := by
    rintro w letters rfl
    cases digits : Nat.toDigits 10 n with
    | nil => exact Nat.toDigits_ne_nil digits
    | cons c rest =>
      have there : c ∈ Nat.toDigits 10 n := by simp [digits]
      have letter := List.all_eq_true.mp letters c (List.mem_append_right _ there)
      rw [Text.isDigit_toDigits there] at letter
      cases letter
  unfold plainToken
  rw [if_neg (word _ (by decide)), if_neg (word _ (by decide)), if_neg (word _ (by decide)),
    number?_digits, whole_digits fits signed]

theorem isPlain_digit {c : Char} (digit : c.isDigit = true) : isPlain c = true := by
  simp [isPlain, Char.isAlphanum, digit]

/-! ### Texts -/

theorem hexValue_digitChar : ∀ n < 16, hexValue (Nat.digitChar n) = some n := by
  decide

theorem scan_escape (read : List Char) (c : Char) (rest : List Char) :
    scan (.quoted read) (escape c ++ rest) = scan (.quoted (c :: read)) rest := by
  unfold escape
  split
  · next same =>
    subst same
    rfl
  split
  · next same =>
    subst same
    rfl
  split
  · next same =>
    subst same
    rfl
  split
  · next same =>
    subst same
    rfl
  split
  · next same =>
    subst same
    rfl
  split
  · next same =>
    subst same
    rfl
  split
  · next same =>
    subst same
    rfl
  split
  · next control =>
    have high := hexValue_digitChar (c.toNat / 16 % 16) (Nat.mod_lt _ (by decide))
    have low := hexValue_digitChar (c.toNat % 16) (Nat.mod_lt _ (by decide))
    have zero : hexValue '0' = some 0 := by decide
    have value : 16 * (c.toNat / 16 % 16) + c.toNat % 16 = c.toNat := by omega
    have whole : Char.ofNat c.toNat = c := Char.ofNat_toNat c
    have below : ¬ 0xd800 ≤ c.toNat := by omega
    have beyond : ¬ 0xdc00 ≤ c.toNat := by omega
    simp [scan, Scan.step, hexPair, zero, high, low, value, ofCode, below, beyond, whole]
  · next quote backslash _ _ _ _ _ plain =>
    simp [scan, Scan.step, quote, backslash, plain]

theorem scan_quoted (read cs rest : List Char) :
    scan (.quoted read) (cs.flatMap escape ++ '"' :: rest) =
      .text (String.ofList (read.reverse ++ cs)) :: scan .between rest := by
  induction cs generalizing read with
  | nil => simp [scan, Scan.step]
  | cons c cs ih =>
    rw [List.flatMap_cons, List.append_assoc, scan_escape, ih]
    simp

theorem scan_writeText (s : String) (rest : List Char) :
    scan .between (writeText s ++ rest) = .text s :: scan .between rest := by
  have quoted := scan_quoted [] s.toList rest
  simpa [writeText, scan, Scan.step, begin, isBlank] using quoted

end Switchboard.Json
