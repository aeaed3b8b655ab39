import Switchboard.Proofs.Text.Digits
import Switchboard.Toml.Scalar

/-!
Truth values and whole numbers are read back from their texts; nothing else that may stand without
quotes looks like them.
-/
namespace Switchboard.Toml

theorem scalar?_bool (b : Bool) : scalar? (toString b).toList = some (.bool b) := by
  cases b <;> rfl

/-! ### Digits are no dates -/

theorem expect_digits {c : Char} (mark : c.isDigit = false) {cs : List Char}
    (digits : ∀ d ∈ cs, d.isDigit = true) : expect c cs = none := by
  cases cs with
  | nil => rfl
  | cons d rest =>
    have other : c ≠ d := by
      rintro rfl
      rw [digits c List.mem_cons_self] at mark
      cases mark
    simp [expect, other]

/-- What is left behind two digits was there before. -/
theorem twoDigits_left {cs rest : List Char} {n : Nat} (read : twoDigits cs = some (n, rest)) :
    ∀ d ∈ rest, d ∈ cs := by
  match cs with
  | [] | [_] => cases read
  | a :: b :: cs =>
    simp only [twoDigits, Option.ite_none_right_eq_some, Option.some.injEq, Prod.mk.injEq] at read
    obtain ⟨_, _, rfl⟩ := read
    intro d there
    simp [there]

theorem takeTime_digits {cs : List Char} (digits : ∀ d ∈ cs, d.isDigit = true) :
    takeTime cs = none := by
  unfold takeTime
  cases read : twoDigits cs with
  | none => rfl
  | some hour =>
    obtain ⟨n, rest⟩ := hour
    have later := fun d there => digits d (twoDigits_left read d there)
    simp [expect_digits (show ':'.isDigit = false by decide) later]

theorem takeDate_digits {cs : List Char} (digits : ∀ d ∈ cs, d.isDigit = true) :
    takeDate cs = none := by
  unfold takeDate
  cases read : twoDigits cs with
  | none => rfl
  | some century =>
    obtain ⟨n, rest⟩ := century
    have later := fun d there => digits d (twoDigits_left read d there)
    cases again : twoDigits rest with
    | none => simp [again]
    | some year =>
      obtain ⟨m, last⟩ := year
      have latest := fun d there => later d (twoDigits_left again d there)
      simp [again, expect_digits (show '-'.isDigit = false by decide) latest]

theorem isMoment_digits {cs : List Char} (digits : ∀ d ∈ cs, d.isDigit = true) (negative : Bool) :
    isMoment ((if negative then ['-'] else []) ++ cs) = false := by
  cases negative with
  | false => simp [isMoment, takeTime_digits digits, takeDate_digits digits]
  | true =>
    have unread : twoDigits ('-' :: cs) = none := by
      cases cs with
      | nil => rfl
      | cons c rest => simp [twoDigits]
    simp [isMoment, takeTime, takeDate, unread]

/-! ### Whole numbers -/

theorem ungroup_digits {cs : List Char} (some : cs ≠ []) (digits : ∀ d ∈ cs, d.isDigit = true) :
    ungroup Char.isDigit cs = .some cs := by
  induction cs with
  | nil => exact absurd rfl some
  | cons c rest ih =>
    have digit := digits c List.mem_cons_self
    have later := fun d there => digits d (List.mem_cons_of_mem c there)
    cases rest with
    | nil => simp [ungroup, digit]
    | cons d rest =>
      have ungrouped : d ≠ '_' := by
        rintro rfl
        exact absurd (later '_' List.mem_cons_self) (by decide)
      have read := ih (List.cons_ne_nil d rest) later
      rw [ungroup, if_pos digit, read]
      · rfl
      · simp
      · simp [ungrouped]

theorem basedInteger?_digits {cs : List Char} (digits : ∀ d ∈ cs, d.isDigit = true) (negative : Bool) :
    basedInteger? ((if negative then ['-'] else []) ++ cs) = none := by
  have unbased {c : Char} (letter : c.isDigit = false) (rest : List Char) : cs ≠ '0' :: c :: rest := by
    rintro rfl
    rw [digits c (by simp)] at letter
    cases letter
  cases negative with
  | true => rfl
  | false =>
    simp only [Bool.false_eq_true, if_false, List.nil_append]
    unfold basedInteger?
    split
    · exact absurd rfl (unbased (by decide) _)
    · exact absurd rfl (unbased (by decide) _)
    · exact absurd rfl (unbased (by decide) _)
    · rfl

theorem decimalInteger?_toDigits {n : Nat} (below : n ≤ outOfRange) (negative : Bool) :
    decimalInteger? ((if negative then ['-'] else []) ++ Nat.toDigits 10 n) =
      inRange (if negative then -(n : Int) else n) := by
  have digits : ∀ d ∈ Nat.toDigits 10 n, d.isDigit = true := fun d there => Text.isDigit_toDigits there
  have signed : takeSign ((if negative then ['-'] else []) ++ Nat.toDigits 10 n) =
      (negative, Nat.toDigits 10 n) := by
    cases negative with
    | true => rfl
    | false =>
      cases all : Nat.toDigits 10 n with
      | nil => rfl
      | cons c rest =>
        have digit := digits c (by simp [all])
        have plus : c ≠ '+' := by
          rintro rfl
          exact absurd digit (by decide)
        have minus : c ≠ '-' := by
          rintro rfl
          exact absurd digit (by decide)
        simp [takeSign, plus, minus]
  have plain : plainDigits (Nat.toDigits 10 n) = some (Nat.toDigits 10 n) := by
    have read := ungroup_digits Nat.toDigits_ne_nil digits
    unfold plainDigits
    rw [read]
    dsimp only [Option.bind_eq_bind, Option.bind_some]
    split
    · next c rest all =>
      rcases Nat.eq_zero_or_pos n with rfl | positive
      · cases all
      · exact absurd (by rw [all]; rfl) (Text.head_toDigits positive)
    · rfl
  simp [decimalInteger?, signed, plain, Text.boundedNat_toDigits below]

/-- A number of 64 bits with sign is read back from its digits. -/
theorem scalar?_int {n : Int} (fits : -0x8000000000000000 ≤ n ∧ n < 0x8000000000000000) :
    scalar? (toString n).toList = some (.int n) := by
  have digits : ∀ d ∈ Nat.toDigits 10 n.natAbs, d.isDigit = true :=
    fun d there => Text.isDigit_toDigits there
  have word (w : List Char) (letters : (w.all fun c => !c.isDigit) = true) :
      (if n < 0 then ['-'] else []) ++ Nat.toDigits 10 n.natAbs ≠ w := by
    rintro rfl
    cases all : Nat.toDigits 10 n.natAbs with
    | nil => exact Nat.toDigits_ne_nil all
    | cons c rest =>
      have there : c ∈ Nat.toDigits 10 n.natAbs := by simp [all]
      have letter := List.all_eq_true.mp letters c (List.mem_append_right _ there)
      rw [digits c there] at letter
      cases letter
  have moment := isMoment_digits digits (n < 0)
  have based := basedInteger?_digits digits (n < 0)
  have below : n.natAbs ≤ outOfRange := by
    unfold outOfRange
    omega
  have whole := decimalInteger?_toDigits below (n < 0)
  have value : (if n < 0 then -(n.natAbs : Int) else n.natAbs) = n := by
    split <;> omega
  simp only [decide_eq_true_eq] at moment based whole
  rw [value, inRange, if_pos fits] at whole
  rw [Text.toList_toString, scalar?, if_neg (word _ (by decide)), if_neg (word _ (by decide)), moment,
    based, whole]
  rfl

end Switchboard.Toml
