import Switchboard.Text.Decimal

/-!
Double precision numbers. A finite one is a whole number of units, where a unit is the least positive
one, `2^-1074`; so an operation is an exact quotient of natural numbers followed by one rounding, and
no digit is lost in between.
-/
namespace Switchboard.Number

inductive Binary64
  | nan
  | infinite (negative : Bool)
  | finite (negative : Bool) (units : Nat)
deriving DecidableEq, Repr, Inhabited

namespace Binary64

def one : Nat := Nat.pow 2 1074

/-- The distance between neighbours at `units`: one unit below `2^53` of them, and from there on the
power of two that leaves 53 binary digits. -/
def spacing (units : Nat) : Nat := Nat.pow 2 (Nat.log2 units + 1 - 53)

/-- The representable number of units nearest to `num / den` units, a tie going to the even one. -/
def nearest (num den : Nat) : Nat :=
  let s := spacing (num / den)
  Text.roundQuotient num (den * s) * s

/-- A rounded magnitude; from `2^1024` on there is only infinity. -/
def ofUnits (negative : Bool) (units : Nat) : Binary64 :=
  if units < Nat.pow 2 1024 * one then .finite negative units else .infinite negative

def ofQuotient (negative : Bool) (num den : Nat) : Binary64 :=
  ofUnits negative (nearest (num * one) den)

def ofNat (n : Nat) : Binary64 := ofQuotient false n 1

/-- The number nearest to `digits * 10^scale`. Beyond 400 places every number of fewer than a
thousand digits is zero or infinite, and a longer one is cut to be so. -/
def ofDecimal (negative : Bool) (digits : Nat) (scale : Int) : Binary64 :=
  let magnitude := (Nat.toDigits 10 digits).length + scale
  if digits = 0 ∨ magnitude < -400 then .finite negative 0
  else if 400 < magnitude then .infinite negative
  else match scale with
    | .ofNat k => ofQuotient negative (digits * Nat.pow 10 k) 1
    | .negSucc k => ofQuotient negative digits (Nat.pow 10 (k + 1))

/-- The number nearest to what digits stand for, with the point moved by `scale` places. No number
halfway between two doubles has more than 767 significant digits, so of those beyond the first eight
hundred it only matters whether there is one that is no zero. -/
def ofDigits (negative : Bool) (digits : List Char) (scale : Int) : Binary64 :=
  let significant := digits.dropWhile (· == '0')
  let n := Nat.ofDigitChars 10 (significant.take 800) 0
  match significant.drop 800 with
  | [] => ofDecimal negative n scale
  | c :: rest =>
    let last := if (c :: rest).all (· == '0') then 0 else 1
    ofDecimal negative (10 * n + last) (scale + rest.length)

def timesUnits (a b : Nat) : Nat := nearest (a * b) one

def overUnits (a b : Nat) : Nat := nearest (a * one) b

/-- The ratio of two whole numbers, each rounded first; zero over zero is not a number. -/
def ratio (a b : Nat) : Binary64 :=
  let num := nearest (a * one) 1
  let den := nearest (b * one) 1
  if den = 0 then (if num = 0 then .nan else .infinite false)
  else ofUnits false (overUnits num den)

/-- The significand bit that the interchange format leaves out, `2^52`. -/
def hidden : Nat := 0x10000000000000

def bits : Binary64 → UInt64
  | .nan => 0x7ff8000000000000
  | .infinite negative => 0x7ff0000000000000 + sign negative
  | .finite negative units =>
    let shift := Nat.log2 units + 1 - 53
    let magnitude := if units < hidden then units else (shift + 1) * hidden + (units / Nat.pow 2 shift - hidden)
    UInt64.ofNat magnitude + sign negative
where
  sign (negative : Bool) : UInt64 := if negative then 0x8000000000000000 else 0

def onePlace : Binary64 → String
  | .nan => "NaN"
  | .infinite negative => if negative then "-inf" else "inf"
  | .finite negative units => (if negative then "-" else "") ++ Text.onePlace units one

/-- A rounded value is within half the distance between neighbours of the exact one. -/
theorem nearest_close (num den : Nat) (h : 0 < den) :
    2 * num ≤ 2 * den * nearest num den + den * spacing (num / den) ∧
      2 * den * nearest num den ≤ 2 * num + den * spacing (num / den) := by
  have hs : 0 < den * spacing (num / den) := Nat.mul_pos h (Nat.two_pow_pos _)
  have hr := Text.roundQuotient_close num (den * spacing (num / den)) hs
  unfold nearest
  simp only [Nat.mul_assoc] at hr ⊢
  simp only [Nat.mul_comm (spacing (num / den))] at hr
  exact hr

end Binary64

end Switchboard.Number
