import Switchboard.Number.Binary64

/-!
The shortest decimal text of a double precision number: the fewest digits that read back as the
number, and of those the ones nearest to it. Which of two equally near decimals is taken, and where an
exponent is used, is a matter of style.
-/
namespace Switchboard.Number

/-- The decimal `digits * 10^scale`. -/
structure Decimal where
  digits : Nat
  scale : Int
deriving DecidableEq, Repr, Inhabited

namespace Decimal

def normalize (d : Decimal) : Decimal :=
  let all := Nat.toDigits 10 d.digits
  let kept := Text.dropTrailingZeros all
  ⟨Nat.ofDigitChars 10 kept 0, d.scale + (all.length - kept.length : Nat)⟩

end Decimal

inductive Tie
  | upper
  | even
deriving DecidableEq, Repr

namespace Binary64

/-- Four times the bounds of the quantities that round to `units`, and whether they do so
themselves. -/
def interval (units : Nat) : Nat × Nat × Bool :=
  let s := spacing units
  let below := if 1 < s ∧ units = hidden * s then s else 2 * s
  (4 * units - below, 4 * units + 2 * s, units / s % 2 = 0)

/-- The place of the first digit: the least `e` for which the number is below `10^e`. -/
def magnitude (units : Nat) : Int :=
  if one ≤ units then ((Nat.toDigits 10 (units / one)).length : Nat)
  else 1 - (((List.range 400).find? fun j => one ≤ units * Nat.pow 10 j).getD 0 : Nat)

def decimalUnits (d : Decimal) : Nat × Nat :=
  match d.scale with
  | .ofNat k => (d.digits * Nat.pow 10 k * one, 1)
  | .negSucc k => (d.digits * one, Nat.pow 10 (k + 1))

def readsBack (units : Nat) (d : Decimal) : Bool :=
  let (low, high, closed) := interval units
  let (num, den) := decimalUnits d
  if closed then low * den ≤ 4 * num && 4 * num ≤ high * den
  else low * den < 4 * num && 4 * num < high * den

def distance (units : Nat) (d : Decimal) : Nat :=
  let (num, den) := decimalUnits d
  (num - units * den) + (units * den - num)

def nearer (tie : Tie) (units : Nat) (lower upper : Decimal) : Decimal :=
  if distance units lower < distance units upper then lower
  else if distance units upper < distance units lower then upper
  else if tie = .even ∧ lower.digits % 2 = 0 then lower
  else upper

/-- The better of the two neighbours of `units` that have `n` digits, if one reads back. -/
def ofDigits? (tie : Tie) (units n : Nat) : Option Decimal :=
  let scale := magnitude units - n
  let below := match scale with
    | .ofNat k => units / (one * Nat.pow 10 k)
    | .negSucc k => units * Nat.pow 10 (k + 1) / one
  let lower : Decimal := ⟨below, scale⟩
  let upper : Decimal := ⟨below + 1, scale⟩
  match readsBack units lower, readsBack units upper with
  | true, true => some (nearer tie units lower upper)
  | true, false => some lower
  | false, true => some upper
  | false, false => none

/-- The digits of the shortest text; seventeen of them always read back. -/
def shortest (tie : Tie) (units : Nat) : Decimal :=
  if units = 0 then ⟨0, 0⟩
  else (((List.range 17).findSome? fun n => ofDigits? tie units (n + 1)).getD ⟨0, 0⟩).normalize

end Binary64

/-- How the digits are chosen and where positional notation ends. -/
structure Style where
  tie : Tie
  /-- A number whose first digit stands at this place before the point or further has an exponent. -/
  before : Option Nat
  /-- A number with this many zeros after the point or more has an exponent. -/
  after : Option Nat

namespace Style

def positional : Style := ⟨.upper, none, none⟩

def compact : Style := ⟨.even, some 17, some 5⟩

private def zeros (n : Nat) : String := String.ofList (List.replicate n '0')

def exponentText (e : Int) : String := (if 0 ≤ e then "e+" else "e") ++ toString e

/-- The text of a positive decimal; a whole number ends in `.0`. -/
def decimalText (style : Style) (d : Decimal) : String :=
  let digits := Nat.toDigits 10 d.digits
  let point := digits.length + d.scale
  let long := style.before.any fun n => (n : Int) ≤ point
  let small := style.after.any fun n => point ≤ -(n : Int)
  if long || small then
    let exponent := exponentText (point - 1)
    match digits with
    | [c] => String.ofList [c] ++ exponent
    | c :: rest => String.ofList (c :: '.' :: rest) ++ exponent
    | [] => "0.0"
  else match d.scale with
    | .ofNat k => String.ofList digits ++ zeros k ++ ".0"
    | .negSucc _ =>
      if 0 < point then
        String.ofList (digits.take point.toNat) ++ "." ++ String.ofList (digits.drop point.toNat)
      else "0." ++ zeros (-point).toNat ++ String.ofList digits

def text (style : Style) : Binary64 → String
  | .nan => "NaN"
  | .infinite negative => if negative then "-inf" else "inf"
  | .finite negative units => (if negative then "-" else "") ++ style.decimalText (Binary64.shortest style.tie units)

end Style

end Switchboard.Number
