/-!
Decimal texts of natural numbers and of exact quotients. A quotient is rounded to a fixed number of
places with ties going to the even neighbour; a fixed-point number is written with as many places as
it needs. Numbers of any length are read up to a bound.
-/
namespace Switchboard.Text

def digitValue (c : Char) : Nat := c.toNat - '0'.toNat

/-- The number that digits stand for to a base, or the bound if the number is not below it. -/
def boundedNat (base : Nat) (value : Char → Nat) (bound : Nat) (digits : List Char) : Nat :=
  digits.foldl (fun n c => min (base * n + value c) bound) 0

def padded (width n : Nat) : String :=
  let digits := (Nat.toDigits 10 n)
  String.ofList (List.replicate (width - digits.length) '0' ++ digits)

def dropTrailingZeros (digits : List Char) : List Char :=
  (digits.reverse.dropWhile (· == '0')).reverse

/-- Write `whole + part / 10^places` with a point and without trailing zeros; a whole number has no
point. -/
def fixedPoint (places whole part : Nat) : String :=
  match dropTrailingZeros (padded places part).toList with
  | [] => toString whole
  | digits => toString whole ++ "." ++ String.ofList digits

/-- The quotient `num / den` rounded to a whole number, a tie going to the even neighbour. -/
def roundQuotient (num den : Nat) : Nat :=
  let q := num / den
  let r := num % den
  if 2 * r < den then q
  else if den < 2 * r then q + 1
  else if q % 2 = 0 then q else q + 1

def onePlace (num den : Nat) : String :=
  let tenths := roundQuotient (10 * num) den
  toString (tenths / 10) ++ "." ++ toString (tenths % 10)

/-- A rounded quotient is within half a unit of the exact one. -/
theorem roundQuotient_close (num den : Nat) (h : 0 < den) :
    2 * num ≤ 2 * den * roundQuotient num den + den ∧
      2 * den * roundQuotient num den ≤ 2 * num + den := by
  have hdiv := Nat.div_add_mod num den
  have hlt := Nat.mod_lt num h
  have hsucc : den * (num / den + 1) = den * (num / den) + den := by rw [Nat.mul_add, Nat.mul_one]
  unfold roundQuotient
  simp only [Nat.mul_assoc]
  split
  · omega
  · split
    · omega
    · split <;> omega

end Switchboard.Text
