import Switchboard.Datum

/-!
Numbers of JSON texts. A whole number that fits into 64 bits, signed when it is negative, is exact.
Any other number is a double: its leading digits that fit into 64 bits, rounded, and then scaled by a
rounded power of ten. What exceeds the doubles is refused.
-/
namespace Switchboard.Json

open Switchboard.Number

/-- Append digits as long as the number fits into 64 bits; the digits left over come second. -/
def appendDigits : Nat → List Char → Nat × List Char
  | n, [] => (n, [])
  | n, c :: rest =>
    let m := 10 * n + Text.digitValue c
    if m < 0x10000000000000000 then appendDigits m rest else (n, c :: rest)

def powerUnits (k : Nat) : Nat := Binary64.nearest (Nat.pow 10 k * Binary64.one) 1

/-- Divide by a power of ten in steps of at most 308 places. -/
def divideDown : Nat → Nat → Nat → Nat
  | 0, _, units => units
  | fuel + 1, places, units =>
    if places ≤ 308 then Binary64.overUnits units (powerUnits places)
    else divideDown fuel (places - 308) (Binary64.overUnits units (powerUnits 308))

/-- The rounded significand scaled by `10^scale`. Four steps down leave nothing of any significand. -/
def scaled (negative : Bool) (significand : Nat) (scale : Int) : Option Binary64 :=
  let units := Binary64.nearest (significand * Binary64.one) 1
  match scale with
  | .ofNat k =>
    if units = 0 then some (.finite negative 0)
    else if 308 < k then none
    else match Binary64.ofUnits negative (Binary64.timesUnits units (powerUnits k)) with
      | .infinite _ => none
      | x => some x
  | .negSucc k => some (.finite negative (divideDown 4 (k + 1) units))

def whole (negative : Bool) (digits : List Char) : Option Datum :=
  let (n, rest) := appendDigits 0 digits
  if rest ≠ [] then (scaled negative n rest.length).map .float
  else if !negative then some (.int n)
  else if 0 < n ∧ n ≤ 0x8000000000000000 then some (.int (-n))
  else (scaled true n 0).map .float

/-- The exponent behind its mark: an optional sign and at least one digit. From `2^31` on all exponents
are alike, since no text has as many digits in front of it. -/
def exponent : List Char → Option Int
  | '+' :: digits => unsigned digits
  | '-' :: digits => (unsigned digits).map (- ·)
  | digits => unsigned digits
where
  unsigned (digits : List Char) : Option Int :=
    if digits = [] ∨ !digits.all Char.isDigit then none
    else some (Text.boundedNat 10 Text.digitValue 0x80000000 digits)

def fractional (negative : Bool) (digits places power : List Char) : Option Datum := do
  let (n, rest) := appendDigits 0 digits
  let (m, unused) := appendDigits n places
  let shift ← match power with
    | [] => some 0
    | c :: power => if c = 'e' ∨ c = 'E' then exponent power else none
  let scale : Int := rest.length - (places.length - unused.length : Nat) + shift
  return .float (← scaled negative m scale)

def number? (cs : List Char) : Option Datum :=
  let (negative, cs) := match cs with
    | '-' :: rest => (true, rest)
    | _ => (false, cs)
  let (digits, rest) := cs.span Char.isDigit
  if digits = [] ∨ (digits.head? = some '0' ∧ digits.length ≠ 1) then none
  else match rest with
    | [] => whole negative digits
    | '.' :: rest =>
      let (places, power) := rest.span Char.isDigit
      if places = [] then none else fractional negative digits places power
    | power => fractional negative digits [] power

end Switchboard.Json
