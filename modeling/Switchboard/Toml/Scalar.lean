import Switchboard.Datum

/-!
The unquoted values of TOML: truth values, whole numbers of 64 bits with sign, decimal fractions, and
dates. A date is a datum of its own form, a record with one private field that holds its text.
-/
namespace Switchboard.Toml

/-- Digits with single underscores between them, without the underscores. -/
def ungroup (isDigit : Char → Bool) : List Char → Option (List Char)
  | [] => none
  | c :: rest =>
    if isDigit c then
      match rest with
      | [] => some [c]
      | '_' :: rest => (ungroup isDigit rest).map (c :: ·)
      | rest => (ungroup isDigit rest).map (c :: ·)
    else none

def takeSign : List Char → Bool × List Char
  | '-' :: rest => (true, rest)
  | '+' :: rest => (false, rest)
  | cs => (false, cs)

/-- Decimal digits of which the first is a zero only when it stands alone. -/
def plainDigits (cs : List Char) : Option (List Char) := do
  let digits ← ungroup Char.isDigit cs
  match digits with
  | '0' :: _ :: _ => none
  | digits => some digits

/-- Above every whole number and every useful exponent. -/
def outOfRange : Nat := 0x10000000000000000

def inRange (n : Int) : Option Datum :=
  if -0x8000000000000000 ≤ n ∧ n < 0x8000000000000000 then some (.int n) else none

def decimalInteger? (cs : List Char) : Option Datum := do
  let (negative, cs) := takeSign cs
  let n := Text.boundedNat 10 Text.digitValue outOfRange (← plainDigits cs)
  inRange (if negative then -(n : Int) else n)

def hexDigitValue (c : Char) : Nat :=
  if c.isDigit then c.toNat - '0'.toNat else c.toLower.toNat - 'a'.toNat + 10

def isHexDigit (c : Char) : Bool := c.isDigit || ('a' ≤ c.toLower && c.toLower ≤ 'f')

def basedInteger? : List Char → Option Datum
  | '0' :: 'x' :: cs => based isHexDigit 16 cs
  | '0' :: 'o' :: cs => based (fun c => '0' ≤ c && c ≤ '7') 8 cs
  | '0' :: 'b' :: cs => based (fun c => c == '0' || c == '1') 2 cs
  | _ => none
where
  based (isDigit : Char → Bool) (base : Nat) (cs : List Char) : Option Datum := do
    let digits ← ungroup isDigit cs
    inRange (Text.boundedNat base hexDigitValue outOfRange digits)

def isGrouped (c : Char) : Bool := c.isDigit || c == '_'

/-- The exponent of a fraction, if the text goes on with one; leading zeros are allowed in it. -/
def exponent? : List Char → Option Int
  | [] => some 0
  | c :: cs =>
    if c = 'e' ∨ c = 'E' then do
      let (negative, cs) := takeSign cs
      let digits ← ungroup Char.isDigit cs
      let n := Text.boundedNat 10 Text.digitValue outOfRange digits
      return if negative then -(n : Int) else n
    else none

/-- A decimal fraction, correctly rounded; one above all doubles is refused. -/
def fraction? (cs : List Char) : Option Datum := do
  let (negative, cs) := takeSign cs
  let (whole, rest) := cs.span isGrouped
  let whole ← plainDigits whole
  let (part, rest) ← match rest with
    | '.' :: rest =>
      let (part, rest) := rest.span isGrouped
      pure (← ungroup Char.isDigit part, rest)
    | rest => if rest.isEmpty then none else pure ([], rest)
  let shift ← exponent? rest
  match Number.Binary64.ofDigits negative (whole ++ part) (shift - part.length) with
  | .infinite false => none
  | x => return .float x

def special? (cs : List Char) : Option Datum :=
  let (negative, rest) := takeSign cs
  if rest = "inf".toList then some (.float (.infinite negative))
  else if rest = "nan".toList then some (.float .nan)
  else none

def twoDigits : List Char → Option (Nat × List Char)
  | a :: b :: rest =>
    if a.isDigit ∧ b.isDigit then some (Nat.ofDigitChars 10 [a, b] 0, rest) else none
  | _ => none

def expect (c : Char) : List Char → Option (List Char)
  | d :: rest => if c = d then some rest else none
  | [] => none

def isLeapYear (y : Nat) : Bool := y % 4 == 0 && (y % 100 != 0 || y % 400 == 0)

def daysIn (year month : Nat) : Nat :=
  if month = 2 then (if isLeapYear year then 29 else 28)
  else if month = 4 ∨ month = 6 ∨ month = 9 ∨ month = 11 then 30
  else 31

def takeDate (cs : List Char) : Option (List Char) := do
  let (century, cs) ← twoDigits cs
  let (year, cs) ← twoDigits cs
  let (month, cs) ← twoDigits (← expect '-' cs)
  let (day, cs) ← twoDigits (← expect '-' cs)
  if 1 ≤ month ∧ month ≤ 12 ∧ 1 ≤ day ∧ day ≤ daysIn (100 * century + year) month then some cs else none

/-- A time of day, with a leap second and a fraction allowed, and what follows it. -/
def takeTime (cs : List Char) : Option (List Char) := do
  let (hour, cs) ← twoDigits cs
  let (minute, cs) ← twoDigits (← expect ':' cs)
  let (second, cs) ← twoDigits (← expect ':' cs)
  if 23 < hour ∨ 59 < minute ∨ 60 < second then none
  else match cs with
    | '.' :: rest =>
      let (part, rest) := rest.span Char.isDigit
      if part.isEmpty then none else some rest
    | cs => some cs

def isOffset : List Char → Bool
  | ['Z'] | ['z'] => true
  | c :: cs => (c == '+' || c == '-') && (clock cs).isSome
  | [] => false
where
  clock (cs : List Char) : Option Unit := do
    let (hour, cs) ← twoDigits cs
    let (minute, cs) ← twoDigits (← expect ':' cs)
    if hour ≤ 23 ∧ minute ≤ 59 ∧ cs.isEmpty then some () else none

def isDate (cs : List Char) : Bool := takeDate cs == some []

def isMoment (cs : List Char) : Bool :=
  if takeTime cs == some [] then true
  else match takeDate cs with
    | some [] => true
    | some (c :: rest) =>
      (c == 'T' || c == 't' || c == ' ') &&
        match takeTime rest with
        | some [] => true
        | some offset => isOffset offset
        | none => false
    | none => false

def scalar? (cs : List Char) : Option Datum :=
  if cs = "true".toList then some (.bool true)
  else if cs = "false".toList then some (.bool false)
  else if isMoment cs then
    some (.record [("$__toml_private_datetime", .text (String.ofList cs))])
  else basedInteger? cs <|> decimalInteger? cs <|> special? cs <|> fraction? cs

end Switchboard.Toml
