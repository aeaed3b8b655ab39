import Switchboard.Json.Number

/-!
The tokens of a JSON text. Scanning goes character by character; a text that is no JSON leaves the
token `junk` where it goes wrong.
-/
namespace Switchboard.Json

inductive Token
  | openList
  | closeList
  | openRecord
  | closeRecord
  | comma
  | colon
  | text (s : String)
  | scalar (d : Datum)
  | junk

/-- Where scanning stands between two characters. Characters read so far are kept last one first. -/
inductive Scan
  | between
  | plain (read : List Char)
  | quoted (read : List Char)
  | escape (read : List Char)
  | code (read : List Char) (high : Option Nat) (digits value : Nat)
  | secondHalf (read : List Char) (high : Nat)
  | secondMark (read : List Char) (high : Nat)
  | stuck

def plainToken (cs : List Char) : Token :=
  if cs = "null".toList then .scalar .null
  else if cs = "true".toList then .scalar (.bool true)
  else if cs = "false".toList then .scalar (.bool false)
  else match number? cs with
    | some d => .scalar d
    | none => .junk

def isPlain (c : Char) : Bool := c.isAlphanum || c == '+' || c == '-' || c == '.'

def isBlank (c : Char) : Bool := c == ' ' || c == '\n' || c == '\t' || c == '\r'

def begin (c : Char) : List Token × Scan :=
  if isBlank c then ([], .between)
  else if c = '"' then ([], .quoted [])
  else if isPlain c then ([], .plain [c])
  else if c = '[' then ([.openList], .between)
  else if c = ']' then ([.closeList], .between)
  else if c.toNat = 0x7b then ([.openRecord], .between)
  else if c.toNat = 0x7d then ([.closeRecord], .between)
  else if c = ',' then ([.comma], .between)
  else if c = ':' then ([.colon], .between)
  else ([.junk], .stuck)

def hexValue (c : Char) : Option Nat :=
  if c.isDigit then some (c.toNat - '0'.toNat)
  else if 'a' ≤ c ∧ c ≤ 'f' then some (c.toNat - 'a'.toNat + 10)
  else if 'A' ≤ c ∧ c ≤ 'F' then some (c.toNat - 'A'.toNat + 10)
  else none

/-- The character behind a backslash, unless it starts a code. -/
def escaped (c : Char) : Option Char :=
  if c = '"' ∨ c = '\\' ∨ c = '/' then some c
  else if c = 'b' then some '\x08'
  else if c = 'f' then some '\x0c'
  else if c = 'n' then some '\n'
  else if c = 'r' then some '\r'
  else if c = 't' then some '\t'
  else none

/-- A complete code: a character, the first half of one, or the second half that completes it. -/
def ofCode (read : List Char) (high : Option Nat) (value : Nat) : List Token × Scan :=
  let isHigh := 0xd800 ≤ value && value < 0xdc00
  let isLow := 0xdc00 ≤ value && value < 0xe000
  match high with
  | none =>
    if isHigh then ([], .secondHalf read value)
    else if isLow then ([.junk], .stuck)
    else ([], .quoted (Char.ofNat value :: read))
  | some first =>
    if isLow then ([], .quoted (Char.ofNat (0x10000 + (first - 0xd800) * 0x400 + (value - 0xdc00)) :: read))
    else ([.junk], .stuck)

namespace Scan

def step : Scan → Char → List Token × Scan
  | .between, c => begin c
  | .plain read, c =>
    if isPlain c then ([], .plain (c :: read))
    else
      let (out, next) := begin c
      (plainToken read.reverse :: out, next)
  | .quoted read, c =>
    if c = '"' then ([.text (String.ofList read.reverse)], .between)
    else if c = '\\' then ([], .escape read)
    else if c.toNat < 0x20 then ([.junk], .stuck)
    else ([], .quoted (c :: read))
  | .escape read, c =>
    if c = 'u' then ([], .code read none 0 0)
    else match escaped c with
      | some d => ([], .quoted (d :: read))
      | none => ([.junk], .stuck)
  | .code read high digits value, c =>
    match hexValue c with
    | none => ([.junk], .stuck)
    | some d =>
      if digits < 3 then ([], .code read high (digits + 1) (16 * value + d))
      else ofCode read high (16 * value + d)
  | .secondHalf read high, c => if c = '\\' then ([], .secondMark read high) else ([.junk], .stuck)
  | .secondMark read high, c => if c = 'u' then ([], .code read (some high) 0 0) else ([.junk], .stuck)
  | .stuck, _ => ([], .stuck)

def finish : Scan → List Token
  | .between | .stuck => []
  | .plain read => [plainToken read.reverse]
  | _ => [.junk]

end Scan

def scan : Scan → List Char → List Token
  | s, [] => s.finish
  | s, c :: cs => let (out, next) := s.step c; out ++ scan next cs

def tokens (cs : List Char) : List Token := scan .between cs

end Switchboard.Json
