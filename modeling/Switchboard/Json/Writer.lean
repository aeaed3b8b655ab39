import Switchboard.Datum

/-!
Writing JSON without blanks. In a text only quotes, backslashes and the control characters below the
blank are escaped.
-/
namespace Switchboard.Json

def hexPair (n : Nat) : List Char := [Nat.digitChar (n / 16 % 16), Nat.digitChar (n % 16)]

def escape (c : Char) : List Char :=
  if c = '"' then ['\\', '"']
  else if c = '\\' then ['\\', '\\']
  else if c = '\x08' then ['\\', 'b']
  else if c = '\t' then ['\\', 't']
  else if c = '\n' then ['\\', 'n']
  else if c = '\x0c' then ['\\', 'f']
  else if c = '\r' then ['\\', 'r']
  else if c.toNat < 0x20 then ['\\', 'u', '0', '0'] ++ hexPair c.toNat
  else [c]

def writeText (s : String) : List Char := '"' :: s.toList.flatMap escape ++ ['"']

mutual

def write : Datum → List Char
  | .null => "null".toList
  | .bool b => (toString b).toList
  | .int n => (toString n).toList
  | .float x => match x with
    | .finite _ _ => (Number.Style.compact.text x).toList
    | _ => "null".toList
  | .text s => writeText s
  | .list items => '[' :: writeItems items ++ [']']
  | .record fields => Char.ofNat 0x7b :: writeFields fields ++ [Char.ofNat 0x7d]

def writeItems : List Datum → List Char
  | [] => []
  | [d] => write d
  | d :: rest => write d ++ ',' :: writeItems rest

def writeFields : List (String × Datum) → List Char
  | [] => []
  | [(name, d)] => writeText name ++ ':' :: write d
  | (name, d) :: rest => writeText name ++ ':' :: write d ++ ',' :: writeFields rest

end

def text (d : Datum) : String := String.ofList (write d)

end Switchboard.Json
