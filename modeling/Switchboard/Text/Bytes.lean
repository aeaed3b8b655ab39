/-!
Texts as bytes and bytes as texts: UTF-8, and two hexadecimal digits for each byte.
-/
namespace Switchboard.Text

abbrev Bytes := List UInt8

def bytes (s : String) : Bytes := s.toUTF8.data.toList

/-- The characters from position `i` on, and whether they reach the end of the bytes. -/
def charsFrom (b : ByteArray) (i : Nat) : List Char × Bool :=
  if i < b.size then
    match b.utf8DecodeChar? i with
    | some c =>
      let (cs, whole) := charsFrom b (i + c.utf8Size)
      (c :: cs, whole)
    | none => ([], false)
  else ([], true)
termination_by b.size - i
decreasing_by
  have := Char.utf8Size_pos c
  omega

/-- The longest well-formed beginning of the bytes as characters, and whether that is all of them. -/
def decode (bs : Bytes) : List Char × Bool := charsFrom ⟨bs.toArray⟩ 0

def ofBytes? (bs : Bytes) : Option String :=
  match decode bs with
  | (cs, true) => some (String.ofList cs)
  | (_, false) => none

/-- How many bytes may follow the first one of a character, and the range of the one next to it. -/
def followers (b : UInt8) : Nat × UInt8 × UInt8 :=
  if 0xc2 ≤ b ∧ b ≤ 0xdf then (1, 0x80, 0xbf)
  else if b = 0xe0 then (2, 0xa0, 0xbf)
  else if b = 0xed then (2, 0x80, 0x9f)
  else if 0xe1 ≤ b ∧ b ≤ 0xef then (2, 0x80, 0xbf)
  else if b = 0xf0 then (3, 0x90, 0xbf)
  else if b = 0xf4 then (3, 0x80, 0x8f)
  else if 0xf1 ≤ b ∧ b ≤ 0xf3 then (3, 0x80, 0xbf)
  else (0, 0x80, 0xbf)

/-- How many of the bytes can follow, given the range of the first of them. -/
def countFollowing : Nat → UInt8 × UInt8 → Bytes → Nat
  | 0, _, _ | _, _, [] => 0
  | n + 1, (low, high), b :: rest =>
    if low ≤ b ∧ b ≤ high then countFollowing n (0x80, 0xbf) rest + 1 else 0

def brokenLength : Bytes → Nat
  | [] => 0
  | b :: rest => countFollowing (followers b).1 (followers b).2 rest + 1

/-- The bytes as text, with a replacement character for each piece that is none. -/
def readable (bs : Bytes) : String := String.ofList (go bs.length bs)
where
  go : Nat → Bytes → List Char
    | 0, _ => []
    | fuel + 1, bs =>
      match decode bs with
      | (cs, true) => cs
      | (cs, false) =>
        let rest := bs.drop (cs.map Char.utf8Size).sum
        cs ++ Char.ofNat 0xfffd :: go fuel (rest.drop (brokenLength rest))

def hexByte (b : UInt8) : List Char := [Nat.digitChar (b.toNat / 16), Nat.digitChar (b.toNat % 16)]

def hex (bs : Bytes) : String := String.ofList (bs.flatMap hexByte)

def hexDigit? (c : Char) : Option Nat :=
  if c.isDigit then some (c.toNat - '0'.toNat)
  else if 'a' ≤ c ∧ c ≤ 'f' then some (c.toNat - 'a'.toNat + 10)
  else if 'A' ≤ c ∧ c ≤ 'F' then some (c.toNat - 'A'.toNat + 10)
  else none

def ofHexDigits? : List Char → Option Bytes
  | [] => some []
  | [_] => none
  | high :: low :: rest => do
    let h ← hexDigit? high
    let l ← hexDigit? low
    return UInt8.ofNat (16 * h + l) :: (← ofHexDigits? rest)

def ofHex? (s : String) : Option Bytes := ofHexDigits? s.toList

end Switchboard.Text
