import Switchboard.Failure
import Switchboard.Frame
import Switchboard.Json.Reader
import Switchboard.Json.Writer

/-!
Frames as bytes. A frame goes over the wire as a JSON text behind its length, which takes four bytes
with the highest one first. A reader takes one frame at a time from the front of the bytes that have
come in; a body that is no frame costs nothing but itself.
-/
namespace Switchboard.Frame

open Text (Bytes)

def defaultLimit : Nat := 16 * 1024 * 1024

/-- Four bytes, the highest one first. Of a length that needs more only the low ones are left. -/
def lengthBytes (n : Nat) : Bytes :=
  [n / 0x1000000, n / 0x10000, n / 0x100, n].map UInt8.ofNat

def lengthOf (a b c d : UInt8) : Nat :=
  ((a.toNat * 0x100 + b.toNat) * 0x100 + c.toNat) * 0x100 + d.toNat

def body {α : Type} [Frame α] (frame : α) : Bytes := Text.bytes (Json.text (Frame.datum frame))

def tooLarge (length limit : Nat) : String :=
  "Frame too large: " ++ toString length ++ " > " ++ toString limit

def encode {α : Type} [Frame α] (limit : Nat) (frame : α) : Except TransportError Bytes :=
  let bytes := body frame
  if limit < bytes.length then .error (.invalidRequest (tooLarge bytes.length limit))
  else .ok (lengthBytes bytes.length ++ bytes)

/-- Why a body is no frame: it is not a tagged JSON value of this side, or the fields of its variant do
not fit. -/
inductive BodyError
  | malformed
  | data (e : DataError)

def BodyError.message : BodyError → String
  | .malformed => "Invalid JSON"
  | .data e => "Invalid JSON: " ++ e.message .json

/-- The characters of a body; bytes that are no text end them with a character that JSON does not
allow. -/
def bodyChars (bytes : Bytes) : List Char :=
  match Text.decode bytes with
  | (cs, true) => cs
  | (cs, false) => cs ++ [Char.ofNat 0]

/-- Read a body. Fields that do not fit are found before anything that follows the value. -/
def ofBody {α : Type} [Frame α] (bytes : Bytes) : Except BodyError α := do
  match Json.first? (bodyChars bytes) with
  | none => .error .malformed
  | some (d, trailing) =>
    match Frame.split α d with
    | .error _ => .error .malformed
    | .ok (tag, content) =>
      match Frame.ofContent .json tag content with
      | .error e => .error (.data e)
      | .ok frame => if trailing then .error .malformed else .ok frame

inductive Cut
  /-- More bytes have to come before anything can be said. -/
  | shortLength
  | shortBody
  | empty (rest : Bytes)
  | oversized (length : Nat) (rest : Bytes)
  | body (bytes rest : Bytes)

def cut (limit : Nat) : Bytes → Cut
  | a :: b :: c :: d :: rest =>
    let length := lengthOf a b c d
    if length = 0 then .empty rest
    else if limit < length then .oversized length rest
    else
      let bytes := rest.take length
      if bytes.length < length then .shortBody else .body bytes (rest.drop length)
  | _ => .shortLength

inductive Reading (α : Type)
  | frame (a : α)
  | failure (e : TransportError)
  | finished

def ofCutBody {α : Type} [Frame α] (bytes : Bytes) : Reading α :=
  match ofBody bytes with
  | .ok frame => .frame frame
  | .error e => .failure (.protocol e.message)

def next? {α : Type} [Frame α] (limit : Nat) (bytes : Bytes) : Option (Reading α × Bytes) :=
  match cut limit bytes with
  | .shortLength | .shortBody => none
  | .empty rest => some (.failure (.protocol "Empty frame"), rest)
  | .oversized length rest => some (.failure (.protocol (tooLarge length limit)), rest)
  | .body bytes rest => some (ofCutBody bytes, rest)

/-- The result of reading behind the last byte of a stream. An end inside a length is clean. -/
def atEnd {α : Type} (limit : Nat) (bytes : Bytes) : Reading α :=
  match cut limit bytes with
  | .shortBody => .failure (.closed "early eof")
  | _ => .finished

def readNext {α : Type} [Frame α] (limit : Nat) (bytes : Bytes) : Reading α × Bytes :=
  (next? limit bytes).getD (atEnd limit bytes, [])

/-- Read a stream, going on after errors, until it ends or there are so many results. -/
def readUpTo {α : Type} [Frame α] (limit : Nat) : Nat → Bytes → List (Reading α)
  | 0, _ => []
  | count + 1, bytes =>
    match readNext limit bytes with
    | (.finished, _) => [.finished]
    | (r, rest) => r :: readUpTo limit count rest

/-- Read a stream to its end. Every result but the last takes at least the bytes of a length. -/
def readAll {α : Type} [Frame α] (limit : Nat) (bytes : Bytes) : List (Reading α) :=
  readUpTo limit (bytes.length + 1) bytes

end Switchboard.Frame
