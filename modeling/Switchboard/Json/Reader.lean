import Switchboard.Json.Token

/-!
Reading JSON. The open lists and records are a stack, and every token either extends it, completes a
value, or is out of place. At most 127 of them are open at a time.
-/
namespace Switchboard.Json

/-- An open list or record with what it holds so far, last one first; a record also with the name of
the field that is being read. -/
inductive Level
  | list (items : List Datum)
  | record (fields : List (String × Datum)) (name : String)

inductive Expected
  | value
  | firstItem
  | firstName
  | name
  | colon
  | next

def maxDepth : Nat := 127

inductive Progress
  | complete (d : Datum)
  | waiting (levels : List Level) (expected : Expected)

def Progress.put (d : Datum) : List Level → Progress
  | [] => .complete d
  | .list items :: outer => .waiting (.list (d :: items) :: outer) .next
  | .record fields name :: outer => .waiting (.record ((name, d) :: fields) "" :: outer) .next

def startValue (levels : List Level) : Token → Option Progress
  | .text s => some (.put (.text s) levels)
  | .scalar d => some (.put d levels)
  | .openList =>
    if levels.length < maxDepth then some (.waiting (.list [] :: levels) .firstItem) else none
  | .openRecord =>
    if levels.length < maxDepth then some (.waiting (.record [] "" :: levels) .firstName) else none
  | _ => none

def closeLevel : List Level → Token → Option Progress
  | .list items :: outer, .closeList => some (.put (.list items.reverse) outer)
  | .record fields _ :: outer, .closeRecord => some (.put (.record fields.reverse) outer)
  | _, _ => none

def setName (levels : List Level) (name : String) : Option Progress :=
  match levels with
  | .record fields _ :: outer => some (.waiting (.record fields name :: outer) .colon)
  | _ => none

def accept (levels : List Level) : Expected → Token → Option Progress
  | .value, t => startValue levels t
  | .firstItem, .closeList => closeLevel levels .closeList
  | .firstItem, t => startValue levels t
  | .firstName, .closeRecord => closeLevel levels .closeRecord
  | .firstName, .text name => setName levels name
  | .name, .text name => setName levels name
  | .colon, .colon => some (.waiting levels .value)
  | .next, .comma => match levels with
    | .list _ :: _ => some (.waiting levels .value)
    | .record _ _ :: _ => some (.waiting levels .name)
    | [] => none
  | .next, t => closeLevel levels t
  | _, _ => none

/-- Read one value, and give the tokens behind it. -/
def read (levels : List Level) (expected : Expected) : List Token → Option (Datum × List Token)
  | [] => none
  | t :: rest =>
    match accept levels expected t with
    | none => none
    | some (.complete d) => some (d, rest)
    | some (.waiting levels expected) => read levels expected rest

/-- The value that a text begins with, and whether anything follows it. -/
def first? (cs : List Char) : Option (Datum × Bool) :=
  (read [] .value (tokens cs)).map fun (d, rest) => (d, !rest.isEmpty)

def parse? (s : String) : Option Datum :=
  match first? s.toList with
  | some (d, false) => some d
  | _ => none

end Switchboard.Json
