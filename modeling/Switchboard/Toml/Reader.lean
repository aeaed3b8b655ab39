import Switchboard.Toml.Scalar
import Switchboard.Toml.Table
import Switchboard.Toml.Token

/-!
The expressions of a TOML text: assignments to keys and headers of tables. Open lists and inline
tables are a stack over the key that is being assigned to, at most 79 of them, and a dotted key has at
most 79 parts.
-/
namespace Switchboard.Toml

inductive Expression
  | assignment (path : List String) (name : String) (value : Datum)
  /-- The header of a table, or of one more table of a list. -/
  | header (repeated : Bool) (path : List String) (name : String)

inductive Level
  | line (path : List String) (name : String)
  | list (items : List Datum)
  | inline (entries : Entries) (path : List String) (name : String)

inductive KeyUse
  | line
  | inline
  | header (repeated : Bool)

/-- What is read next. Keys and characters are kept last one first. -/
inductive Mode
  | line
  | header
  | key (use : KeyUse) (keys : List String)
  | keyEnd (use : KeyUse) (keys : List String)
  | headerEnd (keys : List String)
  | value
  | item
  | inlineStart
  | scalar (cs : List Char)
  | scalarBlank (cs : List Char)
  | next
  | lineEnd

def maxLevels : Nat := 79

def maxKeys : Nat := 79

abbrev Outcome := Option (List Expression × List Level × Mode)

def go (levels : List Level) (mode : Mode) : Outcome := some ([], levels, mode)

def put (d : Datum) : List Level → Outcome
  | [.line path name] => some ([.assignment path name d], [], .lineEnd)
  | .list items :: outer => go (.list (d :: items) :: outer) .next
  | .inline entries path name :: outer =>
    match entries.assign path name d with
    | some entries => go (.inline entries [] "" :: outer) .next
    | none => none
  | _ => none

def isOpenBrace (c : Char) : Bool := c.toNat == 0x7b

def isCloseBrace (c : Char) : Bool := c.toNat == 0x7d

def isScalarMark (c : Char) : Bool := c == '+' || c == '.' || c == ':'

def startValue (levels : List Level) : Token → Outcome
  | .text s => put (.text s) levels
  | .block s => put (.text s) levels
  | .word cs => go levels (.scalar cs.reverse)
  | .mark c =>
    if isScalarMark c then go levels (.scalar [c])
    else if maxLevels < levels.length then none
    else if c = '[' then go (.list [] :: levels) .item
    else if isOpenBrace c then go (.inline [] [] "" :: levels) .inlineStart
    else none
  | _ => none

def closeList (levels : List Level) : Outcome :=
  match levels with
  | .list items :: outer => put (.list items.reverse) outer
  | _ => none

def closeInline (levels : List Level) : Outcome :=
  match levels with
  | .inline entries _ _ :: outer => put (.record (fields entries)) outer
  | _ => none

def useKey (levels : List Level) (use : KeyUse) (keys : List String) (c : Char) : Outcome :=
  match use, keys, levels with
  | .line, name :: path, [] => if c = '=' then go [.line path.reverse name] .value else none
  | .inline, name :: path, .inline entries _ _ :: outer =>
    if c = '=' then go (.inline entries path.reverse name :: outer) .value else none
  | .header false, name :: path, [] =>
    if c = ']' then some ([.header false path.reverse name], [], .lineEnd) else none
  | .header true, keys, [] => if c = ']' then go [] (.headerEnd keys) else none
  | _, _, _ => none

def afterItem (levels : List Level) (t : Token) : Outcome :=
  match levels, t with
  | _, .blank _ => go levels .next
  | .list _ :: _, .newline => go levels .next
  | .list _ :: _, .mark c =>
    if c = ',' then go levels .item else if c = ']' then closeList levels else none
  | .inline _ _ _ :: _, .mark c =>
    if c = ',' then go levels (.key .inline []) else if isCloseBrace c then closeInline levels else none
  | _, _ => none

def afterLine (t : Token) : Outcome :=
  match t with
  | .blank _ => go [] .lineEnd
  | .newline => go [] .line
  | _ => none

/-- An unquoted value ends before a token. -/
def endScalar (levels : List Level) (cs : List Char) (t : Token) : Outcome :=
  match scalar? cs.reverse with
  | none => none
  | some d =>
    match put d levels with
    | some (out, levels, .next) => (afterItem levels t).map fun (out', rest) => (out ++ out', rest)
    | some (out, _, .lineEnd) => (afterLine t).map fun (out', rest) => (out ++ out', rest)
    | _ => none

def addKey (levels : List Level) (use : KeyUse) (keys : List String) (name : String) : Outcome :=
  if keys.length < maxKeys then go levels (.keyEnd use (name :: keys)) else none

def step (levels : List Level) : Mode → Token → Outcome
  | .line, .blank _ => go levels .line
  | .line, .newline => go levels .line
  | .line, .mark c => if c = '[' then go levels .header else none
  | .line, .word cs => addKey levels .line [] (String.ofList cs)
  | .line, .text s => addKey levels .line [] s
  | .header, .mark c => if c = '[' then go levels (.key (.header true) []) else none
  | .header, .blank _ => go levels (.key (.header false) [])
  | .header, .word cs => addKey levels (.header false) [] (String.ofList cs)
  | .header, .text s => addKey levels (.header false) [] s
  | .key use keys, .blank _ => go levels (.key use keys)
  | .key use keys, .word cs => addKey levels use keys (String.ofList cs)
  | .key use keys, .text s => addKey levels use keys s
  | .keyEnd use keys, .blank _ => go levels (.keyEnd use keys)
  | .keyEnd use keys, .mark c => if c = '.' then go levels (.key use keys) else useKey levels use keys c
  | .headerEnd (name :: path), .mark c =>
    if c = ']' then some ([.header true path.reverse name], [], .lineEnd) else none
  | .value, .blank _ => go levels .value
  | .value, t => startValue levels t
  | .item, .blank _ => go levels .item
  | .item, .newline => go levels .item
  | .item, .mark c => if c = ']' then closeList levels else startValue levels (.mark c)
  | .item, t => startValue levels t
  | .inlineStart, .blank _ => go levels .inlineStart
  | .inlineStart, .word cs => addKey levels .inline [] (String.ofList cs)
  | .inlineStart, .text s => addKey levels .inline [] s
  | .inlineStart, .mark c => if isCloseBrace c then closeInline levels else none
  | .scalar cs, .word more => go levels (.scalar (more.reverse ++ cs))
  | .scalar cs, .mark c =>
    if isScalarMark c then go levels (.scalar (c :: cs)) else endScalar levels cs (.mark c)
  | .scalar cs, .blank true =>
    if isDate cs.reverse then go levels (.scalarBlank cs) else endScalar levels cs (.blank true)
  | .scalar cs, t => endScalar levels cs t
  | .scalarBlank cs, .word more => go levels (.scalar (more.reverse ++ ' ' :: cs))
  | .scalarBlank cs, t => endScalar levels cs t
  | .next, t => afterItem levels t
  | .lineEnd, t => afterLine t
  | _, _ => none

/-- Read expressions up to the end, where a line has to be complete. -/
def read (levels : List Level) (mode : Mode) : List Token → Option (List Expression)
  | [] =>
    match mode with
    | .line => some []
    | _ => none
  | t :: rest =>
    match step levels mode t with
    | none => none
    | some (out, levels, mode) => (read levels mode rest).map (out ++ ·)

/-- The expressions of a text. The last line may do without its newline. -/
def expressions? (cs : List Char) : Option (List Expression) := read [] .line (tokens cs ++ [.newline])

end Switchboard.Toml
