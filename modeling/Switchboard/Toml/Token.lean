/-!
The tokens of a TOML text. Blanks and newlines are tokens, since they end keys and values; comments
leave none. A text between single quotes holds its characters as they are, one between double quotes
may hold escapes; three quotes open a block that may go over several lines.
-/
namespace Switchboard.Toml

inductive Token
  | word (cs : List Char)
  | mark (c : Char)
  /-- A run of blanks; whether it is one space. -/
  | blank (single : Bool)
  | newline
  | text (s : String)
  | block (s : String)
  | junk
deriving DecidableEq

/-- Where scanning stands between two characters. Characters read so far are kept last one first, and
`q` is the quote that ends a text. -/
inductive Scan
  | between
  | word (read : List Char)
  | blank (single : Bool)
  | comment
  /-- A carriage return that a line feed has to follow. -/
  | returned
  | quote (q : Char)
  | quotes (q : Char)
  | line (q : Char) (read : List Char)
  | lineEscape (read : List Char)
  | lineCode (read : List Char) (left value : Nat)
  /-- At the start of a block, where a newline is dropped. -/
  | blockStart (q : Char)
  | blockStartReturned (q : Char)
  /-- Inside a block, behind some quotes in a row. -/
  | block (q : Char) (read : List Char) (run : Nat)
  | blockReturned (q : Char) (read : List Char)
  | blockEscape (read : List Char)
  | blockCode (read : List Char) (left value : Nat)
  /-- Behind a backslash at the end of a line, where blanks and newlines are dropped. -/
  | fold (read : List Char) (ended : Bool)
  | foldReturned (read : List Char)
  | stuck

def isWordChar (c : Char) : Bool := c.isAlphanum || c == '_' || c == '-'

def isMark (c : Char) : Bool :=
  c == '+' || c == '.' || c == ':' || c == '=' || c == ',' || c == '[' || c == ']' ||
    c.toNat == 0x7b || c.toNat == 0x7d

/-- A character that stands for itself in texts and comments. -/
def isPrinted (c : Char) : Bool := c == '\t' || (0x20 ≤ c.toNat && c.toNat != 0x7f)

abbrev Step := List Token × Scan

def bad : Step := ([.junk], .stuck)

def begin (c : Char) : Step :=
  if isWordChar c then ([], .word [c])
  else if c = ' ' then ([], .blank true)
  else if c = '\t' then ([], .blank false)
  else if c = '\n' then ([.newline], .between)
  else if c = '\r' then ([], .returned)
  else if c = '#' then ([], .comment)
  else if c = '"' ∨ c = '\'' then ([], .quote c)
  else if isMark c then ([.mark c], .between)
  else bad

def Step.after (ts : List Token) (s : Step) : Step := (ts ++ s.1, s.2)

def inLine (q : Char) (read : List Char) (c : Char) : Step :=
  if c = q then ([.text (String.ofList read.reverse)], .between)
  else if c = '\\' ∧ q = '"' then ([], .lineEscape read)
  else if isPrinted c then ([], .line q (c :: read))
  else bad

/-- A character inside a block; the quotes before it belong to the text. -/
def inBlock (q : Char) (read : List Char) (c : Char) : Step :=
  if c = q then ([], .block q read 1)
  else if c = '\\' ∧ q = '"' then ([], .blockEscape read)
  else if c = '\n' then ([], .block q ('\n' :: read) 0)
  else if c = '\r' then ([], .blockReturned q read)
  else if isPrinted c then ([], .block q (c :: read) 0)
  else bad

/-- The token of a block that ended with a run of at least three quotes, the last three of which
close it. -/
def closeBlock (q : Char) (read : List Char) (run : Nat) : Token :=
  .block (String.ofList (read.reverse ++ List.replicate (run - 3) q))

def escapedChar (c : Char) : Option Char :=
  if c = 'b' then some '\x08'
  else if c = 't' then some '\t'
  else if c = 'n' then some '\n'
  else if c = 'f' then some '\x0c'
  else if c = 'r' then some '\r'
  else if c = '"' ∨ c = '\\' then some c
  else none

def codeLength (c : Char) : Option Nat :=
  if c = 'u' then some 4 else if c = 'U' then some 8 else none

def codeDigit (c : Char) : Option Nat :=
  if c.isDigit then some (c.toNat - '0'.toNat)
  else if 'a' ≤ c ∧ c ≤ 'f' then some (c.toNat - 'a'.toNat + 10)
  else if 'A' ≤ c ∧ c ≤ 'F' then some (c.toNat - 'A'.toNat + 10)
  else none

def ofCodePoint (n : Nat) : Option Char :=
  if h : n.isValidChar then some (Char.ofNatAux n h) else none

/-- One more digit of a code; `go` continues it and `done` takes the character. -/
def codeStep (left value : Nat) (c : Char) (go : Nat → Nat → Scan) (done : Char → Scan) : Step :=
  match codeDigit c with
  | none => bad
  | some d =>
    if 1 < left then ([], go (left - 1) (16 * value + d))
    else match ofCodePoint (16 * value + d) with
      | some ch => ([], done ch)
      | none => bad

namespace Scan

def step : Scan → Char → Step
  | .between, c => begin c
  | .word read, c =>
    if isWordChar c then ([], .word (c :: read))
    else (begin c).after [.word read.reverse]
  | .blank single, c =>
    if c = ' ' ∨ c = '\t' then ([], .blank false)
    else (begin c).after [.blank single]
  | .comment, c =>
    if c = '\n' then ([.newline], .between)
    else if c = '\r' then ([], .returned)
    else if isPrinted c then ([], .comment)
    else bad
  | .returned, c => if c = '\n' then ([.newline], .between) else bad
  | .quote q, c => if c = q then ([], .quotes q) else inLine q [] c
  | .quotes q, c => if c = q then ([], .blockStart q) else (begin c).after [.text ""]
  | .line q read, c => inLine q read c
  | .lineEscape read, c =>
    match escapedChar c, codeLength c with
    | some d, _ => ([], .line '"' (d :: read))
    | none, some n => ([], .lineCode read n 0)
    | none, none => bad
  | .lineCode read left value, c =>
    codeStep left value c (.lineCode read) fun ch => .line '"' (ch :: read)
  | .blockStart q, c =>
    if c = '\n' then ([], .block q [] 0)
    else if c = '\r' then ([], .blockStartReturned q)
    else inBlock q [] c
  | .blockStartReturned q, c => if c = '\n' then ([], .block q [] 0) else bad
  | .block q read run, c =>
    if c = q then
      if run = 4 then ([closeBlock q read 5], .between) else ([], .block q read (run + 1))
    else if 3 ≤ run then (begin c).after [closeBlock q read run]
    else inBlock q (List.replicate run q ++ read) c
  | .blockReturned q read, c => if c = '\n' then ([], .block q ('\n' :: read) 0) else bad
  | .blockEscape read, c =>
    match escapedChar c, codeLength c with
    | some d, _ => ([], .block '"' (d :: read) 0)
    | none, some n => ([], .blockCode read n 0)
    | none, none =>
      if c = ' ' ∨ c = '\t' then ([], .fold read false)
      else if c = '\n' then ([], .fold read true)
      else if c = '\r' then ([], .foldReturned read)
      else bad
  | .blockCode read left value, c =>
    codeStep left value c (.blockCode read) fun ch => .block '"' (ch :: read) 0
  | .fold read ended, c =>
    if c = ' ' ∨ c = '\t' then ([], .fold read ended)
    else if c = '\n' then ([], .fold read true)
    else if c = '\r' then ([], .foldReturned read)
    else if ended then inBlock '"' read c
    else bad
  | .foldReturned read, c => if c = '\n' then ([], .fold read true) else bad
  | .stuck, _ => ([], .stuck)

def finish : Scan → List Token
  | .between | .comment | .stuck => []
  | .word read => [.word read.reverse]
  | .blank single => [.blank single]
  | .quotes _ => [.text ""]
  | .block q read run => if 3 ≤ run then [closeBlock q read run] else [.junk]
  | _ => [.junk]

end Scan

def scan : Scan → List Char → List Token
  | s, [] => s.finish
  | s, c :: cs => let (out, next) := s.step c; out ++ scan next cs

/-- The tokens of a text, without the mark of byte order that may stand in front. -/
def tokens (cs : List Char) : List Token :=
  match cs with
  | c :: rest => if c.toNat = 0xfeff then scan .between rest else scan .between cs
  | [] => []

end Switchboard.Toml
