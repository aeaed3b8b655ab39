import Switchboard.Toml.Reader

/-!
Writing TOML expressions. A text takes the first form that can hold it: between double quotes, between
single quotes, as a block of either kind, and with escapes when nothing else will do. A tab asks for no
form of its own, but is escaped wherever escapes are read. A header stands behind an empty line.
-/
namespace Switchboard.Toml

/-- A control character that stands in a text only as an escape. -/
def isControl (c : Char) : Bool := (c.toNat < 0x20 && c != '\n' && c != '\t') || c.toNat == 0x7f

def hasTriple (q : Char) : List Char → Bool
  | a :: rest@(b :: c :: _) => (a == q && b == q && c == q) || hasTriple q rest
  | _ => false

def hexDigits4 (n : Nat) : List Char :=
  [n / 0x1000, n / 0x100, n / 0x10, n].map fun d => (Nat.digitChar (d % 16)).toUpper

/-- A character other than a quote. A newline stands for itself in a block, a tab nowhere. -/
def escapeChar (inBlock : Bool) (c : Char) : List Char :=
  if c = '\\' then ['\\', '\\']
  else if c = '\x08' then ['\\', 'b']
  else if c = '\t' then ['\\', 't']
  else if c = '\x0c' then ['\\', 'f']
  else if c = '\r' then ['\\', 'r']
  else if c = '\n' then (if inBlock then ['\n'] else ['\\', 'n'])
  else if isControl c then ['\\', 'u'] ++ hexDigits4 c.toNat
  else [c]

/-- The characters between double quotes, behind so many bare quotes in a row. Two of those may stand
in a block, and none in a line. -/
def escapeText (inBlock : Bool) (bare : Nat) : List Char → List Char
  | [] => []
  | c :: cs =>
    if c = '"' then
      if inBlock ∧ bare < 2 then '"' :: escapeText inBlock (bare + 1) cs
      else '\\' :: '"' :: escapeText inBlock 0 cs
    else escapeChar inBlock c ++ escapeText inBlock 0 cs

inductive TextForm
  | basic
  | literal
  | basicBlock
  | literalBlock

/-- The first form that holds the characters without an escape, a tab apart; if there is none, the form
between double quotes that goes over as many lines as the text. -/
def TextForm.of (cs : List Char) : TextForm :=
  let newline := cs.contains '\n'
  let control := cs.any isControl
  if !control && !newline && !cs.contains '"' && !cs.contains '\\' then .basic
  else if !control && !newline && !cs.contains '\'' then .literal
  else if !control && !cs.contains '\\' && !hasTriple '"' cs then .basicBlock
  else if !control && !hasTriple '\'' cs then .literalBlock
  else if newline then .basicBlock
  else .basic

/-- A block opens with a newline of its own when it goes over several lines. -/
def blockText (q : Char) (content : List Char) : List Char :=
  let opening := if content.contains '\n' then ['\n'] else []
  [q, q, q] ++ opening ++ content ++ [q, q, q]

def writeText (cs : List Char) : List Char :=
  match TextForm.of cs with
  | .basic => '"' :: escapeText false 0 cs ++ ['"']
  | .literal => '\'' :: cs ++ ['\'']
  | .basicBlock => blockText '"' (escapeText true 0 cs)
  | .literalBlock => blockText '\'' cs

/-- The values that stand behind an equals sign. Fractions, dates and filled lists and tables are not
among them. -/
inductive Plain
  | bool (b : Bool)
  | int (n : Int)
  | text (s : String)
  | noItems

namespace Plain

def datum : Plain → Datum
  | .bool b => .bool b
  | .int n => .int n
  | .text s => .text s
  | .noItems => .list []

def write : Plain → List Char
  | .bool b => (toString b).toList
  | .int n => (toString n).toList
  | .text s => writeText s.toList
  | .noItems => ['[', ']']

def isWritable : Plain → Bool
  | .int n => -0x8000000000000000 ≤ n && n < 0x8000000000000000
  | _ => true

end Plain

/-- One line of a document, with bare words for keys. -/
inductive Line
  | assignment (name : String) (value : Plain)
  | header (repeated : Bool) (path : List String) (name : String)

namespace Line

def expression : Line → Expression
  | .assignment name value => .assignment [] name value.datum
  | .header repeated path name => .header repeated path name

def write : Line → List Char
  | .assignment name value => name.toList ++ [' ', '=', ' '] ++ value.write ++ ['\n']
  | .header repeated path name =>
    let key := path.flatMap (fun s => s.toList ++ ['.']) ++ name.toList
    if repeated then '\n' :: '[' :: '[' :: key ++ [']', ']', '\n'] else '\n' :: '[' :: key ++ [']', '\n']

def isWritable : Line → Bool
  | .assignment _ value => value.isWritable
  | .header _ _ _ => true

end Line

def write? (lines : List Line) : Option String :=
  if lines.all Line.isWritable then some (String.ofList (lines.flatMap Line.write)) else none

end Switchboard.Toml
