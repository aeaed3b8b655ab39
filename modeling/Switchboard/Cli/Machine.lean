import Switchboard.Cli.Plan
import Switchboard.Cli.SystemError

/-!
A machine on which plans are carried out: a tree of directories and files, and what has been printed. An
interrupt comes as soon as it is waited for.
-/
namespace Switchboard.Cli

open Text (Bytes)

inductive Node
  | file (content : Bytes)
  /-- Reads as empty and forgets what is written. -/
  | sink
  | directory
deriving DecidableEq

/-- Names from the innermost one out; no names lead to the root. -/
abbrev Place := List String

structure Machine where
  nodes : List (Place × Node) := []
  workplace : Place := []
  stdout : String := ""
  stderr : String := ""

namespace Machine

def node? (place : Place) (m : Machine) : Option Node :=
  match place with
  | [] => some .directory
  | place => m.nodes.lookup place

/-- Where a path ends: at something, or at a free name in a directory. -/
inductive Target
  | taken (place : Place) (node : Node)
  | free (place : Place)

def notFound : Nat := 2

def notDirectory : Nat := 20

def isDirectory : Nat := 21

def nameTooLong : Nat := 36

/-- Follow the parts of a path; a fault is given by its number. Only the last part may be missing. -/
def walk (m : Machine) : Place → List String → Except Nat Target
  | place, [] =>
    match m.node? place with
    | some node => .ok (.taken place node)
    | none => .ok (.free place)
  | place, part :: rest =>
    match m.node? place with
    | none => .error notFound
    | some .directory =>
      if part = "" ∨ part = "." then walk m place rest
      else if part = ".." then walk m place.tail rest
      else if 255 < part.utf8ByteSize then .error nameTooLong
      else walk m (part :: place) rest
    | some _ => .error notDirectory

def find (path : String) (m : Machine) : Except Nat Target :=
  if path = "" then .error notFound
  else if 4096 ≤ path.utf8ByteSize then .error nameTooLong
  else m.walk (if path.startsWith "/" then [] else m.workplace) ((path.splitOn "/"))

def read (path : String) (m : Machine) : Except Nat Bytes := do
  match ← m.find path with
  | .taken _ (.file content) => .ok content
  | .taken _ .sink => .ok []
  | .taken _ .directory => .error isDirectory
  | .free _ => .error notFound

def put (place : Place) (node : Node) (m : Machine) : Machine :=
  { m with nodes := (place, node) :: m.nodes.filter (·.1 != place) }

def write (path text : String) (m : Machine) : Except Nat Machine := do
  match ← m.find path with
  | .taken place (.file _) | .free place => .ok (m.put place (.file (Text.bytes text)))
  | .taken _ .sink => .ok m
  | .taken _ .directory => .error isDirectory

def inWords {α : Type} (result : Except Nat α) : Except String α :=
  result.mapError fun n => (faultOfNumber n "").text

def carryOut : Plan → Machine → Machine × Nat
  | .exit code, m => (m, code)
  | .print text next, m => carryOut next { m with stdout := m.stdout ++ text }
  | .complain text next, m => carryOut next { m with stderr := m.stderr ++ text }
  | .readFile path next, m => carryOut (next (inWords (m.read path))) m
  | .writeFile path text next, m =>
    match inWords (m.write path text) with
    | .ok m => carryOut (next (.ok ())) m
    | .error reason => carryOut (next (.error reason)) m
  | .call s what next, m => carryOut (next (s.call what).1 (s.call what).2) m
  | .keepUp s _ _ next, m => carryOut (next s) m

end Machine

end Switchboard.Cli
