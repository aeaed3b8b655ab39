/-!
Glob patterns. A star stands for any run of characters, a question mark for any one character, and
every other character for itself.

A scan goes through pattern and text together. Where they do not fit, the last star that it has passed
takes one character more, and the scan goes on from right behind that star. It never goes back to a star
before that one.
-/
namespace Switchboard.Pattern

/-- The texts that a pattern stands for. -/
inductive Matches : List Char → List Char → Prop
  | nil : Matches [] []
  | star {p t s : List Char} : Matches p s → s <:+ t → Matches ('*' :: p) t
  | any {p t : List Char} {c : Char} : Matches p t → Matches ('?' :: p) (c :: t)
  | char {p t : List Char} {c : Char} : c ≠ '*' → c ≠ '?' → Matches p t → Matches (c :: p) (c :: t)

/-- A star of the pattern, and how far into the text it reaches for now. -/
structure Star where
  place : Nat
  reach : Nat
deriving DecidableEq, Repr

/-- How far a scan has come in pattern and text, and the last star that it has passed. -/
structure Scan (pattern text : Array Char) where
  next : Nat := 0
  seen : Nat := 0
  star : Option Star := none
  next_le : next ≤ pattern.size := by omega
  seen_le : seen ≤ text.size := by omega
  star_behind : ∀ s ∈ star, s.place < next ∧ s.reach ≤ seen := by simp

namespace Scan

/-- The scan that has not come anywhere yet. -/
def start (pattern text : Array Char) : Scan pattern text := {}

variable {pattern text : Array Char}

/-- Let the last star take one character more; if no star was passed, the pattern does not fit. -/
def backtrack (s : Scan pattern text) (more : s.seen < text.size) : Option (Scan pattern text) :=
  match passed : s.star with
  | none => none
  | some star =>
    have behind := s.star_behind star passed
    have within := s.next_le
    some { next := star.place + 1, seen := star.reach + 1, star := some ⟨star.place, star.reach + 1⟩ }

/-- Look at the next character of the text. -/
def step (s : Scan pattern text) (more : s.seen < text.size) : Option (Scan pattern text) :=
  if left : s.next < pattern.size then
    if pattern[s.next] = '*' then
      some { next := s.next + 1, seen := s.seen, star := some ⟨s.next, s.seen⟩ }
    else if pattern[s.next] = '?' ∨ pattern[s.next] = text[s.seen] then
      some {
        next := s.next + 1
        seen := s.seen + 1
        star := s.star
        star_behind := fun star passed =>
          (s.star_behind star passed).imp Nat.lt_succ_of_lt Nat.le_succ_of_le }
    else s.backtrack more
  else s.backtrack more

/-! A scan ends: the stars that are still to be passed get fewer, or else the last one has less left to
take, or else less is left of the pattern. -/

/-- The part of the pattern in which a star may still be passed. -/
def unpassed (s : Scan pattern text) : Nat :=
  s.star.elim (pattern.size + 1) fun star => pattern.size - star.place

def untaken (s : Scan pattern text) : Nat :=
  s.star.elim text.size fun star => text.size - star.reach

/-- One number for the three, of which an earlier one outweighs the later ones. -/
def left (s : Scan pattern text) : Nat :=
  (s.unpassed * (text.size + 1) + s.untaken) * (pattern.size + 1) + (pattern.size - s.next)

theorem outweighs {a b r k : Nat} (less : a < b) (small : r < k) (r' : Nat) :
    a * k + r < b * k + r' := by
  have room : (a + 1) * k ≤ b * k := Nat.mul_le_mul_right k less
  rw [Nat.succ_mul] at room
  omega

theorem left_backtrack {s s' : Scan pattern text} {more : s.seen < text.size}
    (went : s.backtrack more = some s') : s'.left < s.left := by
  unfold backtrack at went
  split at went
  · cases went
  · next star passed =>
    cases went
    have behind := s.star_behind star passed
    simp only [left, unpassed, untaken, passed, Option.elim]
    apply outweighs
    · omega
    · omega

theorem left_step {s s' : Scan pattern text} {more : s.seen < text.size}
    (went : s.step more = some s') : s'.left < s.left := by
  unfold step at went
  split at went
  · split at went
    · cases went
      have further : pattern.size - s.next < s.unpassed := by
        cases passed : s.star with
        | none =>
          simp only [unpassed, passed, Option.elim]
          omega
        | some star =>
          have behind := s.star_behind star passed
          simp only [unpassed, passed, Option.elim]
          omega
      apply outweighs
      · exact outweighs further (by simp only [untaken, Option.elim]; omega) _
      · dsimp only
        omega
    · split at went
      · cases went
        exact Nat.add_lt_add_left (by dsimp only; omega) _
      · exact left_backtrack went
  · exact left_backtrack went

/-- Scan to the end of the text. -/
@[semireducible]
def run (s : Scan pattern text) : Option (Scan pattern text) :=
  if more : s.seen < text.size then
    match _went : s.step more with
    | none => none
    | some s' => run s'
  else some s
termination_by s.left
decreasing_by exact left_step ‹_›

/-- What the scan has not come to of the pattern. -/
def rest (s : Scan pattern text) : List Char := pattern.toList.drop s.next

end Scan

/-- Nothing but stars may be left of the pattern where the text ends. -/
def accepts (pattern text : String) : Bool :=
  match (Scan.start pattern.toList.toArray text.toList.toArray).run with
  | some s => s.rest.all (· == '*')
  | none => false

end Switchboard.Pattern
