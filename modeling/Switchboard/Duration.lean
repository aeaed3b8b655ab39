import Switchboard.Text.Decimal

/-!
Spans of time in nanoseconds, up to `2^64 - 1` seconds and 999999999 nanoseconds. Arithmetic stops
at the longest span and never wraps.
-/
namespace Switchboard

structure Duration where
  nanos : Nat
  nanos_lt : nanos < 0x10000000000000000 * 1000000000
deriving DecidableEq

namespace Duration

/-- The span of `n` nanoseconds, or the longest one when `n` is too large. -/
def ofNanos (n : Nat) : Duration :=
  ⟨min n (0x10000000000000000 * 1000000000 - 1), by omega⟩

def ofMillis (n : Nat) : Duration := ofNanos (n * 1000000)

def ofSecs (n : Nat) : Duration := ofNanos (n * 1000000000)

def ofParts (secs nanos : Nat) : Duration := ofNanos (secs * 1000000000 + nanos)

def zero : Duration := ofNanos 0

def longest : Duration := ofNanos (0x10000000000000000 * 1000000000 - 1)

instance : Inhabited Duration := ⟨zero⟩

def isZero (d : Duration) : Bool := d.nanos == 0

def secs (d : Duration) : Nat := d.nanos / 1000000000

def subsecNanos (d : Duration) : Nat := d.nanos % 1000000000

def millis (d : Duration) : Nat := d.nanos / 1000000

/-- The span taken `k` times, stopping at the longest one. -/
def scale (d : Duration) (k : Nat) : Duration := ofNanos (d.nanos * k)

def atMost (d bound : Duration) : Duration :=
  if d.nanos ≤ bound.nanos then d else bound

/-- Seconds from one second on, otherwise the largest unit with a whole part, with as many places as
needed. -/
def text (d : Duration) : String :=
  if d.secs ≠ 0 then Text.fixedPoint 9 d.secs d.subsecNanos ++ "s"
  else if 1000000 ≤ d.nanos then Text.fixedPoint 6 (d.nanos / 1000000) (d.nanos % 1000000) ++ "ms"
  else if 1000 ≤ d.nanos then Text.fixedPoint 3 (d.nanos / 1000) (d.nanos % 1000) ++ "µs"
  else toString d.nanos ++ "ns"

@[ext] theorem ext {d e : Duration} (h : d.nanos = e.nanos) : d = e := by
  cases d; cases e; cases h; rfl

theorem nanos_ofNanos {n : Nat} (h : n < 0x10000000000000000 * 1000000000) : (ofNanos n).nanos = n := by
  simp only [ofNanos]; omega

theorem nanos_scale (d : Duration) (k : Nat) :
    (d.scale k).nanos = min (d.nanos * k) (0x10000000000000000 * 1000000000 - 1) := rfl

theorem nanos_atMost (d bound : Duration) : (d.atMost bound).nanos = min d.nanos bound.nanos := by
  unfold atMost; split <;> omega

end Duration

end Switchboard
