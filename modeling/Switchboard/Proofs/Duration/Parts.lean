import Switchboard.Duration
import Mathlib.Tactic.Ring

/-!
Spans of time in two words, one for whole seconds and one for the nanoseconds beyond them. A multiple is
worked out word by word, with the surplus of nanoseconds carried over into the seconds; it comes to the
exact multiple, or to the longest span if that is shorter.
-/
namespace Switchboard.Duration

structure Parts where
  secs : UInt64
  nanos : UInt32
  nanos_lt : nanos.toNat < 1000000000
deriving DecidableEq

/-- A number as a word, if it fits. -/
def word? (n : Nat) : Option UInt64 := if n < 0x10000000000000000 then some (UInt64.ofNat n) else none

theorem word?_eq_some {n : Nat} (fits : n < 0x10000000000000000) : word? n = some (UInt64.ofNat n) :=
  if_pos fits

theorem word?_eq_none {n : Nat} (above : 0x10000000000000000 ≤ n) : word? n = none :=
  if_neg (Nat.not_lt_of_le above)

/-- A sum is a word only if what is added to is one. -/
theorem bind_word? (n m : Nat) : ((word? n).bind fun w => word? (w.toNat + m)) = word? (n + m) := by
  by_cases fits : n < 0x10000000000000000
  · rw [word?_eq_some fits, Option.bind_some, UInt64.toNat_ofNat', Nat.mod_eq_of_lt fits]
  · have above := Nat.le_of_not_lt fits
    rw [word?_eq_none above, word?_eq_none (Nat.le_add_right_of_le above), Option.bind_none]

namespace Parts

/-- The whole span in nanoseconds. -/
def total (p : Parts) : Nat := p.secs.toNat * 1000000000 + p.nanos.toNat

def longest : Parts := ⟨0xffffffffffffffff, 999999999, by decide⟩

theorem total_longest : longest.total = 0x10000000000000000 * 1000000000 - 1 := by
  simp [total, longest]

/-- The nanoseconds that are left when the whole seconds are carried over. -/
def rest (nanos : UInt64) : UInt32 := (nanos % 1000000000).toUInt32

theorem toNat_rest (nanos : UInt64) : (rest nanos).toNat = nanos.toNat % 1000000000 := by
  have second : (1000000000 : UInt64).toNat = 1000000000 := rfl
  rw [rest, UInt64.toNat_toUInt32, UInt64.toNat_mod, second]
  omega

/-- The multiple of a span. There is none outside if the nanoseconds leave their word, for which nothing
provides, and none inside if the seconds leave theirs. -/
def times? (p : Parts) (k : UInt32) : Option (Option Parts) := do
  let nanos ← word? (p.nanos.toNat * k.toNat)
  let secs? := (word? (p.secs.toNat * k.toNat)).bind fun secs =>
    word? (secs.toNat + (nanos / 1000000000).toNat)
  return secs?.map fun secs => ⟨secs, rest nanos, by
    rw [toNat_rest]
    exact Nat.mod_lt _ (by decide)⟩

/-- The multiple of a span, or the longest span where there is none. -/
def times (p : Parts) (k : UInt32) : Option Parts := (p.times? k).map (·.getD longest)

def atMost (p bound : Parts) : Parts :=
  if bound.secs < p.secs ∨ bound.secs = p.secs ∧ bound.nanos < p.nanos then bound else p

/-- The words of a span tell it from every other one. -/
theorem total_injective {p q : Parts} (same : p.total = q.total) : p = q := by
  obtain ⟨secs, nanos, small⟩ := p
  obtain ⟨secs', nanos', small'⟩ := q
  have parts : secs.toNat = secs'.toNat ∧ nanos.toNat = nanos'.toNat := by
    simp only [total] at same
    omega
  obtain rfl := UInt64.toNat_inj.mp parts.1
  obtain rfl := UInt32.toNat_inj.mp parts.2
  rfl

end Parts

/-- A span as its words. -/
def parts (d : Duration) : Parts where
  secs := UInt64.ofNat d.secs
  nanos := UInt32.ofNat d.subsecNanos
  nanos_lt := by
    have below : d.subsecNanos < 1000000000 := Nat.mod_lt _ (by decide)
    rw [UInt32.toNat_ofNat']
    omega

@[simp] theorem total_parts (d : Duration) : d.parts.total = d.nanos := by
  have within := d.nanos_lt
  simp only [Parts.total, parts, secs, subsecNanos, UInt64.toNat_ofNat', UInt32.toNat_ofNat']
  omega

theorem eq_parts {p : Parts} {d : Duration} (same : p.total = d.nanos) : p = d.parts :=
  Parts.total_injective (same.trans (total_parts d).symm)

/-! ### Multiples and bounds -/

theorem Parts.total_times (p : Parts) (k : UInt32) : p.total * k.toNat =
    p.secs.toNat * k.toNat * 1000000000 + p.nanos.toNat * k.toNat := by
  rw [total]
  ring

/-- The nanoseconds never leave their word, however often the span is taken. -/
theorem Parts.nanos_fit (p : Parts) (k : UInt32) : p.nanos.toNat * k.toNat < 0x10000000000000000 := by
  have most : p.nanos.toNat * k.toNat ≤ 1000000000 * 0x100000000 :=
    Nat.mul_le_mul (Nat.le_of_lt p.nanos_lt) (Nat.le_of_lt k.toNat_lt)
  omega

theorem Parts.total_of_times (p : Parts) (k : UInt32) : ∃ q, p.times k = some q ∧
    q.total = min (p.total * k.toNat) (0x10000000000000000 * 1000000000 - 1) := by
  have fits := p.nanos_fit k
  have second : (1000000000 : UInt64).toNat = 1000000000 := rfl
  have carried : (UInt64.ofNat (p.nanos.toNat * k.toNat) / 1000000000).toNat =
      p.nanos.toNat * k.toNat / 1000000000 := by
    rw [UInt64.toNat_div, second, UInt64.toNat_ofNat', Nat.mod_eq_of_lt fits]
  rw [total_times]
  simp only [times, times?, word?_eq_some fits, bind_word?, carried, Option.bind_eq_bind,
    Option.bind_some, pure, Option.map_some]
  refine ⟨_, rfl, ?_⟩
  generalize p.secs.toNat * k.toNat = secs
  generalize p.nanos.toNat * k.toNat = nanos at fits ⊢
  by_cases within : secs + nanos / 1000000000 < 0x10000000000000000
  · have short : secs * 1000000000 + nanos ≤ 0x10000000000000000 * 1000000000 - 1 := by omega
    have carry : (secs + nanos / 1000000000) * 1000000000 + nanos % 1000000000 =
        secs * 1000000000 + nanos := by omega
    rw [word?_eq_some within, Option.map_some, Option.getD_some, total, toNat_rest,
      UInt64.toNat_ofNat', UInt64.toNat_ofNat', Nat.mod_eq_of_lt within, Nat.mod_eq_of_lt fits, carry,
      Nat.min_eq_left short]
  · have above := Nat.le_of_not_lt within
    have long : 0x10000000000000000 * 1000000000 - 1 ≤ secs * 1000000000 + nanos := by omega
    rw [word?_eq_none above, Option.map_none, Option.getD_none, total_longest, Nat.min_eq_right long]

/-- The words hold whatever they have to on the way, and the multiple comes out exactly, or as the longest
span. -/
theorem times_parts (d : Duration) (k : UInt32) : d.parts.times k = some (d.scale k.toNat).parts := by
  obtain ⟨q, times, total⟩ := d.parts.total_of_times k
  rw [times, eq_parts (total.trans _)]
  rw [total_parts, nanos_scale]

theorem Parts.before_iff (p bound : Parts) :
    (bound.secs < p.secs ∨ bound.secs = p.secs ∧ bound.nanos < p.nanos) ↔ bound.total < p.total := by
  have small := p.nanos_lt
  have small' := bound.nanos_lt
  rw [UInt64.lt_iff_toNat_lt, UInt32.lt_iff_toNat_lt, ← UInt64.toNat_inj, total, total]
  omega

theorem atMost_parts (d bound : Duration) : d.parts.atMost bound.parts = (d.atMost bound).parts := by
  simp only [Parts.atMost, atMost, Parts.before_iff, total_parts, ← Nat.not_le, ite_not]
  split <;> rfl

end Switchboard.Duration
