import Switchboard.Target.Selector
import Mathlib.Data.List.Infix

/-!
A scan accepts the texts that its pattern stands for. It never goes back behind the last star, and
loses nothing by that: between two stars it has compared one character of the pattern with one of the
text each, so if the earlier star took more, the later one would only be met further on in the text, and
what it takes it can take from where it was met first.
-/
namespace Switchboard

namespace Pattern

/-! ### What a pattern stands for -/

theorem matches_nil {t : List Char} : Matches [] t ↔ t = [] := by
  constructor
  · rintro ⟨⟩
    rfl
  · rintro rfl
    exact .nil

theorem matches_star {p t : List Char} : Matches ('*' :: p) t ↔ ∃ s, s <:+ t ∧ Matches p s := by
  constructor
  · intro m
    cases m with
    | star rest part => exact ⟨_, part, rest⟩
    | char other => exact absurd rfl other
  · rintro ⟨s, part, rest⟩
    exact .star rest part

theorem matches_plain {c : Char} (plain : c ≠ '*') {p t : List Char} :
    Matches (c :: p) t ↔ ∃ x u, t = x :: u ∧ (c = '?' ∨ c = x) ∧ Matches p u := by
  constructor
  · intro m
    cases m with
    | star => exact absurd rfl plain
    | any rest => exact ⟨_, _, rfl, .inl rfl, rest⟩
    | char _ _ rest => exact ⟨_, _, rfl, .inr rfl, rest⟩
  · rintro ⟨x, u, rfl, fits, rest⟩
    by_cases any : c = '?'
    · subst any
      exact .any rest
    · obtain rfl := fits.resolve_left any
      exact .char plain any rest

theorem Matches.more {p s t : List Char} (m : Matches ('*' :: p) s) (part : s <:+ t) :
    Matches ('*' :: p) t := by
  obtain ⟨u, inner, rest⟩ := matches_star.mp m
  exact .star rest (inner.trans part)

/-- A star takes nothing, or it takes one character and may go on. -/
theorem matches_star_drop {p t : List Char} :
    Matches ('*' :: p) t ↔ Matches p t ∨ Matches ('*' :: p) (t.drop 1) := by
  constructor
  · intro m
    obtain ⟨s, part, rest⟩ := matches_star.mp m
    cases t with
    | nil =>
      rw [List.suffix_nil] at part
      subst part
      exact .inl rest
    | cons x u =>
      obtain rfl | part := List.suffix_cons_iff.mp part
      · exact .inl rest
      · exact .inr (.star rest part)
  · rintro (m | m)
    · exact .star m (List.suffix_refl t)
    · exact m.more (List.drop_suffix 1 t)

/-- What stands between two stars takes as many characters as it has. -/
theorem Matches.behind {segment p t : List Char} (plain : '*' ∉ segment)
    (m : Matches (segment ++ p) t) : Matches p (t.drop segment.length) := by
  induction segment generalizing t with
  | nil => exact m
  | cons c segment ih =>
    rw [List.mem_cons, not_or] at plain
    obtain ⟨x, u, rfl, -, rest⟩ := (matches_plain (Ne.symm plain.1)).mp m
    exact ih plain.2 rest

theorem matches_end {p : List Char} : Matches p [] ↔ p.all (· == '*') = true := by
  induction p with
  | nil => simp [matches_nil]
  | cons c p ih =>
    by_cases star : c = '*'
    · simp [star, matches_star, ih]
    · simp [matches_plain star, star]

namespace Scan

variable {pattern text : Array Char}

/-! ### What a scan keeps -/

/-- What is left of pattern and text still fits, as it is or if the last star takes more. -/
def Open (s : Scan pattern text) : Prop :=
  Matches s.rest (text.toList.drop s.seen) ∨ ∃ star ∈ s.star,
    Matches ('*' :: pattern.toList.drop (star.place + 1)) (text.toList.drop (star.reach + 1))

/-- Since the last star the scan has met no other one, and has come as far in the text as in the
pattern. -/
def Level (s : Scan pattern text) : Prop :=
  ∀ star ∈ s.star, ∃ segment, '*' ∉ segment ∧
    pattern.toList.drop (star.place + 1) = segment ++ s.rest ∧ star.reach + segment.length = s.seen

/-- What can come of a scan: it goes on without losing a match, or there was none. -/
def Continues (s : Scan pattern text) : Option (Scan pattern text) → Prop
  | none => ¬ s.Open
  | some s' => s'.Level ∧ (s'.Open ↔ s.Open)

theorem suffix_drop {t u : List Char} (part : t <:+ u) (n : Nat) : t.drop n <:+ u.drop n := by
  obtain ⟨taken, rfl⟩ := part
  have same : t.drop n = ((taken ++ t).drop n).drop taken.length := by
    rw [List.drop_drop, Nat.add_comm, ← List.drop_drop, List.drop_left]
  rw [same]
  exact List.drop_suffix _ _

/-- If the last star takes more, then what stands behind it and its segment is met further on. -/
theorem Level.later {s : Scan pattern text} (level : s.Level) {star : Star} (passed : star ∈ s.star)
    (m : Matches ('*' :: pattern.toList.drop (star.place + 1)) (text.toList.drop (star.reach + 1))) :
    Matches ('*' :: s.rest) (text.toList.drop (s.seen + 1)) := by
  obtain ⟨segment, plain, ahead, reach⟩ := level star passed
  obtain ⟨t, part, fits⟩ := matches_star.mp m
  rw [ahead] at fits
  rw [← reach, Nat.add_right_comm, ← List.drop_drop]
  exact .star (fits.behind plain) (suffix_drop part _)

theorem rest_of_left {s : Scan pattern text} (left : s.next < pattern.size) :
    s.rest = pattern[s.next] :: pattern.toList.drop (s.next + 1) := by
  rw [rest, List.drop_eq_getElem_cons (by simpa using left), Array.getElem_toList]

theorem drop_seen {s : Scan pattern text} (more : s.seen < text.size) :
    text.toList.drop s.seen = text[s.seen] :: text.toList.drop (s.seen + 1) := by
  rw [List.drop_eq_getElem_cons (by simpa using more), Array.getElem_toList]

/-! ### Steps -/

/-- If the pattern does not fit where the scan stands, only the last star can help. -/
theorem continues_backtrack {s : Scan pattern text} (more : s.seen < text.size)
    (misfit : ¬ Matches s.rest (text.toList.drop s.seen)) : s.Continues (s.backtrack more) := by
  unfold Scan.backtrack
  split
  · next unpassed =>
    rintro (fits | ⟨star, passed, -⟩)
    · exact misfit fits
    · rw [unpassed] at passed
      cases passed
  · next star passed =>
    constructor
    · rintro _ ⟨⟩
      exact ⟨[], List.not_mem_nil, rfl, rfl⟩
    · -- The star takes one character, and then none or more.
      have reduced : s.Open ↔ Matches ('*' :: pattern.toList.drop (star.place + 1))
          (text.toList.drop (star.reach + 1)) := by
        simp [Open, misfit, passed]
      rw [reduced, matches_star_drop, List.drop_drop]
      simp [Open, rest]

theorem Level.step {s : Scan pattern text} (level : s.Level) (more : s.seen < text.size) :
    s.Continues (s.step more) := by
  unfold Scan.step
  split
  · next left =>
    have ahead := rest_of_left left
    split
    · next star =>
      rw [star] at ahead
      constructor
      · rintro _ ⟨⟩
        exact ⟨[], List.not_mem_nil, rfl, rfl⟩
      · -- What an earlier star could still take, this one takes.
        have earlier : s.Open ↔ Matches s.rest (text.toList.drop s.seen) := by
          refine ⟨?_, .inl⟩
          rintro (fits | ⟨star, passed, m⟩)
          · exact fits
          · obtain ⟨u, part, fits⟩ := matches_star.mp (level.later passed m)
            rw [ahead] at fits ⊢
            rw [drop_seen more]
            exact fits.more (part.trans (List.suffix_cons _ _))
        rw [earlier, ahead, matches_star_drop, List.drop_drop]
        simp [Open, rest]
    · next plain =>
      split
      · next fits =>
        constructor
        · intro star passed
          obtain ⟨segment, unstarred, between, reach⟩ := level star passed
          refine ⟨segment ++ [pattern[s.next]], ?_, ?_, ?_⟩
          · simpa [unstarred] using Ne.symm plain
          · rw [between, ahead, List.append_assoc]
            rfl
          · rw [List.length_append, ← Nat.add_assoc, reach]
            rfl
        · have same : Matches s.rest (text.toList.drop s.seen) ↔
              Matches (pattern.toList.drop (s.next + 1)) (text.toList.drop (s.seen + 1)) := by
            rw [ahead, drop_seen more, matches_plain plain]
            simp [fits]
          exact or_congr same.symm Iff.rfl
      · next misfit =>
        apply continues_backtrack
        rw [ahead, drop_seen more, matches_plain plain]
        rintro ⟨x, u, same, fits, -⟩
        cases same
        exact misfit fits
  · next ended =>
    apply continues_backtrack
    have nothing : s.rest = [] := List.drop_eq_nil_of_le (by simpa using ended)
    rw [nothing, matches_nil, drop_seen more]
    exact List.cons_ne_nil _ _

/-! ### Whole scans -/

theorem Continues.trans {s s' : Scan pattern text} (first : s.Continues (some s'))
    {e : Option (Scan pattern text)} (later : s'.Continues e) : s.Continues e := by
  cases e with
  | none => exact fun stillOpen => later (first.2.mpr stillOpen)
  | some e => exact ⟨later.1, later.2.trans first.2⟩

theorem Level.run {s : Scan pattern text} (level : s.Level) : s.Continues s.run := by
  fun_induction Scan.run s with
  | case1 s more went =>
    have step := level.step more
    rwa [went] at step
  | case2 s more s' went ih =>
    have step := level.step more
    rw [went] at step
    exact step.trans (ih step.1)
  | case3 s ended => exact ⟨level, Iff.rfl⟩

theorem seen_of_run {s e : Scan pattern text} (ran : s.run = some e) : e.seen = text.size := by
  fun_induction Scan.run s with
  | case1 => cases ran
  | case2 s more s' went ih => exact ih ran
  | case3 s ended =>
    cases ran
    exact Nat.le_antisymm (seen_le _) (Nat.le_of_not_lt ended)

theorem open_start : (start pattern text).Open ↔ Matches pattern.toList text.toList := by
  simp [Open, rest, start]

/-- Where the text ends, nothing but stars may be left of the pattern. -/
theorem Level.open_end {e : Scan pattern text} (level : e.Level) (ended : e.seen = text.size) :
    e.Open ↔ e.rest.all (· == '*') = true := by
  have nothing (n : Nat) : text.toList.drop (text.size + n) = [] :=
    List.drop_eq_nil_of_le (by simp)
  rw [← matches_end, Open, ended]
  constructor
  · rintro (fits | ⟨star, passed, m⟩)
    · exact nothing 0 ▸ fits
    · have later := level.later passed m
      rw [ended, nothing, matches_star] at later
      obtain ⟨s, part, fits⟩ := later
      rwa [List.suffix_nil.mp part] at fits
  · intro fits
    exact .inl ((nothing 0).symm ▸ fits)

end Scan

theorem accepts_iff {pattern text : String} :
    accepts pattern text = true ↔ Matches pattern.toList text.toList := by
  have level : (Scan.start pattern.toList.toArray text.toList.toArray).Level := nofun
  have continues := level.run
  have opened : (Scan.start pattern.toList.toArray text.toList.toArray).Open ↔
      Matches pattern.toList text.toList := Scan.open_start
  rw [accepts, ← opened]
  cases ran : (Scan.start pattern.toList.toArray text.toList.toArray).run with
  | none =>
    rw [ran] at continues
    have misfit : ¬ (Scan.start pattern.toList.toArray text.toList.toArray).Open := continues
    simpa using misfit
  | some e =>
    rw [ran] at continues
    rw [← continues.2, continues.1.open_end (Scan.seen_of_run ran)]

/-- Every step of a scan leaves less to do, so that it ends; a scan that comes to the end of the text
stands within its pattern; a pattern accepts the texts it stands for and no others; and a selector
claims the targets whose three parts its three patterns stand for. -/
theorem matching_decided :
    (∀ (pattern text : Array Char) (s s' : Scan pattern text) (more : s.seen < text.size),
      s.step more = some s' → s'.left < s.left) ∧
    (∀ (pattern text : Array Char) (s e : Scan pattern text), s.run = some e →
      e.seen = text.size ∧ e.next ≤ pattern.size) ∧
    (∀ pattern text : String, accepts pattern text = true ↔ Matches pattern.toList text.toList) ∧
    ∀ (s : Selector) (t : Target), s.claims t = true ↔
      Matches s.moduleName.toList t.moduleName.toList ∧
      Matches s.component.toList t.component.toList ∧
      Matches s.interface.toList t.interface.toList := by
  refine ⟨?_, ?_, fun pattern text => accepts_iff, ?_⟩
  · exact fun pattern text s s' more went => Scan.left_step went
  · exact fun pattern text s e ran => ⟨Scan.seen_of_run ran, e.next_le⟩
  · intro s t
    simp only [Selector.claims, Bool.and_eq_true, accepts_iff, and_assoc]

def backtracking : Scan #['*', 'a', '?', 'c'] #['a', 'b', 'a', 'x', 'c'] := .start _ _

/-- The star has to take more before the pattern fits. Stars and question marks in a text are characters
like others. -/
theorem matching_decided_backtracking :
    Matches "*a?c*".toList "abaacac*?".toList ∧ ¬ Matches "*a?c".toList "abaacac*?".toList ∧
    (∃ s', backtracking.step (by decide) = some s' ∧ s'.left < backtracking.left) ∧
    ∃ e, backtracking.run = some e ∧ e.seen = 5 ∧ e.next ≤ 4 := by
  obtain ⟨shorter, within, decided, -⟩ := matching_decided
  refine ⟨(decided "*a?c*" "abaacac*?").mp (by decide), ?_, ?_, ?_⟩
  · intro fits
    have refused : accepts "*a?c" "abaacac*?" = false := by decide
    rw [(decided "*a?c" "abaacac*?").mpr fits] at refused
    cases refused
  · have goesOn : (backtracking.step (by decide)).isSome := by decide
    obtain ⟨s', went⟩ := Option.isSome_iff_exists.mp goesOn
    exact ⟨s', went, shorter _ _ _ s' _ went⟩
  · have ends : backtracking.run.isSome := by decide
    obtain ⟨e, ran⟩ := Option.isSome_iff_exists.mp ends
    exact ⟨e, ran, within _ _ _ e ran⟩

end Pattern

end Switchboard
