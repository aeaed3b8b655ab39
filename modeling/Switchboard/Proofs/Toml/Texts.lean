import Switchboard.Toml.Token
import Switchboard.Toml.Writer
import Mathlib.Tactic.SplitIfs

/-!
A written text is scanned as one token that holds its characters. This is proved form by form: the two
forms with escapes for every text, the two without for the texts that take them. Behind a text there
is always the end of its line.
-/
namespace Switchboard.Toml

/-- A token whose end shows only in the character behind it. -/
theorem scan_ended {s : Scan} {t : Token} {c : Char} (ended : s.step c = (begin c).after [t])
    (rest : List Char) : scan s (c :: rest) = t :: scan .between (c :: rest) := by
  calc scan s (c :: rest)
    _ = (s.step c).1 ++ scan (s.step c).2 rest := rfl
    _ = [t] ++ (begin c).1 ++ scan (begin c).2 rest := by rw [ended, Step.after]
    _ = t :: scan .between (c :: rest) := rfl

theorem isPrinted_of_not_control {c : Char} (plain : isControl c = false) (inside : c ≠ '\n') :
    isPrinted c = true := by
  by_cases tab : c = '\t'
  · subst tab
    rfl
  · simp only [isControl, Bool.or_eq_false_iff, Bool.and_eq_false_iff, decide_eq_false_iff_not,
      bne_eq_false_iff_eq, beq_eq_false_iff_ne] at plain
    obtain ⟨(high | newline) | blank, printed⟩ := plain
    · have visible : 0x20 ≤ c.toNat := by omega
      simp [isPrinted, visible, printed]
    · exact absurd newline inside
    · exact absurd blank tab

/-! ### Escapes -/

theorem codeDigit_digitChar : ∀ n < 16, codeDigit (Nat.digitChar n).toUpper = some n := by
  decide

theorem ofCodePoint_toNat (c : Char) : ofCodePoint c.toNat = some c := by
  have valid : c.toNat.isValidChar := c.valid
  rw [ofCodePoint, dif_pos valid]
  rfl

/-- Inside a text between double quotes, of one line or of several. -/
def Scan.inside (inBlock : Bool) (read : List Char) : Scan :=
  if inBlock then .block '"' read 0 else .line '"' read

theorem scan_hexDigits4 (inBlock : Bool) (read : List Char) (c : Char) (small : c.toNat < 0x10000)
    (rest : List Char) :
    scan (.inside inBlock read) (['\\', 'u'] ++ hexDigits4 c.toNat ++ rest) =
      scan (.inside inBlock (c :: read)) rest := by
  have digit (n : Nat) := codeDigit_digitChar (n % 16) (Nat.mod_lt n (by decide))
  have value : 16 * (16 * (16 * (c.toNat / 0x1000 % 16) + c.toNat / 0x100 % 16) +
      c.toNat / 0x10 % 16) + c.toNat % 16 = c.toNat := by
    omega
  cases inBlock <;>
    simp [Scan.inside, hexDigits4, scan, Scan.step, inLine, Toml.inBlock, escapedChar, codeLength,
      codeStep, digit, value, ofCodePoint_toNat]

theorem scan_escapeChar (inBlock : Bool) (read : List Char) {c : Char} (other : c ≠ '"')
    (rest : List Char) :
    scan (.inside inBlock read) (escapeChar inBlock c ++ rest) =
      scan (.inside inBlock (c :: read)) rest := by
  by_cases short : c ∈ ['\\', '\x08', '\t', '\x0c', '\r', '\n']
  · simp only [List.mem_cons, List.not_mem_nil, or_false] at short
    rcases short with rfl | rfl | rfl | rfl | rfl | rfl <;> cases inBlock <;> rfl
  · simp only [List.mem_cons, List.not_mem_nil, or_false, not_or] at short
    obtain ⟨backslash, backspace, tab, formFeed, returned, newline⟩ := short
    rw [escapeChar, if_neg backslash, if_neg backspace, if_neg tab, if_neg formFeed,
      if_neg returned, if_neg newline]
    by_cases control : isControl c = true
    · have small : c.toNat < 0x10000 := by
        simp only [isControl, Bool.or_eq_true, Bool.and_eq_true, decide_eq_true_eq, beq_iff_eq] at control
        omega
      rw [if_pos control]
      exact scan_hexDigits4 inBlock read c small rest
    · have printed := isPrinted_of_not_control (Bool.eq_false_iff.mpr control) newline
      rw [if_neg control]
      cases inBlock <;>
        simp [Scan.inside, scan, Scan.step, inLine, Toml.inBlock, other, backslash, returned, newline,
          printed]

/-! ### Texts of one line -/

/-- An opening quote is one of a text, not of a block, unless two more follow. -/
theorem scan_quote {q c : Char} (other : c ≠ q) (rest : List Char) :
    scan (.quote q) (c :: rest) = scan (.line q []) (c :: rest) := by
  simp [scan, Scan.step, other]

theorem scan_emptyText (q : Char) {rest : List Char} (quoted : q ≠ '\n') :
    scan (.quote q) (q :: '\n' :: rest) = .text "" :: scan .between ('\n' :: rest) := by
  have ended : (Scan.quotes q).step '\n' = (begin '\n').after [.text ""] := by
    simp [Scan.step, Ne.symm quoted]
  calc scan (.quote q) (q :: '\n' :: rest)
    _ = scan (.quotes q) ('\n' :: rest) := by simp [scan, Scan.step]
    _ = .text "" :: scan .between ('\n' :: rest) := scan_ended ended rest

theorem scan_escapeLine (read : List Char) (bare : Nat) (cs rest : List Char) :
    scan (.line '"' read) (escapeText false bare cs ++ '"' :: rest) =
      .text (String.ofList (read.reverse ++ cs)) :: scan .between rest := by
  induction cs generalizing read bare with
  | nil => simp [escapeText, scan, Scan.step, inLine]
  | cons c cs ih =>
    by_cases quote : c = '"'
    · subst quote
      have escaped : scan (.line '"' read) ('\\' :: '"' :: (escapeText false 0 cs ++ '"' :: rest)) =
          scan (.line '"' ('"' :: read)) (escapeText false 0 cs ++ '"' :: rest) := rfl
      simp [escapeText, escaped, ih]
    · have char := scan_escapeChar false read quote (escapeText false 0 cs ++ '"' :: rest)
      simp only [Scan.inside, Bool.false_eq_true, if_false] at char
      rw [escapeText, if_neg quote, List.append_assoc, char, ih]
      simp

theorem scan_literalLine (read : List Char) {cs : List Char} (rest : List Char)
    (plain : ∀ c ∈ cs, c ≠ '\'' ∧ c ≠ '\n' ∧ isControl c = false) :
    scan (.line '\'' read) (cs ++ '\'' :: rest) =
      .text (String.ofList (read.reverse ++ cs)) :: scan .between rest := by
  induction cs generalizing read with
  | nil => simp [scan, Scan.step, inLine]
  | cons c cs ih =>
    obtain ⟨unquoted, inside, visible⟩ := plain c List.mem_cons_self
    have printed := isPrinted_of_not_control visible inside
    have later := ih (c :: read) fun d there => plain d (List.mem_cons_of_mem c there)
    simpa [scan, Scan.step, inLine, unquoted, printed] using later

/-! ### Blocks -/

/-- A block that ends in at most two quotes of its own is closed by three more. -/
theorem scan_closing {q : Char} (quoted : q ≠ '\n') (read : List Char) {run : Nat} (few : run ≤ 2)
    (rest : List Char) :
    scan (.block q read run) (q :: q :: q :: '\n' :: rest) =
      .block (String.ofList (read.reverse ++ List.replicate run q)) ::
        scan .between ('\n' :: rest) := by
  have ended (run : Nat) (enough : 3 ≤ run) :
      (Scan.block q read run).step '\n' = (begin '\n').after [closeBlock q read run] := by
    simp [Scan.step, Ne.symm quoted, enough]
  match run, few with
  | 0, _ =>
    calc scan (.block q read 0) (q :: q :: q :: '\n' :: rest)
      _ = scan (.block q read 3) ('\n' :: rest) := by simp [scan, Scan.step]
      _ = closeBlock q read 3 :: scan .between ('\n' :: rest) := scan_ended (ended 3 (by decide)) rest
  | 1, _ =>
    calc scan (.block q read 1) (q :: q :: q :: '\n' :: rest)
      _ = scan (.block q read 4) ('\n' :: rest) := by simp [scan, Scan.step]
      _ = closeBlock q read 4 :: scan .between ('\n' :: rest) := scan_ended (ended 4 (by decide)) rest
  | 2, _ =>
    -- Five quotes in a row end the block by themselves.
    calc scan (.block q read 2) (q :: q :: q :: '\n' :: rest)
      _ = closeBlock q read 5 :: scan .between ('\n' :: rest) := by simp [scan, Scan.step]

/-- Quotes in a row belong to the text when another character follows them. -/
theorem scan_bareQuotes {q c : Char} (other : c ≠ q) (read : List Char) {run : Nat} (few : run ≤ 2)
    (rest : List Char) :
    scan (.block q read run) (c :: rest) =
      scan (.block q (List.replicate run q ++ read) 0) (c :: rest) := by
  have short : ¬ 3 ≤ run := by omega
  simp [scan, Scan.step, other, short]

theorem escapeChar_leads (inBlock : Bool) {c : Char} (other : c ≠ '"') :
    ∃ d more, escapeChar inBlock c = d :: more ∧ d ≠ '"' := by
  unfold escapeChar
  split_ifs <;> exact ⟨_, _, rfl, by first | decide | exact other⟩

theorem scan_escapeBlock (read : List Char) {bare : Nat} (few : bare ≤ 2) (cs rest : List Char) :
    scan (.block '"' read bare) (escapeText true bare cs ++ '"' :: '"' :: '"' :: '\n' :: rest) =
      .block (String.ofList (read.reverse ++ List.replicate bare '"' ++ cs)) ::
        scan .between ('\n' :: rest) := by
  induction cs generalizing read bare with
  | nil => simpa [escapeText] using scan_closing (by decide) read few rest
  | cons c cs ih =>
    by_cases quote : c = '"'
    · subst quote
      by_cases room : bare < 2
      · have counted (more : List Char) : scan (.block '"' read bare) ('"' :: more) =
            scan (.block '"' read (bare + 1)) more := by
          have below : bare ≠ 4 := by omega
          simp [scan, Scan.step, below]
        rw [escapeText, if_pos rfl, if_pos ⟨rfl, room⟩, List.cons_append, counted,
          ih read (show bare + 1 ≤ 2 by omega), List.replicate_succ']
        simp
      · have full : ¬ (true = true ∧ bare < 2) := by simp [room]
        have escaped (read more : List Char) : scan (.block '"' read 0) ('\\' :: '"' :: more) =
            scan (.block '"' ('"' :: read) 0) more := rfl
        rw [escapeText, if_pos rfl, if_neg full, List.cons_append, List.cons_append,
          scan_bareQuotes (by decide) read few, escaped, ih _ (by decide)]
        simp
    · obtain ⟨d, more, leads, open_⟩ := escapeChar_leads true quote
      have char (read rest : List Char) : scan (.block '"' read 0) (escapeChar true c ++ rest) =
          scan (.block '"' (c :: read) 0) rest :=
        scan_escapeChar true read quote rest
      have bareQuotes (rest : List Char) : scan (.block '"' read bare) (escapeChar true c ++ rest) =
          scan (.block '"' (List.replicate bare '"' ++ read) 0) (escapeChar true c ++ rest) := by
        rw [leads]
        exact scan_bareQuotes open_ read few (more ++ rest)
      rw [escapeText, if_neg quote, List.append_assoc, bareQuotes, char, ih _ (by decide)]
      simp

theorem hasTriple_of_cons {q c : Char} {cs : List Char} (short : hasTriple q (c :: cs) = false) :
    hasTriple q cs = false := by
  match cs with
  | [] | [_] => simp [hasTriple]
  | a :: b :: rest =>
    rw [hasTriple, Bool.or_eq_false_iff] at short
    exact short.2

theorem hasTriple_of_append {q : Char} {before cs : List Char}
    (short : hasTriple q (before ++ cs) = false) : hasTriple q cs = false := by
  induction before with
  | nil => exact short
  | cons c before ih => exact ih (hasTriple_of_cons short)

theorem scan_literalBlock (read : List Char) {run : Nat} (few : run ≤ 2) {cs : List Char}
    (rest : List Char) (visible : ∀ c ∈ cs, isControl c = false)
    (short : hasTriple '\'' (List.replicate run '\'' ++ cs) = false) :
    scan (.block '\'' read run) (cs ++ '\'' :: '\'' :: '\'' :: '\n' :: rest) =
      .block (String.ofList (read.reverse ++ List.replicate run '\'' ++ cs)) ::
        scan .between ('\n' :: rest) := by
  induction cs generalizing read run with
  | nil => simpa using scan_closing (by decide) read few rest
  | cons c cs ih =>
    have later := fun d there => visible d (List.mem_cons_of_mem c there)
    by_cases quote : c = '\''
    · subst quote
      have room : run < 2 := by
        refine Nat.lt_of_le_of_ne few ?_
        rintro rfl
        simp [hasTriple, List.replicate_succ] at short
      have counted (more : List Char) : scan (.block '\'' read run) ('\'' :: more) =
          scan (.block '\'' read (run + 1)) more := by
        have below : run ≠ 4 := by omega
        simp [scan, Scan.step, below]
      have shifted : List.replicate run '\'' ++ '\'' :: cs = List.replicate (run + 1) '\'' ++ cs := by
        simp [List.replicate_succ']
      rw [shifted] at short
      rw [List.cons_append, counted, ih read (show run + 1 ≤ 2 by omega) later short,
        List.append_assoc, List.append_assoc, shifted]
    · have char (read rest : List Char) : scan (.block '\'' read 0) (c :: rest) =
          scan (.block '\'' (c :: read) 0) rest := by
        by_cases newline : c = '\n'
        · subst newline
          rfl
        · have printed := isPrinted_of_not_control (visible c List.mem_cons_self) newline
          have returned : c ≠ '\r' := by
            rintro rfl
            exact absurd printed (by decide)
          simp [scan, Scan.step, inBlock, quote, newline, returned, printed]
      have after := hasTriple_of_cons (hasTriple_of_append short)
      rw [List.cons_append, scan_bareQuotes quote read few, char,
        ih _ (show 0 ≤ 2 by decide) later
          (show hasTriple '\'' (List.replicate 0 '\'' ++ cs) = false from after)]
      simp

/-- A block is entered at its first character, behind the newline that it opens with if it has one. -/
theorem scan_blockText {q : Char} (quoted : q = '"' ∨ q = '\'') {content : List Char}
    (unreturned : '\r' ∉ content) (rest : List Char) :
    scan .between (blockText q content ++ rest) =
      scan (.block q [] 0) (content ++ q :: q :: q :: rest) := by
  have opened (more : List Char) :
      scan .between (q :: q :: q :: more) = scan (.blockStart q) more := by
    rcases quoted with rfl | rfl <;> simp [scan, Scan.step, begin, isWordChar]
  by_cases several : '\n' ∈ content
  · have dropped (more : List Char) :
        scan (.blockStart q) ('\n' :: more) = scan (.block q [] 0) more := by
      simp [scan, Scan.step]
    simp [blockText, several, opened, dropped]
  · obtain ⟨c, more, leads, inside, kept⟩ : ∃ c more,
        content ++ q :: q :: q :: rest = c :: more ∧ c ≠ '\n' ∧ c ≠ '\r' := by
      cases content with
      | nil => rcases quoted with rfl | rfl <;> exact ⟨_, _, rfl, by decide, by decide⟩
      | cons c more =>
        refine ⟨c, _, rfl, ?_, ?_⟩
        · rintro rfl
          exact several List.mem_cons_self
        · rintro rfl
          exact unreturned List.mem_cons_self
    have entered : scan (.blockStart q) (c :: more) = scan (.block q [] 0) (c :: more) := by
      by_cases own : c = q
      · simp [scan, Scan.step, inBlock, own ▸ inside, own ▸ kept, own]
      · simp [scan, Scan.step, inside, kept, own]
    simp [blockText, several, opened, leads, entered]

/-! ### All forms -/

/-- A text as a token: which kind of token it is depends on the form that it takes. -/
def textToken (cs : List Char) : Token :=
  match TextForm.of cs with
  | .basic | .literal => .text (String.ofList cs)
  | .basicBlock | .literalBlock => .block (String.ofList cs)

theorem TextForm.literal_plain {cs : List Char} (form : TextForm.of cs = .literal) :
    ∀ c ∈ cs, c ≠ '\'' ∧ c ≠ '\n' ∧ isControl c = false := by
  simp only [TextForm.of] at form
  split_ifs at form with basic literal
  simp only [Bool.and_eq_true, Bool.not_eq_true', List.any_eq_false, List.contains_eq_mem,
    decide_eq_false_iff_not] at literal
  obtain ⟨⟨visible, inside⟩, unquoted⟩ := literal
  intro c there
  refine ⟨?_, ?_, by simpa using visible c there⟩
  · rintro rfl
    exact unquoted there
  · rintro rfl
    exact inside there

theorem TextForm.literalBlock_plain {cs : List Char} (form : TextForm.of cs = .literalBlock) :
    (∀ c ∈ cs, isControl c = false) ∧ hasTriple '\'' cs = false := by
  simp only [TextForm.of] at form
  split_ifs at form with basic literal basicBlock literalBlock
  simpa using literalBlock

theorem digitChar_ne_return : ∀ n < 16, (Nat.digitChar n).toUpper ≠ '\r' := by
  decide

theorem escapeText_unreturned (inBlock : Bool) (bare : Nat) (cs : List Char) :
    '\r' ∉ escapeText inBlock bare cs := by
  have digit (n : Nat) := (digitChar_ne_return (n % 16) (Nat.mod_lt n (by decide))).symm
  have char (c : Char) : '\r' ∉ escapeChar inBlock c := by
    by_cases returned : c = '\r'
    · subst returned
      cases inBlock <;> decide
    · unfold escapeChar
      split_ifs <;> simp [hexDigits4, digit, Ne.symm returned]
  fun_induction escapeText inBlock bare cs <;> simp_all

theorem scan_writeText (cs rest : List Char) :
    scan .between (writeText cs ++ '\n' :: rest) = textToken cs :: scan .between ('\n' :: rest) := by
  have opened (c : Char) (quoted : c = '"' ∨ c = '\'') (more : List Char) :
      scan .between (c :: more) = scan (.quote c) more := by
    rcases quoted with rfl | rfl <;> rfl
  unfold writeText textToken
  cases form : TextForm.of cs with
  | basic =>
    have line := scan_escapeLine [] 0 cs ('\n' :: rest)
    cases cs with
    | nil => exact (opened '"' (.inl rfl) _).trans (scan_emptyText '"' (by decide))
    | cons c cs =>
      obtain ⟨d, more, leads, other⟩ : ∃ d more, escapeText false 0 (c :: cs) = d :: more ∧ d ≠ '"' := by
        by_cases quote : c = '"'
        · exact ⟨'\\', _, by rw [escapeText, if_pos quote, if_neg (by simp)], by decide⟩
        · obtain ⟨d, more, leads, other⟩ := escapeChar_leads false quote
          exact ⟨d, _, by rw [escapeText, if_neg quote, leads, List.cons_append], other⟩
      rw [leads] at line ⊢
      simp only [List.cons_append, List.append_assoc, List.nil_append] at line ⊢
      rw [opened '"' (.inl rfl), scan_quote other, line]
      rfl
  | literal =>
    have plain := TextForm.literal_plain form
    have line := scan_literalLine [] ('\n' :: rest) plain
    cases cs with
    | nil => exact (opened '\'' (.inr rfl) _).trans (scan_emptyText '\'' (by decide))
    | cons c cs =>
      simp only [List.cons_append, List.append_assoc, List.nil_append] at line ⊢
      rw [opened '\'' (.inr rfl), scan_quote (plain c List.mem_cons_self).1, line]
      rfl
  | basicBlock =>
    have block := scan_escapeBlock [] (Nat.zero_le 2) cs rest
    dsimp only
    rw [scan_blockText (.inl rfl) (escapeText_unreturned true 0 cs), block]
    rfl
  | literalBlock =>
    obtain ⟨visible, short⟩ := TextForm.literalBlock_plain form
    have unreturned : '\r' ∉ cs := by
      intro there
      exact absurd (visible _ there) (by decide)
    have block := scan_literalBlock [] (Nat.zero_le 2) rest visible
      (show hasTriple '\'' ([] ++ cs) = false from short)
    dsimp only
    rw [scan_blockText (.inr rfl) unreturned, block]
    rfl

end Switchboard.Toml
