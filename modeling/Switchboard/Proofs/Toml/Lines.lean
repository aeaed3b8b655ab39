import Switchboard.Proofs.Toml.Scalars
import Switchboard.Proofs.Toml.Texts
import Switchboard.Toml.Reader

/-!
The lines of a document are read back as the expressions that were written, whatever the values are. Keys
are bare words here, as they are wherever lines are written.
-/
namespace Switchboard.Toml

/-- A key that needs no quotes. -/
def isBare (name : String) : Bool := !name.toList.isEmpty && name.toList.all isWordChar

/-- Every key is bare, and a header has no more of them than are read. -/
def Line.isBare : Line → Bool
  | .assignment name _ => Toml.isBare name
  | .header _ path name => path.all Toml.isBare && Toml.isBare name && path.length < maxKeys

/-! ### Tokens -/

def keyTokens (path : List String) (name : String) : List Token :=
  path.flatMap (fun s => [.word s.toList, .mark '.']) ++ [.word name.toList]

def Plain.tokens : Plain → List Token
  | .bool b => [.word (toString b).toList]
  | .int n => [.word (toString n).toList]
  | .text s => [textToken s.toList]
  | .noItems => [.mark '[', .mark ']']

def Line.tokens : Line → List Token
  | .assignment name value =>
    .word name.toList :: .blank true :: .mark '=' :: .blank true :: value.tokens ++ [.newline]
  | .header true path name =>
    .newline :: .mark '[' :: .mark '[' :: keyTokens path name ++ [.mark ']', .mark ']', .newline]
  | .header false path name =>
    .newline :: .mark '[' :: keyTokens path name ++ [.mark ']', .newline]

theorem begin_word {c : Char} (word : isWordChar c = true) : begin c = ([], .word [c]) := by
  rw [begin, if_pos word]

/-- A word ends where another character follows. -/
theorem scan_word {word : List Char} (some : word ≠ []) (inWord : ∀ c ∈ word, isWordChar c = true)
    {c : Char} (ends : isWordChar c = false) (rest : List Char) :
    scan .between (word ++ c :: rest) = .word word :: scan .between (c :: rest) := by
  have goesOn (read word : List Char) (inWord : ∀ c ∈ word, isWordChar c = true) :
      scan (.word read) (word ++ c :: rest) =
        .word (read.reverse ++ word) :: scan .between (c :: rest) := by
    induction word generalizing read with
    | nil =>
      have ended : (Scan.word read).step c = (begin c).after [.word read.reverse] := by
        simp [Scan.step, ends]
      simpa using scan_ended ended rest
    | cons d word ih =>
      have further := ih (d :: read) fun e there => inWord e (List.mem_cons_of_mem d there)
      simpa [scan, Scan.step, inWord d List.mem_cons_self] using further
  cases word with
  | nil => exact absurd rfl some
  | cons d word =>
    have later := goesOn [d] word fun e there => inWord e (List.mem_cons_of_mem d there)
    simpa [scan, Scan.step, begin_word (inWord d List.mem_cons_self)] using later

theorem scan_bare {name : String} (bare : isBare name = true) {c : Char} (ends : isWordChar c = false)
    (rest : List Char) :
    scan .between (name.toList ++ c :: rest) = .word name.toList :: scan .between (c :: rest) := by
  simp only [isBare, Bool.and_eq_true, Bool.not_eq_true', List.isEmpty_eq_false_iff,
    List.all_eq_true] at bare
  exact scan_word bare.1 bare.2 ends rest

theorem scan_mark {c : Char} (mark : begin c = ([.mark c], .between)) (rest : List Char) :
    scan .between (c :: rest) = .mark c :: scan .between rest := by
  simp [scan, Scan.step, mark]

theorem scan_space {c : Char} (space : c ≠ ' ') (tab : c ≠ '\t') (rest : List Char) :
    scan .between (' ' :: c :: rest) = .blank true :: scan .between (c :: rest) := by
  have ended : (Scan.blank true).step c = (begin c).after [.blank true] := by
    simp [Scan.step, space, tab]
  exact scan_ended ended rest

theorem isWordChar_toString (n : Int) : ∀ c ∈ (toString n).toList, isWordChar c = true := by
  intro c there
  rw [Text.toList_toString] at there
  rcases List.mem_append.mp there with sign | digit
  · split at sign
    · rw [List.mem_singleton] at sign
      subst sign
      decide
    · cases sign
  · simp [isWordChar, Char.isAlphanum, Text.isDigit_toDigits digit]

theorem scan_plain (value : Plain) (rest : List Char) :
    scan .between (value.write ++ '\n' :: rest) = value.tokens ++ scan .between ('\n' :: rest) := by
  cases value with
  | bool b =>
    have inWord : ∀ c ∈ (toString b).toList, isWordChar c = true := by
      rw [← List.all_eq_true]
      cases b <;> decide
    exact scan_word (by cases b <;> decide) inWord (by decide) rest
  | int n =>
    have some : (toString n).toList ≠ [] := by
      rw [Text.toList_toString]
      simp
    exact scan_word some (isWordChar_toString n) (by decide) rest
  | text s => exact scan_writeText s.toList rest
  | noItems => rfl

/-- A value does not begin with a blank. -/
theorem write_leads (value : Plain) :
    ∃ c more, value.write = c :: more ∧ c ≠ ' ' ∧ c ≠ '\t' := by
  cases value with
  | bool b => cases b <;> exact ⟨_, _, rfl, by decide, by decide⟩
  | int n =>
    cases all : (toString n).toList with
    | nil =>
      rw [Text.toList_toString] at all
      simp at all
    | cons c more =>
      have word := isWordChar_toString n c (all ▸ List.mem_cons_self)
      refine ⟨c, more, all, ?_, ?_⟩
      · rintro rfl
        exact absurd word (by decide)
      · rintro rfl
        exact absurd word (by decide)
  | text s =>
    simp only [Plain.write, writeText]
    cases TextForm.of s.toList <;> exact ⟨_, _, rfl, by decide, by decide⟩
  | noItems => exact ⟨_, _, rfl, by decide, by decide⟩

theorem scan_key {path : List String} {name : String} (barePath : ∀ s ∈ path, isBare s = true)
    (bareName : isBare name = true) {c : Char} (ends : isWordChar c = false) (rest : List Char) :
    scan .between (path.flatMap (fun s => s.toList ++ ['.']) ++ name.toList ++ c :: rest) =
      keyTokens path name ++ scan .between (c :: rest) := by
  induction path with
  | nil => simpa [keyTokens] using scan_bare bareName ends rest
  | cons s path ih =>
    have later := ih fun t there => barePath t (List.mem_cons_of_mem s there)
    have first := scan_bare (barePath s List.mem_cons_self) (show isWordChar '.' = false by decide)
      (path.flatMap (fun s => s.toList ++ ['.']) ++ name.toList ++ c :: rest)
    rw [scan_mark rfl, later] at first
    simpa [keyTokens] using first

theorem scan_line {line : Line} (bare : line.isBare = true) (rest : List Char) :
    scan .between (line.write ++ rest) = line.tokens ++ scan .between rest := by
  cases line with
  | assignment name value =>
    obtain ⟨c, more, leads, space, tab⟩ := write_leads value
    have written := scan_plain value rest
    calc scan .between ((Line.assignment name value).write ++ rest)
      _ = scan .between (name.toList ++ ' ' :: '=' :: ' ' :: (value.write ++ '\n' :: rest)) := by
        simp [Line.write]
      _ = .word name.toList :: scan .between (' ' :: '=' :: ' ' :: (value.write ++ '\n' :: rest)) :=
        scan_bare bare (by decide) _
      _ = .word name.toList :: .blank true :: .mark '=' ::
          scan .between (' ' :: (value.write ++ '\n' :: rest)) := by
        rw [scan_space (by decide) (by decide), scan_mark rfl]
      _ = .word name.toList :: .blank true :: .mark '=' :: .blank true ::
          (value.tokens ++ scan .between ('\n' :: rest)) := by
        rw [← written, leads, List.cons_append, scan_space space tab]
      _ = (Line.assignment name value).tokens ++ scan .between rest := by
        simp [Line.tokens, scan, Scan.step, begin, isWordChar]
  | header repeated path name =>
    simp only [Line.isBare, Bool.and_eq_true, List.all_eq_true] at bare
    obtain ⟨⟨barePath, bareName⟩, _⟩ := bare
    have key (more : List Char) := scan_key barePath bareName (show isWordChar ']' = false by decide) more
    have open_ (more : List Char) : scan .between ('[' :: more) = .mark '[' :: scan .between more :=
      scan_mark rfl more
    have close (more : List Char) : scan .between (']' :: more) = .mark ']' :: scan .between more :=
      scan_mark rfl more
    have newline (more : List Char) : scan .between ('\n' :: more) = .newline :: scan .between more := rfl
    cases repeated with
    | true =>
      have inside := key (']' :: '\n' :: rest)
      simp only [List.append_assoc] at inside
      simp [Line.write, Line.tokens, newline, open_, inside, close]
    | false =>
      have inside := key ('\n' :: rest)
      simp only [List.append_assoc] at inside
      simp [Line.write, Line.tokens, newline, open_, inside, close]

theorem scan_lines {lines : List Line} (bare : ∀ line ∈ lines, line.isBare = true) :
    scan .between (lines.flatMap Line.write) = lines.flatMap Line.tokens := by
  induction lines with
  | nil => rfl
  | cons line lines ih =>
    rw [List.flatMap_cons, List.flatMap_cons, scan_line (bare line List.mem_cons_self),
      ih fun other there => bare other (List.mem_cons_of_mem line there)]

/-! ### Expressions -/

theorem read_go {levels levels' : List Level} {mode mode' : Mode} {t : Token}
    (stepped : step levels mode t = go levels' mode') (rest : List Token) :
    read levels mode (t :: rest) = read levels' mode' rest := by
  rw [read, stepped]
  simp [go]

theorem read_gives {levels levels' : List Level} {mode mode' : Mode} {t : Token} {e : Expression}
    (stepped : step levels mode t = some ([e], levels', mode')) (rest : List Token) :
    read levels mode (t :: rest) = (read levels' mode' rest).map (e :: ·) := by
  rw [read, stepped]
  rfl

theorem read_scalar (path : List String) (name : String) {word : List Char} {d : Datum}
    (scalar : scalar? word = some d) (rest : List Token) :
    read [.line path name] .value (.word word :: .newline :: rest) =
      (read [] .line rest).map (.assignment path name d :: ·) := by
  have started : step [.line path name] .value (.word word) =
      go [.line path name] (.scalar word.reverse) := rfl
  have ended : step [.line path name] (.scalar word.reverse) .newline =
      some ([.assignment path name d], [], .line) := by
    show endScalar [.line path name] word.reverse .newline = _
    simp [endScalar, scalar, put, afterLine, go]
  rw [read_go started, read_gives ended]

theorem read_plain (path : List String) (name : String) {value : Plain}
    (writable : value.isWritable = true) (rest : List Token) :
    read [.line path name] .value (value.tokens ++ .newline :: rest) =
      (read [] .line rest).map (.assignment path name value.datum :: ·) := by
  have ended (rest : List Token) : read [] .lineEnd (.newline :: rest) = read [] .line rest :=
    read_go rfl rest
  cases value with
  | bool b => exact read_scalar path name (scalar?_bool b) rest
  | int n =>
    simp only [Plain.isWritable, Bool.and_eq_true, decide_eq_true_eq] at writable
    exact read_scalar path name (scalar?_int writable) rest
  | text s =>
    have given : step [.line path name] .value (textToken s.toList) =
        some ([.assignment path name (.text s)], [], .lineEnd) := by
      have whole : put (.text (String.ofList s.toList)) [.line path name] =
          some ([.assignment path name (.text s)], [], .lineEnd) := by
        rw [String.ofList_toList]
        rfl
      unfold textToken
      cases TextForm.of s.toList <;> exact whole
    rw [Plain.tokens, List.singleton_append, read_gives given, ended]
    rfl
  | noItems =>
    have opened : step [.line path name] .value (.mark '[') = go [.list [], .line path name] .item := rfl
    have closed : step [.list [], .line path name] .item (.mark ']') =
        some ([.assignment path name (.list [])], [], .lineEnd) := rfl
    rw [Plain.tokens, List.cons_append, List.singleton_append, read_go opened, read_gives closed, ended]
    rfl

/-- Keys are collected up to the last of them. -/
theorem read_keys (use : KeyUse) (keys path : List String) (name : String)
    (few : keys.length + path.length < maxKeys) (rest : List Token) :
    read [] (.key use keys) (keyTokens path name ++ rest) =
      read [] (.keyEnd use (name :: (path.reverse ++ keys))) rest := by
  have word (keys : List String) (few : keys.length < maxKeys) (s : String) :
      step [] (.key use keys) (.word s.toList) = go [] (.keyEnd use (s :: keys)) := by
    show addKey [] use keys (String.ofList s.toList) = _
    rw [addKey, if_pos few, String.ofList_toList]
  induction path generalizing keys with
  | nil => exact read_go (word keys few name) rest
  | cons s path ih =>
    rw [List.length_cons] at few
    have dot : step [] (.keyEnd use (s :: keys)) (.mark '.') = go [] (.key use (s :: keys)) := rfl
    have more := ih (s :: keys) (by rw [List.length_cons]; omega)
    calc read [] (.key use keys) (keyTokens (s :: path) name ++ rest)
      _ = read [] (.key use keys) (.word s.toList :: .mark '.' :: (keyTokens path name ++ rest)) := by
        simp [keyTokens]
      _ = read [] (.keyEnd use (name :: (path.reverse ++ s :: keys))) rest := by
        rw [read_go (word keys (by omega) s), read_go dot, more]
      _ = read [] (.keyEnd use (name :: ((s :: path).reverse ++ keys))) rest := by simp

theorem read_line {line : Line} (bare : line.isBare = true) (writable : line.isWritable = true)
    (rest : List Token) :
    read [] .line (line.tokens ++ rest) = (read [] .line rest).map (line.expression :: ·) := by
  cases line with
  | assignment name value =>
    have named : step [] .line (.word name.toList) = go [] (.keyEnd .line [name]) := by
      show addKey [] .line [] (String.ofList name.toList) = _
      rw [String.ofList_toList]
      rfl
    have blank : step [] (.keyEnd .line [name]) (.blank true) = go [] (.keyEnd .line [name]) := rfl
    have equals : step [] (.keyEnd .line [name]) (.mark '=') = go [.line [] name] .value := rfl
    have space : step [.line [] name] .value (.blank true) = go [.line [] name] .value := rfl
    have valued := read_plain [] name writable rest
    simp only [Line.tokens, List.cons_append, List.append_assoc, List.nil_append]
    rw [read_go named, read_go blank, read_go equals, read_go space, valued]
    rfl
  | header repeated path name =>
    simp only [Line.isBare, Bool.and_eq_true, decide_eq_true_eq] at bare
    obtain ⟨_, few⟩ := bare
    have fits : ([] : List String).length + path.length < maxKeys := by simpa using few
    have empty (rest : List Token) : read [] .line (.newline :: rest) = read [] .line rest :=
      read_go rfl rest
    have bracket (rest : List Token) : read [] .line (.mark '[' :: rest) = read [] .header rest :=
      read_go rfl rest
    have ended (rest : List Token) : read [] .lineEnd (.newline :: rest) = read [] .line rest :=
      read_go rfl rest
    cases repeated with
    | true =>
      have keyed : step [] .header (.mark '[') = go [] (.key (.header true) []) := rfl
      have closing : step [] (.keyEnd (.header true) (name :: path.reverse)) (.mark ']') =
          go [] (.headerEnd (name :: path.reverse)) := rfl
      have closed : step [] (.headerEnd (name :: path.reverse)) (.mark ']') =
          some ([.header true path name], [], .lineEnd) := by
        show some ([Expression.header true path.reverse.reverse name], [], Mode.lineEnd) = _
        rw [List.reverse_reverse]
      simp only [Line.tokens, List.cons_append, List.append_assoc, List.nil_append]
      rw [empty, bracket, read_go keyed, read_keys _ [] path name fits, List.append_nil,
        read_go closing, read_gives closed, ended]
      rfl
    | false =>
      have closed : step [] (.keyEnd (.header false) (name :: path.reverse)) (.mark ']') =
          some ([.header false path name], [], .lineEnd) := by
        show some ([Expression.header false path.reverse.reverse name], [], Mode.lineEnd) = _
        rw [List.reverse_reverse]
      have keyed (rest : List Token) : read [] .header (keyTokens path name ++ rest) =
          read [] (.key (.header false) []) (keyTokens path name ++ rest) := by
        cases path <;> rfl
      simp only [Line.tokens, List.cons_append, List.append_assoc, List.nil_append]
      rw [empty, bracket, keyed, read_keys _ [] path name fits, List.append_nil, read_gives closed,
        ended]
      rfl

/-- No line begins with the mark of byte order. -/
theorem line_leads {line : Line} (bare : line.isBare = true) :
    ∃ c more, line.write = c :: more ∧ c.toNat ≠ 0xfeff := by
  cases line with
  | assignment name value =>
    simp only [Line.isBare, isBare, Bool.and_eq_true, Bool.not_eq_true', List.isEmpty_eq_false_iff,
      List.all_eq_true] at bare
    obtain ⟨some, inWord⟩ := bare
    cases all : name.toList with
    | nil => exact absurd all some
    | cons c more =>
      refine ⟨c, _, by simp [Line.write, all]; rfl, ?_⟩
      intro marked
      have word := inWord c (all ▸ List.mem_cons_self)
      rw [← Char.ofNat_toNat c, marked] at word
      exact absurd word (by decide)
  | header repeated path name => cases repeated <;> exact ⟨_, _, rfl, by decide⟩

theorem tokens_lines {lines : List Line} (bare : ∀ line ∈ lines, line.isBare = true) :
    tokens (lines.flatMap Line.write) = lines.flatMap Line.tokens := by
  rw [← scan_lines bare]
  cases lines with
  | nil => rfl
  | cons line lines =>
    obtain ⟨c, more, leads, unmarked⟩ := line_leads (bare line List.mem_cons_self)
    simp [leads, tokens, unmarked]

/-- The expressions of a document are those that were written. -/
theorem expressions?_lines {lines : List Line} (bare : ∀ line ∈ lines, line.isBare = true)
    (writable : ∀ line ∈ lines, line.isWritable = true) :
    expressions? (lines.flatMap Line.write) = some (lines.map Line.expression) := by
  have readAll : read [] .line (lines.flatMap Line.tokens ++ [.newline]) =
      some (lines.map Line.expression) := by
    induction lines with
    | nil => rfl
    | cons line lines ih =>
      have later := ih (fun other there => bare other (List.mem_cons_of_mem line there))
        (fun other there => writable other (List.mem_cons_of_mem line there))
      rw [List.flatMap_cons, List.append_assoc,
        read_line (bare line List.mem_cons_self) (writable line List.mem_cons_self), later]
      rfl
  rw [expressions?, tokens_lines bare, readAll]

end Switchboard.Toml
