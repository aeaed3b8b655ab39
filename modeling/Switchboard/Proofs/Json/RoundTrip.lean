import Switchboard.Json.Reader
import Switchboard.Proofs.Json.Scanning

/-!
A datum survives being written and read, unless it holds a double, a whole number beyond 64 bits or
more open lists and records than a reader accepts. The tokens in between are `tokensOf`: writing and
scanning give them, and reading takes them back.
-/
namespace Switchboard.Json

mutual

/-- No doubles, and whole numbers that fit into 64 bits. -/
def Exact : Datum → Prop
  | .int n => -0x8000000000000000 ≤ n ∧ n < 0x10000000000000000
  | .float _ => False
  | .list items => ExactItems items
  | .record fields => ExactFields fields
  | _ => True

def ExactItems : List Datum → Prop
  | [] => True
  | d :: rest => Exact d ∧ ExactItems rest

def ExactFields : List (String × Datum) → Prop
  | [] => True
  | (_, d) :: rest => Exact d ∧ ExactFields rest

end

mutual

/-- How many lists and records are open at a time. -/
def depth : Datum → Nat
  | .list items => depthItems items + 1
  | .record fields => depthFields fields + 1
  | _ => 0

def depthItems : List Datum → Nat
  | [] => 0
  | d :: rest => max (depth d) (depthItems rest)

def depthFields : List (String × Datum) → Nat
  | [] => 0
  | (_, d) :: rest => max (depth d) (depthFields rest)

end

mutual

def tokensOf : Datum → List Token
  | .text s => [.text s]
  | .list items => .openList :: tokensOfItems items ++ [.closeList]
  | .record fields => .openRecord :: tokensOfFields fields ++ [.closeRecord]
  | d => [.scalar d]

def tokensOfItems : List Datum → List Token
  | [] => []
  | [d] => tokensOf d
  | d :: rest => tokensOf d ++ .comma :: tokensOfItems rest

def tokensOfFields : List (String × Datum) → List Token
  | [] => []
  | [(name, d)] => .text name :: .colon :: tokensOf d
  | (name, d) :: rest => .text name :: .colon :: tokensOf d ++ .comma :: tokensOfFields rest

end

/-! ### Scanning -/

theorem scan_int {n : Int} (exact : Exact (.int n)) {rest : List Char} (ends : Ends rest) :
    scan .between (write (.int n) ++ rest) = .scalar (.int n) :: scan .between rest := by
  obtain ⟨low, high⟩ : -0x8000000000000000 ≤ n ∧ n < 0x10000000000000000 := by
    simpa [Exact] using exact
  have written : write (.int n) = (if n < 0 then ['-'] else []) ++ Nat.toDigits 10 n.natAbs := by
    rw [write, Text.toList_toString]
  have token : plainToken (write (.int n)) = .scalar (.int n) := by
    have fits : n.natAbs < 0x10000000000000000 := by omega
    have signed : decide (n < 0) = true → 0 < n.natAbs ∧ n.natAbs ≤ 0x8000000000000000 := by
      intro below
      rw [decide_eq_true_eq] at below
      omega
    have digits := plainToken_digits fits signed
    simp only [decide_eq_true_eq] at digits
    rw [written, digits]
    congr 2
    split <;> omega
  have some : write (.int n) ≠ [] := by
    rw [written]
    simp
  have plain : ∀ c ∈ write (.int n), isPlain c = true := by
    intro c there
    rw [written, List.mem_append] at there
    rcases there with sign | digit
    · split at sign
      · rw [List.mem_singleton] at sign
        subst sign
        decide
      · cases sign
    · exact isPlain_digit (Text.isDigit_toDigits digit)
  rw [scan_word some plain ends, token]

mutual

theorem scan_write (d : Datum) (exact : Exact d) {rest : List Char} (ends : Ends rest) :
    scan .between (write d ++ rest) = tokensOf d ++ scan .between rest := by
  match d with
  | .null =>
    have some : "null".toList ≠ [] := by decide
    exact scan_word some (List.all_eq_true.mp (by decide)) ends
  | .bool true =>
    have some : "true".toList ≠ [] := by decide
    exact scan_word some (List.all_eq_true.mp (by decide)) ends
  | .bool false =>
    have some : "false".toList ≠ [] := by decide
    exact scan_word some (List.all_eq_true.mp (by decide)) ends
  | .int n => exact scan_int exact ends
  | .float x => simp [Exact] at exact
  | .text s =>
    rw [write]
    exact scan_writeText s rest
  | .list items =>
    rw [Exact] at exact
    calc scan .between (write (.list items) ++ rest)
      _ = scan .between ('[' :: (writeItems items ++ ']' :: rest)) := by simp [write]
      _ = .openList :: scan .between (writeItems items ++ ']' :: rest) := rfl
      _ = .openList :: (tokensOfItems items ++ scan .between (']' :: rest)) := by
        rw [scan_writeItems items exact (show Ends (']' :: rest) from rfl)]
      _ = .openList :: (tokensOfItems items ++ .closeList :: scan .between rest) := rfl
      _ = tokensOf (.list items) ++ scan .between rest := by simp [tokensOf]
  | .record fields =>
    rw [Exact] at exact
    calc scan .between (write (.record fields) ++ rest)
      _ = scan .between (Char.ofNat 0x7b :: (writeFields fields ++ Char.ofNat 0x7d :: rest)) := by
        simp [write]
      _ = .openRecord :: scan .between (writeFields fields ++ Char.ofNat 0x7d :: rest) := rfl
      _ = .openRecord :: (tokensOfFields fields ++ scan .between (Char.ofNat 0x7d :: rest)) := by
        rw [scan_writeFields fields exact (show Ends (Char.ofNat 0x7d :: rest) from rfl)]
      _ = .openRecord :: (tokensOfFields fields ++ .closeRecord :: scan .between rest) := rfl
      _ = tokensOf (.record fields) ++ scan .between rest := by simp [tokensOf]

theorem scan_writeItems (items : List Datum) (exact : ExactItems items) {rest : List Char}
    (ends : Ends rest) :
    scan .between (writeItems items ++ rest) = tokensOfItems items ++ scan .between rest := by
  match items with
  | [] => rfl
  | [d] =>
    rw [ExactItems] at exact
    exact scan_write d exact.1 ends
  | d :: e :: more =>
    rw [ExactItems] at exact
    let others := writeItems (e :: more) ++ rest
    calc scan .between (writeItems (d :: e :: more) ++ rest)
      _ = scan .between (write d ++ ',' :: others) := by simp [writeItems, others]
      _ = tokensOf d ++ scan .between (',' :: others) := scan_write d exact.1 rfl
      _ = tokensOf d ++ .comma :: scan .between others := rfl
      _ = tokensOf d ++ .comma :: (tokensOfItems (e :: more) ++ scan .between rest) := by
        rw [scan_writeItems (e :: more) exact.2 ends]
      _ = tokensOfItems (d :: e :: more) ++ scan .between rest := by simp [tokensOfItems]

theorem scan_writeFields (fields : List (String × Datum)) (exact : ExactFields fields)
    {rest : List Char} (ends : Ends rest) :
    scan .between (writeFields fields ++ rest) = tokensOfFields fields ++ scan .between rest := by
  match fields with
  | [] => rfl
  | [(name, d)] =>
    rw [ExactFields] at exact
    calc scan .between (writeFields [(name, d)] ++ rest)
      _ = scan .between (writeText name ++ ':' :: (write d ++ rest)) := by simp [writeFields]
      _ = .text name :: scan .between (':' :: (write d ++ rest)) := scan_writeText name _
      _ = .text name :: .colon :: scan .between (write d ++ rest) := rfl
      _ = .text name :: .colon :: (tokensOf d ++ scan .between rest) := by
        rw [scan_write d exact.1 ends]
      _ = tokensOfFields [(name, d)] ++ scan .between rest := by simp [tokensOfFields]
  | (name, d) :: field :: more =>
    rw [ExactFields] at exact
    let others := writeFields (field :: more) ++ rest
    calc scan .between (writeFields ((name, d) :: field :: more) ++ rest)
      _ = scan .between (writeText name ++ ':' :: (write d ++ ',' :: others)) := by
        simp [writeFields, others]
      _ = .text name :: scan .between (':' :: (write d ++ ',' :: others)) := scan_writeText name _
      _ = .text name :: .colon :: scan .between (write d ++ ',' :: others) := rfl
      _ = .text name :: .colon :: (tokensOf d ++ scan .between (',' :: others)) := by
        rw [scan_write d exact.1 (show Ends (',' :: others) from rfl)]
      _ = .text name :: .colon :: (tokensOf d ++ .comma :: scan .between others) := rfl
      _ = .text name :: .colon ::
          (tokensOf d ++ .comma :: (tokensOfFields (field :: more) ++ scan .between rest)) := by
        rw [scan_writeFields (field :: more) exact.2 ends]
      _ = tokensOfFields ((name, d) :: field :: more) ++ scan .between rest := by
        simp [tokensOfFields]

end

/-! ### Reading -/

/-- How reading goes on. -/
def Progress.next : Progress → List Token → Option (Datum × List Token)
  | .complete d, rest => some (d, rest)
  | .waiting levels expected, rest => read levels expected rest

theorem read_accepted {levels : List Level} {expected : Expected} {t : Token} {p : Progress}
    (accepted : accept levels expected t = some p) (rest : List Token) :
    read levels expected (t :: rest) = p.next rest := by
  rw [read, accepted]
  cases p <;> rfl

/-- A value may be the first item of a list, since it does not begin with the end of one. -/
theorem read_firstItem (d : Datum) (levels : List Level) (rest : List Token) :
    read levels .firstItem (tokensOf d ++ rest) = read levels .value (tokensOf d ++ rest) := by
  have value (t : Token) (open_ : t ≠ .closeList) (more : List Token) :
      read levels .firstItem (t :: more) = read levels .value (t :: more) := by
    cases t <;> first | rfl | exact absurd rfl open_
  cases d <;> simp only [tokensOf, List.cons_append, List.nil_append] <;>
    exact value _ (by simp) _

theorem read_firstItem_items {items : List Datum} (some : items ≠ []) (levels : List Level)
    (rest : List Token) :
    read levels .firstItem (tokensOfItems items ++ rest) =
      read levels .value (tokensOfItems items ++ rest) := by
  match items with
  | [] => exact absurd rfl some
  | [d] => exact read_firstItem d levels rest
  | d :: e :: more =>
    simp only [tokensOfItems, List.append_assoc]
    exact read_firstItem d levels _

theorem read_firstName {fields : List (String × Datum)} (some : fields ≠ []) (levels : List Level)
    (rest : List Token) :
    read levels .firstName (tokensOfFields fields ++ rest) =
      read levels .name (tokensOfFields fields ++ rest) := by
  match fields with
  | [] => exact absurd rfl some
  | [field] => rfl
  | field :: next :: more => rfl

mutual

theorem read_tokensOf (d : Datum) {levels : List Level}
    (shallow : levels.length + depth d ≤ maxDepth) (rest : List Token) :
    read levels .value (tokensOf d ++ rest) = (Progress.put d levels).next rest := by
  match d with
  | .null | .bool _ | .int _ | .float _ | .text _ => exact read_accepted rfl rest
  | .list items =>
    rw [depth] at shallow
    have room : levels.length < maxDepth := by omega
    have opened : accept levels .value .openList = some (.waiting (.list [] :: levels) .firstItem) := by
      simp [accept, startValue, room]
    rw [tokensOf, List.append_assoc, List.cons_append, read_accepted opened, Progress.next]
    by_cases none : items = []
    · subst none
      exact read_accepted rfl rest
    · rw [read_firstItem_items none]
      exact read_tokensOfItems items none [] (by omega) rest
  | .record fields =>
    rw [depth] at shallow
    have room : levels.length < maxDepth := by omega
    have opened : accept levels .value .openRecord =
        some (.waiting (.record [] "" :: levels) .firstName) := by
      simp [accept, startValue, room]
    rw [tokensOf, List.append_assoc, List.cons_append, read_accepted opened, Progress.next]
    by_cases none : fields = []
    · subst none
      exact read_accepted rfl rest
    · rw [read_firstName none]
      exact read_tokensOfFields fields none [] "" (by omega) rest

theorem read_tokensOfItems (items : List Datum) (some : items ≠ []) (seen : List Datum)
    {outer : List Level} (shallow : outer.length + 1 + depthItems items ≤ maxDepth)
    (rest : List Token) :
    read (.list seen :: outer) .value (tokensOfItems items ++ .closeList :: rest) =
      (Progress.put (.list (seen.reverse ++ items)) outer).next rest := by
  match items with
  | [] => exact absurd rfl some
  | [d] =>
    have room : (Level.list seen :: outer).length + depth d ≤ maxDepth := by
      simp only [depthItems] at shallow
      rw [List.length_cons]
      omega
    have closed : accept (.list (d :: seen) :: outer) .next .closeList =
        Option.some (.put (.list (d :: seen).reverse) outer) := rfl
    rw [tokensOfItems, read_tokensOf d room, Progress.put, Progress.next, read_accepted closed,
      List.reverse_cons]
  | d :: e :: more =>
    rw [depthItems] at shallow
    have room : (Level.list seen :: outer).length + depth d ≤ maxDepth := by
      rw [List.length_cons]
      omega
    have below : outer.length + 1 + depthItems (e :: more) ≤ maxDepth := by omega
    have others := read_tokensOfItems (e :: more) (List.cons_ne_nil e more) (d :: seen) below rest
    have comma : accept (.list (d :: seen) :: outer) .next .comma =
        Option.some (.waiting (.list (d :: seen) :: outer) .value) := rfl
    simp only [tokensOfItems, List.append_assoc, List.cons_append]
    rw [read_tokensOf d room, Progress.put, Progress.next, read_accepted comma, Progress.next, others]
    simp

theorem read_tokensOfFields (fields : List (String × Datum)) (some : fields ≠ [])
    (seen : List (String × Datum)) (name : String) {outer : List Level}
    (shallow : outer.length + 1 + depthFields fields ≤ maxDepth) (rest : List Token) :
    read (.record seen name :: outer) .name (tokensOfFields fields ++ .closeRecord :: rest) =
      (Progress.put (.record (seen.reverse ++ fields)) outer).next rest := by
  have named (name₁ : String) (more : List Token) :
      read (.record seen name :: outer) .name (.text name₁ :: .colon :: more) =
        read (.record seen name₁ :: outer) .value more := by
    rw [read_accepted rfl, Progress.next, read_accepted rfl]
    rfl
  match fields with
  | [] => exact absurd rfl some
  | [(name₁, d)] =>
    have room : (Level.record seen name₁ :: outer).length + depth d ≤ maxDepth := by
      simp only [depthFields] at shallow
      rw [List.length_cons]
      omega
    have closed : accept (.record ((name₁, d) :: seen) "" :: outer) .next .closeRecord =
        Option.some (.put (.record ((name₁, d) :: seen).reverse) outer) := rfl
    simp only [tokensOfFields, List.cons_append]
    rw [named, read_tokensOf d room, Progress.put, Progress.next, read_accepted closed,
      List.reverse_cons]
  | (name₁, d) :: field :: more =>
    rw [depthFields] at shallow
    have room : (Level.record seen name₁ :: outer).length + depth d ≤ maxDepth := by
      rw [List.length_cons]
      omega
    have below : outer.length + 1 + depthFields (field :: more) ≤ maxDepth := by omega
    have comma : accept (.record ((name₁, d) :: seen) "" :: outer) .next .comma =
        Option.some (.waiting (.record ((name₁, d) :: seen) "" :: outer) .name) := rfl
    have others := read_tokensOfFields (field :: more) (List.cons_ne_nil field more)
      ((name₁, d) :: seen) "" below rest
    simp only [tokensOfFields, List.cons_append, List.append_assoc]
    rw [named, read_tokensOf d room, Progress.put, Progress.next, read_accepted comma, Progress.next,
      others]
    simp

end

/-- What was written is read back, and nothing is left behind it. -/
theorem first?_write {d : Datum} (exact : Exact d) (shallow : depth d ≤ maxDepth) :
    first? (write d) = some (d, false) := by
  have scanned : tokens (write d) = tokensOf d := by
    have all := scan_write d exact (show Ends [] from trivial)
    simpa [tokens, scan, Scan.finish] using all
  have fits : ([] : List Level).length + depth d ≤ maxDepth := by simpa using shallow
  have taken := read_tokensOf d fits []
  rw [List.append_nil] at taken
  rw [first?, scanned, taken]
  rfl

end Switchboard.Json
