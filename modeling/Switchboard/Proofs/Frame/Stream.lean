import Switchboard.Proofs.Frame.RoundTrip

/-!
A reader that takes one frame after the other from a stream. Each result costs its own bytes and no
others, so that the bodies of a stream are told apart by their lengths alone, whatever they hold, and
the reader comes to the end of any bytes at all.
-/
namespace Switchboard.Frame

open Text (Bytes)

/-- A body behind its length. -/
def framed (body : Bytes) : Bytes := lengthBytes body.length ++ body

/-- A body that a reader takes: there is something in it, and not more than the limit. -/
def Fits (limit : Nat) (body : Bytes) : Prop := 0 < body.length ∧ body.length ≤ limit

instance (limit : Nat) (body : Bytes) : Decidable (Fits limit body) :=
  inferInstanceAs (Decidable (_ ∧ _))

@[simp] theorem length_lengthBytes (n : Nat) : (lengthBytes n).length = 4 := rfl

/-! ### The front of a stream -/

/-- What a reader finds at the front of the bytes. -/
inductive Leads (limit : Nat) : Bytes → Cut → Prop
  | shortLength {bytes : Bytes} (short : bytes.length < 4) : Leads limit bytes .shortLength
  | empty {a b c d rest} (none : lengthOf a b c d = 0) :
      Leads limit (a :: b :: c :: d :: rest) (.empty rest)
  | oversized {a b c d rest} (above : limit < lengthOf a b c d) :
      Leads limit (a :: b :: c :: d :: rest) (.oversized (lengthOf a b c d) rest)
  | shortBody {a b c d} {part : Bytes} (fits : lengthOf a b c d ≤ limit)
      (short : part.length < lengthOf a b c d) :
      Leads limit (a :: b :: c :: d :: part) .shortBody
  | body {a b c d} {body rest : Bytes} (length : lengthOf a b c d = body.length)
      (fits : Fits limit body) : Leads limit (a :: b :: c :: d :: (body ++ rest)) (.body body rest)

theorem cut_leads (limit : Nat) (bytes : Bytes) : Leads limit bytes (cut limit bytes) := by
  match bytes with
  | [] => exact .shortLength (by decide)
  | [_] => exact .shortLength (by simp)
  | [_, _] => exact .shortLength (by simp)
  | [_, _, _] => exact .shortLength (by simp)
  | a :: b :: c :: d :: rest =>
    simp only [cut, List.length_take]
    split
    · next none => exact .empty none
    · split
      · next above => exact .oversized above
      · next some within =>
        split
        · next short => exact .shortBody (Nat.le_of_not_lt within) (by omega)
        · next whole =>
          have length : lengthOf a b c d = (rest.take (lengthOf a b c d)).length := by
            rw [List.length_take]
            omega
          have fits : Fits limit (rest.take (lengthOf a b c d)) := ⟨by omega, by omega⟩
          have found : Leads limit
              (a :: b :: c :: d ::
                (rest.take (lengthOf a b c d) ++ rest.drop (lengthOf a b c d)))
              (.body (rest.take (lengthOf a b c d)) (rest.drop (lengthOf a b c d))) :=
            .body length fits
          rwa [List.take_append_drop] at found

theorem Leads.cut_eq {limit : Nat} {bytes : Bytes} {front : Cut} (leads : Leads limit bytes front) :
    cut limit bytes = front := by
  cases leads with
  | shortLength short =>
    match bytes, short with
    | [], _ => rfl
    | [_], _ => rfl
    | [_, _], _ => rfl
    | [_, _, _], _ => rfl
  | empty none => simp [cut, none]
  | @oversized a b c d _ above =>
    have some : lengthOf a b c d ≠ 0 := Nat.ne_of_gt (Nat.zero_lt_of_lt above)
    simp [cut, some, above]
  | @shortBody a b c d part fits short =>
    have some : lengthOf a b c d ≠ 0 := Nat.ne_of_gt (Nat.zero_lt_of_lt short)
    have cutOff : (part.take (lengthOf a b c d)).length < lengthOf a b c d := by
      rw [List.length_take]
      omega
    simp only [cut, some, Nat.not_lt_of_le fits, cutOff, if_true, if_false]
  | body length fits =>
    simp [cut, length, Nat.ne_of_gt fits.1, Nat.not_lt_of_le fits.2]

/-- Four bytes tell a length up to its multiples of `2^32`. -/
theorem lengthOf_lengthBytes_mod (n : Nat) :
    lengthOf (UInt8.ofNat (n / 0x1000000)) (UInt8.ofNat (n / 0x10000)) (UInt8.ofNat (n / 0x100))
      (UInt8.ofNat n) = n % 0x100000000 := by
  simp only [lengthOf, UInt8.toNat_ofNat']
  omega

theorem lengthOf_lengthBytes {n : Nat} (small : n < 0x100000000) :
    lengthOf (UInt8.ofNat (n / 0x1000000)) (UInt8.ofNat (n / 0x10000)) (UInt8.ofNat (n / 0x100))
      (UInt8.ofNat n) = n := by
  rw [lengthOf_lengthBytes_mod, Nat.mod_eq_of_lt small]

theorem leads_framed {limit : Nat} {body : Bytes} (small : body.length < 0x100000000)
    (fits : Fits limit body) (rest : Bytes) :
    Leads limit (framed body ++ rest) (.body body rest) :=
  .body (lengthOf_lengthBytes small) fits

/-- A stream that is cut inside a body. -/
theorem leads_part {limit : Nat} (small : limit < 0x100000000) {body part : Bytes}
    (fits : Fits limit body) (short : part.length < body.length) :
    Leads limit (lengthBytes body.length ++ part) .shortBody := by
  have length := lengthOf_lengthBytes (Nat.lt_of_le_of_lt fits.2 small)
  apply Leads.shortBody
  · rw [length]
    exact fits.2
  · rw [length]
    exact short

/-! ### One result -/

section Reader

variable {α : Type} [Frame α] {limit : Nat}

/-- A body is read as the frame that it holds, or as a protocol error. -/
theorem ofCutBody_result (body : Bytes) :
    (∃ frame : α, ofBody body = .ok frame ∧ ofCutBody body = .frame frame) ∨
      ∃ e, (ofBody body : Except BodyError α) = .error e ∧
        (ofCutBody body : Reading α) = .failure (.protocol e.message) := by
  unfold ofCutBody
  split
  · next frame read => exact .inl ⟨frame, read, rfl⟩
  · next e read => exact .inr ⟨e, read, rfl⟩

theorem ofCutBody_ne_finished (body : Bytes) : (ofCutBody body : Reading α) ≠ .finished := by
  rcases ofCutBody_result (α := α) body with ⟨frame, -, read⟩ | ⟨e, -, read⟩ <;> simp [read]

theorem next?_framed {body : Bytes} (small : body.length < 0x100000000) (fits : Fits limit body)
    (rest : Bytes) : next? (α := α) limit (framed body ++ rest) = some (ofCutBody body, rest) := by
  rw [next?, (leads_framed small fits rest).cut_eq]

/-- A result takes a length at least, and it is the same whatever comes behind what it takes. -/
theorem next?_takes {bytes rest : Bytes} {r : Reading α}
    (read : next? limit bytes = some (r, rest)) :
    r ≠ .finished ∧ ∃ taken, 4 ≤ taken.length ∧ bytes = taken ++ rest ∧
      ∀ more, next? limit (taken ++ more) = some (r, more) := by
  have leads := cut_leads limit bytes
  unfold next? at read
  generalize cut limit bytes = front at leads read
  cases leads with
  | shortLength => cases read
  | shortBody => cases read
  | @empty a b c d rest none =>
    cases read
    refine ⟨by simp, [a, b, c, d], Nat.le_refl _, rfl, fun more => ?_⟩
    have again : cut limit ([a, b, c, d] ++ more) = .empty more := (Leads.empty none).cut_eq
    rw [next?, again]
  | @oversized a b c d rest above =>
    cases read
    refine ⟨by simp, [a, b, c, d], Nat.le_refl _, rfl, fun more => ?_⟩
    have again : cut limit ([a, b, c, d] ++ more) = .oversized (lengthOf a b c d) more :=
      (Leads.oversized above).cut_eq
    rw [next?, again]
  | @body a b c d body rest length fits =>
    cases read
    refine ⟨ofCutBody_ne_finished _, a :: b :: c :: d :: body, by simp, by simp, fun more => ?_⟩
    have again : cut limit (a :: b :: c :: d :: body ++ more) = .body body more :=
      (Leads.body length fits).cut_eq
    rw [next?, again]

/-- What is left when no further result can be read: less than a length, or less than a body. -/
theorem readNext_of_incomplete {bytes : Bytes} (incomplete : next? (α := α) limit bytes = none) :
    (bytes.length < 4 ∧ readNext (α := α) limit bytes = (.finished, [])) ∨
      (4 ≤ bytes.length ∧
        readNext (α := α) limit bytes = (.failure (.closed "early eof"), [])) := by
  rw [readNext, incomplete, Option.getD_none, atEnd]
  have leads := cut_leads limit bytes
  unfold next? at incomplete
  generalize cut limit bytes = front at leads incomplete ⊢
  cases leads with
  | shortLength short => exact .inl ⟨short, rfl⟩
  | shortBody => exact .inr ⟨by simp, rfl⟩
  | empty => cases incomplete
  | oversized => cases incomplete
  | body => cases incomplete

/-- Every result but the end takes the bytes of a length at least from the front of the stream. -/
theorem readNext_takes {bytes rest : Bytes} {r : Reading α}
    (read : readNext limit bytes = (r, rest)) (more : r ≠ .finished) :
    ∃ taken, 4 ≤ taken.length ∧ bytes = taken ++ rest := by
  cases next : next? (α := α) limit bytes with
  | some result =>
    rw [readNext, next, Option.getD_some] at read
    subst read
    obtain ⟨-, taken, long, split, -⟩ := next?_takes next
    exact ⟨taken, long, split⟩
  | none =>
    rcases readNext_of_incomplete next with ⟨-, last⟩ | ⟨long, last⟩ <;> rw [last] at read <;>
      cases read
    · exact absurd rfl more
    · exact ⟨bytes, long, (List.append_nil _).symm⟩

/-! ### All results -/

/-- The results of reading a stream to its end, one call after the other. -/
inductive Reads (limit : Nat) : Bytes → List (Reading α) → Prop
  | finished {bytes rest} (last : readNext (α := α) limit bytes = (.finished, rest)) :
      Reads limit bytes [.finished]
  | goesOn {bytes rest} {r : Reading α} {results} (first : readNext limit bytes = (r, rest))
      (more : r ≠ .finished) (others : Reads limit rest results) : Reads limit bytes (r :: results)

/-- The calls come to the end of a stream, one for each length that it has room for at most. -/
theorem reads_readUpTo {bytes : Bytes} {count : Nat} (enough : bytes.length < count) :
    Reads (α := α) limit bytes (readUpTo limit count bytes) := by
  induction count generalizing bytes with
  | zero => exact absurd enough (Nat.not_lt_zero _)
  | succ count ih =>
    unfold readUpTo
    split
    · next rest last => exact .finished last
    · next r rest goesOn first =>
      -- The rest is shorter, so that one call less is still enough for it.
      obtain ⟨taken, long, rfl⟩ := readNext_takes first goesOn
      rw [List.length_append] at enough
      exact .goesOn first goesOn (ih (by omega))

theorem Reads.unique {bytes : Bytes} {results others : List (Reading α)}
    (reads : Reads limit bytes results) (also : Reads limit bytes others) : results = others := by
  induction reads generalizing others with
  | finished last =>
    cases also with
    | finished => rfl
    | goesOn first more =>
      rw [last] at first
      cases first
      exact absurd rfl more
  | goesOn first more _ ih =>
    cases also with
    | finished last =>
      rw [first] at last
      cases last
      exact absurd rfl more
    | goesOn first' _ others =>
      rw [first] at first'
      cases first'
      rw [ih others]

theorem reads_iff {bytes : Bytes} {results : List (Reading α)} :
    Reads limit bytes results ↔ results = readAll limit bytes := by
  have all : Reads (α := α) limit bytes (readAll limit bytes) := reads_readUpTo (Nat.lt_succ_self _)
  constructor
  · intro reads
    exact reads.unique all
  · rintro rfl
    exact all

theorem readAll_of_next {bytes rest : Bytes} {r : Reading α}
    (next : next? limit bytes = some (r, rest)) :
    readAll limit bytes = r :: readAll limit rest := by
  have first : readNext limit bytes = (r, rest) := by
    rw [readNext, next, Option.getD_some]
  exact (reads_iff.mp (.goesOn first (next?_takes next).1 (reads_iff.mpr rfl))).symm

/-- Bodies are read one by one, and what is behind them as if they had not been there. -/
theorem readAll_framed (small : limit < 0x100000000) {bodies : List Bytes}
    (fit : ∀ body ∈ bodies, Fits limit body) (rest : Bytes) :
    readAll (α := α) limit (bodies.flatMap framed ++ rest) =
      bodies.map ofCutBody ++ readAll limit rest := by
  induction bodies with
  | nil => rfl
  | cons body others ih =>
    obtain ⟨fits, fit⟩ := List.forall_mem_cons.mp fit
    have first := next?_framed (α := α) (Nat.lt_of_le_of_lt fits.2 small) fits
    rw [List.flatMap_cons, List.append_assoc, readAll_of_next (first _), ih fit]
    rfl

theorem readAll_of_incomplete {bytes : Bytes} (incomplete : next? (α := α) limit bytes = none) :
    readAll (α := α) limit bytes =
      if bytes.length < 4 then [.finished] else [.failure (.closed "early eof"), .finished] := by
  have nothing : readNext (α := α) limit [] = (.finished, []) := rfl
  symm
  rw [← reads_iff]
  rcases readNext_of_incomplete incomplete with ⟨short, last⟩ | ⟨long, last⟩
  · rw [if_pos short]
    exact .finished last
  · rw [if_neg (Nat.not_lt_of_le long)]
    exact .goesOn last (by simp) (.finished nothing)

/-- The end of a stream that breaks off in its last body, or in the length of it. -/
theorem readAll_part (small : limit < 0x100000000) {body : Bytes} (fits : Fits limit body) {k : Nat}
    (part : k < (framed body).length) :
    readAll (α := α) limit ((framed body).take k) =
      if k < 4 then [.finished] else [.failure (.closed "early eof"), .finished] := by
  have length : ((framed body).take k).length = k := List.length_take_of_le (Nat.le_of_lt part)
  have leads : ∃ front, Leads limit ((framed body).take k) front ∧
      (front = .shortLength ∨ front = .shortBody) := by
    by_cases short : k < 4
    · exact ⟨_, .shortLength (by rw [length]; exact short), .inl rfl⟩
    · have split : (framed body).take k = lengthBytes body.length ++ body.take (k - 4) := by
        rw [framed, List.take_append, List.take_of_length_le (by simpa using short)]
        rfl
      rw [split]
      refine ⟨_, leads_part small fits ?_, .inr rfl⟩
      rw [framed, List.length_append, length_lengthBytes] at part
      rw [List.length_take]
      omega
  -- With nothing to read next, the length of what is left decides.
  obtain ⟨front, leads, incomplete⟩ := leads
  have nothing : next? (α := α) limit ((framed body).take k) = none := by
    rw [next?, leads.cut_eq]
    rcases incomplete with rfl | rfl <;> rfl
  rw [readAll_of_incomplete nothing, length]

/-! ### Encoded frames -/

theorem ofBody_nil : (ofBody [] : Except BodyError α) = .error .malformed := by
  have chars : bodyChars [] = [] := by
    rw [bodyChars, Text.decode, Text.charsFrom]
    rfl
  rw [ofBody, chars]
  rfl

theorem body_ne_nil {frame : α} (back : ofBody (body frame) = .ok frame) : body frame ≠ [] := by
  intro nothing
  rw [nothing, ofBody_nil] at back
  cases back

/-- An encoding is a body behind its length, and one that a reader of the same limit takes. -/
theorem encode_framed {frame : α} (back : ofBody (body frame) = .ok frame) {bytes : Bytes}
    (encoded : encode limit frame = .ok bytes) :
    bytes = framed (body frame) ∧ Fits limit (body frame) := by
  refine ⟨encode_ok encoded, List.length_pos_iff.mpr (body_ne_nil back), ?_⟩
  rw [encode] at encoded
  split at encoded
  · cases encoded
  · next within => exact Nat.le_of_not_lt within

theorem readAll_encoded (back : ∀ frame : α, ofBody (body frame) = .ok frame)
    (small : limit < 0x100000000) {frames : List α} {encodings : List Bytes}
    (encoded : List.Forall₂ (fun frame bytes => encode limit frame = .ok bytes) frames encodings) :
    readAll limit encodings.flatten = frames.map .frame ++ [.finished] := by
  induction encoded with
  | nil => rfl
  | @cons frame bytes frames encodings first _ ih =>
    obtain ⟨rfl, fits⟩ := encode_framed (back frame) first
    have read : ofCutBody (body frame) = .frame frame := by
      rw [ofCutBody, back]
    have first := next?_framed (α := α) (Nat.lt_of_le_of_lt fits.2 small) fits
    rw [List.flatten_cons, readAll_of_next (first _), read, ih]
    rfl

end Reader

/-- What reading the frames of one side from a stream comes to. -/
structure InStep (α : Type) [Frame α] (limit : Nat) : Prop where
  each (body : Bytes) :
    (∃ frame : α, ofBody body = .ok frame ∧ ofCutBody body = .frame frame) ∨
      ∃ e, (ofBody body : Except BodyError α) = .error e ∧
        (ofCutBody body : Reading α) = .failure (.protocol e.message)
  /-- One result for each body, in order, then a clean end. -/
  whole (small : limit < 0x100000000) (bodies : List Bytes)
    (fit : ∀ body ∈ bodies, Fits limit body) :
    readAll (α := α) limit (bodies.flatMap framed) = bodies.map ofCutBody ++ [.finished]
  /-- A stream that breaks off in its last body, or in the length of it. -/
  part (small : limit < 0x100000000) (bodies : List Bytes)
    (fit : ∀ body ∈ bodies, Fits limit body) (last : Bytes) (fits : Fits limit last) (k : Nat) (cut : k < (framed last).length) :
    readAll (α := α) limit (bodies.flatMap framed ++ (framed last).take k) =
      bodies.map ofCutBody ++
        if k < 4 then [.finished] else [.failure (.closed "early eof"), .finished]
  encoded (small : limit < 0x100000000) (frames : List α) (encodings : List Bytes) :
    List.Forall₂ (fun frame bytes => encode limit frame = .ok bytes) frames encodings →
    readAll limit encodings.flatten = frames.map .frame ++ [.finished]
  /-- The calls come to an end on any bytes, with these results and no others. -/
  ends (bytes : Bytes) (results : List (Reading α)) :
    Reads limit bytes results ↔ results = readAll limit bytes
  takes (bytes rest : Bytes) (r : Reading α) : readNext limit bytes = (r, rest) → r ≠ .finished →
    ∃ taken, 4 ≤ taken.length ∧ bytes = taken ++ rest
  /-- A result that can be read is not changed by what comes in later. -/
  settled (bytes rest : Bytes) (r : Reading α) : next? limit bytes = some (r, rest) →
    ∀ more, readNext limit (bytes ++ more) = (r, rest ++ more)

theorem inStep_of_body {α : Type} [Frame α] (back : ∀ frame : α, ofBody (body frame) = .ok frame)
    (limit : Nat) : InStep α limit where
  each := ofCutBody_result
  whole small bodies fit := by
    have read := readAll_framed (α := α) small fit []
    rwa [List.append_nil] at read
  part small bodies fit last fits k cut := by
    rw [readAll_framed small fit, readAll_part small fits cut]
  encoded small frames encodings := readAll_encoded back small
  ends bytes results := reads_iff
  takes bytes rest r := readNext_takes
  settled bytes rest r next more := by
    obtain ⟨-, taken, -, rfl, same⟩ := next?_takes next
    rw [List.append_assoc, readNext, same, Option.getD_some]

/-- Framing stays in step on every stream, for the frames of both sides. -/
theorem framing_in_step (limit : Nat) : InStep ClientFrame limit ∧ InStep ServerFrame limit :=
  ⟨inStep_of_body ClientFrame.ofBody_body limit, inStep_of_body ServerFrame.ofBody_body limit⟩

/-- A body that is no frame, a ping behind it, and a third body that is cut off after one byte. -/
theorem framing_in_step_undecodable : ∃ ping,
    encode 24 (ClientFrame.ping 7) = .ok ping ∧
    readAll 24 (framed [0x78] ++ ping ++ (framed [1, 2, 3]).take 5) =
      [.failure (.protocol "Invalid JSON"), .frame (ClientFrame.ping 7),
        .failure (.closed "early eof"), .finished] := by
  have chars : bodyChars [0x78] = ['x'] := by
    have letter : [0x78] = Text.bytes "x" := by decide
    rw [bodyChars, letter, Text.decode_bytes]
    rfl
  have undecodable : (ofBody [0x78] : Except BodyError ClientFrame) = .error .malformed := by
    rw [ofBody, chars]
    rfl
  have length : (body (ClientFrame.ping 7)).length = 22 := by decide +kernel
  have encoded : encode 24 (ClientFrame.ping 7) = .ok (framed (body (ClientFrame.ping 7))) := by
    rw [encode, length]
    rfl
  refine ⟨_, encoded, ?_⟩
  have fits : ∀ b ∈ [[0x78], body (ClientFrame.ping 7)], Fits 24 b := by
    simp [Fits, length]
  have read := (framing_in_step 24).1.part (by decide) _ fits [1, 2, 3] (by decide) 5 (by decide)
  simp only [List.flatMap_cons, List.flatMap_nil, List.append_nil, List.map_cons, List.map_nil,
    ofCutBody, undecodable, ClientFrame.ofBody_body] at read
  exact read

end Switchboard.Frame
