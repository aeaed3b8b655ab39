import Switchboard.Proofs.Frame.Stream

/-!
What the length in front of a body tells. Four bytes hold lengths below `2^32`. A frame over the limit is
refused, but the limit may itself be above that; then a frame can be encoded whose length is told wrong, and
its reader takes only the beginning of its body.
-/
namespace Switchboard.Frame

open Text (Bytes)

/-- The length that stands at the front of the bytes. -/
def toldLength : Bytes → Option Nat
  | a :: b :: c :: d :: _ => some (lengthOf a b c d)
  | _ => none

theorem toldLength_framed (body rest : Bytes) :
    toldLength (framed body ++ rest) = some (body.length % 0x100000000) :=
  congrArg some (lengthOf_lengthBytes_mod body.length)

theorem told_iff (body : Bytes) :
    toldLength (framed body) = some body.length ↔ body.length < 0x100000000 := by
  have told := toldLength_framed body []
  rw [List.append_nil] at told
  rw [told, Option.some.injEq]
  omega

section Reader

variable {α : Type} [Frame α] {limit : Nat}

theorem encode_eq_error {frame : α} {e : TransportError} : encode limit frame = .error e ↔
    limit < (body frame).length ∧ e = .invalidRequest (tooLarge (body frame).length limit) := by
  rw [encode]
  split <;> simp [*, eq_comm]

theorem encode_within {frame : α} (within : (body frame).length ≤ limit) :
    encode limit frame = .ok (framed (body frame)) :=
  if_neg (Nat.not_lt_of_le within)

/-- A reader takes as much as it is told, unless it is told more than it may take. -/
theorem length_of_next? {bytes rest : Bytes} {r : Reading α} {n : Nat}
    (told : toldLength bytes = some n) (within : n ≤ limit)
    (read : next? limit bytes = some (r, rest)) : bytes.length = 4 + n + rest.length := by
  have leads := cut_leads limit bytes
  unfold next? at read
  generalize cut limit bytes = front at leads read
  cases leads with
  | shortLength => cases read
  | shortBody => cases read
  | empty none =>
    cases read
    cases told
    rw [none]
    simp only [List.length_cons]
    omega
  | oversized above =>
    cases told
    exact absurd above (Nat.not_lt_of_le within)
  | body length fits =>
    cases read
    cases told
    simp [length]
    omega

end Reader

/-- What the encoding of a frame tells, under a limit. -/
structure Told {α : Type} [Frame α] (limit : Nat) (frame : α) : Prop where
  refused (e : TransportError) : encode limit frame = .error e ↔
    limit < (body frame).length ∧ e = .invalidRequest (tooLarge (body frame).length limit)
  encoded (within : (body frame).length ≤ limit) : encode limit frame = .ok (framed (body frame))
  told : toldLength (framed (body frame)) = some (body frame).length ↔
    (body frame).length < 0x100000000
  /-- A limit that four bytes can hold lets no length through that they cannot. -/
  held (small : limit < 0x100000000) (within : (body frame).length ≤ limit) :
    toldLength (framed (body frame)) = some (body frame).length
  /-- A reader whose limit the body is within takes exactly the body, whatever comes behind it. -/
  taken (rest : Bytes) (within : (body frame).length ≤ limit) :
    next? limit (framed (body frame) ++ rest) = some (.frame frame, rest) ↔
      (body frame).length < 0x100000000

theorem told_of_body {α : Type} [Frame α] {frame : α} (back : ofBody (body frame) = .ok frame)
    (limit : Nat) : Told limit frame where
  refused e := encode_eq_error
  encoded within := encode_within within
  told := told_iff (body frame)
  held small within := (told_iff _).mpr (Nat.lt_of_le_of_lt within small)
  taken rest within := by
    constructor
    · intro read
      -- The reader took as much as it was told, and that is the whole body.
      have told := toldLength_framed (body frame) rest
      have taken := length_of_next? told (by omega) read
      simp only [framed, List.length_append, length_lengthBytes] at taken
      omega
    · intro small
      have fits : Fits limit (body frame) := ⟨List.length_pos_iff.mpr (body_ne_nil back), within⟩
      rw [next?_framed small fits, ofCutBody, back]

/-- A frame is refused exactly if it is over the limit, and the length in front of it is the right one, and
the one by which its reader takes it whole, exactly as long as four bytes can hold it. -/
theorem lengths_told (limit : Nat) :
    (∀ frame : ClientFrame, Told limit frame) ∧ ∀ frame : ServerFrame, Told limit frame :=
  ⟨fun frame => told_of_body (ClientFrame.ofBody_body frame) limit,
    fun frame => told_of_body (ServerFrame.ofBody_body frame) limit⟩

/-- A ping of exactly as many bytes as the limit allows, with another one behind it. -/
theorem lengths_told_pings :
    encode 22 (ClientFrame.ping 7) = .ok (framed (body (ClientFrame.ping 7))) ∧
      toldLength (framed (body (ClientFrame.ping 7))) = some 22 ∧
      next? 22 (framed (body (ClientFrame.ping 7)) ++ framed (body (ClientFrame.ping 8))) =
        some (.frame (ClientFrame.ping 7), framed (body (ClientFrame.ping 8))) := by
  have length : (body (ClientFrame.ping 7)).length = 22 := by decide +kernel
  have within : (body (ClientFrame.ping 7)).length ≤ 22 := Nat.le_of_eq length
  have ping := (lengths_told 22).1 (ClientFrame.ping 7)
  have told := ping.held (by decide) within
  rw [length] at told
  refine ⟨ping.encoded within, told, ?_⟩
  apply (ping.taken _ within).mpr
  rw [length]
  decide

/-! ### A length that four bytes cannot hold -/

/-- How many bytes a datum takes as JSON. -/
def textLength (d : Datum) : Nat := ((Json.write d).map Char.utf8Size).sum

theorem length_body {α : Type} [Frame α] (frame : α) :
    (body frame).length = textLength (Frame.datum frame) := by
  simp [body, textLength, Json.text, Text.bytes, List.utf8Encode]

theorem writeFields_concat {fields : List (String × Datum)} (some : fields ≠ []) (name : String)
    (d : Datum) : Json.writeFields (fields ++ [(name, d)]) =
      Json.writeFields fields ++ ',' :: Json.writeText name ++ ':' :: Json.write d := by
  induction fields with
  | nil => exact absurd rfl some
  | cons first rest ih =>
    obtain ⟨other, e⟩ := first
    cases rest with
    | nil => simp [Json.writeFields]
    | cons second rest =>
      have later := ih (List.cons_ne_nil _ _)
      simpa [Json.writeFields] using later

/-- What a record takes depends on its last datum only in what that takes. -/
theorem textLength_record_concat {fields : List (String × Datum)} (some : fields ≠ []) (name : String)
    (d e : Datum) : textLength (.record (fields ++ [(name, d)])) + textLength e =
      textLength (.record (fields ++ [(name, e)])) + textLength d := by
  simp only [textLength, Json.write, writeFields_concat some, List.map_cons, List.map_append,
    List.sum_cons, List.sum_append]
  omega

theorem textLength_replicate (d : Datum) (n : Nat) :
    textLength (.list (List.replicate (n + 1) d)) = (n + 1) * (textLength d + 1) + 1 := by
  have brackets : Char.utf8Size '[' = 1 ∧ Char.utf8Size ']' = 1 ∧ Char.utf8Size ',' = 1 := by decide
  obtain ⟨opening, closing, comma⟩ := brackets
  have items : ((Json.writeItems (List.replicate (n + 1) d)).map Char.utf8Size).sum + 1 =
      (n + 1) * (textLength d + 1) := by
    induction n with
    | zero => simp [Json.writeItems, textLength]
    | succ n ih =>
      rw [Nat.succ_mul, ← ih]
      simp only [List.replicate_succ, Json.writeItems, textLength, List.map_cons, List.map_append,
        List.sum_cons, List.sum_append, comma]
      omega
  rw [← items]
  simp only [textLength, Json.write, List.map_cons, List.map_append, List.sum_cons, List.sum_append,
    List.map_nil, List.sum_nil, opening, closing]
  omega

theorem length_body_invoke (id : UInt64) (target : Target) (b : UInt8) (n : Nat) :
    (body (ClientFrame.invoke id target (List.replicate (n + 1) b))).length + 1 =
      (body (ClientFrame.invoke id target [])).length + (n + 1) * (textLength (.int b.toNat) + 1) := by
  -- Against the same request without a payload: the two differ only in their last field.
  have octets := textLength_replicate (.int b.toNat) n
  have brackets : textLength (.list []) = 2 := by decide
  have front : [("type", .text "invoke"), idField id, ("module", .text target.moduleName),
      ("component", .text target.component), ("interface", .text target.interface)] ≠ [] :=
    List.cons_ne_nil _ _
  have grown := textLength_record_concat front "payload"
    (.list (List.replicate (n + 1) (.int b.toNat))) (.list [])
  rw [octets, brackets] at grown
  rw [length_body, length_body]
  simp only [Frame.datum, ClientFrame.datum, tagged, payloadField, List.map_replicate, List.map_nil]
  simp only [List.cons_append, List.nil_append] at grown
  omega

/-- The text of a payload of a gigabyte, each of whose bytes takes three digits and a comma, is longer than
four bytes can tell. With a limit above that it is sent all the same, behind a length of 81. -/
theorem length_lost :
    let frame := ClientFrame.invoke 1 ⟨"m", "c", "i"⟩ (List.replicate 0x40000000 100)
    (body frame).length = 0x100000051 ∧
      encode 0x200000000 frame = .ok (framed (body frame)) ∧
      toldLength (framed (body frame)) = some 0x51 ∧
      next? 0x200000000 (framed (body frame)) ≠ some (.frame frame, []) := by
  intro frame
  have none : (body (ClientFrame.invoke 1 ⟨"m", "c", "i"⟩ [])).length = 82 := by decide +kernel
  have digits : textLength (.int (100 : UInt8).toNat) = 3 := by decide +kernel
  have length : (body frame).length = 0x100000051 := by
    have grown := length_body_invoke 1 ⟨"m", "c", "i"⟩ 100 0x3fffffff
    rw [none, digits] at grown
    exact Nat.add_right_cancel grown
  have told := toldLength_framed (body frame) []
  rw [List.append_nil, length] at told
  refine ⟨length, encode_within ?_, told, ?_⟩
  · rw [length]
    decide
  · intro read
    have taken := length_of_next? told (by decide) read
    rw [framed, List.length_append, length_lengthBytes, length, List.length_nil] at taken
    exact absurd taken (by decide)

end Switchboard.Frame
