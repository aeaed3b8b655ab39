import Switchboard.Frame.Codec
import Switchboard.Proofs.Datum.Fields
import Switchboard.Proofs.Json.RoundTrip
import Switchboard.Proofs.Text.Decoding

/-!
Every frame is read back from its bytes.
-/
namespace Switchboard

open Text (Bytes)

/-! ### Fields of frames -/

section Values

variable (dialect : Dialect)

theorem Decoder.text_text (s : String) : Decoder.text dialect (.text s) = .ok s := rfl

theorem Decoder.word_id (id : UInt64) : Decoder.word dialect (.int id.toNat) = .ok id := by
  have fits : (0 : Int) ≤ id.toNat ∧ (id.toNat : Int) < Nat.pow 2 64 :=
    ⟨Int.natCast_nonneg _, Int.ofNat_lt.mpr id.toNat_lt⟩
  rw [Decoder.word, Decoder.unsigned, if_pos fits]
  simp [Except.map]

theorem Decoder.octets_payload (payload : Bytes) :
    Decoder.octets dialect (.list (payload.map fun b => .int b.toNat)) = .ok payload := by
  unfold Decoder.octets Decoder.listOf
  induction payload with
  | nil => rfl
  | cons b rest ih =>
    have fits : (0 : Int) ≤ b.toNat ∧ (b.toNat : Int) < Nat.pow 2 8 :=
      ⟨Int.natCast_nonneg _, Int.ofNat_lt.mpr b.toNat_lt⟩
    have first : (Decoder.unsigned 8 dialect (.int b.toNat)).map UInt8.ofNat = .ok b := by
      rw [Decoder.unsigned, if_pos fits]
      simp [Except.map]
    dsimp only at ih ⊢
    rw [List.map_cons, List.mapM_cons, first, ih]
    rfl

theorem Decoder.nullable_text (s : Option String) :
    Decoder.text.nullable dialect (Frame.nullableText s) = .ok s := by
  cases s <;> rfl

end Values

theorem Variant.takeTag_found (known : List String) (tag : String) {fields : List (String × Datum)}
    (untagged : "type" ∉ fields.map (·.1)) : takeTag known (some tag) fields = .ok (tag, fields) := by
  induction fields with
  | nil => rfl
  | cons p rest ih =>
    obtain ⟨name, d⟩ := p
    rw [List.map_cons, List.mem_cons, not_or] at untagged
    rw [takeTag, if_neg (Ne.symm untagged.1), ih untagged.2]
    rfl

theorem Variant.split_tagged (name : String) {known : List String} {tag : String}
    (among : tag ∈ known) {fields : List (String × Datum)} (untagged : "type" ∉ fields.map (·.1)) :
    split name known (Frame.tagged tag fields) = .ok (tag, .named fields) := by
  have tagged : takeTag known none (("type", .text tag) :: fields) = .ok (tag, fields) := by
    rw [takeTag, if_pos rfl]
    simp [Variant.tag, among, takeTag_found known tag untagged, bind, Except.bind]
  simp [split, Frame.tagged, tagged, bind, Except.bind, pure, Except.pure]

/-! ### Frames -/

namespace Frame

/-- A frame that a reader can take back: first its tag, then what belongs to it. -/
def Readable {α : Type} [Frame α] (frame : α) : Prop :=
  ∃ tag content, Frame.split α (Frame.datum frame) = .ok (tag, content) ∧
    Frame.ofContent .json tag content = .ok frame

theorem readable_of {α : Type} [Frame α] {frame : α} {name tag : String} {known : List String}
    {fields : List (String × Datum)} (side : Frame.split α = Variant.split name known)
    (written : Frame.datum frame = tagged tag fields) (among : tag ∈ known)
    (untagged : "type" ∉ fields.map (·.1))
    (read : Frame.ofContent .json tag (.named fields) = .ok frame) : Readable frame := by
  refine ⟨tag, .named fields, ?_, read⟩
  rw [side, written]
  exact Variant.split_tagged name among untagged

theorem exact_payload (payload : Bytes) : Json.Exact (payloadField payload).2 := by
  rw [payloadField, Json.Exact]
  induction payload with
  | nil => trivial
  | cons b rest ih =>
    have small := b.toNat_lt
    rw [List.map_cons, Json.ExactItems, Json.Exact]
    exact ⟨by omega, ih⟩

theorem depth_payload (payload : Bytes) : Json.depth (payloadField payload).2 = 1 := by
  rw [payloadField, Json.depth]
  induction payload with
  | nil => rfl
  | cons b rest ih =>
    simpa [Json.depthItems, Json.depth] using ih

theorem exact_id (id : UInt64) : Json.Exact (idField id).2 := by
  have small := id.toNat_lt
  rw [idField, Json.Exact]
  omega

/-- A frame of values that JSON texts hold exactly is read back from its bytes. -/
theorem ofBody_body {α : Type} [Frame α] {frame : α} (readable : Readable frame)
    (exact : Json.Exact (Frame.datum frame))
    (shallow : Json.depth (Frame.datum frame) ≤ Json.maxDepth) :
    ofBody (body frame) = .ok frame := by
  obtain ⟨tag, content, split, read⟩ := readable
  have chars : bodyChars (body frame) = Json.write (Frame.datum frame) := by
    rw [bodyChars, body, Text.decode_bytes, Json.text, String.toList_ofList]
  unfold ofBody
  simp only [chars, Json.first?_write exact shallow, split, read, Bool.false_eq_true, if_false]

end Frame

namespace ClientFrame

theorem readable (frame : ClientFrame) : Frame.Readable frame := by
  cases frame with
  | hello client username password =>
    have named := (Fields.Fits.pure .json hello).required "client" (Decoder.text_text _ client)
      (by simp)
    have known := named.optional "username" (Decoder.nullable_text _ username) (by simp)
    have fits := known.optional "password" (Decoder.nullable_text _ password) (by simp)
    exact Frame.readable_of rfl rfl (by decide) (by simp) (fits.ofNamed (by simp))
  | invoke id target payload =>
    obtain ⟨moduleName, component, interface⟩ := target
    have numbered := (Fields.Fits.pure .json fun id m c i payload =>
      invoke id ⟨m, c, i⟩ payload).required "id" (Decoder.word_id _ id) (by simp)
    have inModule := numbered.required "module" (Decoder.text_text _ moduleName) (by simp)
    have ofComponent := inModule.required "component" (Decoder.text_text _ component) (by simp)
    have targeted := ofComponent.required "interface" (Decoder.text_text _ interface) (by simp)
    have fits := targeted.required "payload" (Decoder.octets_payload _ payload) (by simp)
    exact Frame.readable_of rfl rfl (by decide) (by simp [Frame.idField, Frame.payloadField])
      (fits.ofNamed (by simp))
  | ping id =>
    have fits := (Fields.Fits.pure .json ping).required "id" (Decoder.word_id _ id) (by simp)
    exact Frame.readable_of rfl rfl (by decide) (by simp [Frame.idField]) (fits.ofNamed (by simp))

theorem exact (frame : ClientFrame) : Json.Exact frame.datum := by
  have nullable (s : Option String) : Json.Exact (Frame.nullableText s) := by
    cases s <;> simp [Frame.nullableText, Json.Exact]
  cases frame with
  | hello client username password =>
    simp [datum, Frame.tagged, Json.Exact, Json.ExactFields, nullable]
  | invoke id target payload =>
    simp [datum, Frame.tagged, Json.Exact, Json.ExactFields, Frame.exact_id, Frame.exact_payload]
  | ping id => simp [datum, Frame.tagged, Json.Exact, Json.ExactFields, Frame.exact_id]

theorem shallow (frame : ClientFrame) : Json.depth frame.datum ≤ Json.maxDepth := by
  have nullable (s : Option String) : Json.depth (Frame.nullableText s) = 0 := by
    cases s <;> simp [Frame.nullableText, Json.depth]
  cases frame with
  | hello client username password =>
    simp [datum, Frame.tagged, Json.depth, Json.depthFields, nullable, Json.maxDepth]
  | invoke id target payload =>
    simp [datum, Frame.tagged, Json.depth, Json.depthFields, Frame.depth_payload, Frame.idField,
      Json.maxDepth]
  | ping id => simp [datum, Frame.tagged, Json.depth, Json.depthFields, Frame.idField, Json.maxDepth]

theorem ofBody_body (frame : ClientFrame) : Frame.ofBody (Frame.body frame) = .ok frame :=
  Frame.ofBody_body (readable frame) (exact frame) (shallow frame)

end ClientFrame

namespace ServerFrame

theorem readable (frame : ServerFrame) : Frame.Readable frame := by
  cases frame with
  | welcome => exact Frame.readable_of rfl rfl (by decide) (by simp) rfl
  | rejected reason =>
    have fits := (Fields.Fits.pure .json rejected).required "reason" (Decoder.text_text _ reason)
      (by simp)
    exact Frame.readable_of rfl rfl (by decide) (by simp) (fits.ofNamed (by simp))
  | reply id payload =>
    have numbered := (Fields.Fits.pure .json reply).required "id" (Decoder.word_id _ id) (by simp)
    have fits := numbered.required "payload" (Decoder.octets_payload _ payload) (by simp)
    exact Frame.readable_of rfl rfl (by decide) (by simp [Frame.idField, Frame.payloadField])
      (fits.ofNamed (by simp))
  | appError id message =>
    have numbered := (Fields.Fits.pure .json appError).required "id" (Decoder.word_id _ id) (by simp)
    have fits := numbered.required "message" (Decoder.text_text _ message) (by simp)
    exact Frame.readable_of rfl rfl (by decide) (by simp [Frame.idField]) (fits.ofNamed (by simp))
  | pong id =>
    have fits := (Fields.Fits.pure .json pong).required "id" (Decoder.word_id _ id) (by simp)
    exact Frame.readable_of rfl rfl (by decide) (by simp [Frame.idField]) (fits.ofNamed (by simp))

theorem exact (frame : ServerFrame) : Json.Exact frame.datum := by
  cases frame <;>
    simp [datum, Frame.tagged, Json.Exact, Json.ExactFields, Frame.exact_id, Frame.exact_payload]

theorem shallow (frame : ServerFrame) : Json.depth frame.datum ≤ Json.maxDepth := by
  cases frame <;>
    simp [datum, Frame.tagged, Json.depth, Json.depthFields, Frame.depth_payload, Frame.idField,
      Json.maxDepth]

theorem ofBody_body (frame : ServerFrame) : Frame.ofBody (Frame.body frame) = .ok frame :=
  Frame.ofBody_body (readable frame) (exact frame) (shallow frame)

end ServerFrame

/-! ### Encodings -/

namespace Frame

theorem encode_ok {α : Type} [Frame α] {limit : Nat} {frame : α} {bytes : Bytes}
    (encoded : encode limit frame = .ok bytes) :
    bytes = lengthBytes (body frame).length ++ body frame := by
  simp only [encode] at encoded
  split at encoded
  · cases encoded
  · exact (Except.ok.inj encoded).symm

theorem body_of_encode {α : Type} [Frame α] {limit : Nat} {frame : α} {bytes : Bytes}
    (encoded : encode limit frame = .ok bytes) : bytes.drop 4 = body frame := by
  rw [encode_ok encoded]
  rfl

/-- What the frames of one side have to do with their bytes: a body is read back as its frame, whatever
the frame holds, and so is the body in an encoding, which is therefore of no other frame. -/
structure Faithful (α : Type) [Frame α] : Prop where
  body (frame : α) : ofBody (body frame) = .ok frame
  encoding (limit : Nat) (frame : α) (bytes : Bytes) :
    encode limit frame = .ok bytes → ofBody (bytes.drop 4) = .ok frame
  distinct (limit limit' : Nat) (frame other : α) (bytes : Bytes) :
    encode limit frame = .ok bytes → encode limit' other = .ok bytes → frame = other

theorem faithful_of_body {α : Type} [Frame α] (back : ∀ frame : α, ofBody (body frame) = .ok frame) :
    Faithful α where
  body := back
  encoding limit frame bytes encoded := by rw [body_of_encode encoded, back]
  distinct limit limit' frame other bytes encoded also := by
    have bodies : body frame = body other := by
      rw [← body_of_encode encoded, ← body_of_encode also]
    have read := back frame
    rw [bodies, back other] at read
    exact (Except.ok.inj read).symm

/-- The frames of both sides are told by their bytes. -/
theorem frames_faithful : Faithful ClientFrame ∧ Faithful ServerFrame :=
  ⟨faithful_of_body ClientFrame.ofBody_body, faithful_of_body ServerFrame.ofBody_body⟩

/-- A name with a quote, a backslash and a letter of two bytes, and a password that is empty, not
absent. -/
theorem frames_faithful_hello : ∃ bytes,
    encode 100 (ClientFrame.hello "a\"\\é\n" none (some "")) = .ok bytes ∧
      ofBody (bytes.drop 4) = .ok (ClientFrame.hello "a\"\\é\n" none (some "")) := by
  have encoded : (encode 100 (ClientFrame.hello "a\"\\é\n" none (some ""))).isOk := by decide +kernel
  cases got : encode 100 (ClientFrame.hello "a\"\\é\n" none (some "")) with
  | error e => rw [got] at encoded; cases encoded
  | ok bytes => exact ⟨bytes, rfl, frames_faithful.1.encoding 100 _ bytes got⟩

end Frame

end Switchboard
