import Switchboard.Text.Bytes

/-!
The bytes of a text are read back as that text.
-/
namespace Switchboard.Text

/-- Reading goes on where the characters in front of it end. -/
theorem charsFrom_encoded (before cs : List Char) :
    charsFrom (before ++ cs).utf8Encode before.utf8Encode.size = (cs, true) := by
  induction cs generalizing before with
  | nil =>
    unfold charsFrom
    simp
  | cons c rest ih =>
    have next : (before ++ c :: rest).utf8Encode.utf8DecodeChar? before.utf8Encode.size = some c := by
      rw [ByteArray.utf8DecodeChar?_eq_utf8DecodeChar?_extract, List.utf8Encode_append,
        ByteArray.extract_append_eq_right rfl ByteArray.size_append]
      exact List.utf8DecodeChar?_utf8Encode_cons
    have more : before.utf8Encode.size < (before ++ c :: rest).utf8Encode.size := by
      have := ByteArray.le_size_of_utf8DecodeChar?_eq_some next
      have := c.utf8Size_pos
      omega
    have passed : before.utf8Encode.size + c.utf8Size = (before ++ [c]).utf8Encode.size := by
      simp [List.utf8Encode_append, List.utf8Encode_singleton]
    rw [charsFrom, if_pos more, next]
    dsimp only
    rw [passed, List.append_cons, ih (before ++ [c])]

theorem decode_bytes (s : String) : decode (bytes s) = (s.toList, true) := by
  have same := charsFrom_encoded [] s.toList
  simpa [decode, bytes] using same

end Switchboard.Text
