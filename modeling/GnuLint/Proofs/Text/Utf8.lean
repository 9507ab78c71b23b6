import GnuLint.Text.Utf8

/-!
# Encoding and decoding

Encoding a text and decoding it again gives the text back
(`GnuLint.Bytes.toText?_ofText`), and bytes that can be decoded are the encoding of what
they decode to (`GnuLint.Bytes.ofText_of_toText?`), so that a text that was read is
written as the very bytes it was read from.
-/

namespace GnuLint.Bytes

theorem utf8Encode_eq (s : Text) : s.utf8Encode = ⟨(ofText s).toArray⟩ := by
  rw [List.utf8Encode, ← List.data_toByteArray]
  rfl

theorem toText?_ofText (s : Text) : toText? (ofText s) = some s := by
  rw [toText?, ← utf8Encode_eq, List.utf8Decode?_utf8Encode]
  simp

/-- **Bytes that decode to a text are its encoding.** -/
theorem ofText_of_toText? {bytes : Bytes} {s : Text} (h : toText? bytes = some s) :
    ofText s = bytes := by
  obtain ⟨chars, hchars, rfl⟩ := Option.map_eq_some_iff.mp h
  have hencode := ByteArray.utf8Encode_get_utf8Decode? (b := ⟨bytes.toArray⟩) (h := by
    rw [hchars]
    rfl)
  simp only [hchars, Option.get_some, utf8Encode_eq] at hencode
  have harray : (ofText chars.toList).toArray = bytes.toArray := congrArg ByteArray.data hencode
  simpa using harray

end GnuLint.Bytes
