/-
  The UTF-8 encoding, between character strings and byte strings.

  Names, expressions and messages are character strings; on the wire they are
  bytes that may or may not be UTF-8.  `Utf8.encode` and `Utf8.decode?` are
  inverse to each other: `decode?_encode` reads back what was written, and
  `encode_of_decode?` says that a byte string has at most one reading.
-/
import TupleWire.Bytes

set_option autoImplicit false

namespace TupleWire.Utf8

/-- The UTF-8 bytes of a character string. -/
def encode (s : String) : Bytes :=
  s.toByteArray.data.toList

/-- The character string that a byte string spells in UTF-8, if it is valid UTF-8. -/
def decode? (bs : Bytes) : Option String :=
  String.fromUTF8? ⟨bs.toArray⟩

/-- Whether a byte string is valid UTF-8. -/
def isValid (bs : Bytes) : Bool :=
  (ByteArray.mk bs.toArray).validateUTF8

/-- The bytes of a string, as the array that the string holds. -/
theorem toArray_encode (s : String) : ByteArray.mk (encode s).toArray = s.toByteArray := by
  simp [encode]

theorem decode?_encode (s : String) : decode? (encode s) = some s := by
  rw [decode?, toArray_encode, String.fromUTF8?, dif_pos s.isValidUTF8]
  rfl

theorem encode_of_decode? {bs : Bytes} {s : String} (h : decode? bs = some s) :
    encode s = bs := by
  rw [decode?, String.fromUTF8?] at h
  by_cases hv : (ByteArray.mk bs.toArray).IsValidUTF8
  · rw [dif_pos hv, Option.some.injEq] at h
    subst h
    simp [encode, String.fromUTF8]
  · simp [dif_neg hv] at h

theorem isValid_iff {bs : Bytes} : isValid bs = true ↔ (decode? bs).isSome = true := by
  rw [isValid, ByteArray.validateUTF8_eq_true_iff, decode?, String.fromUTF8?]
  by_cases hv : (ByteArray.mk bs.toArray).IsValidUTF8
  · simp [hv]
  · simp [hv]

@[simp] theorem isValid_encode (s : String) : isValid (encode s) = true :=
  isValid_iff.2 (by simp [decode?_encode])

end TupleWire.Utf8
