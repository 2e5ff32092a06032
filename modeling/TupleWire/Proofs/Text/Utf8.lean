/-
  The bytes of a character string, character by character.

  What a byte string starts with and ends with tells what the character string
  starts with and ends with: `encode_isPrefix_iff` for any start, and
  `getLast?_encode_eq_some_iff` for an end that is a character of one byte.  Its
  length bounds the number of bytes (`length_encode_le`).
-/
import Mathlib.Data.List.Basic
import TupleWire.Text.Utf8

set_option autoImplicit false

namespace TupleWire.Utf8

theorem decode?_eq_some_iff {bs : Bytes} {s : String} : decode? bs = some s ↔ encode s = bs :=
  ⟨encode_of_decode?, fun h => h ▸ decode?_encode s⟩

theorem length_encode (s : String) : (encode s).length = s.utf8ByteSize := by
  simp [encode]

theorem encode_append (s t : String) : encode (s ++ t) = encode s ++ encode t := by
  simp [encode]

/-- The bytes of a string are those of its characters, one after the other. -/
theorem encode_eq_flatMap (s : String) : encode s = s.toList.flatMap String.utf8EncodeChar := by
  rw [encode, ← String.utf8Encode_toList, List.utf8Encode, List.data_toByteArray]

/-- A character takes four bytes at most. -/
theorem length_encode_le (s : String) : (encode s).length ≤ 4 * s.length := by
  have hchars (l : List Char) : (l.flatMap String.utf8EncodeChar).length ≤ 4 * l.length := by
    induction l with
    | nil => exact Nat.le_refl 0
    | cons c l ih =>
        have hc := c.utf8Size_le_four
        rw [List.flatMap_cons, List.length_append, String.length_utf8EncodeChar, List.length_cons]
        omega
  have hs := hchars s.toList
  rwa [← encode_eq_flatMap, String.length_toList] at hs

/-- No character's bytes start another character's bytes. -/
theorem encode_isPrefix_iff (s t : String) : encode s <+: encode t ↔ s.toList <+: t.toList := by
  constructor
  · rintro ⟨rest, h⟩
    refine List.isPrefix_of_utf8Encode_append_eq_utf8Encode rest.toByteArray ?_
    rw [List.utf8Encode, List.utf8Encode, ← encode_eq_flatMap, ← encode_eq_flatMap, ← h,
      List.toByteArray_append]
  · rintro ⟨rest, h⟩
    rw [encode_eq_flatMap, encode_eq_flatMap, ← h, List.flatMap_append]
    exact List.prefix_append _ _

theorem isValid_append {front back : Bytes} (hfront : isValid front = true)
    (hback : isValid back = true) : isValid (front ++ back) = true := by
  obtain ⟨s, hs⟩ := Option.isSome_iff_exists.1 (isValid_iff.1 hfront)
  obtain ⟨t, ht⟩ := Option.isSome_iff_exists.1 (isValid_iff.1 hback)
  rw [← encode_of_decode? hs, ← encode_of_decode? ht, ← encode_append]
  exact isValid_encode _

/-! ## Characters of one byte -/

theorem utf8EncodeChar_of_lt {c : Char} (hc : c.toNat < 0x80) :
    String.utf8EncodeChar c = [UInt8.ofNat c.toNat] := by
  have hle : c.val.toNat ≤ 0x7f := Nat.le_of_lt_succ hc
  rw [String.utf8EncodeChar, if_pos hle]
  rfl

/-- The last byte of a longer character is no character of one byte. -/
theorem getLast?_utf8EncodeChar_of_le {c : Char} (hc : 0x80 ≤ c.toNat) :
    (String.utf8EncodeChar c).getLast? = some (UInt8.ofNat (c.toNat % 64 + 0x80)) := by
  have hlong : ¬ c.val.toNat ≤ 0x7f := Nat.not_le_of_lt hc
  rw [String.utf8EncodeChar, if_neg hlong]
  split
  · rfl
  · split <;> rfl

theorem getLast?_utf8EncodeChar_eq_some_iff {c d : Char} (hc : c.toNat < 0x80) :
    (String.utf8EncodeChar d).getLast? = some (UInt8.ofNat c.toNat) ↔ d = c := by
  rw [← Char.toNat_inj]
  obtain hd | hd := Nat.lt_or_ge d.toNat 0x80
  · rw [utf8EncodeChar_of_lt hd, List.getLast?_singleton, Option.some.injEq, ← UInt8.toNat_inj,
      UInt8.toNat_ofNat', UInt8.toNat_ofNat']
    omega
  · rw [getLast?_utf8EncodeChar_of_le hd, Option.some.injEq, ← UInt8.toNat_inj,
      UInt8.toNat_ofNat', UInt8.toNat_ofNat']
    omega

/-- A string ends in a character of one byte when its bytes end in that byte. -/
theorem getLast?_encode_eq_some_iff (s : String) {c : Char} (hc : c.toNat < 0x80) :
    (encode s).getLast? = some (UInt8.ofNat c.toNat) ↔ s.toList.getLast? = some c := by
  rw [encode_eq_flatMap]
  obtain hnil | ⟨front, d, hlast⟩ := List.eq_nil_or_concat s.toList
  · simp [hnil]
  · rw [hlast, List.concat_eq_append, List.flatMap_append, List.flatMap_singleton,
      List.getLast?_append_of_ne_nil _ String.utf8EncodeChar_ne_nil,
      getLast?_utf8EncodeChar_eq_some_iff hc, List.getLast?_concat, Option.some.injEq]

/-- Bytes below 0x80 are characters of their own. -/
theorem isValid_of_ascii {bytes : Bytes} (h : ∀ b ∈ bytes, b < 0x80) : isValid bytes = true := by
  have htext : encode (String.ofList (bytes.map fun b => Char.ofNat b.toNat)) = bytes := by
    rw [encode_eq_flatMap, String.toList_ofList]
    induction bytes with
    | nil => rfl
    | cons b bytes ih =>
        obtain ⟨hb, hrest⟩ := List.forall_mem_cons.1 h
        have hb : b.toNat < 0x80 := hb
        have hchar : (Char.ofNat b.toNat).toNat = b.toNat := by
          have hvalid : b.toNat.isValidChar := .inl (by omega)
          rw [Char.ofNat, dif_pos hvalid]
          rfl
        rw [List.map_cons, List.flatMap_cons, ih hrest, utf8EncodeChar_of_lt (by rwa [hchar]),
          hchar, UInt8.ofNat_toNat, List.singleton_append]
  rw [← htext]
  exact isValid_encode _

end TupleWire.Utf8
