/-
  Numbers and heads, read back.

  A written number or head begins with a marker byte, and the marker says how
  what follows it is to be read.  `readWithin_uintBytes` and
  `readWithin_nintBytes` say that a written integer is read back;
  `Announces` that a head gives the reader its kind and its length, and one
  theorem for each kind of head that it does.
-/
import TupleWire.MsgPack.Reader
import TupleWire.MsgPack.Writer

set_option autoImplicit false

namespace TupleWire.MsgPack

open Bytes (ofNat capacity)

/-! ## Fields of a fixed width -/

theorem readNat_ofNat {width n : Nat} (h : n < capacity width) (rest : Bytes) :
    readNat width (ofNat width n ++ rest) = .ok (n, rest) := by
  have hsplit := Bytes.splitExact?_append (ofNat width n) rest
  rw [Bytes.length_ofNat] at hsplit
  rw [readNat, hsplit]
  dsimp only
  rw [Bytes.toNat_ofNat h]

theorem readPayload_append (budget : Nat) (bytes rest : Bytes) :
    readPayload (budget + 1) bytes.length (bytes ++ rest) = .ok (bytes, rest) := by
  rw [readPayload, Bytes.splitExact?_append]

/-- A negative number is told from the others by its highest bit. -/
theorem signed_of_negative {width m : Nat} (h : m < capacity width / 2) :
    signed width (capacity width - 1 - m) = .ofInt (.negSucc m) := by
  have hback : capacity width - 1 - (capacity width - 1 - m) = m := by omega
  rw [signed, if_neg (by omega), hback]

/-! ## Marker bytes -/

theorem ofByte_uint {n : Nat} (h : n < 0x80) :
    Marker.ofByte (UInt8.ofNat n) = .complete (.uint (UInt64.ofNat n)) := by
  have hn := UInt8.toNat_ofNat_of_lt' (show n < 0x100 by omega)
  have hword : (UInt8.ofNat n).toUInt64 = UInt64.ofNat n := by
    apply UInt64.toNat_inj.1
    rw [UInt8.toNat_toUInt64, hn, UInt64.toNat_ofNat_of_lt' (by unfold UInt64.size; omega)]
  rw [Marker.ofByte, hn, if_pos h, hword]

theorem ofByte_map {n : Nat} (h : n < 0x10) :
    Marker.ofByte (UInt8.ofNat (0x80 + n)) = .map (.inMarker n) := by
  have hn := UInt8.toNat_ofNat_of_lt' (show 0x80 + n < 0x100 by omega)
  rw [Marker.ofByte, hn, if_neg (by omega), if_pos (by omega), Nat.add_sub_cancel_left]

theorem ofByte_array {n : Nat} (h : n < 0x10) :
    Marker.ofByte (UInt8.ofNat (0x90 + n)) = .array (.inMarker n) := by
  have hn := UInt8.toNat_ofNat_of_lt' (show 0x90 + n < 0x100 by omega)
  rw [Marker.ofByte, hn, if_neg (by omega), if_neg (by omega), if_pos (by omega),
    Nat.add_sub_cancel_left]

theorem ofByte_str {n : Nat} (h : n < 0x20) :
    Marker.ofByte (UInt8.ofNat (0xa0 + n)) = .str (.inMarker n) := by
  have hn := UInt8.toNat_ofNat_of_lt' (show 0xa0 + n < 0x100 by omega)
  rw [Marker.ofByte, hn, if_neg (by omega), if_neg (by omega), if_neg (by omega),
    if_pos (by omega), Nat.add_sub_cancel_left]

theorem ofByte_nint {m : Nat} (h : m < 0x20) :
    Marker.ofByte (UInt8.ofNat (0xff - m)) = .complete (.ofInt (.negSucc m)) := by
  have hn := UInt8.toNat_ofNat_of_lt' (show 0xff - m < 0x100 by omega)
  have hback : 0xff - (0xff - m) = m := by omega
  rw [Marker.ofByte, hn, if_neg (by omega), if_neg (by omega), if_neg (by omega),
    if_neg (by omega), if_pos (by omega), hback]

/-! ## Values by their markers -/

/-- A marker of a value that needs no nested one. -/
def Marker.IsFlat : Marker → Prop
  | .array _ | .map _ => False
  | _ => True

theorem readWithin_flat {b : UInt8} {m : Marker} (h : Marker.ofByte b = m) (hflat : m.IsFlat)
    (budget : Nat) (bs : Bytes) :
    readWithin (budget + 1) (b :: bs) = readFlat budget m bs := by
  subst h
  cases budget with
  | zero =>
      rw [readWithin]
      split
      · rename_i hmarker
        rw [hmarker] at hflat
        exact hflat.elim
      · rename_i hmarker
        rw [hmarker] at hflat
        exact hflat.elim
      · rfl
  | succ budget =>
      rw [readWithin]
      split
      · rename_i hmarker
        rw [hmarker] at hflat
        exact hflat.elim
      · rename_i hmarker
        rw [hmarker] at hflat
        exact hflat.elim
      · rfl

/-! ## Integers -/

/-- An unsigned number behind its marker. -/
theorem readWithin_unsigned {b : UInt8} {width n : Nat} (hb : Marker.ofByte b = .unsigned width)
    (hn : n < capacity width) (budget : Nat) (rest : Bytes) :
    readWithin (budget + 1) (b :: ofNat width n ++ rest) = .ok (.uint (UInt64.ofNat n), rest) := by
  rw [List.cons_append, readWithin_flat hb trivial, readFlat, readNat_ofNat hn]

theorem readWithin_uintBytes {n : Nat} (h : n < capacity 8) (budget : Nat) (rest : Bytes) :
    readWithin (budget + 1) (uintBytes n ++ rest) = .ok (.uint (UInt64.ofNat n), rest) := by
  unfold uintBytes
  split
  · rename_i hsmall
    rw [List.cons_append, readWithin_flat (ofByte_uint hsmall) trivial]
    rfl
  · split
    · rename_i h1
      exact readWithin_unsigned rfl h1 budget rest
    · split
      · rename_i h2
        exact readWithin_unsigned rfl h2 budget rest
      · split
        · rename_i h4
          exact readWithin_unsigned rfl h4 budget rest
        · exact readWithin_unsigned rfl h budget rest

/-- A negative number behind its marker. -/
theorem readWithin_negative {b : UInt8} {width m : Nat} (hb : Marker.ofByte b = .signed width)
    (hm : m < capacity width / 2) (budget : Nat) (rest : Bytes) :
    readWithin (budget + 1) (b :: ofNat width (capacity width - 1 - m) ++ rest) =
      .ok (.ofInt (.negSucc m), rest) := by
  have hfits : capacity width - 1 - m < capacity width := by omega
  rw [List.cons_append, readWithin_flat hb trivial, readFlat, readNat_ofNat hfits]
  dsimp only
  rw [signed_of_negative hm]

theorem readWithin_nintBytes {m : Nat} (h : m < capacity 8 / 2) (budget : Nat) (rest : Bytes) :
    readWithin (budget + 1) (nintBytes m ++ rest) = .ok (.ofInt (.negSucc m), rest) := by
  unfold nintBytes
  split
  · rename_i hsmall
    rw [List.cons_append, readWithin_flat (ofByte_nint hsmall) trivial]
    rfl
  · split
    · rename_i h1
      exact readWithin_negative rfl h1 budget rest
    · split
      · rename_i h2
        exact readWithin_negative rfl h2 budget rest
      · split
        · rename_i h4
          exact readWithin_negative rfl h4 budget rest
        · exact readWithin_negative rfl h budget rest

/-! ## Heads -/

/-- A head begins with a marker of a kind, and what follows its first byte gives a length. -/
def Announces (kind : Length → Marker) (n : Nat) (head : Bytes) : Prop :=
  ∃ b tail len, head = b :: tail ∧ Marker.ofByte b = kind len ∧
    ∀ rest, len.read (tail ++ rest) = .ok (n, rest)

theorem announces_inMarker {kind : Length → Marker} {b : UInt8} {n : Nat}
    (hb : Marker.ofByte b = kind (.inMarker n)) : Announces kind n [b] :=
  ⟨b, [], .inMarker n, rfl, hb, fun _ => rfl⟩

theorem announces_field {kind : Length → Marker} {b : UInt8} {width n : Nat}
    (hb : Marker.ofByte b = kind (.field width)) (hn : n < capacity width) :
    Announces kind n (b :: ofNat width n) :=
  ⟨b, ofNat width n, .field width, rfl, hb, readNat_ofNat hn⟩

/-- A length of two bytes or four. -/
theorem announces_long {kind : Length → Marker} {b₂ b₄ : UInt8} {n : Nat}
    (h₂ : Marker.ofByte b₂ = kind (.field 2)) (h₄ : Marker.ofByte b₄ = kind (.field 4))
    (hn : n < capacity 4) :
    Announces kind n (if n < 0x10000 then b₂ :: ofNat 2 n else b₄ :: ofNat 4 n) := by
  split
  · rename_i hshort
    exact announces_field h₂ hshort
  · exact announces_field h₄ hn

/-- A length of one byte, two or four. -/
theorem announces_short {kind : Length → Marker} {b₁ b₂ b₄ : UInt8} {n : Nat}
    (h₁ : Marker.ofByte b₁ = kind (.field 1)) (h₂ : Marker.ofByte b₂ = kind (.field 2))
    (h₄ : Marker.ofByte b₄ = kind (.field 4)) (hn : n < capacity 4) :
    Announces kind n (if n < 0x100 then b₁ :: ofNat 1 n
      else if n < 0x10000 then b₂ :: ofNat 2 n else b₄ :: ofNat 4 n) := by
  split
  · rename_i hshort
    exact announces_field h₁ hshort
  · exact announces_long h₂ h₄ hn

theorem announces_strHead {n : Nat} (h : n < capacity 4) : Announces .str n (strHead n) := by
  unfold strHead
  split
  · rename_i hsmall
    exact announces_inMarker (ofByte_str hsmall)
  · exact announces_short rfl rfl rfl h

theorem announces_binHead {n : Nat} (h : n < capacity 4) : Announces .bin n (binHead n) :=
  announces_short rfl rfl rfl h

theorem announces_arrayHead {n : Nat} (h : n < capacity 4) : Announces .array n (arrayHead n) := by
  unfold arrayHead
  split
  · rename_i hsmall
    exact announces_inMarker (ofByte_array hsmall)
  · exact announces_long rfl rfl h

theorem announces_mapHead {n : Nat} (h : n < capacity 4) : Announces .map n (mapHead n) := by
  unfold mapHead
  split
  · rename_i hsmall
    exact announces_inMarker (ofByte_map hsmall)
  · exact announces_long rfl rfl h

/-- The head of an extension is one of a length, with the type of the extension behind it. -/
theorem announces_extHead (kind : Int8) {n : Nat} (h : n < capacity 4) :
    ∃ head, extHead kind n = head ++ [kind.toUInt8] ∧ Announces .ext n head := by
  refine ⟨_, rfl, ?_⟩
  by_cases hfixed : n = 1 ∨ n = 2 ∨ n = 4 ∨ n = 8 ∨ n = 16
  · rcases hfixed with rfl | rfl | rfl | rfl | rfl <;> exact announces_inMarker rfl
  · rw [if_neg (by omega), if_neg (by omega), if_neg (by omega), if_neg (by omega),
      if_neg (by omega)]
    exact announces_short rfl rfl rfl h

end TupleWire.MsgPack
