/-
  Base64, written and read back.

  `decode?` and `encode` are inverse to each other: a text is read as a byte
  string exactly when it is what that byte string is written as.  So a byte
  string has one text, and a text that is read has whole groups.  The proof goes
  group by group, and a group comes in three sizes.
-/
import TupleWire.Text.Base64

set_option autoImplicit false

namespace TupleWire.Base64

/-! ## Letters -/

theorem letter_of_value? {c : UInt8} {n : Nat} (h : value? c = some n) :
    n < 64 ∧ letter n = c := by
  have hall : ∀ k : Fin 256, ∀ n ∈ value? (UInt8.ofFin k),
      n < 64 ∧ letter n = UInt8.ofFin k := by decide +kernel
  exact hall c.toFin n h

theorem letter_ne_padding {n : Nat} (h : n < 64) : letter n ≠ padding := by
  revert n; decide

/-- What a text may hold. -/
def InAlphabet (l : UInt8) : Prop := l = padding ∨ ∃ n < 64, l = letter n

theorem inAlphabet_letter {n : Nat} (h : n < 64) : InAlphabet (letter n) := .inr ⟨n, h, rfl⟩

/-! ## The bytes of a group

Four numbers of six bits spell three bytes of eight: each byte takes the bits
that are left of one number and the first bits of the next. -/

section

variable {p q r s : Nat}

theorem toNat_first (hp : p < 64) (hq : q < 64) :
    (UInt8.ofNat (p * 4 + q / 16)).toNat = p * 4 + q / 16 :=
  UInt8.toNat_ofNat_of_lt' (by simp only [UInt8.size]; omega)

theorem toNat_second (hr : r < 64) :
    (UInt8.ofNat (q % 16 * 16 + r / 4)).toNat = q % 16 * 16 + r / 4 :=
  UInt8.toNat_ofNat_of_lt' (by simp only [UInt8.size]; omega)

theorem toNat_third (hs : s < 64) : (UInt8.ofNat (r % 4 * 64 + s)).toNat = r % 4 * 64 + s :=
  UInt8.toNat_ofNat_of_lt' (by simp only [UInt8.size]; omega)

end

/-! ## A group that is read is one that is written -/

section

variable {w x y z : UInt8} {bytes : Bytes}

theorem encode_of_lastOne? (h : lastOne? w x = some bytes) :
    encode bytes = [w, x, padding, padding] := by
  simp only [lastOne?, bind, Option.bind_eq_some_iff, Option.ite_none_right_eq_some,
    Option.some.injEq] at h
  obtain ⟨p, hp, q, hq, hzero, rfl⟩ := h
  obtain ⟨hp64, rfl⟩ := letter_of_value? hp
  obtain ⟨hq64, rfl⟩ := letter_of_value? hq
  rw [encode, toNat_first hp64 hq64, show (p * 4 + q / 16) / 4 = p by omega,
    show (p * 4 + q / 16) % 4 * 16 = q by omega]

theorem encode_of_lastTwo? (h : lastTwo? w x y = some bytes) :
    encode bytes = [w, x, y, padding] := by
  simp only [lastTwo?, bind, Option.bind_eq_some_iff, Option.ite_none_right_eq_some,
    Option.some.injEq] at h
  obtain ⟨p, hp, q, hq, r, hr, hzero, rfl⟩ := h
  obtain ⟨hp64, rfl⟩ := letter_of_value? hp
  obtain ⟨hq64, rfl⟩ := letter_of_value? hq
  obtain ⟨hr64, rfl⟩ := letter_of_value? hr
  rw [encode, toNat_first hp64 hq64, toNat_second hr64, show (p * 4 + q / 16) / 4 = p by omega,
    show (p * 4 + q / 16) % 4 * 16 + (q % 16 * 16 + r / 4) / 16 = q by omega,
    show (q % 16 * 16 + r / 4) % 16 * 4 = r by omega]

theorem encode_of_group? (h : group? w x y z = some bytes) (rest : Bytes) :
    encode (bytes ++ rest) = w :: x :: y :: z :: encode rest := by
  simp only [group?, bind, Option.bind_eq_some_iff, Option.some.injEq] at h
  obtain ⟨p, hp, q, hq, r, hr, s, hs, rfl⟩ := h
  obtain ⟨hp64, rfl⟩ := letter_of_value? hp
  obtain ⟨hq64, rfl⟩ := letter_of_value? hq
  obtain ⟨hr64, rfl⟩ := letter_of_value? hr
  obtain ⟨hs64, rfl⟩ := letter_of_value? hs
  simp only [List.cons_append, List.nil_append, encode, toNat_first hp64 hq64, toNat_second hr64,
    toNat_third hs64]
  rw [show (p * 4 + q / 16) / 4 = p by omega,
    show (p * 4 + q / 16) % 4 * 16 + (q % 16 * 16 + r / 4) / 16 = q by omega,
    show (q % 16 * 16 + r / 4) % 16 * 4 + (r % 4 * 64 + s) / 64 = r by omega,
    show (r % 4 * 64 + s) % 64 = s by omega]

end

/-! ## A group that is written is read back -/

section

variable (a b c : UInt8)

theorem lastOne?_letters :
    lastOne? (letter (a.toNat / 4)) (letter (a.toNat % 4 * 16)) = some [a] := by
  have ha := a.toNat_lt
  simp only [lastOne?, bind, Option.bind_some,
    value?_letter (show a.toNat / 4 < 64 by omega),
    value?_letter (show a.toNat % 4 * 16 < 64 by omega)]
  rw [if_pos (by omega), show a.toNat / 4 * 4 + a.toNat % 4 * 16 / 16 = a.toNat by omega,
    UInt8.ofNat_toNat]

theorem lastTwo?_letters :
    lastTwo? (letter (a.toNat / 4)) (letter (a.toNat % 4 * 16 + b.toNat / 16))
      (letter (b.toNat % 16 * 4)) = some [a, b] := by
  have ha := a.toNat_lt
  have hb := b.toNat_lt
  simp only [lastTwo?, bind, Option.bind_some,
    value?_letter (show a.toNat / 4 < 64 by omega),
    value?_letter (show a.toNat % 4 * 16 + b.toNat / 16 < 64 by omega),
    value?_letter (show b.toNat % 16 * 4 < 64 by omega)]
  rw [if_pos (by omega),
    show a.toNat / 4 * 4 + (a.toNat % 4 * 16 + b.toNat / 16) / 16 = a.toNat by omega,
    show (a.toNat % 4 * 16 + b.toNat / 16) % 16 * 16 + b.toNat % 16 * 4 / 4 = b.toNat by omega,
    UInt8.ofNat_toNat, UInt8.ofNat_toNat]

theorem group?_letters :
    group? (letter (a.toNat / 4)) (letter (a.toNat % 4 * 16 + b.toNat / 16))
      (letter (b.toNat % 16 * 4 + c.toNat / 64)) (letter (c.toNat % 64)) = some [a, b, c] := by
  have ha := a.toNat_lt
  have hb := b.toNat_lt
  have hc := c.toNat_lt
  simp only [group?, bind, Option.bind_some,
    value?_letter (show a.toNat / 4 < 64 by omega),
    value?_letter (show a.toNat % 4 * 16 + b.toNat / 16 < 64 by omega),
    value?_letter (show b.toNat % 16 * 4 + c.toNat / 64 < 64 by omega),
    value?_letter (show c.toNat % 64 < 64 by omega)]
  rw [show a.toNat / 4 * 4 + (a.toNat % 4 * 16 + b.toNat / 16) / 16 = a.toNat by omega,
    show (a.toNat % 4 * 16 + b.toNat / 16) % 16 * 16 + (b.toNat % 16 * 4 + c.toNat / 64) / 4
      = b.toNat by omega,
    show (b.toNat % 16 * 4 + c.toNat / 64) % 4 * 64 + c.toNat % 64 = c.toNat by omega,
    UInt8.ofNat_toNat, UInt8.ofNat_toNat, UInt8.ofNat_toNat]

end

/-! ## Texts -/

/-- A text that is read is what its bytes are written as. -/
theorem encode_of_decode? {text bytes : Bytes} (h : decode? text = some bytes) :
    encode bytes = text := by
  induction text using decode?.induct generalizing bytes with
  | case1 =>
      obtain rfl := Option.some.inj h
      rfl
  | case2 w x z rest hlast =>
      rw [decode?, if_pos hlast, if_pos rfl] at h
      rw [encode_of_lastOne? h, hlast.1, hlast.2]
  | case3 w x y z rest hlast hy =>
      rw [decode?, if_pos hlast, if_neg hy] at h
      rw [encode_of_lastTwo? h, hlast.1, hlast.2]
  | case4 w x y z rest hmore ih =>
      rw [decode?, if_neg hmore] at h
      simp only [bind, Option.bind_eq_some_iff, Option.some.injEq] at h
      obtain ⟨front, hfront, back, hback, rfl⟩ := h
      rw [encode_of_group? hfront, ih hback]
  | case5 text hnil hfour =>
      -- fewer than four letters are no group
      unfold decode? at h
      split at h
      · exact absurd rfl hnil
      · exact absurd rfl (hfour _ _ _ _ _)
      · contradiction

/-- Every byte string is read back from its text. -/
theorem decode?_encode (bytes : Bytes) : decode? (encode bytes) = some bytes := by
  induction bytes using encode.induct with
  | case1 => rfl
  | case2 a => rw [encode, decode?, if_pos ⟨rfl, rfl⟩, if_pos rfl, lastOne?_letters]
  | case3 a b =>
      have hb := b.toNat_lt
      rw [encode, decode?, if_pos ⟨rfl, rfl⟩, if_neg (letter_ne_padding (by omega)),
        lastTwo?_letters]
  | case4 a b c rest ih =>
      have hmore : ¬ (letter (c.toNat % 64) = padding ∧ encode rest = []) :=
        fun hlast => letter_ne_padding (by omega) hlast.1
      rw [encode, decode?, if_neg hmore, group?_letters, ih]
      rfl

theorem decode?_eq_some_iff {text bytes : Bytes} :
    decode? text = some bytes ↔ encode bytes = text :=
  ⟨encode_of_decode?, fun h => h ▸ decode?_encode bytes⟩

/-- Three bytes, or what is left of three, take four letters. -/
theorem length_encode (bytes : Bytes) : (encode bytes).length = 4 * ((bytes.length + 2) / 3) := by
  induction bytes using encode.induct with
  | case1 => rfl
  | case2 a | case3 a b => simp [encode]
  | case4 a b c rest ih =>
      simp only [encode, List.length_cons, ih]
      omega

/-- A text holds letters and padding only. -/
theorem inAlphabet_of_mem_encode (bytes : Bytes) : ∀ l ∈ encode bytes, InAlphabet l := by
  induction bytes using encode.induct with
  | case1 => simp [encode]
  | case2 a =>
      have ha := a.toNat_lt
      simp only [encode, List.forall_mem_cons]
      exact ⟨inAlphabet_letter (by omega), inAlphabet_letter (by omega), .inl rfl, .inl rfl,
        List.forall_mem_nil _⟩
  | case3 a b =>
      have ha := a.toNat_lt
      have hb := b.toNat_lt
      simp only [encode, List.forall_mem_cons]
      exact ⟨inAlphabet_letter (by omega), inAlphabet_letter (by omega),
        inAlphabet_letter (by omega), .inl rfl, List.forall_mem_nil _⟩
  | case4 a b c rest ih =>
      have ha := a.toNat_lt
      have hb := b.toNat_lt
      have hc := c.toNat_lt
      simp only [encode, List.forall_mem_cons]
      exact ⟨inAlphabet_letter (by omega), inAlphabet_letter (by omega),
        inAlphabet_letter (by omega), inAlphabet_letter (by omega), ih⟩

end TupleWire.Base64
