/-
  Byte strings, and the big-endian unsigned integers written in them.

  Every length and every number on the wire is an unsigned integer of a fixed
  width, most significant byte first.  `Bytes.ofNat` writes one and
  `Bytes.toNat` reads one; `toNat_ofNat` says that a number which fits its width
  is read back, and `length_ofNat` that the width is kept.
-/

set_option autoImplicit false

namespace TupleWire

/-- A finite sequence of octets, first octet first. -/
abbrev Bytes : Type := List UInt8

namespace Bytes

/-! ## Big-endian numbers -/

/-- The number of byte strings of a width. -/
def capacity : Nat → Nat
  | 0 => 1
  | width + 1 => capacity width * 256

/-- The lowest `width` base-256 digits of a number, most significant first. -/
def ofNat : Nat → Nat → Bytes
  | 0, _ => []
  | width + 1, n => ofNat width (n / 256) ++ [UInt8.ofNat n]

/-- The number that a byte string denotes in base 256, most significant digit first. -/
def toNat (bs : Bytes) : Nat :=
  bs.foldl (fun acc b => acc * 256 + b.toNat) 0

@[simp] theorem length_ofNat (width n : Nat) : (ofNat width n).length = width := by
  induction width generalizing n with
  | zero => rfl
  | succ w ih => simp [ofNat, ih]

theorem toNat_append_singleton (bs : Bytes) (b : UInt8) :
    toNat (bs ++ [b]) = toNat bs * 256 + b.toNat := by
  simp [toNat]

/-- A number that fits its width survives being written in so many bytes. -/
theorem toNat_ofNat {width n : Nat} (h : n < capacity width) : toNat (ofNat width n) = n := by
  induction width generalizing n with
  | zero => simp [capacity] at h; simp [ofNat, toNat, h]
  | succ w ih =>
      rw [capacity] at h
      have hdiv : n / 256 < capacity w := by omega
      rw [ofNat, toNat_append_singleton, ih hdiv]
      simp
      omega

/-- A byte string denotes a number that fits its width. -/
theorem toNat_lt (bs : Bytes) : toNat bs < capacity bs.length := by
  suffices h : ∀ (acc w : Nat), acc < capacity w →
      bs.foldl (fun acc b => acc * 256 + b.toNat) acc < capacity (w + bs.length) by
    simpa [toNat] using h 0 0 (by simp [capacity])
  induction bs with
  | nil => intro acc w h; simpa using h
  | cons b bs ih =>
      intro acc w h
      have hb : b.toNat < 256 := b.toNat_lt
      have := ih (acc * 256 + b.toNat) (w + 1) (by rw [capacity]; omega)
      simpa [Nat.add_assoc, Nat.add_comm 1] using this

/-! ## Exact prefixes -/

/-- Exactly the first `n` bytes and the rest, if there are that many. -/
def splitExact? (n : Nat) (bs : Bytes) : Option (Bytes × Bytes) :=
  let head := bs.take n
  if head.length = n then some (head, bs.drop n) else none

theorem splitExact?_append (head rest : Bytes) :
    splitExact? head.length (head ++ rest) = some (head, rest) := by
  simp [splitExact?]

theorem splitExact?_eq_some {n : Nat} {bs head rest : Bytes}
    (h : splitExact? n bs = some (head, rest)) : bs = head ++ rest ∧ head.length = n := by
  simp only [splitExact?] at h
  split at h
  · rename_i hl
    simp only [Option.some.injEq, Prod.mk.injEq] at h
    obtain ⟨rfl, rfl⟩ := h
    exact ⟨(List.take_append_drop n bs).symm, hl⟩
  · exact absurd h (by simp)

end Bytes

end TupleWire
