/-
  The elements that a certificate is made of.

  An element is a tag, a length and contents of that length, which may be
  elements again.  A tag is one byte, and a length is written as shortly as it
  can be, in two bytes at most.
-/
import TupleWire.Bytes

set_option autoImplicit false

namespace TupleWire.Element

/-! ## Tags -/

def boolean : UInt8 := 0x01
def integer : UInt8 := 0x02
def bitString : UInt8 := 0x03
def octetString : UInt8 := 0x04
/-- The tag of a name made of numbers. -/
def identifier : UInt8 := 0x06
def sequence : UInt8 := 0x30
/-- The tag of the optional part with number 0. -/
def explicit0 : UInt8 := 0xa0
/-- The tag of the optional part with number 3. -/
def explicit3 : UInt8 := 0xa3

/-! ## Reading -/

/-- No element is as long as this. -/
def lengthLimit : Nat := 0xffff

/-- A length, and what follows it. -/
def readLength? : Bytes → Option (Nat × Bytes)
  | 0x81 :: a :: rest => if 0x80 ≤ a.toNat then some (a.toNat, rest) else none
  | 0x82 :: a :: b :: rest =>
      let length := a.toNat * 256 + b.toNat
      if 0xff < length ∧ length < lengthLimit then some (length, rest) else none
  | a :: rest => if a.toNat < 0x80 then some (a.toNat, rest) else none
  | [] => none

theorem length_rest_lt_of_readLength? {bytes rest : Bytes} {length : Nat}
    (h : readLength? bytes = some (length, rest)) : rest.length < bytes.length := by
  unfold readLength? at h
  split at h
  · simp only [Option.ite_none_right_eq_some, Option.some.injEq, Prod.mk.injEq] at h
    obtain ⟨-, -, rfl⟩ := h
    simp only [List.length_cons]
    omega
  · simp only [Option.ite_none_right_eq_some, Option.some.injEq, Prod.mk.injEq] at h
    obtain ⟨-, -, rfl⟩ := h
    simp only [List.length_cons]
    omega
  · simp only [Option.ite_none_right_eq_some, Option.some.injEq, Prod.mk.injEq] at h
    obtain ⟨-, -, rfl⟩ := h
    exact Nat.lt_succ_self _
  · simp at h

/-- The contents of the element at the front, which has to have a tag, and what follows it. -/
def read? (tag : UInt8) : Bytes → Option (Bytes × Bytes)
  | [] => none
  | found :: rest =>
      if found = tag then do
        let (length, rest) ← readLength? rest
        Bytes.splitExact? length rest
      else none

/-- What follows an element is shorter. -/
theorem length_rest_lt {tag : UInt8} {bytes contents rest : Bytes}
    (h : read? tag bytes = some (contents, rest)) : rest.length < bytes.length := by
  unfold read? at h
  split at h
  · simp at h
  · split at h
    · obtain ⟨⟨length, after⟩, hl, hs⟩ := Option.bind_eq_some_iff.1 h
      have hsize := length_rest_lt_of_readLength? hl
      have happ := congrArg List.length (Bytes.splitExact?_eq_some hs).1
      simp only [List.length_append] at happ
      simp only [List.length_cons]
      omega
    · simp at h

/-- The contents of the one element that bytes hold. -/
def only? (tag : UInt8) (bytes : Bytes) : Option Bytes := do
  let (contents, rest) ← read? tag bytes
  if rest.isEmpty then some contents else none

end TupleWire.Element
