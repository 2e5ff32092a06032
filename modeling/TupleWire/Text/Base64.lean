/-
  Base64 with the standard alphabet and padding.

  Three bytes are four letters of six bits each; a last group of one or two
  bytes is filled up with padding.  `decode?` accepts exactly what `encode`
  writes: whole groups only, padding only at the very end, and zero bits where
  the padding cuts a letter short.  `decodeLoose?` forgives what writers get
  wrong: blanks, missing padding, and bits that are left over.
-/
import TupleWire.Bytes

set_option autoImplicit false

namespace TupleWire.Base64

/-! ## Letters -/

/-- The letter of a six-bit number. -/
def letter (n : Nat) : UInt8 :=
  if n < 26 then UInt8.ofNat (0x41 + n)
  else if n < 52 then UInt8.ofNat (0x61 + (n - 26))
  else if n < 62 then UInt8.ofNat (0x30 + (n - 52))
  else if n = 62 then 0x2b
  else 0x2f

/-- The six-bit number of a letter. -/
def value? (c : UInt8) : Option Nat :=
  let n := c.toNat
  if 0x41 ≤ n ∧ n ≤ 0x5a then some (n - 0x41)
  else if 0x61 ≤ n ∧ n ≤ 0x7a then some (n - 0x61 + 26)
  else if 0x30 ≤ n ∧ n ≤ 0x39 then some (n - 0x30 + 52)
  else if n = 0x2b then some 62
  else if n = 0x2f then some 63
  else none

/-- The letter that fills up the last group. -/
def padding : UInt8 := 0x3d

theorem value?_letter {n : Nat} (h : n < 64) : value? (letter n) = some n := by
  revert n; decide

/-! ## Texts -/

/-- The text of a byte string. -/
def encode : Bytes → Bytes
  | [] => []
  | [a] => [letter (a.toNat / 4), letter (a.toNat % 4 * 16), padding, padding]
  | [a, b] =>
      [letter (a.toNat / 4), letter (a.toNat % 4 * 16 + b.toNat / 16),
        letter (b.toNat % 16 * 4), padding]
  | a :: b :: c :: rest =>
      letter (a.toNat / 4) :: letter (a.toNat % 4 * 16 + b.toNat / 16) ::
        letter (b.toNat % 16 * 4 + c.toNat / 64) :: letter (c.toNat % 64) :: encode rest

/-- The one byte of a last group with two padding letters. -/
def lastOne? (w x : UInt8) : Option Bytes := do
  let p ← value? w
  let q ← value? x
  if q % 16 = 0 then some [UInt8.ofNat (p * 4 + q / 16)] else none

/-- The two bytes of a last group with one padding letter. -/
def lastTwo? (w x y : UInt8) : Option Bytes := do
  let p ← value? w
  let q ← value? x
  let r ← value? y
  if r % 4 = 0 then
    some [UInt8.ofNat (p * 4 + q / 16), UInt8.ofNat (q % 16 * 16 + r / 4)]
  else none

/-- The three bytes of a full group. -/
def group? (w x y z : UInt8) : Option Bytes := do
  let p ← value? w
  let q ← value? x
  let r ← value? y
  let s ← value? z
  some [UInt8.ofNat (p * 4 + q / 16), UInt8.ofNat (q % 16 * 16 + r / 4),
    UInt8.ofNat (r % 4 * 64 + s)]

/-- The byte string that a text spells. -/
def decode? : Bytes → Option Bytes
  | [] => some []
  | w :: x :: y :: z :: rest =>
      if z = padding ∧ rest = [] then
        if y = padding then lastOne? w x else lastTwo? w x y
      else do
        let front ← group? w x y z
        let back ← decode? rest
        some (front ++ back)
  | _ => none

/-! ## Texts read loosely -/

/-- Spaces, tabs, and what ends lines and pages. -/
def isBlank (b : UInt8) : Bool := b == 0x20 || (0x09 ≤ b && b ≤ 0x0d)

/-- The byte string that letters spell without padding.  Bits too few for a byte are dropped. -/
def decodeLetters? : Bytes → Option Bytes
  | [] => some []
  | [w, x] => do
      let p ← value? w
      let q ← value? x
      some [UInt8.ofNat (p * 4 + q / 16)]
  | [w, x, y] => do
      let p ← value? w
      let q ← value? x
      let r ← value? y
      some [UInt8.ofNat (p * 4 + q / 16), UInt8.ofNat (q % 16 * 16 + r / 4)]
  | w :: x :: y :: z :: rest => do
      let front ← group? w x y z
      let back ← decodeLetters? rest
      some (front ++ back)
  | _ => none

/-- Whether padding may follow so many letters: none at all, or what fills up the last group. -/
def isFilling (count : Nat) (filling : Bytes) : Bool :=
  filling.isEmpty || filling == List.replicate ((4 - count % 4) % 4) padding

/-- The byte string of a text with blanks anywhere, and with or without padding at its end. -/
def decodeLoose? (text : Bytes) : Option Bytes :=
  let solid := text.filter (!isBlank ·)
  let letters := solid.takeWhile (· != padding)
  if isFilling letters.length (solid.dropWhile (· != padding)) then decodeLetters? letters else none

end TupleWire.Base64
