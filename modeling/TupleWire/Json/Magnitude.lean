/-
  How large a decimal number is.

  The digits of a number are collected in a 64-bit word, and those that do not fit
  are dropped.  What is left is a `Magnitude`, a significand and a power of ten:
  not the number itself, but near it.  It is in the range of a double-precision
  float if the product of both, each rounded to a float, is.
-/

set_option autoImplicit false

namespace TupleWire

/-- `significand * 10 ^ exponent`. -/
structure Magnitude where
  significand : Nat
  exponent : Int
  deriving DecidableEq, Repr

namespace Magnitude

/-! ## Digits -/

/-- The value of a decimal digit. -/
def digit (c : Char) : Nat := c.toNat - '0'.toNat

/-- Adds digits to a word as long as they fit; those from the first that does not. -/
def collect : Nat → List Char → Nat × List Char
  | n, [] => (n, [])
  | n, c :: cs =>
      if n * 10 + digit c < UInt64.size then collect (n * 10 + digit c) cs else (n, c :: cs)

/-- The magnitude of a number by the digits before and after its point and its exponent.  A digit
dropped before the point counts as a zero; with the digits after the point, collecting goes on where
it stopped. -/
def ofDigits (whole fraction : List Char) (exponent : Int) : Magnitude :=
  let (n, zeros) := collect 0 whole
  let (significand, ignored) := collect n fraction
  ⟨significand, exponent + zeros.length - (fraction.length - ignored.length : Nat)⟩

/-! ## Floats -/

/-- Rounds to 53 binary digits, a tie to the even one. -/
def round (n : Nat) : Nat :=
  let unit := Nat.pow 2 (Nat.log2 n + 1 - 53)
  let below := n / unit
  let twice := 2 * (n % unit)
  if twice < unit ∨ (twice = unit ∧ below % 2 = 0) then below * unit else (below + 1) * unit

/-- What no longer rounds to a float: the midpoint of the largest one and the next power of two. -/
def limit : Nat := Nat.pow 2 1024 - Nat.pow 2 970

/-- Whether a number of this magnitude is in the range of a float. -/
def inRange (m : Magnitude) : Bool :=
  match m.exponent with
  | .negSucc _ => true
  | .ofNat e =>
      m.significand == 0 || (e ≤ 308 && round m.significand * round (Nat.pow 10 e) < limit)

end Magnitude

end TupleWire
