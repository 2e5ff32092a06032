/-
  Lengths of time.

  A duration is a whole number of nanoseconds.  `Duration.limit` is the longest
  one that a configuration can speak of, and `Duration.describe` the wording of
  a duration in messages: its largest non-zero unit of seconds, milliseconds,
  microseconds and nanoseconds, with an exact decimal fraction.
-/

set_option autoImplicit false

namespace TupleWire

/-- A length of time, in nanoseconds. -/
structure Duration where
  nanos : Nat
  deriving DecidableEq, Repr, Inhabited

namespace Duration

/-- No time at all. -/
def zero : Duration := ⟨0⟩

/-- So many milliseconds. -/
def ofMillis (ms : Nat) : Duration := ⟨ms * 1000000⟩

/-- So many seconds and nanoseconds. -/
def ofParts (secs nanos : Nat) : Duration := ⟨secs * 1000000000 + nanos⟩

/-- The longest duration: the largest 64-bit number of seconds and all but a whole second more. -/
def limit : Duration := ofParts 0xffffffffffffffff 999999999

/-- The whole seconds. -/
def secs (d : Duration) : Nat := d.nanos / 1000000000

/-- The nanoseconds after the whole seconds. -/
def subsecNanos (d : Duration) : Nat := d.nanos % 1000000000

/-- The whole milliseconds. -/
def millis (d : Duration) : Nat := d.nanos / 1000000

/-- The whole microseconds. -/
def micros (d : Duration) : Nat := d.nanos / 1000

/-- The milliseconds until a duration has passed in full, on a clock that ticks in milliseconds. -/
def ticks (d : Duration) : Nat := (d.nanos + 999999) / 1000000

/-- The duration in seconds as a double-precision float, by its bits. -/
def secondsBits (d : Duration) : UInt64 :=
  ((UInt64.ofNat d.secs).toFloat +
    (UInt64.ofNat d.subsecNanos).toFloat / (1000000000 : UInt64).toFloat).toBits

/-- A decimal fraction of so many places, without zeros at its end; empty if it is zero. -/
def fraction (places n : Nat) : String :=
  let digits := (List.range places).reverse.map fun i => Nat.digitChar (n / Nat.pow 10 i % 10)
  let kept := (digits.reverse.dropWhile (· == '0')).reverse
  if kept.isEmpty then "" else String.ofList ('.' :: kept)

/-- A number of nanoseconds in a unit of `10 ^ places` of them. -/
def inUnit (places : Nat) (unit : String) (n : Nat) : String :=
  toString (n / Nat.pow 10 places) ++ fraction places (n % Nat.pow 10 places) ++ unit

/-- The wording of a duration. -/
def describe (d : Duration) : String :=
  if 1000000000 ≤ d.nanos then inUnit 9 "s" d.nanos
  else if 1000000 ≤ d.nanos then inUnit 6 "ms" d.nanos
  else if 1000 ≤ d.nanos then inUnit 3 "µs" d.nanos
  else inUnit 0 "ns" d.nanos

end Duration

end TupleWire
