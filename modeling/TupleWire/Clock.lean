/-
  A clock that counts milliseconds.

  The clock has 64 bits and stops short of their end; up to there it counts
  exactly (`after_eq`).
-/

set_option autoImplicit false

namespace TupleWire.Clock

/-- The time at which a clock stops. -/
def last : Nat := 0xfffffffffffffffd

/-- The time after so many milliseconds. -/
def after (now ms : Nat) : Nat := min (now + ms) last

theorem after_eq {now ms : Nat} (h : now + ms ≤ last) : after now ms = now + ms := Nat.min_eq_left h

end TupleWire.Clock
