/-
  Latency histograms.

  A histogram counts durations by upper bounds in whole microseconds, with one
  more bucket for what exceeds them all.  Its counters are 64-bit words.  That
  there is one bucket more than there are bounds is part of the type.
-/
import TupleWire.Duration

set_option autoImplicit false

namespace TupleWire

/-- The whole microseconds of a duration, held to 64 bits. -/
def Duration.cappedMicros (d : Duration) : UInt64 :=
  UInt64.ofNat (min d.micros 0xffffffffffffffff)

/-- Counts of durations by upper bound. -/
structure Histogram where
  /-- the upper bounds, in microseconds -/
  bounds : List UInt64
  buckets : List UInt64
  samples : UInt64
  /-- all durations together, in microseconds -/
  sum : UInt64
  length_buckets : buckets.length = bounds.length + 1
  deriving DecidableEq, Repr

namespace Histogram

/-- The histogram without samples. -/
def empty (bounds : List UInt64) : Histogram :=
  ⟨bounds, List.replicate (bounds.length + 1) 0, 0, 0, by simp⟩

/-- The bounds unless something else is asked for. -/
def defaultBounds : List UInt64 :=
  [50, 100, 200, 500, 1000, 2000, 5000, 10000, 20000, 50000, 100000, 500000]

instance : Inhabited Histogram := ⟨empty defaultBounds⟩

/-- The bucket of a number of microseconds: the first whose bound it does not exceed. -/
def bucketOf (bounds : List UInt64) (micros : UInt64) : Nat :=
  bounds.findIdx fun bound => decide (micros ≤ bound)

/-- Counts a duration. -/
def record (h : Histogram) (d : Duration) : Histogram :=
  let micros := d.cappedMicros
  { h with
    buckets := h.buckets.modify (bucketOf h.bounds micros) (· + 1)
    samples := h.samples + 1
    sum := h.sum + micros
    length_buckets := by rw [List.length_modify]; exact h.length_buckets }

/-- There is always a bucket for a duration. -/
theorem bucketOf_lt (h : Histogram) (micros : UInt64) :
    bucketOf h.bounds micros < h.buckets.length := by
  rw [h.length_buckets]
  exact Nat.lt_succ_of_le List.findIdx_le_length

end Histogram

end TupleWire
