/-
  What a registry shows of everything that was recorded in it.

  A registry counts in 64 bits and in pieces: a request when it begins, and again
  when it ends, by how it ended.  `Metrics.Shows` says what each of its numbers
  amounts to, given how many requests have begun and how those that ended did.
-/
import Mathlib.Algebra.GroupWithZero.Nat
import TupleWire.Metrics.Basic

set_option autoImplicit false

namespace TupleWire

/-! ## Histograms -/

namespace Histogram

/-- Counting in one place of a list counts in its sum, as long as that stays within 64 bits. -/
theorem sum_modify_succ {counts : List UInt64} {i : Nat} (hi : i < counts.length)
    (hfew : (counts.map UInt64.toNat).sum + 1 < UInt64.size) :
    ((counts.modify i (· + 1)).map UInt64.toNat).sum = (counts.map UInt64.toNat).sum + 1 := by
  induction counts generalizing i with
  | nil => cases hi
  | cons count rest ih =>
      rw [List.map_cons, List.sum_cons] at hfew
      cases i with
      | zero =>
          have hcount : (count + 1).toNat = count.toNat + 1 := by
            rw [UInt64.toNat_add]
            exact Nat.mod_eq_of_lt (show count.toNat + 1 < UInt64.size by omega)
          rw [List.modify_zero_cons, List.map_cons, List.sum_cons, List.map_cons, List.sum_cons,
            hcount]
          omega
      | succ i =>
          rw [List.modify_succ_cons, List.map_cons, List.sum_cons, List.map_cons, List.sum_cons,
            ih (Nat.lt_of_succ_lt_succ hi) (by omega)]
          omega

/-- The samples in all buckets together. -/
def total (h : Histogram) : Nat := (h.buckets.map UInt64.toNat).sum

theorem total_empty (bounds : List UInt64) : (empty bounds).total = 0 := by
  simp [total, empty]

theorem total_record {h : Histogram} (hfew : h.total + 1 < UInt64.size) (d : Duration) :
    (h.record d).total = h.total + 1 :=
  sum_modify_succ (h.bucketOf_lt d.cappedMicros) hfew

end Histogram

/-! ## Outcomes -/

namespace RequestOutcome

/-- Whether a request that ended so was answered by the server. -/
def isAnswer : RequestOutcome → Bool
  | ok | error => true
  | timeout | closed => false

/-- Whether a request that ended so counts as failed, other than by its time. -/
def isFailure : RequestOutcome → Bool
  | error | closed => true
  | ok | timeout => false

/-- Whatever ended went well, failed or took too long. -/
theorem length_eq_counts (outcomes : List RequestOutcome) :
    outcomes.length = outcomes.count ok + outcomes.countP isFailure + outcomes.count timeout := by
  induction outcomes with
  | nil => rfl
  | cons outcome rest ih =>
      rw [List.length_cons, ih]
      cases outcome <;> simp [List.countP_cons, isFailure] <;> omega

/-- One more outcome in the 64 bits of a counter. -/
theorem ofNat_countP_append (counts : RequestOutcome → Bool) (outcomes : List RequestOutcome)
    (outcome : RequestOutcome) :
    UInt64.ofNat ((outcomes ++ [outcome]).countP counts) =
      UInt64.ofNat (outcomes.countP counts) + if counts outcome then 1 else 0 := by
  rw [List.countP_append, UInt64.ofNat_add]
  cases hcounts : counts outcome <;> simp [hcounts]

end RequestOutcome

/-! ## Registries -/

open RequestOutcome

namespace Metrics

/-- What the numbers of a registry amount to, given how many requests have begun and how those
that have ended did. -/
structure Shows (m : Metrics) (begun : Nat) (outcomes : List RequestOutcome) : Prop where
  requests : m.requests = UInt64.ofNat begun
  /-- those that have begun wait or have ended -/
  inflight : m.inflight + UInt64.ofNat outcomes.length = UInt64.ofNat begun
  errors : m.errors = UInt64.ofNat (outcomes.countP isFailure)
  timeouts : m.timeouts = UInt64.ofNat (outcomes.countP (· == .timeout))
  samples : m.latency.samples = UInt64.ofNat (outcomes.countP isAnswer)
  /-- no bucket runs over before all of them together do -/
  buckets : outcomes.countP isAnswer < UInt64.size → m.latency.total = outcomes.countP isAnswer

theorem shows_withBounds (bounds : List UInt64) (isAttached : Bool) :
    Shows { withBounds bounds with isAttached } 0 [] where
  requests := rfl
  inflight := rfl
  errors := rfl
  timeouts := rfl
  samples := rfl
  buckets _ := Histogram.total_empty bounds

variable {m : Metrics} {begun : Nat} {outcomes : List RequestOutcome}

namespace Shows

theorem start (h : Shows m begun outcomes) : Shows m.start (begun + 1) outcomes where
  requests := by
    rw [UInt64.ofNat_add, ← h.requests]
    rfl
  inflight := by
    have hone : UInt64.ofNat 1 = 1 := rfl
    rw [UInt64.ofNat_add, ← h.inflight, hone, UInt64.add_assoc,
      UInt64.add_comm (UInt64.ofNat outcomes.length), ← UInt64.add_assoc]
    rfl
  errors := h.errors
  timeouts := h.timeouts
  samples := h.samples
  buckets := h.buckets

theorem ignore (h : Shows m begun outcomes) : Shows m.ignore begun outcomes := { h with }

/-- A latency is recorded if and only if the server answered. -/
theorem latency_finish (m : Metrics) (outcome : RequestOutcome) (latency : Duration) :
    (m.finish outcome latency).latency =
      if outcome.isAnswer then m.latency.record latency else m.latency := by
  cases outcome <;> rfl

theorem finish (h : Shows m begun outcomes) (outcome : RequestOutcome) (latency : Duration) :
    Shows (m.finish outcome latency) begun (outcomes ++ [outcome]) where
  requests := by
    rw [← h.requests]
    cases outcome <;> rfl
  inflight := by
    have hinflight : (m.finish outcome latency).inflight = m.inflight - 1 := by
      cases outcome <;> rfl
    have hone : UInt64.ofNat 1 = 1 := rfl
    rw [hinflight, List.length_append, List.length_singleton, UInt64.ofNat_add, hone,
      UInt64.add_comm (UInt64.ofNat outcomes.length), ← UInt64.add_assoc, UInt64.sub_add_cancel,
      h.inflight]
  errors := by
    rw [ofNat_countP_append, ← h.errors]
    cases outcome <;> simp [Metrics.finish, isFailure]
  timeouts := by
    rw [ofNat_countP_append, ← h.timeouts]
    cases outcome <;> simp [Metrics.finish]
  samples := by
    rw [ofNat_countP_append, ← h.samples, latency_finish]
    cases outcome <;> simp [Histogram.record, isAnswer]
  buckets hfew := by
    rw [List.countP_append] at hfew ⊢
    rw [latency_finish]
    have hbuckets := h.buckets (by omega)
    cases hanswer : outcome.isAnswer with
    | true =>
        have hone : [outcome].countP isAnswer = 1 := by simp [hanswer]
        rw [hone] at hfew ⊢
        rw [if_pos rfl, Histogram.total_record (by omega), hbuckets]
    | false => simp [hanswer, hbuckets]

/-- As long as a registry has room for all requests, its numbers are what they stand for. -/
theorem toNat (h : Shows m begun outcomes) (hfew : begun < UInt64.size) {waiting : Nat}
    (hwaiting : begun = outcomes.length + waiting) :
    m.inflight.toNat = waiting ∧ m.requests.toNat = begun ∧
      m.errors.toNat = outcomes.countP isFailure ∧
      m.timeouts.toNat = outcomes.count .timeout ∧
      m.latency.samples.toNat = outcomes.countP isAnswer ∧
      m.latency.total = outcomes.countP isAnswer := by
  have hword {n : Nat} (hn : n ≤ begun) : (UInt64.ofNat n).toNat = n :=
    UInt64.toNat_ofNat_of_lt' (Nat.lt_of_le_of_lt hn hfew)
  have hends : outcomes.length ≤ begun := hwaiting ▸ Nat.le_add_right _ _
  have hcount (counts : RequestOutcome → Bool) : outcomes.countP counts ≤ begun :=
    Nat.le_trans List.countP_le_length hends
  have hinflight : m.inflight = UInt64.ofNat waiting := by
    have hsum := h.inflight
    rw [hwaiting, Nat.add_comm, UInt64.ofNat_add] at hsum
    exact (UInt64.add_left_inj _).1 hsum
  refine ⟨?_, ?_, ?_, ?_, ?_, h.buckets (Nat.lt_of_le_of_lt (hcount _) hfew)⟩
  · rw [hinflight]
    exact hword (hwaiting ▸ Nat.le_add_left _ _)
  · rw [h.requests]
    exact hword (Nat.le_refl _)
  · rw [h.errors]
    exact hword (hcount _)
  · rw [h.timeouts]
    exact hword (hcount _)
  · rw [h.samples]
    exact hword (hcount _)

end Shows

end Metrics

end TupleWire
