/-
  What the detection time says of its settings.

  It should be the time of all probes in the windows that have to be bad, the
  interval times their number, and the longest duration there is if that time is
  longer.  But it counts no more probes than 32 bits hold (`detectionTime_eq`).
  `detectionTime_is_product_iff` says when that makes a difference: the time is
  too short then, never too long.
-/
import TupleWire.Config.Basic

set_option autoImplicit false

namespace TupleWire

/-- So many nanoseconds, or the longest duration if they are more than that. -/
def Duration.saturating (nanos : Nat) : Duration := ⟨min nanos Duration.limit.nanos⟩

namespace HeartbeatConfig

variable (h : HeartbeatConfig)

/-- The probes in as many windows as have to be bad. -/
def probesToDeath : Nat := h.deathThreshold.toNat * h.windowSize.toNat

/-- The most probes that a detection time counts. -/
def countLimit : Nat := 0xffffffff

/-- The detection time is the time of the probes that it counts. -/
theorem detectionTime_eq :
    h.detectionTime = .saturating (h.pingInterval.nanos * min h.probesToDeath countLimit) := by
  rw [detectionTime, probesToDeath, countLimit, Duration.saturating]
  split
  · rename_i hfits
    rw [Nat.min_eq_left hfits]
  · rename_i hlong
    rw [Nat.min_eq_right (Nat.le_of_not_le hlong)]

/-- A limit on a factor makes a difference to a product with a limit of its own, unless the factor
keeps to it, the other one is zero, or the limit of the product is reached all the same. -/
theorem min_mul_min_eq_iff (a n count limit : Nat) :
    min (a * min n count) limit = min (a * n) limit ↔ n ≤ count ∨ a = 0 ∨ limit ≤ a * count := by
  by_cases hn : n ≤ count
  · rw [Nat.min_eq_left hn]
    exact iff_of_true rfl (.inl hn)
  · have hcount : count < n := Nat.not_le.1 hn
    rw [Nat.min_eq_right (Nat.le_of_lt hcount), or_iff_right hn]
    rcases Nat.eq_zero_or_pos a with rfl | ha
    · rw [Nat.zero_mul, Nat.zero_mul]
      exact iff_of_true rfl (.inl rfl)
    · have hlt : a * count < a * n := Nat.mul_lt_mul_of_pos_left hcount ha
      omega

theorem pingInterval_nanos_eq_zero_iff : h.pingInterval.nanos = 0 ↔ h.pingIntervalMs = 0 := by
  have hnanos : h.pingInterval.nanos = h.pingIntervalMs.toNat * 1000000 := rfl
  rw [hnanos, ← UInt64.toNat_inj, UInt64.toNat_zero]
  omega

/-- The detection time is the interval times the probes, or the longest duration where that is more,
if and only if the probes can be counted in 32 bits, no time passes between them, or as many as
can be counted take the longest duration already.  Otherwise it is the time of those that can be
counted, which is too short. -/
theorem detectionTime_is_product_iff :
    (h.detectionTime = .saturating (h.pingInterval.nanos * h.probesToDeath) ↔
      h.probesToDeath ≤ countLimit ∨ h.pingIntervalMs = 0 ∨
        Duration.limit.nanos ≤ h.pingInterval.nanos * countLimit) ∧
    h.detectionTime = .saturating (h.pingInterval.nanos * min h.probesToDeath countLimit) ∧
    h.detectionTime.nanos ≤
      (Duration.saturating (h.pingInterval.nanos * h.probesToDeath)).nanos := by
  refine ⟨?_, h.detectionTime_eq, ?_⟩
  · rw [detectionTime_eq, ← pingInterval_nanos_eq_zero_iff, ← min_mul_min_eq_iff,
      Duration.saturating, Duration.saturating, Duration.mk.injEq]
  · have hcounted : h.pingInterval.nanos * min h.probesToDeath countLimit ≤
        h.pingInterval.nanos * h.probesToDeath :=
      Nat.mul_le_mul_left _ (Nat.min_le_left _ _)
    rw [detectionTime_eq]
    exact Nat.le_min.2 ⟨Nat.le_trans (Nat.min_le_left _ _) hcounted, Nat.min_le_right _ _⟩

namespace Patient

/-- A window of one probe more than can be counted, one each millisecond. -/
def config : HeartbeatConfig :=
  { pingIntervalMs := 1, windowSize := 0x100000000, invalidationThreshold := 1, deathThreshold := 1 }

/-- Three windows as large as they can be, with a probe each second. -/
def forever : HeartbeatConfig := { windowSize := 0xffffffffffffffff, deathThreshold := 3 }

/-- Both are accepted.  The probes of the first one take a millisecond more than is said, and those
of the second one longer than any duration, where 136 years are said. -/
theorem detectionTime_of_patient :
    (config.validate = .ok () ∧ config.detectionTime = ⟨4294967295000000⟩ ∧
      .saturating (config.pingInterval.nanos * config.probesToDeath) =
        (⟨4294967296000000⟩ : Duration)) ∧
    (forever.validate = .ok () ∧ forever.detectionTime = ⟨4294967295000000000⟩ ∧
      .saturating (forever.pingInterval.nanos * forever.probesToDeath) = Duration.limit) :=
  ⟨⟨rfl, by decide, by decide⟩, ⟨rfl, by decide, by decide⟩⟩

end Patient

end HeartbeatConfig

end TupleWire
