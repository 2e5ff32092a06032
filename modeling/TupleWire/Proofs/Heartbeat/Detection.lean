/-
  How soon silence is noticed.

  When every probe of a slot fails from some moment on, the slot dies at a probe
  that its history tells beforehand (`ProbeHistory.lifeLeft`,
  `dead_mem_silence_iff`): first the open window runs out, then as many whole
  windows as are still missing.  The open window counts towards death only if it
  can still turn bad; otherwise it closes good, the streak begins anew after it,
  and death comes later than in as many probes as `deathThreshold` windows hold.
  `silence_detected_in_time_iff` gives that exact condition, and by how much the
  time can be missed at most; `exists_latest_detection` says that it can be missed
  by so much.

  The step is `IsLiving.record_false`: each failed probe takes one from what is
  left, and the last of them is the death of the slot.
-/
import TupleWire.Proofs.Heartbeat.Blocks

set_option autoImplicit false

namespace TupleWire

/-- Sound rules under which a window can be bad at all. -/
structure ProbeRules.AreFair (rules : ProbeRules) : Prop extends rules.AreSound where
  threshold_le : rules.invalidationThreshold ≤ rules.windowSize

/-- The rules of a configuration that is accepted are fair. -/
theorem HeartbeatConfig.areFair_of_validate {config : HeartbeatConfig}
    (h : config.validate = .ok ()) : config.rules.AreFair := by
  refine ⟨areSound_of_validate h, ?_⟩
  unfold validate at h
  split at h
  · cases h
  split at h
  · cases h
  rename_i hthreshold
  have hfits : ¬ config.windowSize < config.invalidationThreshold := fun hlt =>
    hthreshold (.inr hlt)
  exact UInt64.le_iff_toNat_le.1 (UInt64.not_lt.1 hfits)

/-- Time passes between the probes of a configuration that is accepted. -/
theorem HeartbeatConfig.pingInterval_pos {config : HeartbeatConfig}
    (h : config.validate = .ok ()) : 0 < config.pingInterval.nanos := by
  unfold validate at h
  split at h
  · cases h
  rename_i hwindow
  have hmillis : 0 < config.pingIntervalMs.toNat :=
    Nat.pos_of_ne_zero fun hzero => hwindow (.inr (UInt64.toNat_inj.1 hzero))
  exact Nat.mul_pos hmillis (by decide)

namespace ProbeHistory

open ProbeRules

variable {rules : ProbeRules} {h : ProbeHistory}

/-- The verdicts on so many failed probes in a row. -/
def silence (rules : ProbeRules) (h : ProbeHistory) (n : Nat) : List Verdict :=
  (run rules h (.replicate n false)).map Prod.fst

/-- The open window turns bad if the rest of its probes fail. -/
def CanTurnBad (rules : ProbeRules) (h : ProbeHistory) : Prop :=
  rules.invalidationThreshold ≤ h.failed + (rules.windowSize - h.probes)

instance (rules : ProbeRules) (h : ProbeHistory) : Decidable (h.CanTurnBad rules) :=
  inferInstanceAs (Decidable (_ ≤ _))

/-- The number of failed probes in a row that are the death of a slot. -/
def lifeLeft (rules : ProbeRules) (h : ProbeHistory) : Nat :=
  (rules.windowSize - h.probes) +
    if h.CanTurnBad rules then (rules.deathThreshold - h.badWindows - 1) * rules.windowSize
    else rules.deathThreshold * rules.windowSize

/-- What holds of a living slot between its probes. -/
structure IsLiving (rules : ProbeRules) (h : ProbeHistory) : Prop where
  isDead : h.isDead = false
  probes_lt : h.probes < rules.windowSize
  badWindows_lt : h.badWindows < rules.deathThreshold

theorem isLiving_recordAll (hrules : rules.AreSound) {outcomes : List Bool}
    (halive : (recordAll rules .fresh outcomes).isDead = false) :
    IsLiving rules (recordAll rules .fresh outcomes) := by
  rcases tells_or_rests hrules outcomes with htells | hrests
  · refine ⟨halive, ?_, ?_⟩
    · rw [htells.probes, length_openBlock]
      exact Nat.mod_lt _ hrules.window_pos
    · rw [htells.badWindows, ← Nat.not_le, badStreak, ← exists_suffix_iff]
      rintro ⟨streak, hsuffix, hstreak⟩
      exact htells.not_isFatal ⟨streak, hsuffix.isInfix, hstreak⟩
  · rw [hrests.isDead] at halive
    cases halive

/-! ## One failed probe -/

theorem lifeLeft_pos (hliving : IsLiving rules h) : 0 < lifeLeft rules h :=
  Nat.add_pos_left (Nat.sub_pos_of_lt hliving.probes_lt) _

/-- A window of which nothing is known yet can turn bad. -/
theorem lifeLeft_of_opened (hrules : rules.AreFair) {badWindows : Nat} {isInvalidated : Bool}
    (hbadWindows : badWindows < rules.deathThreshold) :
    lifeLeft rules { badWindows, isInvalidated } =
      (rules.deathThreshold - badWindows) * rules.windowSize := by
  have hcan : CanTurnBad rules { badWindows, isInvalidated } := by
    simpa [CanTurnBad] using hrules.threshold_le
  obtain ⟨missing, hmissing⟩ := Nat.exists_eq_add_of_lt hbadWindows
  have hleft : rules.deathThreshold - badWindows = missing + 1 := by omega
  rw [lifeLeft, if_pos hcan, hleft, Nat.add_sub_cancel, Nat.succ_mul, Nat.sub_zero, Nat.add_comm]

/-- What a failed probe of a living slot comes to: it dies, if nothing more was left, or it lives
on with one probe less. -/
def Wears (rules : ProbeRules) (h : ProbeHistory) (step : Verdict × ProbeHistory) : Prop :=
  (step.1 = .dead ∧ lifeLeft rules h = 1) ∨
    (step.1 ≠ .dead ∧ IsLiving rules step.2 ∧ lifeLeft rules h = lifeLeft rules step.2 + 1)

theorem IsLiving.record_false_of_open (hliving : IsLiving rules h)
    (hopen : h.probes + 1 ≠ rules.windowSize) : Wears rules h (record rules h false) := by
  have hprobes : h.probes + 1 < rules.windowSize :=
    Nat.lt_of_le_of_ne hliving.probes_lt hopen
  rw [Wears, record_of_open hliving.isDead hopen, judge_eq]
  refine .inr ⟨Verdict.ofChange_ne_dead _ _, ⟨hliving.isDead, hprobes, hliving.badWindows_lt⟩, ?_⟩
  -- the failure and the probe that it took balance in the condition
  have hcan : CanTurnBad rules (judge rules (h.count false)).2 ↔ CanTurnBad rules h := by
    rw [judge_eq, CanTurnBad, CanTurnBad]
    show _ ≤ h.failed + 1 + (rules.windowSize - (h.probes + 1)) ↔ _
    omega
  rw [judge_eq] at hcan
  simp only [lifeLeft, hcan]
  show _ = rules.windowSize - (h.probes + 1) + (if CanTurnBad rules h then
    (rules.deathThreshold - h.badWindows - 1) * rules.windowSize else _) + 1
  omega

theorem IsLiving.record_false_of_full (hrules : rules.AreFair) (hliving : IsLiving rules h)
    (hfull : h.probes + 1 = rules.windowSize) : Wears rules h (record rules h false) := by
  have hlast : rules.windowSize - h.probes = 1 := by omega
  have hcan : CanTurnBad rules h ↔ rules.invalidationThreshold ≤ (h.count false).failed := by
    rw [CanTurnBad, hlast]
    rfl
  have hwear : lifeLeft rules h = 1 + if rules.invalidationThreshold ≤ (h.count false).failed then
      (rules.deathThreshold - h.badWindows - 1) * rules.windowSize
      else rules.deathThreshold * rules.windowSize := by
    simp only [lifeLeft, hlast, hcan]
  rw [Wears, record_of_full hliving.isDead hfull, hwear]
  by_cases hbad : rules.invalidationThreshold ≤ (h.count false).failed
  · rw [if_pos hbad, if_pos hbad]
    by_cases hdeath : rules.deathThreshold ≤ h.badWindows + 1
    · have hnone : rules.deathThreshold - h.badWindows - 1 = 0 := by omega
      rw [if_pos hdeath, hnone, Nat.zero_mul]
      exact .inl ⟨rfl, rfl⟩
    · have hlater : h.badWindows + 1 < rules.deathThreshold := Nat.not_le.1 hdeath
      rw [if_neg hdeath]
      refine .inr ⟨Verdict.ofChange_ne_dead _ _, ⟨rfl, hrules.window_pos, hlater⟩, ?_⟩
      rw [lifeLeft_of_opened hrules hlater, Nat.sub_sub, Nat.add_comm]
  · rw [if_neg hbad, if_neg hbad]
    refine .inr ⟨Verdict.ofChange_ne_dead _ _, ⟨rfl, hrules.window_pos, hrules.death_pos⟩, ?_⟩
    rw [fresh, lifeLeft_of_opened hrules hrules.death_pos, Nat.sub_zero, Nat.add_comm]

/-- One failed probe of a living slot. -/
theorem IsLiving.record_false (hrules : rules.AreFair) (hliving : IsLiving rules h) :
    Wears rules h (record rules h false) := by
  by_cases hfull : h.probes + 1 = rules.windowSize
  · exact hliving.record_false_of_full hrules hfull
  · exact hliving.record_false_of_open hfull

/-! ## Silence -/

/-- A slot dies within so many failed probes if no more are left to it. -/
theorem dead_mem_silence_iff (hrules : rules.AreFair) (hliving : IsLiving rules h) (n : Nat) :
    .dead ∈ silence rules h n ↔ lifeLeft rules h ≤ n := by
  induction n generalizing h with
  | zero =>
      have hleft := lifeLeft_pos hliving
      exact iff_of_false List.not_mem_nil (Nat.not_le.2 hleft)
  | succ n ih =>
      have hsilence : silence rules h (n + 1) =
          (record rules h false).1 :: silence rules (record rules h false).2 n := rfl
      rw [hsilence, List.mem_cons]
      rcases hliving.record_false hrules with ⟨hdead, hleft⟩ | ⟨hlives, hnext, hleft⟩
      · rw [hdead, hleft]
        exact ⟨fun _ => Nat.succ_le_succ (Nat.zero_le n), fun _ => .inl rfl⟩
      · rw [ih hnext, hleft, Nat.succ_le_succ_iff]
        exact or_iff_right (Ne.symm hlives)

/-- The open window is in time with the whole ones only if it can still turn bad. -/
theorem lifeLeft_le_iff (hliving : IsLiving rules h) :
    lifeLeft rules h ≤ rules.deathThreshold * rules.windowSize ↔ CanTurnBad rules h := by
  have hopen : 0 < rules.windowSize - h.probes := Nat.sub_pos_of_lt hliving.probes_lt
  obtain ⟨missing, hmissing⟩ := Nat.exists_eq_add_of_lt hliving.badWindows_lt
  have hwhole : (missing + 1) * rules.windowSize ≤ rules.deathThreshold * rules.windowSize :=
    Nat.mul_le_mul_right _ (by omega)
  rw [Nat.succ_mul] at hwhole
  have hlater : rules.deathThreshold - h.badWindows - 1 = missing := by omega
  rw [lifeLeft, hlater]
  split
  · rename_i hcan
    exact iff_of_true (by omega) hcan
  · rename_i hcannot
    exact iff_of_false (by omega) hcannot

/-- At worst all but one of the failures that make a window bad come too late for the open one. -/
theorem lifeLeft_le (hliving : IsLiving rules h) :
    lifeLeft rules h ≤
      rules.deathThreshold * rules.windowSize + (rules.invalidationThreshold - 1) := by
  by_cases hcan : CanTurnBad rules h
  · exact ((lifeLeft_le_iff hliving).2 hcan).trans (Nat.le_add_right _ _)
  · rw [lifeLeft, if_neg hcan]
    rw [CanTurnBad] at hcan
    omega

theorem recordAll_replicate_true (hrules : rules.AreSound) {n : Nat} (hn : n < rules.windowSize) :
    recordAll rules .fresh (.replicate n true) = { probes := n } := by
  induction n with
  | zero => rfl
  | succ n ih =>
      rw [List.replicate_succ', recordAll_concat, ih (Nat.lt_of_succ_lt hn),
        record_of_open rfl (Nat.ne_of_lt hn), judge_eq]
      have hgood : ¬ rules.invalidationThreshold ≤ 0 := Nat.not_le.2 hrules.threshold_pos
      simp [count, hgood]

/-- Under all fair rules there is a slot that takes as long to die as one can. -/
theorem exists_latest_detection (hrules : rules.AreFair) :
    ∃ outcomes, (recordAll rules .fresh outcomes).isDead = false ∧
      lifeLeft rules (recordAll rules .fresh outcomes) =
        rules.deathThreshold * rules.windowSize + (rules.invalidationThreshold - 1) := by
  have hthreshold := hrules.threshold_pos
  have hle := hrules.threshold_le
  by_cases hone : rules.invalidationThreshold = 1
  · refine ⟨[], rfl, ?_⟩
    rw [hone]
    exact lifeLeft_of_opened hrules hrules.death_pos
  · -- the failures left are one too few
    have hopen : rules.windowSize - (rules.invalidationThreshold - 1) < rules.windowSize := by omega
    have hleft : rules.windowSize - (rules.windowSize - (rules.invalidationThreshold - 1)) =
        rules.invalidationThreshold - 1 := by omega
    refine ⟨.replicate (rules.windowSize - (rules.invalidationThreshold - 1)) true, ?_, ?_⟩
    · rw [recordAll_replicate_true hrules.toAreSound hopen]
    · have hcannot : ¬ CanTurnBad rules
          { probes := rules.windowSize - (rules.invalidationThreshold - 1) } := by
        rw [CanTurnBad, hleft, Nat.zero_add]
        omega
      rw [recordAll_replicate_true hrules.toAreSound hopen, lifeLeft, if_neg hcannot, hleft,
        Nat.add_comm]

end ProbeHistory

open ProbeHistory in
/-- A slot that answers no more after any outcomes is found dead within the probes of
`deathThreshold` windows, and so within the detection time where that is the time of these probes,
if and only if its open window can still turn bad; in any case less than `invalidationThreshold`
probes more will do. -/
theorem silence_detected_in_time_iff {config : HeartbeatConfig} (hvalid : config.validate = .ok ())
    {outcomes : List Bool} (halive : (recordAll config.rules .fresh outcomes).isDead = false) :
    let rules := config.rules
    let h := recordAll rules .fresh outcomes
    let promised := rules.deathThreshold * rules.windowSize
    (.dead ∈ h.silence rules promised ↔ h.CanTurnBad rules) ∧
      .dead ∈ h.silence rules (promised + (rules.invalidationThreshold - 1)) ∧
      (config.detectionTime.nanos = config.pingInterval.nanos * promised →
        ((∃ n, .dead ∈ h.silence rules n ∧
            config.pingInterval.nanos * n ≤ config.detectionTime.nanos) ↔ h.CanTurnBad rules)) := by
  intro rules h promised
  have hrules : rules.AreFair := HeartbeatConfig.areFair_of_validate hvalid
  have hliving : IsLiving rules h := isLiving_recordAll hrules.toAreSound halive
  refine ⟨?_, ?_, ?_⟩
  · rw [dead_mem_silence_iff hrules hliving, lifeLeft_le_iff hliving]
  · exact (dead_mem_silence_iff hrules hliving _).2 (lifeLeft_le hliving)
  · intro htime
    have hinterval := HeartbeatConfig.pingInterval_pos hvalid
    rw [htime, ← lifeLeft_le_iff hliving]
    simp only [dead_mem_silence_iff hrules hliving, Nat.mul_le_mul_left_iff hinterval]
    exact ⟨fun ⟨n, hdead, hn⟩ => hdead.trans hn, fun hle => ⟨_, le_refl _, hle⟩⟩

namespace Straddle

/-- The settings that a configuration has unless it says otherwise. -/
def config : HeartbeatConfig := {}

open ProbeHistory in
/-- The second probe of the open window failed, and so the last one can make it bad: sixteen failed
probes are enough. -/
theorem silence_detected_in_time_iff_of_shaken :
    config.validate = .ok () ∧
      (recordAll config.rules .fresh [true, false, true]).isDead = false ∧
      .dead ∈ (recordAll config.rules .fresh [true, false, true]).silence config.rules 16 := by
  have hvalid : config.validate = .ok () := by decide
  have halive : (recordAll config.rules .fresh [true, false, true]).isDead = false := by decide
  exact ⟨hvalid, halive, (silence_detected_in_time_iff hvalid halive).1.2 (by decide)⟩

open ProbeHistory in
/-- Three probes of the open window went well, and so its last one cannot make it bad: the sixteen
failed probes that fit into the detection time are not enough. -/
theorem silence_outlives_detection :
    config.validate = .ok () ∧
      (recordAll config.rules .fresh [true, true, true]).isDead = false ∧
      config.detectionTime.nanos = config.pingInterval.nanos * 16 ∧
      .dead ∉ (recordAll config.rules .fresh [true, true, true]).silence config.rules
        (config.rules.deathThreshold * config.rules.windowSize) := by
  decide

end Straddle

end TupleWire
