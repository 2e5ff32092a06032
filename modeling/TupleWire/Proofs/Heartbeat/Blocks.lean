/-
  Probes judged in blocks.

  A history keeps three numbers and two marks.  What it says can be read off the
  outcomes themselves: they fall into blocks of the size of a window, a block is
  bad if enough of its probes failed, and a slot is dead once enough bad blocks
  came in a row (`ProbeRules.IsFatal`).  Before that it is suspected if its last
  block was bad or its open one is so already (`ProbeRules.isSuspect`).
  `probes_are_judged_in_blocks` says that every verdict, after any outcomes, is
  what these blocks say, counted since the slot was reinstated last.

  The invariant is `Tells`, which reads each number and mark of a living slot off
  the outcomes of its life; `Tells.record` is the step.
-/
import Mathlib.Data.List.DropRight
import Mathlib.Data.List.Induction
import TupleWire.Proofs.Heartbeat.Verdict

set_option autoImplicit false

namespace TupleWire

/-! ## Blocks of outcomes -/

namespace ProbeRules

/-- Rules under which a window closes, not every one is bad and a slot lives for a while. -/
structure AreSound (rules : ProbeRules) : Prop where
  window_pos : 0 < rules.windowSize
  threshold_pos : 0 < rules.invalidationThreshold
  death_pos : 0 < rules.deathThreshold

variable (rules : ProbeRules)

/-- The outcomes from the `i`th multiple of the window on, as many as fill a window. -/
def block (outcomes : List Bool) (i : Nat) : List Bool :=
  (outcomes.drop (i * rules.windowSize)).take rules.windowSize

/-- The complete blocks of a row of outcomes, in order. -/
def blocks (outcomes : List Bool) : List (List Bool) :=
  (List.range (outcomes.length / rules.windowSize)).map (rules.block outcomes)

/-- The outcomes after the complete blocks. -/
def openBlock (outcomes : List Bool) : List Bool :=
  outcomes.drop (outcomes.length / rules.windowSize * rules.windowSize)

/-- Whether enough probes of a block failed. -/
def isBad (block : List Bool) : Bool := rules.invalidationThreshold ≤ block.count false

/-- Enough bad blocks came in a row. -/
def IsFatal (outcomes : List Bool) : Prop :=
  ∃ streak, streak <:+: rules.blocks outcomes ∧ streak.length = rules.deathThreshold ∧
    ∀ block ∈ streak, rules.isBad block = true

/-- Whether the last complete block was bad or the open one is so already. -/
def isSuspect (outcomes : List Bool) : Bool :=
  (rules.blocks outcomes).getLast?.any rules.isBad || rules.isBad (rules.openBlock outcomes)

/-- The number of bad blocks at the end of the complete ones. -/
def badStreak (outcomes : List Bool) : Nat :=
  ((rules.blocks outcomes).rtakeWhile rules.isBad).length

variable {rules} {outcomes : List Bool}

/-! ### One outcome more -/

theorem length_openBlock (outcomes : List Bool) :
    (rules.openBlock outcomes).length = outcomes.length % rules.windowSize := by
  rw [openBlock, List.length_drop, Nat.mod_eq_sub_div_mul]

/-- A complete block ends within the outcomes. -/
theorem end_le_length {i : Nat} (hi : i < outcomes.length / rules.windowSize) :
    i * rules.windowSize + rules.windowSize ≤ outcomes.length := by
  rw [← Nat.succ_mul]
  exact (Nat.mul_le_mul_right _ hi).trans (Nat.div_mul_le_self _ _)

/-- A complete block stays what it is. -/
theorem block_append {i : Nat} (hi : i < outcomes.length / rules.windowSize) (more : List Bool) :
    rules.block (outcomes ++ more) i = rules.block outcomes i := by
  have hend := end_le_length hi
  rw [block, block, List.drop_append_of_le_length (by omega), List.take_append_of_le_length]
  rw [List.length_drop]
  omega

theorem drop_concat (outcomes : List Bool) (valid : Bool) :
    (outcomes ++ [valid]).drop (outcomes.length / rules.windowSize * rules.windowSize) =
      rules.openBlock outcomes ++ [valid] :=
  List.drop_append_of_le_length (Nat.div_mul_le_self _ _)

/-- An outcome that does not complete a block. -/
theorem concat_of_not_dvd (h : ¬ rules.windowSize ∣ outcomes.length + 1) (valid : Bool) :
    rules.blocks (outcomes ++ [valid]) = rules.blocks outcomes ∧
      rules.openBlock (outcomes ++ [valid]) = rules.openBlock outcomes ++ [valid] := by
  have hdiv : (outcomes ++ [valid]).length / rules.windowSize =
      outcomes.length / rules.windowSize := by
    rw [List.length_append, List.length_singleton, Nat.succ_div_of_not_dvd h]
  constructor
  · rw [blocks, blocks, hdiv]
    exact List.map_congr_left fun i hi => block_append (List.mem_range.1 hi) _
  · rw [openBlock, hdiv, drop_concat]

/-- An outcome that completes a block. -/
theorem concat_of_dvd (hwindow : 0 < rules.windowSize)
    (h : rules.windowSize ∣ outcomes.length + 1) (valid : Bool) :
    rules.blocks (outcomes ++ [valid]) =
        rules.blocks outcomes ++ [rules.openBlock outcomes ++ [valid]] ∧
      rules.openBlock (outcomes ++ [valid]) = [] := by
  have hlength : (outcomes ++ [valid]).length = outcomes.length + 1 := by simp
  have hdiv : (outcomes ++ [valid]).length / rules.windowSize =
      outcomes.length / rules.windowSize + 1 := by
    rw [hlength, Nat.succ_div_of_dvd h]
  constructor
  · have hlast : rules.block (outcomes ++ [valid]) (outcomes.length / rules.windowSize) =
        rules.openBlock outcomes ++ [valid] := by
      rw [block, drop_concat, List.take_of_length_le]
      rw [List.length_append, List.length_singleton, length_openBlock]
      exact Nat.mod_lt _ hwindow
    rw [blocks, blocks, hdiv, List.range_succ, List.map_append, List.map_singleton, hlast]
    congr 1
    exact List.map_congr_left fun i hi => block_append (List.mem_range.1 hi) _
  · have hwhole : (outcomes.length / rules.windowSize + 1) * rules.windowSize =
        outcomes.length + 1 := by
      rw [← hdiv, hlength, Nat.div_mul_cancel h]
    rw [openBlock, hdiv, hwhole, ← hlength, List.drop_length]

/-! ### Streaks of bad blocks -/

/-- As long a row of such elements stands at the end as those that end the list. -/
theorem exists_suffix_iff {α : Type} (p : α → Bool) (l : List α) (n : Nat) :
    (∃ s, s <:+ l ∧ s.length = n ∧ ∀ a ∈ s, p a = true) ↔ n ≤ (l.rtakeWhile p).length := by
  constructor
  · rintro ⟨s, ⟨before, rfl⟩, rfl, hall⟩
    have hreverse : ∀ a ∈ s.reverse, p a = true := fun a ha => hall a (List.mem_reverse.1 ha)
    rw [List.rtakeWhile, List.reverse_append, List.takeWhile_append_of_pos hreverse,
      List.length_reverse, List.length_append, List.length_reverse]
    exact Nat.le_add_right _ _
  · intro hn
    have hsuffix := List.drop_suffix ((l.rtakeWhile p).length - n) (l.rtakeWhile p)
    refine ⟨_, hsuffix.trans (List.rtakeWhile_suffix p l), ?_, ?_⟩
    · rw [List.length_drop]
      omega
    · intro a ha
      exact List.mem_rtakeWhile_imp (hsuffix.subset ha)

theorem isFatal_of_not_dvd (h : ¬ rules.windowSize ∣ outcomes.length + 1) (valid : Bool) :
    rules.IsFatal (outcomes ++ [valid]) ↔ rules.IsFatal outcomes := by
  rw [IsFatal, (concat_of_not_dvd h valid).1]
  rfl

/-- A block more is fatal if it ends a streak that is, or if there was one before. -/
theorem isFatal_of_dvd (hwindow : 0 < rules.windowSize)
    (h : rules.windowSize ∣ outcomes.length + 1) (valid : Bool) :
    rules.IsFatal (outcomes ++ [valid]) ↔
      rules.deathThreshold ≤ rules.badStreak (outcomes ++ [valid]) ∨ rules.IsFatal outcomes := by
  rw [badStreak, ← exists_suffix_iff, IsFatal, IsFatal, (concat_of_dvd hwindow h valid).1, ← exists_or]
  refine exists_congr fun streak => ?_
  rw [List.infix_concat_iff, or_and_right]

/-- What was fatal stays so. -/
theorem IsFatal.concat (hwindow : 0 < rules.windowSize) (h : rules.IsFatal outcomes)
    (valid : Bool) : rules.IsFatal (outcomes ++ [valid]) := by
  by_cases hfull : rules.windowSize ∣ outcomes.length + 1
  · exact (isFatal_of_dvd hwindow hfull valid).2 (.inr h)
  · exact (isFatal_of_not_dvd hfull valid).2 h

/-- A streak needs its time. -/
theorem IsFatal.le_length (h : rules.IsFatal outcomes) :
    rules.deathThreshold ≤ outcomes.length / rules.windowSize := by
  obtain ⟨streak, hinfix, hlength, _⟩ := h
  have hle := hinfix.length_le
  rwa [hlength, blocks, List.length_map, List.length_range] at hle

theorem not_isFatal_nil (hdeath : 0 < rules.deathThreshold) : ¬ rules.IsFatal [] := by
  intro h
  have hle := h.le_length
  rw [List.length_nil, Nat.zero_div] at hle
  omega

theorem badStreak_of_not_dvd (h : ¬ rules.windowSize ∣ outcomes.length + 1) (valid : Bool) :
    rules.badStreak (outcomes ++ [valid]) = rules.badStreak outcomes := by
  rw [badStreak, (concat_of_not_dvd h valid).1, badStreak]

theorem badStreak_of_dvd (hwindow : 0 < rules.windowSize)
    (h : rules.windowSize ∣ outcomes.length + 1) (valid : Bool) :
    rules.badStreak (outcomes ++ [valid]) =
      if rules.isBad (rules.openBlock outcomes ++ [valid]) then rules.badStreak outcomes + 1
      else 0 := by
  rw [badStreak, (concat_of_dvd hwindow h valid).1, List.rtakeWhile_concat]
  split
  · rw [List.length_append, List.length_singleton, badStreak]
  · rfl

/-! ### Suspicion -/

/-- A block that is bad already stays bad. -/
theorem isBad_concat {block : List Bool} (h : rules.isBad block = true) (valid : Bool) :
    rules.isBad (block ++ [valid]) = true := by
  have hcount : rules.invalidationThreshold ≤ block.count false := of_decide_eq_true h
  have hmore : block.count false ≤ (block ++ [valid]).count false := by
    rw [List.count_append]
    exact Nat.le_add_right _ _
  exact decide_eq_true (hcount.trans hmore)

theorem isBad_nil (hthreshold : 0 < rules.invalidationThreshold) : rules.isBad [] = false :=
  decide_eq_false (Nat.not_le.2 hthreshold)

theorem isSuspect_of_not_dvd (h : ¬ rules.windowSize ∣ outcomes.length + 1) (valid : Bool) :
    rules.isSuspect (outcomes ++ [valid]) =
      (rules.isSuspect outcomes || rules.isBad (rules.openBlock outcomes ++ [valid])) := by
  obtain ⟨hblocks, hopen⟩ := concat_of_not_dvd h valid
  rw [isSuspect, hblocks, hopen, isSuspect, Bool.or_assoc]
  congr 1
  cases hbad : rules.isBad (rules.openBlock outcomes) with
  | false => rfl
  | true => rw [isBad_concat hbad valid]; rfl

theorem isSuspect_of_dvd (hrules : rules.AreSound)
    (h : rules.windowSize ∣ outcomes.length + 1) (valid : Bool) :
    rules.isSuspect (outcomes ++ [valid]) =
      rules.isBad (rules.openBlock outcomes ++ [valid]) := by
  obtain ⟨hblocks, hopen⟩ := concat_of_dvd hrules.window_pos h valid
  rw [isSuspect, hblocks, hopen, isBad_nil hrules.threshold_pos, Bool.or_false,
    List.getLast?_concat, Option.any_some]

end ProbeRules

/-- The rules of a configuration that is accepted are sound. -/
theorem HeartbeatConfig.areSound_of_validate {config : HeartbeatConfig}
    (h : config.validate = .ok ()) : config.rules.AreSound := by
  have hpos : ∀ n : UInt64, n ≠ 0 → 0 < n.toNat := fun n hn =>
    Nat.pos_of_ne_zero fun hzero => hn (UInt64.toNat_inj.1 hzero)
  unfold validate at h
  split at h
  · cases h
  rename_i hwindow
  split at h
  · cases h
  rename_i hthreshold
  split at h
  · cases h
  rename_i hdeath
  exact ⟨hpos _ fun hzero => hwindow (.inl hzero), hpos _ fun hzero => hthreshold (.inl hzero),
    hpos _ hdeath⟩

/-! ## What one outcome does -/

/-- The verdict that goes with a change of the mark, from what it was to what it is. -/
def Verdict.ofChange : Bool → Bool → Verdict
  | false, true => .invalidated
  | true, false => .recovered
  | _, _ => .unchanged

theorem Verdict.ofChange_eq_invalidated_iff {before after : Bool} :
    ofChange before after = .invalidated ↔ before = false ∧ after = true := by
  cases before <;> cases after <;> simp [ofChange]

theorem Verdict.ofChange_eq_recovered_iff {before after : Bool} :
    ofChange before after = .recovered ↔ before = true ∧ after = false := by
  cases before <;> cases after <;> simp [ofChange]

theorem Verdict.ofChange_ne_dead (before after : Bool) : ofChange before after ≠ .dead := by
  cases before <;> cases after <;> simp [ofChange]

theorem Verdict.ofChange_ne_reinstated (before after : Bool) :
    ofChange before after ≠ .reinstated := by
  cases before <;> cases after <;> simp [ofChange]

namespace ProbeHistory

open ProbeRules Verdict

variable {rules : ProbeRules} {h : ProbeHistory} {valid : Bool}

/-- A judged slot is marked if it was or if its open window is bad. -/
theorem judge_eq : judge rules h =
    (ofChange h.isInvalidated (h.isInvalidated || rules.invalidationThreshold ≤ h.failed),
      { h with isInvalidated := h.isInvalidated || rules.invalidationThreshold ≤ h.failed }) := by
  obtain ⟨probes, failed, badWindows, isInvalidated, isDead⟩ := h
  unfold judge
  cases isInvalidated with
  | true => rfl
  | false =>
      by_cases hbad : rules.invalidationThreshold ≤ failed
      · simp [hbad, ofChange]
      · simp [hbad, ofChange]

/-- A probe that leaves the window of a living slot open. -/
theorem record_of_open (hdead : h.isDead = false) (hopen : h.probes + 1 ≠ rules.windowSize) :
    record rules h valid = judge rules (h.count valid) := by
  rw [record, if_neg (by simp [hdead])]
  simp only [judge_eq]
  rw [if_neg]
  exact hopen

/-- A probe that fills the window of a living slot. -/
theorem record_of_full (hdead : h.isDead = false) (hfull : h.probes + 1 = rules.windowSize) :
    record rules h valid =
      if rules.invalidationThreshold ≤ (h.count valid).failed then
        if rules.deathThreshold ≤ h.badWindows + 1 then
          (.dead, { isInvalidated := true, isDead := true })
        else
          (ofChange h.isInvalidated true,
            { badWindows := h.badWindows + 1, isInvalidated := true })
      else (ofChange h.isInvalidated false, .fresh) := by
  rw [record, if_neg (by simp [hdead])]
  simp only [judge_eq]
  rw [if_pos (by exact hfull), closeWindow]
  have hbad : (h.count valid).badWindows = h.badWindows := rfl
  have hmark : (h.count valid).isInvalidated = h.isInvalidated := rfl
  have halive : (h.count valid).isDead = false := hdead
  simp only [hbad, hmark, halive]
  split
  · rename_i hfailed
    simp [hfailed]
  · rename_i hfailed
    cases hwas : h.isInvalidated with
    | true => simp [hfailed, ofChange, fresh]
    | false => simp [hfailed, ofChange, fresh]

/-! ## The invariant -/

/-- A living slot knows the blocks of its life by these numbers and this mark. -/
structure Tells (rules : ProbeRules) (life : List Bool) (h : ProbeHistory) : Prop where
  isDead : h.isDead = false
  probes : h.probes = (rules.openBlock life).length
  failed : h.failed = (rules.openBlock life).count false
  badWindows : h.badWindows = rules.badStreak life
  isInvalidated : h.isInvalidated = rules.isSuspect life
  not_isFatal : ¬ rules.IsFatal life

/-- What a dead slot knows. -/
structure Rests (rules : ProbeRules) (life : List Bool) (h : ProbeHistory) : Prop where
  isDead : h.isDead = true
  isFatal : rules.IsFatal life

theorem tells_fresh (hrules : rules.AreSound) : Tells rules [] fresh where
  isDead := rfl
  probes := by simp [fresh, openBlock]
  failed := by simp [fresh, openBlock]
  badWindows := by simp [fresh, badStreak, blocks]
  isInvalidated := by simp [fresh, isSuspect, blocks, openBlock, isBad_nil hrules.threshold_pos]
  not_isFatal := not_isFatal_nil hrules.death_pos

variable {life : List Bool}

/-- The window of a slot is full when a block of its life is. -/
theorem Tells.full_iff (hrules : rules.AreSound) (htells : Tells rules life h) :
    h.probes + 1 = rules.windowSize ↔ rules.windowSize ∣ life.length + 1 := by
  obtain ⟨width, hwidth⟩ := Nat.exists_eq_succ_of_ne_zero hrules.window_pos.ne'
  rw [htells.probes, length_openBlock, hwidth, Nat.dvd_iff_mod_eq_zero,
    Nat.succ_mod_succ_eq_zero_iff]
  exact Nat.succ_inj

theorem Tells.failed_count (htells : Tells rules life h) (valid : Bool) :
    (h.count valid).failed = (rules.openBlock life ++ [valid]).count false := by
  rw [List.count_append, ← htells.failed]
  cases valid <;> rfl

theorem Tells.isBad_iff (htells : Tells rules life h) (valid : Bool) :
    rules.invalidationThreshold ≤ (h.count valid).failed ↔
      rules.isBad (rules.openBlock life ++ [valid]) = true := by
  rw [htells.failed_count, ProbeRules.isBad, decide_eq_true_iff]

/-- What a probe of a living slot comes to: it dies of a fatal streak of blocks, or the verdict is
the change of its mark. -/
def Goes (rules : ProbeRules) (life : List Bool) (valid : Bool)
    (step : Verdict × ProbeHistory) : Prop :=
  (step.1 = .dead ∧ Rests rules (life ++ [valid]) step.2) ∨
    (step.1 = ofChange (rules.isSuspect life) (rules.isSuspect (life ++ [valid])) ∧
      Tells rules (life ++ [valid]) step.2)

/-- A slot that lives on with no probe in its open window. -/
theorem tells_of_dvd (hrules : rules.AreSound) (hfull : rules.windowSize ∣ life.length + 1)
    (hlives : ¬ rules.IsFatal (life ++ [valid])) :
    Tells rules (life ++ [valid])
      { badWindows := rules.badStreak (life ++ [valid])
        isInvalidated := rules.isSuspect (life ++ [valid]) } where
  isDead := rfl
  probes := by
    rw [(concat_of_dvd hrules.window_pos hfull valid).2]
    rfl
  failed := by
    rw [(concat_of_dvd hrules.window_pos hfull valid).2]
    rfl
  badWindows := rfl
  isInvalidated := rfl
  not_isFatal := hlives

theorem Tells.record_of_dvd (hrules : rules.AreSound) (htells : Tells rules life h)
    (hfull : rules.windowSize ∣ life.length + 1) (valid : Bool) :
    Goes rules life valid (record rules h valid) := by
  have hstreak := badStreak_of_dvd hrules.window_pos hfull valid
  have hfatal := isFatal_of_dvd hrules.window_pos hfull valid
  have hsuspect := isSuspect_of_dvd hrules hfull valid
  rw [Goes, record_of_full htells.isDead ((htells.full_iff hrules).2 hfull),
    ← htells.isInvalidated]
  by_cases hbad : rules.isBad (rules.openBlock life ++ [valid]) = true
  · rw [if_pos hbad, ← htells.badWindows] at hstreak
    rw [hbad] at hsuspect
    rw [if_pos ((htells.isBad_iff valid).2 hbad)]
    -- a bad block goes on with the streak, which is fatal by now or leaves the slot marked
    by_cases hdeath : rules.deathThreshold ≤ h.badWindows + 1
    · rw [if_pos hdeath]
      exact .inl ⟨rfl, rfl, hfatal.2 (.inl (hstreak ▸ hdeath))⟩
    · have hlives : ¬ rules.IsFatal (life ++ [valid]) := fun hnow =>
        (hfatal.1 hnow).elim (hstreak ▸ hdeath) htells.not_isFatal
      have hnext := tells_of_dvd hrules hfull hlives
      rw [hstreak, hsuspect] at hnext
      rw [if_neg hdeath, hsuspect]
      exact .inr ⟨rfl, hnext⟩
  · rw [if_neg hbad] at hstreak
    rw [eq_false_of_ne_true hbad] at hsuspect
    -- a good block ends the streak and clears the mark
    have hlives : ¬ rules.IsFatal (life ++ [valid]) := fun hnow =>
      (hfatal.1 hnow).elim
        (fun hdeath => absurd (hstreak ▸ hdeath) (Nat.not_le.2 hrules.death_pos))
        htells.not_isFatal
    have hnext := tells_of_dvd hrules hfull hlives
    rw [hstreak, hsuspect] at hnext
    rw [if_neg (hbad ∘ (htells.isBad_iff valid).1), hsuspect]
    exact .inr ⟨rfl, hnext⟩

theorem Tells.record_of_not_dvd (hrules : rules.AreSound) (htells : Tells rules life h)
    (hopen : ¬ rules.windowSize ∣ life.length + 1) (valid : Bool) :
    Goes rules life valid (record rules h valid) := by
  have hmark : ((h.count valid).isInvalidated ||
      decide (rules.invalidationThreshold ≤ (h.count valid).failed)) =
        rules.isSuspect (life ++ [valid]) := by
    have hcounted : (h.count valid).isInvalidated = rules.isSuspect life := htells.isInvalidated
    rw [isSuspect_of_not_dvd hopen, hcounted, htells.failed_count, ProbeRules.isBad]
  have hblock := (concat_of_not_dvd hopen valid).2
  rw [Goes, record_of_open htells.isDead (hopen ∘ (htells.full_iff hrules).1), judge_eq, hmark]
  refine .inr ⟨congrArg (ofChange · _) htells.isInvalidated, ?_⟩
  exact {
    isDead := htells.isDead
    probes := by
      rw [hblock, List.length_append, ← htells.probes]
      rfl
    failed := by
      rw [hblock]
      exact htells.failed_count valid
    badWindows := by
      rw [badStreak_of_not_dvd hopen]
      exact htells.badWindows
    isInvalidated := rfl
    not_isFatal := htells.not_isFatal ∘ (isFatal_of_not_dvd hopen valid).1 }

/-- One probe of a living slot. -/
theorem Tells.record (hrules : rules.AreSound) (htells : Tells rules life h) (valid : Bool) :
    Goes rules life valid (record rules h valid) := by
  by_cases hfull : rules.windowSize ∣ life.length + 1
  · exact htells.record_of_dvd hrules hfull valid
  · exact htells.record_of_not_dvd hrules hfull valid

/-! ## Rows of outcomes -/

theorem run_concat (h : ProbeHistory) (outcomes : List Bool) (valid : Bool) :
    run rules h (outcomes ++ [valid]) =
      run rules h outcomes ++ [record rules (recordAll rules h outcomes) valid] := by
  induction outcomes generalizing h with
  | nil => rfl
  | cons first rest ih =>
      rw [List.cons_append, run, ih, run]
      rfl

theorem length_run (h : ProbeHistory) (outcomes : List Bool) :
    (run rules h outcomes).length = outcomes.length := by
  induction outcomes generalizing h with
  | nil => rfl
  | cons first rest ih => rw [run, List.length_cons, List.length_cons, ih]

theorem recordAll_concat (h : ProbeHistory) (outcomes : List Bool) (valid : Bool) :
    recordAll rules h (outcomes ++ [valid]) =
      (record rules (recordAll rules h outcomes) valid).2 :=
  recordAll_append h outcomes [valid]

/-- The outcomes that came after the last verdict that reinstated the slot, or all of them. -/
def sinceReinstated (rules : ProbeRules) (outcomes : List Bool) : List Bool :=
  ((outcomes.zip (run rules .fresh outcomes)).rtakeWhile
    fun probe => probe.2.1 ≠ .reinstated).map Prod.fst

theorem sinceReinstated_concat (outcomes : List Bool) (valid : Bool) :
    sinceReinstated rules (outcomes ++ [valid]) =
      if (record rules (recordAll rules .fresh outcomes) valid).1 = .reinstated then []
      else sinceReinstated rules outcomes ++ [valid] := by
  rw [sinceReinstated, run_concat, List.zip_append (length_run _ _).symm, List.zip_cons_cons,
    List.zip_nil_right, List.rtakeWhile_concat]
  by_cases hanew : (record rules (recordAll rules .fresh outcomes) valid).1 = .reinstated
  · rw [if_pos hanew, if_neg (by simp [hanew]), List.map_nil]
  · rw [if_neg hanew, if_pos (by simp [hanew]), List.map_append]
    rfl

/-- One probe of a dead slot. -/
theorem Rests.record (hrules : rules.AreSound) (hrests : Rests rules life h) (valid : Bool) :
    (valid = true ∧ record rules h valid = (.reinstated, .fresh)) ∨
      (valid = false ∧ record rules h valid = (.unchanged, h) ∧
        Rests rules (life ++ [valid]) h) := by
  rw [ProbeHistory.record, if_pos hrests.isDead]
  cases valid with
  | true => exact .inl ⟨rfl, rfl⟩
  | false => exact .inr ⟨rfl, rfl, hrests.isDead, hrests.isFatal.concat hrules.window_pos false⟩

/-- After any outcomes a slot knows the blocks of its life, or it is dead. -/
theorem tells_or_rests (hrules : rules.AreSound) (outcomes : List Bool) :
    Tells rules (sinceReinstated rules outcomes) (recordAll rules .fresh outcomes) ∨
      Rests rules (sinceReinstated rules outcomes) (recordAll rules .fresh outcomes) := by
  induction outcomes using List.reverseRecOn with
  | nil => exact .inl (tells_fresh hrules)
  | append_singleton outcomes valid ih =>
      rw [sinceReinstated_concat, recordAll_concat]
      rcases ih with htells | hrests
      · rcases htells.record hrules valid with ⟨hverdict, hnext⟩ | ⟨hverdict, hnext⟩
        · rw [if_neg (by simp [hverdict])]
          exact .inr hnext
        · rw [if_neg (hverdict ▸ ofChange_ne_reinstated _ _)]
          exact .inl hnext
      · rcases hrests.record hrules valid with ⟨_, hstep⟩ | ⟨_, hstep, hnext⟩
        · rw [hstep, if_pos rfl]
          exact .inl (tells_fresh hrules)
        · rw [hstep, if_neg (by simp)]
          exact .inr hnext

/-- The marks of a slot and the verdict on its next probe are what the blocks of its life say. -/
structure FollowsBlocks (rules : ProbeRules) (life : List Bool) (h : ProbeHistory)
    (valid : Bool) : Prop where
  isDead_iff : h.isDead = true ↔ rules.IsFatal life
  isInvalidated_eq : ¬ rules.IsFatal life → h.isInvalidated = rules.isSuspect life
  dead_iff : (record rules h valid).1 = .dead ↔
    ¬ rules.IsFatal life ∧ rules.IsFatal (life ++ [valid])
  invalidated_iff : (record rules h valid).1 = .invalidated ↔
    ¬ rules.IsFatal (life ++ [valid]) ∧
      rules.isSuspect life = false ∧ rules.isSuspect (life ++ [valid]) = true
  recovered_iff : (record rules h valid).1 = .recovered ↔
    ¬ rules.IsFatal (life ++ [valid]) ∧
      rules.isSuspect life = true ∧ rules.isSuspect (life ++ [valid]) = false
  reinstated_iff : (record rules h valid).1 = .reinstated ↔ rules.IsFatal life ∧ valid = true
  anew : rules.IsFatal life → valid = true → record rules h valid = (.reinstated, .fresh)
  ignored : rules.IsFatal life → valid = false → record rules h valid = (.unchanged, h)

theorem Tells.followsBlocks (hrules : rules.AreSound) (htells : Tells rules life h)
    (valid : Bool) : FollowsBlocks rules life h valid := by
  have hlives := htells.not_isFatal
  have hmark := htells.isInvalidated
  have hdead : h.isDead = true ↔ rules.IsFatal life := by simp [htells.isDead, hlives]
  rcases htells.record hrules valid with ⟨hverdict, hnext⟩ | ⟨hverdict, hnext⟩
  · have hfatal := hnext.isFatal
    exact {
      isDead_iff := hdead
      isInvalidated_eq := fun _ => hmark
      dead_iff := by simp [hverdict, hlives, hfatal]
      invalidated_iff := by simp [hverdict, hfatal]
      recovered_iff := by simp [hverdict, hfatal]
      reinstated_iff := by simp [hverdict, hlives]
      anew := fun hdied => absurd hdied hlives
      ignored := fun hdied => absurd hdied hlives }
  · have hgoes := hnext.not_isFatal
    exact {
      isDead_iff := hdead
      isInvalidated_eq := fun _ => hmark
      dead_iff := by simp [hverdict, ofChange_ne_dead, hgoes]
      invalidated_iff := by simp [hverdict, ofChange_eq_invalidated_iff, hgoes]
      recovered_iff := by simp [hverdict, ofChange_eq_recovered_iff, hgoes]
      reinstated_iff := by simp [hverdict, ofChange_ne_reinstated, hlives]
      anew := fun hdied => absurd hdied hlives
      ignored := fun hdied => absurd hdied hlives }

theorem Rests.followsBlocks (hrules : rules.AreSound) (hrests : Rests rules life h)
    (valid : Bool) : FollowsBlocks rules life h valid := by
  have hfatal := hrests.isFatal
  have hstays := hfatal.concat hrules.window_pos valid
  have hdead : h.isDead = true ↔ rules.IsFatal life := by simp [hrests.isDead, hfatal]
  rcases hrests.record hrules valid with ⟨rfl, hstep⟩ | ⟨rfl, hstep, _⟩
  · exact {
      isDead_iff := hdead
      isInvalidated_eq := absurd hfatal
      dead_iff := by simp [hstep, hfatal]
      invalidated_iff := by simp [hstep, hstays]
      recovered_iff := by simp [hstep, hstays]
      reinstated_iff := by simp [hstep, hfatal]
      anew := fun _ _ => hstep
      ignored := fun _ hnot => by cases hnot }
  · exact {
      isDead_iff := hdead
      isInvalidated_eq := absurd hfatal
      dead_iff := by simp [hstep, hfatal]
      invalidated_iff := by simp [hstep, hstays]
      recovered_iff := by simp [hstep, hstays]
      reinstated_iff := by simp [hstep]
      anew := fun _ hnot => by cases hnot
      ignored := fun _ _ => hstep }

end ProbeHistory

open ProbeHistory in
/-- Probes are judged in blocks, counted since the slot was reinstated last: whatever their
outcomes were, a slot is dead or invalidated if the blocks say so, and the verdict on the next probe
is what they say with its outcome added. -/
theorem probes_are_judged_in_blocks {rules : ProbeRules} (hrules : rules.AreSound)
    (outcomes : List Bool) (valid : Bool) :
    FollowsBlocks rules (sinceReinstated rules outcomes) (recordAll rules .fresh outcomes)
      valid := by
  rcases tells_or_rests hrules outcomes with htells | hrests
  · exact htells.followsBlocks hrules valid
  · exact hrests.followsBlocks hrules valid

namespace Relapse

/-- Two failed probes of three make a block bad, and two such blocks are the end. -/
def rules : ProbeRules := ⟨3, 2, 2⟩

/-- Two bad blocks, a failed probe of the dead slot, the one that reinstates it, and the first of
its new life. -/
def outcomes : List Bool :=
  [false, false, true] ++ [true, false, false] ++ [false] ++ [true] ++ [false]

open ProbeHistory in
/-- The second failed probe after the slot came back makes its first block bad. -/
theorem probes_are_judged_in_blocks_of_relapse :
    rules.AreSound ∧ sinceReinstated rules outcomes = [false] ∧
      (recordAll rules .fresh outcomes).isDead = false ∧
      (record rules (recordAll rules .fresh outcomes) false).1 = .invalidated := by
  have hrules : rules.AreSound := ⟨by decide, by decide, by decide⟩
  have hlife : sinceReinstated rules outcomes = [false] := by decide
  have hfollows := probes_are_judged_in_blocks hrules outcomes false
  rw [hlife] at hfollows
  have hlives : ¬ rules.IsFatal [false] := fun h => absurd h.le_length (by decide)
  have hgoes : ¬ rules.IsFatal ([false] ++ [false]) := fun h => absurd h.le_length (by decide)
  refine ⟨hrules, hlife, ?_, ?_⟩
  · rw [← Bool.not_eq_true, hfollows.isDead_iff]
    exact hlives
  · exact hfollows.invalidated_iff.2 ⟨hgoes, by decide, by decide⟩

end Relapse

end TupleWire
