/-
  What a verdict says about a slot's probes.

  A verdict and the two marks of a history change together: a slot is marked by
  `invalidated` and `dead` and cleared by `recovered` and `reinstated`, and no
  verdict comes in a state that it does not change.  None of this depends on the
  rules being sensible.
-/
import TupleWire.Heartbeat.History

set_option autoImplicit false

namespace TupleWire

/-- Whether a slot is out of selection after a verdict, given whether it was before. -/
def Verdict.bars (barred : Bool) : Verdict → Bool
  | unchanged => barred
  | invalidated | dead => true
  | recovered | reinstated => false

namespace ProbeHistory

/-- Whether probes speak against the slot. -/
def isBad (h : ProbeHistory) : Bool := h.isInvalidated || h.isDead

theorem isDead_of_isBad {h : ProbeHistory} (hgood : h.isBad = false) : h.isDead = false :=
  (Bool.or_eq_false_iff.1 hgood).2

/-- What a verdict says about the histories before and after it. -/
def Explains (before after : ProbeHistory) : Verdict → Prop
  | .unchanged =>
      after.isInvalidated = before.isInvalidated ∧ after.isDead = before.isDead
  | .invalidated =>
      before.isBad = false ∧ after.isInvalidated = true ∧ after.isDead = false
  | .recovered =>
      before.isInvalidated = true ∧ before.isDead = false ∧ after.isBad = false
  | .dead => before.isDead = false ∧ after.isInvalidated = true ∧ after.isDead = true
  | .reinstated => before.isDead = true ∧ after.isBad = false

variable {rules : ProbeRules} {h : ProbeHistory}

/-- A slot whose open window has become bad is marked. -/
theorem isInvalidated_judge (hbad : rules.invalidationThreshold ≤ h.failed) :
    (judge rules h).2.isInvalidated = true := by
  unfold judge
  split
  · rfl
  · rename_i hmarked
    simpa [hbad] using hmarked

theorem judge_explains (hdead : h.isDead = false) :
    Explains h (judge rules h).2 (judge rules h).1 := by
  unfold judge
  split
  · rename_i hjudged
    have hclear : h.isInvalidated = false := by
      rw [Bool.and_eq_true, Bool.not_eq_true'] at hjudged
      exact hjudged.1
    exact ⟨by rw [isBad, hclear, hdead]; rfl, rfl, hdead⟩
  · exact ⟨rfl, rfl⟩

/-- The close of a window, after a verdict on its last probe. -/
theorem closeWindow_explains {before : ProbeHistory} {verdict : Verdict}
    (hverdict : verdict = .unchanged ∨ verdict = .invalidated)
    (hbefore : before.isDead = false) (hdead : h.isDead = false)
    (hbad : rules.invalidationThreshold ≤ h.failed → h.isInvalidated = true)
    (hgood : ¬ rules.invalidationThreshold ≤ h.failed → verdict = .unchanged)
    (hexplains : Explains before h verdict) :
    Explains before (closeWindow rules verdict h).2 (closeWindow rules verdict h).1 := by
  simp only [closeWindow]
  split
  · rename_i hwindow
    split
    · exact ⟨hbefore, hbad hwindow, rfl⟩
    · rcases hverdict with rfl | rfl
      · exact hexplains
      · exact hexplains
  · rename_i hwindow
    rw [hgood hwindow] at hexplains ⊢
    obtain ⟨hsame, _⟩ := hexplains
    split
    · rename_i hmarked
      rw [hmarked] at hsame
      exact ⟨hsame.symm, hbefore, by rw [isBad, hdead]; rfl⟩
    · exact ⟨hsame, hdead.trans hbefore.symm⟩

theorem verdict_judge :
    (judge rules h).1 = .unchanged ∨ (judge rules h).1 = .invalidated := by
  unfold judge
  split
  · exact .inr rfl
  · exact .inl rfl

theorem verdict_judge_of_good (hgood : ¬ rules.invalidationThreshold ≤ h.failed) :
    (judge rules h).1 = .unchanged := by
  simp [judge, hgood]

theorem failed_judge : (judge rules h).2.failed = h.failed := by
  unfold judge
  split
  · rfl
  · rfl

/-- Every verdict on a probe explains what the probe changes. -/
theorem record_explains (rules : ProbeRules) (h : ProbeHistory) (valid : Bool) :
    Explains h (record rules h valid).2 (record rules h valid).1 := by
  unfold record
  split
  · rename_i hdead
    split
    · exact ⟨hdead, rfl⟩
    · exact ⟨rfl, rfl⟩
  · rename_i halive
    have hdead : h.isDead = false := by simpa using halive
    have hcounted : (h.count valid).isDead = false := hdead
    have hjudged : Explains h (judge rules (h.count valid)).2 (judge rules (h.count valid)).1 :=
      judge_explains (h := h.count valid) hcounted
    have hstill : (judge rules (h.count valid)).2.isDead = false := by
      unfold judge
      split
      · exact hcounted
      · exact hcounted
    simp only
    split
    · refine closeWindow_explains verdict_judge hdead hstill ?_ ?_
        hjudged
      · intro hbad
        rw [failed_judge] at hbad
        exact isInvalidated_judge hbad
      · intro hgood
        rw [failed_judge] at hgood
        exact verdict_judge_of_good hgood
    · exact hjudged

/-- Probes speak against a slot after a verdict if and only if the verdict bars it. -/
theorem isBad_of_explains {before after : ProbeHistory} {verdict : Verdict}
    (h : Explains before after verdict) : after.isBad = verdict.bars before.isBad := by
  cases verdict with
  | unchanged =>
      obtain ⟨hinvalidated, hdead⟩ := h
      rw [isBad, hinvalidated, hdead]
      rfl
  | invalidated =>
      obtain ⟨_, hinvalidated, _⟩ := h
      rw [isBad, hinvalidated]
      rfl
  | recovered => exact h.2.2
  | dead =>
      obtain ⟨_, hinvalidated, _⟩ := h
      rw [isBad, hinvalidated]
      rfl
  | reinstated => exact h.2

/-! ## Rows of probes -/

/-- Takes the outcomes of a row of probes into account. -/
def recordAll (rules : ProbeRules) (h : ProbeHistory) (outcomes : List Bool) : ProbeHistory :=
  outcomes.foldl (fun h valid => (record rules h valid).2) h

/-- Whether the verdicts on a row of probes, from the first one on, keep the slot out of selection
in the end. -/
def isBarred (rules : ProbeRules) (outcomes : List Bool) : Bool :=
  ((run rules .fresh outcomes).map Prod.fst).foldl Verdict.bars false

theorem recordAll_append (h : ProbeHistory) (first second : List Bool) :
    recordAll rules h (first ++ second) = recordAll rules (recordAll rules h first) second := by
  rw [recordAll, List.foldl_append]
  rfl

theorem foldl_bars_run (h : ProbeHistory) (outcomes : List Bool) :
    ((run rules h outcomes).map Prod.fst).foldl Verdict.bars h.isBad =
      (recordAll rules h outcomes).isBad := by
  induction outcomes generalizing h with
  | nil => rfl
  | cons valid rest ih =>
      have hfirst := isBad_of_explains (record_explains rules h valid)
      rw [run, List.map_cons, List.foldl_cons, ← hfirst]
      exact ih _

/-- The verdicts on a row of probes and what is remembered of it agree. -/
theorem isBad_recordAll (rules : ProbeRules) (outcomes : List Bool) :
    (recordAll rules .fresh outcomes).isBad = isBarred rules outcomes :=
  (foldl_bars_run .fresh outcomes).symm

end ProbeHistory

end TupleWire
