/-
  Which configurations are accepted.

  `ClientConfig.validate` names the first fault of a configuration.  It finds none
  in just the configurations that are sound, `ClientConfig.IsSound`, which says in
  one place what the checks demand together: `validate_eq_ok_iff`.
-/
import TupleWire.Proofs.Heartbeat.Detection

set_option autoImplicit false

namespace TupleWire

/-! ## What is demanded of probing -/

/-- Time between probes, and windows that can turn bad. -/
structure HeartbeatConfig.IsSound (h : HeartbeatConfig) : Prop where
  interval : h.pingIntervalMs ≠ 0
  fair : h.rules.AreFair

theorem HeartbeatConfig.isSound_of_validate {h : HeartbeatConfig} (hvalid : h.validate = .ok ()) :
    h.IsSound where
  interval := by
    intro hzero
    rw [validate, if_pos (.inr hzero)] at hvalid
    cases hvalid
  fair := areFair_of_validate hvalid

theorem HeartbeatConfig.validate_eq_ok_iff {h : HeartbeatConfig} :
    h.validate = .ok () ↔ h.IsSound := by
  refine ⟨isSound_of_validate, fun hsound => ?_⟩
  have hne {n : UInt64} (hn : 0 < n.toNat) : n ≠ 0 := by
    rintro rfl
    exact absurd hn (by decide)
  have hwindow := hne hsound.fair.window_pos
  have hthreshold := hne hsound.fair.threshold_pos
  have hdeath := hne hsound.fair.death_pos
  have hle : ¬ h.windowSize < h.invalidationThreshold :=
    Nat.not_lt.2 hsound.fair.threshold_le
  rw [validate, if_neg (not_or.2 ⟨hwindow, hsound.interval⟩),
    if_neg (not_or.2 ⟨hthreshold, hle⟩), if_neg hdeath]

namespace ClientConfig

variable {c : ClientConfig}

/-! ## What is demanded of a configuration -/

theorem validateGroups_eq_ok_iff {seen : List String} {gs : List Group} :
    validateGroups seen gs = .ok () ↔
      (∀ g ∈ gs, g.size ≠ 0) ∧ (gs.map Group.tag).Nodup ∧ ∀ g ∈ gs, g.tag ∉ seen := by
  induction gs generalizing seen with
  | nil => simp [validateGroups]
  | cons g gs ih =>
      rw [validateGroups]
      by_cases hsize : g.size = 0
      · simp [hsize]
      · by_cases hseen : g.tag ∈ seen
        · simp [hsize, hseen]
        · simp only [hsize, hseen, List.contains_eq_mem, decide_false, if_false,
            Bool.false_eq_true, ih, List.map_cons, List.nodup_cons, List.mem_map, List.mem_cons,
            not_or]
          grind

/-- A configuration with which a client can run. -/
structure IsSound (c : ClientConfig) : Prop where
  groups : c.groups ≠ []
  sizes : ∀ g ∈ c.groups, g.size ≠ 0
  tags : (c.groups.map Group.tag).Nodup
  balancerTag : ∀ tag, c.balancerTag = some tag → ∃ g ∈ c.groups, g.tag = tag
  threads : c.ioThreads ≠ 0
  requestTimeout : c.requestTimeoutMs ≠ 0
  connectTimeout : c.connectTimeoutMs ≠ 0
  heartbeat : ∀ h, c.heartbeat = some h → h.IsSound
  queue : c.watchers.queueCapacity ≠ 0

theorem validateBalancerTag_eq_ok_iff :
    c.validateBalancerTag = .ok () ↔
      ∀ tag, c.balancerTag = some tag → ∃ g ∈ c.groups, g.tag = tag := by
  rw [validateBalancerTag]
  cases c.balancerTag with
  | none => simp
  | some tag =>
      have hnamed : c.hasTag tag = true ↔ ∃ g ∈ c.groups, g.tag = tag := by
        simp only [hasTag, List.any_eq_true, beq_iff_eq]
      simp only [Option.some.injEq, forall_eq', ← hnamed]
      cases c.hasTag tag with
      | true => exact iff_of_true rfl rfl
      | false => exact iff_of_false (by simp) Bool.false_ne_true

theorem validateTimes_eq_ok_iff :
    c.validateTimes = .ok () ↔
      c.ioThreads ≠ 0 ∧ c.requestTimeoutMs ≠ 0 ∧ c.connectTimeoutMs ≠ 0 := by
  rw [validateTimes]
  by_cases hthreads : c.ioThreads = 0
  · simp [hthreads]
  · by_cases htimes : c.requestTimeoutMs = 0 ∨ c.connectTimeoutMs = 0
    · simp only [hthreads, htimes, if_true, if_false, reduceCtorEq, false_iff]
      tauto
    · simp only [hthreads, htimes, if_false, true_iff, ne_eq, not_false_eq_true, true_and]
      exact not_or.1 htimes

/-- The configurations that are accepted are the sound ones. -/
theorem validate_eq_ok_iff : c.validate = .ok () ↔ c.IsSound := by
  have hthen (x : Except ConfigFault Unit) (f : Unit → Except ConfigFault Unit) :
      (x >>= f) = .ok () ↔ x = .ok () ∧ f () = .ok () := by
    cases x with
    | error e => simp [bind, Except.bind]
    | ok a => simp [bind, Except.bind]
  have hqueue : (if c.watchers.queueCapacity = 0 then Except.error .noQueue else .ok ()) =
      (.ok () : Except ConfigFault Unit) ↔ c.watchers.queueCapacity ≠ 0 := by
    split <;> simp_all
  rw [validate]
  by_cases hgroups : c.groups = []
  · rw [if_pos (List.isEmpty_iff.2 hgroups)]
    exact iff_of_false (by simp) fun hsound => hsound.groups hgroups
  · rw [if_neg (mt List.isEmpty_iff.1 hgroups)]
    simp only [hthen, validateGroups_eq_ok_iff, validateBalancerTag_eq_ok_iff,
      validateTimes_eq_ok_iff]
    -- what is demanded of the queue stands behind both cases of the heartbeat
    refine Iff.trans (and_congr_right' (and_congr_right' (and_congr_right'
      (?_ : _ ↔ (∀ h, c.heartbeat = some h → h.IsSound) ∧ c.watchers.queueCapacity ≠ 0)))) ?_
    · cases c.heartbeat with
      | none => simp [hthen, hqueue]
      | some h => simp [hthen, hqueue, HeartbeatConfig.validate_eq_ok_iff]
    · constructor
      · rintro ⟨⟨hsizes, htags, -⟩, htag, ⟨hthreads, hrequest, hconnect⟩, hheartbeat, hfull⟩
        exact ⟨hgroups, hsizes, htags, htag, hthreads, hrequest, hconnect, hheartbeat, hfull⟩
      · intro h
        exact ⟨⟨h.sizes, h.tags, fun _ _ => List.not_mem_nil⟩, h.balancerTag,
          ⟨h.threads, h.requestTimeout, h.connectTimeout⟩, h.heartbeat, h.queue⟩

end ClientConfig

end TupleWire
