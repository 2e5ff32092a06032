/-
  What an accepted configuration can be relied on for.

  An accepted configuration is sound, and a sound one has what it takes to run:
  groups with connections and tags of their own, a tag for every policy that needs
  one, time to connect and to answer, and windows that can close and turn bad.
  The time of a probe is not among what is checked, nor is what the probe asks
  for; `accepted_configs_serve` says which accepted configurations let no probe be
  valid.
-/
import TupleWire.Proofs.Balancer.Rotation
import TupleWire.Proofs.Config.Soundness
import TupleWire.Proofs.Heartbeat.Probing

set_option autoImplicit false

namespace TupleWire

namespace ClientConfig

variable {c : ClientConfig}

namespace IsSound

/-! ## Choosing -/

/-- The tag of a policy that needs one is that of a group. -/
theorem tagFor?_eq_some (h : c.IsSound) : ∃ g ∈ c.groups, Policy.tagFor? c = some g.tag := by
  rw [Policy.tagFor?]
  cases htag : c.balancerTag with
  | some tag =>
      obtain ⟨g, hg, hnamed⟩ := h.balancerTag tag htag
      exact ⟨g, hg, congrArg some hnamed.symm⟩
  | none =>
      obtain ⟨g, gs, hgroups⟩ := List.exists_cons_of_ne_nil h.groups
      rw [hgroups]
      exact ⟨g, List.mem_cons_self, rfl⟩

/-- There is a policy for every name that is known. -/
theorem exists_policy_iff (h : c.IsSound) :
    (∃ p, Policy.ofConfig c = .ok p) ↔ Policy.isKnown c.balancer = true := by
  obtain ⟨g, _, htag⟩ := h.tagFor?_eq_some
  unfold Policy.ofConfig
  rw [htag]
  split
  · rename_i hname
    rw [hname]
    exact iff_of_true ⟨_, rfl⟩ rfl
  · rename_i hname
    rw [hname]
    exact iff_of_true ⟨_, rfl⟩ rfl
  · rename_i hname
    rw [hname]
    exact iff_of_true ⟨_, rfl⟩ rfl
  · rename_i hround htagged hdistributing
    refine iff_of_false (by simp) ?_
    simp only [Policy.isKnown, Policy.names, List.contains_eq_mem, List.mem_cons,
      List.not_mem_nil, or_false, decide_eq_true_eq]
    rintro (hname | hname | hname)
    · exact hround hname
    · exact htagged hname
    · exact hdistributing hname

/-- Every policy of a sound configuration may choose the connections of some group. -/
theorem exists_covered (h : c.IsSound) {p : Policy} (hp : Policy.ofConfig c = .ok p) :
    ∃ g ∈ c.groups, p.covers g.tag = true := by
  obtain ⟨g, hg, htag⟩ := h.tagFor?_eq_some
  refine ⟨g, hg, ?_⟩
  unfold Policy.ofConfig at hp
  rw [htag] at hp
  split at hp
  · cases hp
    rfl
  · cases hp
    exact beq_self_eq_true g.tag
  · cases hp
    rfl
  · cases hp

end IsSound

end ClientConfig

/-- The answer to a ping gets through. -/
theorem Instance.deliverable_empty : Deliverable (.ok Body.empty) where
  fits := ⟨by decide, by decide⟩
  exact h := by cases h; rfl
  plain h := by cases h

namespace HeartbeatConfig.IsSound

variable {h : HeartbeatConfig}

/-! ## Probing -/

theorem patience_pos_iff (hsound : h.IsSound) : 0 < h.patience ↔ h.probeTimeoutMs ≠ some 0 := by
  have hlongest : 0 < Waiter.longestWait := by decide
  have hpos (n : UInt64) : 0 < n.toNat ↔ n ≠ 0 := by
    rw [Nat.pos_iff_ne_zero, ne_eq, ne_eq, ← UInt64.toNat_inj]
    rfl
  rw [patience, Nat.lt_min, and_iff_left hlongest, hpos]
  cases h.probeTimeoutMs with
  | none => simpa using hsound.interval
  | some ms => simp

theorem probeTimeout_pos_iff (hsound : h.IsSound) :
    0 < h.probeTimeout.nanos ↔ h.probeTimeoutMs ≠ some 0 := by
  have hlongest : 0 < Waiter.longestWait := by decide
  rw [← hsound.patience_pos_iff, patience, Nat.lt_min, and_iff_left hlongest, probeTimeout, millis,
    Duration.ofMillis]
  exact Nat.mul_pos_iff_of_pos_right (by decide)

open ProbeHistory in
/-- A window of probes that go well closes as if nothing had been. -/
theorem recordAll_window (hsound : h.IsSound) :
    recordAll h.rules .fresh (.replicate h.rules.windowSize true) = .fresh := by
  obtain ⟨n, hn⟩ := Nat.exists_eq_succ_of_ne_zero (Nat.ne_of_gt hsound.fair.window_pos)
  have hgood : ¬ h.rules.invalidationThreshold ≤ 0 := Nat.not_le.2 hsound.fair.threshold_pos
  have hopen := recordAll_replicate_true hsound.fair.toAreSound (n := n) (by omega)
  rw [hn, List.replicate_succ', recordAll_concat, hopen, record_of_full rfl hn.symm]
  simp [count, hgood]

open ProbeHistory in
/-- A new slot dies of as many failed probes as all the windows hold. -/
theorem dead_mem_silence_fresh_iff (hsound : h.IsSound) (n : Nat) :
    .dead ∈ fresh.silence h.rules n ↔ h.rules.deathThreshold * h.rules.windowSize ≤ n := by
  have hliving : IsLiving h.rules fresh :=
    ⟨rfl, hsound.fair.window_pos, hsound.fair.death_pos⟩
  rw [dead_mem_silence_iff hsound.fair hliving]
  have hleft : lifeLeft h.rules fresh = (h.rules.deathThreshold - 0) * h.rules.windowSize :=
    lifeLeft_of_opened hsound.fair hsound.fair.death_pos
  rw [hleft, Nat.sub_zero]

/-- On a connection that listens and accepts the answer to a ping, some probe can be valid if and only
if probes have time, ask for something and fit a frame. -/
theorem exists_isProbeValid_iff (hsound : h.IsSound) {e : Endpoint} (he : e.Listens)
    {version : UInt64}
    (hlimit : (Instance.answerPacket version e.conn.nextSync (.ok Body.empty)).payload.length ≤
      e.limit) :
    (∃ ms a, Instance.Deliverable a ∧
        e.isProbeValid h ms (fun n => Instance.answerPacket version n a) = true) ↔
      h.probeTimeoutMs ≠ some 0 ∧ h.mode.isNamed = true ∧
        (h.probePacket e.conn).payload.length ≤ Packet.payloadLimit := by
  rw [← hsound.patience_pos_iff]
  constructor
  · rintro ⟨ms, a, ha, hvalid⟩
    obtain ⟨hsendable, _, htime, _⟩ := (Endpoint.isProbeValid_iff he h ms ha version).1 hvalid
    exact ⟨Nat.zero_lt_of_lt htime, hsendable⟩
  · rintro ⟨htime, hsendable⟩
    exact ⟨0, _, Instance.deliverable_empty,
      (Endpoint.isProbeValid_iff he h 0 Instance.deliverable_empty version).2
        ⟨hsendable, rfl, htime, hlimit⟩⟩

end HeartbeatConfig.IsSound

/-! ## What an accepted configuration gives -/

/-- What a client that probes its connections can rely on. -/
structure HeartbeatConfig.Serves (h : HeartbeatConfig) : Prop where
  window : 1 ≤ h.rules.windowSize
  threshold : 1 ≤ h.rules.invalidationThreshold ∧
    h.rules.invalidationThreshold ≤ h.rules.windowSize
  death : 1 ≤ h.rules.deathThreshold
  /-- a window closes, and if its probes went well nothing is left of it -/
  closes : ProbeHistory.recordAll h.rules .fresh (.replicate h.rules.windowSize true) = .fresh
  /-- windows turn bad, and a slot that is silent dies -/
  turnsBad : ∀ n, .dead ∈ ProbeHistory.fresh.silence h.rules n ↔
    h.rules.deathThreshold * h.rules.windowSize ≤ n
  /-- probes have time, unless the configuration gives them none -/
  probeTimeout : 0 < h.probeTimeout.nanos ↔ h.probeTimeoutMs ≠ some 0
  /-- a probe of a connection on which nothing is amiss can be valid, unless it has no time or cannot
  be sent -/
  probes : ∀ (e : Endpoint) (version : UInt64), e.Listens →
    (Instance.answerPacket version e.conn.nextSync (.ok Body.empty)).payload.length ≤ e.limit →
      ((∃ ms a, Instance.Deliverable a ∧
          e.isProbeValid h ms (fun n => Instance.answerPacket version n a) = true) ↔
        h.probeTimeoutMs ≠ some 0 ∧ h.mode.isNamed = true ∧
          (h.probePacket e.conn).payload.length ≤ Packet.payloadLimit)

theorem HeartbeatConfig.IsSound.serves {h : HeartbeatConfig} (hsound : h.IsSound) : h.Serves where
  window := hsound.fair.window_pos
  threshold := ⟨hsound.fair.threshold_pos, hsound.fair.threshold_le⟩
  death := hsound.fair.death_pos
  closes := hsound.recordAll_window
  turnsBad := hsound.dead_mem_silence_fresh_iff
  probeTimeout := hsound.probeTimeout_pos_iff
  probes _ _ he hlimit := hsound.exists_isProbeValid_iff he hlimit

namespace ClientConfig

/-- What a client can rely on in its configuration. -/
structure Serves (c : ClientConfig) : Prop where
  groups : c.groups ≠ []
  sizes : ∀ g ∈ c.groups, 1 ≤ g.size.toNat
  tags : (c.groups.map Group.tag).Nodup
  /-- a policy that is tied to a tag has a group -/
  tag : ∃ g ∈ c.groups, Policy.tagFor? c = some g.tag
  connectTimeout : 0 < c.connectTimeout.nanos
  requestTimeout : 0 < c.requestTimeout.nanos
  heartbeat : ∀ h, c.heartbeat = some h → h.Serves
  /-- there is a policy of the name that is asked for, if the name is known -/
  policy : (∃ p, Policy.ofConfig c = .ok p) ↔ Policy.isKnown c.balancer = true
  /-- whatever it has chosen from before, the policy chooses whenever a connection of some group is
  ready -/
  selects : ∀ p, Policy.ofConfig c = .ok p → ∃ g ∈ c.groups,
    ∀ (seen : List (List Candidate)) (cs : List Candidate) (index : Nat),
      ⟨g.tag, index, true⟩ ∈ cs → ((p.after seen).select cs).1.isSome = true

/-- An accepted configuration has all that it takes to run, except that probes may be given no time,
or something to ask for that cannot be sent; then none of them is ever valid. -/
theorem accepted_configs_serve {c : ClientConfig} (hvalid : c.validate = .ok ()) : c.Serves := by
  have hsound := validate_eq_ok_iff.1 hvalid
  have hpos {n : UInt64} (hn : n ≠ 0) : 0 < n.toNat :=
    Nat.pos_of_ne_zero fun hzero => hn (UInt64.toNat_inj.1 hzero)
  exact
    { groups := hsound.groups
      sizes := fun g hg => hpos (hsound.sizes g hg)
      tags := hsound.tags
      tag := hsound.tagFor?_eq_some
      connectTimeout := Nat.mul_pos (hpos hsound.connectTimeout) (by decide)
      requestTimeout := Nat.mul_pos (hpos hsound.requestTimeout) (by decide)
      heartbeat := fun h hh => (hsound.heartbeat h hh).serves
      policy := hsound.exists_policy_iff
      selects := fun p hp => by
        obtain ⟨g, hg, hcovers⟩ := hsound.exists_covered hp
        refine ⟨g, hg, fun seen cs index hready => ?_⟩
        rw [← p.covers_after seen] at hcovers
        exact Policy.isSome_select hready hcovers rfl }

namespace Hasty

/-- Probes with the least time that there is, and those with none. -/
def heartbeat (timeout : UInt64) : HeartbeatConfig := { probeTimeoutMs := some timeout }

/-- Two connections to one instance that are probed. -/
def config (timeout : UInt64) : ClientConfig :=
  { groups := [{ tag := "main", host := "localhost", port := 3301, size := 2 }]
    balancer := "tag_round_robin"
    heartbeat := some (heartbeat timeout) }

/-- One of its connections, on which nothing has happened yet. -/
def endpoint : Endpoint :=
  { conn := { tag := "main", index := 0, salt := [], requestTimeout := .zero, lifecycle := .ready }
    shared := {}
    limit := Frame.defaultLimit }

theorem listens : endpoint.Listens := ⟨rfl, rfl, rfl, rfl, rfl, by decide⟩

/-- A millisecond is enough. -/
theorem accepted_configs_serve_of_hasty :
    (config 1).validate = .ok () ∧ Policy.tagFor? (config 1) = some "main" ∧
      0 < (heartbeat 1).probeTimeout.nanos ∧
      ∃ ms a, Instance.Deliverable a ∧ endpoint.isProbeValid (heartbeat 1) ms
        (fun n => Instance.answerPacket 1 n a) = true := by
  have hvalid : (config 1).validate = .ok () := rfl
  have hserves := accepted_configs_serve hvalid
  have hprobes := hserves.heartbeat (heartbeat 1) rfl
  refine ⟨hvalid, rfl, hprobes.probeTimeout.2 (by decide), ?_⟩
  exact (hprobes.probes endpoint 1 listens (by decide)).2 ⟨by decide, rfl, by decide⟩

/-- A configuration that gives probes no time is accepted, and whatever the server answers, and be it
at once, no probe is valid. -/
theorem no_probe_of_hasty_is_valid :
    (config 0).validate = .ok () ∧ (config 0).heartbeat = some (heartbeat 0) ∧
      (heartbeat 0).probeTimeout.nanos = 0 ∧ endpoint.Listens ∧
      ∀ ms version a, Instance.Deliverable a →
        endpoint.isProbeValid (heartbeat 0) ms (fun n => Instance.answerPacket version n a) = false := by
  refine ⟨rfl, rfl, rfl, listens, fun ms version a ha => ?_⟩
  rw [← Bool.not_eq_true, Endpoint.isProbeValid_iff listens (heartbeat 0) ms ha version]
  rintro ⟨_, _, htime, _⟩
  exact absurd htime (Nat.not_lt_zero ms)

end Hasty

end ClientConfig

end TupleWire
