/-
  Which connections of a pool may be selected.

  What is remembered of a slot depends on the outcomes of its probes alone,
  however they are mixed with the loss of its connections and the attempts to
  replace them.  Since an open pool is in order, so do the marks of the slot and
  the state of its connection, and no policy chooses a connection whose slot the
  verdicts on those outcomes keep out of selection.
-/
import TupleWire.Proofs.Balancer.Rotation
import TupleWire.Proofs.Pool.Quarantine

set_option autoImplicit false

namespace TupleWire

namespace Pool

/-! ## What is remembered -/

/-- The outcomes of the probes of the slot in a position. -/
def outcomesAt (position : Nat) (steps : List (Nat × Event)) : List Bool :=
  steps.filterMap fun step => step.2.outcomeAt? position

theorem outcomesAt_cons (position : Nat) (step : Nat × Event) (rest : List (Nat × Event)) :
    outcomesAt position (step :: rest) =
      (step.2.outcomeAt? position).toList ++ outcomesAt position rest := by
  rw [outcomesAt, List.filterMap_cons]
  cases step.2.outcomeAt? position with
  | none => rfl
  | some valid => rfl

section Frames

variable (p : Pool) (now position : Nat) (s : Slot)

theorem frame_performOn (action : Action) :
    (p.performOn now s action).config = p.config ∧ (p.performOn now s action).slots = p.slots := by
  unfold performOn
  cases s.conn with
  | none => exact ⟨rfl, rfl⟩
  | some n =>
      obtain ⟨hconfig, hslots, _⟩ := p.frame_perform now action n
      exact ⟨hconfig, hslots⟩

theorem frame_install (c : Connection) :
    (p.install now position s c).1.config = p.config ∧
      (p.install now position s c).1.slots = p.slots.set position
        { s with conn := some p.conns.length, supervisor := .watching p.conns.length } := by
  obtain ⟨q, hfades, hinstall⟩ := install_eq p now position s c
  rw [hinstall]
  exact ⟨hfades.config, congrArg (List.set · position _) hfades.slots⟩

variable {p position s}

/-- A verdict changes the marks of its slot and nothing that is remembered. -/
theorem frame_applyVerdict (hs : p.slots[position]? = some s) (verdict : Verdict) :
    (p.applyVerdict now position s verdict).1.config = p.config ∧
      ∃ t, t.history = s.history ∧
        (p.applyVerdict now position s verdict).1.slots = p.slots.set position t := by
  have hsame : p.slots = p.slots.set position s := by
    obtain ⟨hlt, hs⟩ := List.getElem?_eq_some_iff.1 hs
    rw [← hs, List.set_getElem_self]
  have hmarked (s' : Slot) (hhistory : s'.history = s.history) (action : Action) :
      ((p.setSlot position s').performOn now s action).config = p.config ∧
        ∃ t, t.history = s.history ∧
          ((p.setSlot position s').performOn now s action).slots = p.slots.set position t := by
    obtain ⟨hconfig, hslots⟩ := (p.setSlot position s').frame_performOn now s action
    exact ⟨hconfig, s', hhistory, hslots⟩
  cases verdict with
  | unchanged => exact ⟨rfl, s, rfl, hsame⟩
  | invalidated =>
      rw [applyVerdict, invalidate]
      split
      · exact ⟨rfl, s, rfl, hsame⟩
      · exact hmarked { s with isQuarantined := true } rfl _
  | recovered =>
      rw [applyVerdict, recover]
      split
      · exact ⟨rfl, s, rfl, hsame⟩
      · exact hmarked { s with isQuarantined := false } rfl _
  | dead =>
      simp only [applyVerdict, evict]
      split
      · exact ⟨rfl, { s with isQuarantined := true, isEvicted := true }, rfl, rfl⟩
      · exact hmarked { s with isQuarantined := true, isEvicted := true } rfl _
  | reinstated =>
      rw [applyVerdict, reinstate]
      split
      · exact ⟨rfl, s, rfl, hsame⟩
      · exact hmarked { s with isQuarantined := false, isEvicted := false } rfl _

/-- A probe adds its outcome to what is remembered of its slot. -/
theorem frame_probed (hs : p.slots[position]? = some s) (valid : Bool) :
    (p.probed now position valid).1.config = p.config ∧
      ∃ t, t.history = (s.history.record p.config.rules valid).2 ∧
        (p.probed now position valid).1.slots = p.slots.set position t := by
  rw [probed, hs]
  have hlt : position < p.slots.length := (List.getElem?_eq_some_iff.1 hs).1
  obtain ⟨hconfig, t, hhistory, hslots⟩ := frame_applyVerdict (p := p.setSlot position
    { s with history := (s.history.record p.config.rules valid).2 }) now
    (List.getElem?_set_self hlt) (s.history.record p.config.rules valid).1
  refine ⟨hconfig, t, hhistory, ?_⟩
  rw [hslots, setSlot, List.set_set]

end Frames

section Histories

variable {p q : Pool} {now i : Nat} {event : Event} {t : Slot}

/-- Where one slot has taken the place of another, every slot remembers what one there did before
and the outcomes given, if this is so for those two and no other has any. -/
theorem history_of_set {position : Nat} {s s' : Slot} (hs : p.slots[position]? = some s)
    (hslots : q.slots = p.slots.set position s') (ht : q.slots[i]? = some t) {outcomes : List Bool}
    (hown : i = position → s'.history = s.history.recordAll p.config.rules outcomes)
    (hother : i < p.slots.length → i ≠ position → outcomes = []) :
    ∃ s, p.slots[i]? = some s ∧ t.history = s.history.recordAll p.config.rules outcomes := by
  rw [hslots] at ht
  rcases getElem?_set_cases ht with ⟨rfl, rfl⟩ | ⟨hi, hold⟩
  · exact ⟨s, hs, hown rfl⟩
  · rw [hother (List.getElem?_eq_some_iff.1 hold).1 hi]
    exact ⟨t, hold, rfl⟩

/-- A step adds the outcome that it has for a slot, if any, to what is remembered of the slot. -/
theorem Turn.history (h : Turn p now event q) (ht : q.slots[i]? = some t) :
    q.config = p.config ∧ ∃ s, p.slots[i]? = some s ∧
      t.history = s.history.recordAll p.config.rules (event.outcomeAt? i).toList := by
  have hbound {k : Nat} {s : Slot} (hs : p.slots[k]? = some s) : k < p.slots.length :=
    (List.getElem?_eq_some_iff.1 hs).1
  cases h with
  | faded hfades hquiet =>
      rw [hfades.slots] at ht
      rw [hquiet i (hbound ht)]
      exact ⟨hfades.config, t, ht, rfl⟩
  | @supervised _ r position s s' hfades hs hhistory _ _ _ hquiet =>
      have hslots : (r.setSlot position s').slots = p.slots.set position s' :=
        congrArg (List.set · position s') hfades.slots
      refine ⟨hfades.config, history_of_set hs hslots ht ?_ ?_⟩
      · intro hi
        rw [hquiet i (hi ▸ hbound hs)]
        exact hhistory
      · intro hi _
        rw [hquiet i hi]
        rfl
  | @installed _ r position s c hfades hs _ hquiet =>
      obtain ⟨hconfig, hslots⟩ := r.frame_install now position s c
      rw [hfades.slots] at hslots
      refine ⟨hconfig.trans hfades.config,
        history_of_set hs hslots ht ?_ ?_⟩
      · intro hi
        rw [hquiet i (hi ▸ hbound hs)]
        rfl
      · intro hi _
        rw [hquiet i hi]
        rfl
  | @judged position s valid hs =>
      obtain ⟨hconfig, u, hhistory, hslots⟩ := frame_probed now hs valid
      refine ⟨hconfig, history_of_set hs hslots ht ?_ ?_⟩
      · intro hi
        rw [Event.outcomeAt?, if_pos hi.symm]
        exact hhistory
      · intro _ hi
        rw [Event.outcomeAt?, if_neg (Ne.symm hi)]
        rfl

/-- What is remembered of a slot after a run depends on the outcomes of its probes alone. -/
theorem InOrder.history_of_run (h : InOrder p) {steps : List (Nat × Event)}
    (hsteps : ∀ step ∈ steps, step.2.isRegular) (ht : (p.run steps).1.slots[i]? = some t) :
    (p.run steps).1.config = p.config ∧ ∃ s, p.slots[i]? = some s ∧
      t.history = s.history.recordAll p.config.rules (outcomesAt i steps) := by
  induction steps generalizing p with
  | nil => exact ⟨rfl, t, ht, rfl⟩
  | cons step rest ih =>
      have hregular := hsteps step List.mem_cons_self
      have hturn : Turn p step.1 step.2 (p.step step.1 step.2).1 :=
        step_turn h.isOpen h.nothingClosing hregular
      obtain ⟨hlater, s', hs', hhistory'⟩ := ih (h.step step.1 hregular)
        (fun next hnext => hsteps next (List.mem_cons_of_mem _ hnext)) ht
      obtain ⟨hconfig, s, hs, hhistory⟩ := hturn.history hs'
      refine ⟨hlater.trans hconfig, s, hs, ?_⟩
      rw [outcomesAt_cons, ProbeHistory.recordAll_append, ← hhistory, ← hconfig]
      exact hhistory'

end Histories

/-! ## Starting -/

/-- A pool as it is started: in order, and nothing was probed. -/
structure Begun (config : PoolConfig) (p : Pool) : Prop where
  inOrder : InOrder p
  config_eq : p.config = config
  unprobed {i : Nat} {s : Slot} : p.slots[i]? = some s → s.history = .fresh

namespace Begun

variable {config : PoolConfig} {p : Pool}

/-- Before the first attempts, no slot has a connection and none is marked. -/
theorem initial (config : PoolConfig) (groups : List Group) (shared : Shared) :
    Begun config { config, slots := slotsOf groups, shared } := by
  have hslot {i : Nat} {s : Slot} (hs : (slotsOf groups)[i]? = some s) :
      ∃ group index, s = { group, index } := by
    obtain ⟨group, _, hmem⟩ := List.mem_flatMap.1 (List.mem_of_getElem? hs)
    obtain ⟨index, _, rfl⟩ := List.mem_map.1 hmem
    exact ⟨group, index, rfl⟩
  refine ⟨⟨rfl, rfl, fun {i s} hs => ?_, fun {i s} hs => ?_, fun {i s n} hs hn => ?_,
    fun {i j s t n} hs _ hn _ => ?_⟩, rfl, fun {i s} hs => ?_⟩
  · obtain ⟨group, index, rfl⟩ := hslot hs
    rfl
  · obtain ⟨group, index, rfl⟩ := hslot hs
    rfl
  · obtain ⟨group, index, rfl⟩ := hslot hs
    cases hn
  · obtain ⟨group, index, rfl⟩ := hslot hs
    cases hn
  · obtain ⟨group, index, rfl⟩ := hslot hs
    rfl

theorem install (h : Begun config p) (now : Nat) {position : Nat} {s : Slot}
    (hs : p.slots[position]? = some s) {c : Connection}
    (hc : c.lifecycle = .ready ∨ c.lifecycle = .closed) :
    Begun config (p.install now position s c).1 := by
  obtain ⟨hconfig, hslots⟩ := p.frame_install now position s c
  refine ⟨h.inOrder.install now hs hc, hconfig.trans h.config_eq, fun {i t} ht => ?_⟩
  have hkept : ∃ r, p.slots[i]? = some r ∧ t.history = r.history.recordAll p.config.rules [] :=
    history_of_set hs hslots ht (fun _ => rfl) fun _ _ => rfl
  obtain ⟨r, hr, hhistory⟩ := hkept
  rw [hhistory]
  exact h.unprobed hr

theorem settleFrom (h : Begun config p) (now position : Nat)
    {results : List (Except ClientError Connection)}
    (hresults : ∀ c, .ok c ∈ results → c.lifecycle = .ready ∨ c.lifecycle = .closed) :
    Begun config (Pool.settleFrom now position p results).1 := by
  induction results generalizing p position with
  | nil => exact h
  | cons result rest ih =>
      have hrest (c : Connection) (hc : .ok c ∈ rest) := hresults c (List.mem_cons_of_mem _ hc)
      unfold Pool.settleFrom
      split
      · exact h
      · rename_i s hs
        cases result with
        | error e => exact ih h (position + 1) hrest
        | ok c => exact ih (h.install now hs (hresults c List.mem_cons_self)) (position + 1) hrest

/-- A pool is started with what handshakes have handed over. -/
theorem of_start {groups : List Group} {shared : Shared} {now : Nat}
    {results : List (Except ClientError Connection)} {events : List PoolEvent}
    (hstart : start config groups shared now results = (.ok p, events))
    (hresults : ∀ c, .ok c ∈ results → Handshake.HandsOver c) : Begun config p := by
  have hsettled := (initial config groups shared).settleFrom now 0 fun c hc =>
    (hresults c hc).lifecycle
  simp only [start] at hstart
  split at hstart
  · split at hstart
    · cases hstart
    · cases hstart
      exact hsettled
  · cases hstart
    exact hsettled

end Begun

/-! ## Selecting -/

/-- A slot that has what its probes ask for: marks that say what is remembered of the probes and
what became of the verdicts on them, and a connection that can be selected unless they speak
against it. -/
structure Follows (p : Pool) (s : Slot) (outcomes : List Bool) : Prop where
  history : s.history = ProbeHistory.fresh.recordAll p.config.rules outcomes
  evicted : s.isEvicted = s.history.isDead
  quarantined : s.isQuarantined = (s.history.isInvalidated || s.history.isDead)
  barred : s.isQuarantined = ProbeHistory.isBarred p.config.rules outcomes
  ready {c : Connection} : p.current? s = some c → c.isClosed = false → c.isDraining = false →
    (c.isReady = true ↔ s.isQuarantined = false)
  degraded {c : Connection} : p.current? s = some c → c.isClosed = false →
    (c.lifecycle = .degraded ↔ s.isQuarantined = true)

/-- What a policy chooses in a pool is the connection of a slot, and ready. -/
theorem of_tryNext {p : Pool} {policy next : Policy} {chosen : Candidate}
    (h : p.tryNext policy = .ok (some chosen, next)) :
    ∃ (i : Nat) (s : Slot) (c : Connection), p.slots[i]? = some s ∧ p.current? s = some c ∧
      chosen = c.candidate ∧ c.isReady = true := by
  have hselect : policy.select (p.installed.filterMap fun n => p.conns[n]?.map
      Connection.candidate) = (some chosen, next) := by
    unfold tryNext candidates connections checkOpen at h
    split at h
    · cases h
    · have hall : p.slots.filter (fun _ => true) = p.slots :=
        List.filter_eq_self.2 fun _ _ => rfl
      rw [installed, ← hall]
      exact Except.ok.inj h
  obtain ⟨hmem, hready⟩ := Policy.of_select hselect
  obtain ⟨n, hn, hchosen⟩ := List.mem_filterMap.1 hmem
  obtain ⟨s, hs, hconn⟩ := List.mem_filterMap.1 hn
  obtain ⟨c, hc, rfl⟩ := Option.map_eq_some_iff.1 hchosen
  obtain ⟨i, hi⟩ := List.mem_iff_getElem?.1 hs
  refine ⟨i, s, c, hi, ?_, rfl, hready⟩
  rw [current?, hconn]
  exact hc

theorem InOrder.follows {p : Pool} (h : InOrder p) {i : Nat} {s : Slot} {outcomes : List Bool}
    (hs : p.slots[i]? = some s)
    (hhistory : s.history = ProbeHistory.fresh.recordAll p.config.rules outcomes) :
    Follows p s outcomes := by
  have hstate {c : Connection} (hc : p.current? s = some c) (hlive : c.isClosed = false) :
      c.lifecycle = if s.isQuarantined then .degraded else .ready := by
    obtain ⟨n, hn, hnumber⟩ := Option.bind_eq_some_iff.1 hc
    obtain ⟨d, hd, hdue⟩ := h.due hs hn
    rw [hnumber] at hd
    cases hd
    rcases hdue with hdue | hclosed
    · exact hdue
    · rw [Connection.isClosed, hclosed] at hlive
      cases hlive
  refine ⟨hhistory, h.evicted hs, h.quarantined hs, ?_, fun {c} hc hlive hdraining => ?_,
    fun {c} hc hlive => ?_⟩
  · rw [h.quarantined hs, hhistory]
    exact ProbeHistory.isBad_recordAll _ _
  · rw [Connection.isReady, hstate hc hlive, hdraining]
    cases s.isQuarantined with
    | true => simp
    | false => simp
  · rw [hstate hc hlive]
    cases s.isQuarantined with
    | true => simp
    | false => simp

/-- A connection that can be selected is that of a slot whose probes allow it. -/
theorem Follows.isBarred_of_isReady {p : Pool} {s : Slot} {outcomes : List Bool}
    (h : Follows p s outcomes) {c : Connection} (hc : p.current? s = some c)
    (hready : c.isReady = true) : ProbeHistory.isBarred p.config.rules outcomes = false := by
  obtain ⟨hstate, hdraining⟩ := Bool.and_eq_true_iff.1 hready
  have hlive : c.isClosed = false := by
    rw [Connection.isClosed, eq_of_beq hstate]
    rfl
  rw [← h.barred]
  exact (h.ready hc hlive (by simpa using hdraining)).1 hready

/-- In every run of an open pool, from its start on, every slot has what its probes ask for.  So
whatever a policy chooses is the connection of a slot that the verdicts so far do not keep out of
selection, and never one of a slot that they do, however often its connection was replaced. -/
theorem selection_follows_probes {config : PoolConfig} {groups : List Group} {shared : Shared}
    {now : Nat} {results : List (Except ClientError Connection)} {p : Pool}
    {events : List PoolEvent} (hstart : start config groups shared now results = (.ok p, events))
    (hresults : ∀ c, .ok c ∈ results → Handshake.HandsOver c) {steps : List (Nat × Event)}
    (hsteps : ∀ step ∈ steps, step.2.isRegular) :
    (∀ i s, (p.run steps).1.slots[i]? = some s →
      Follows (p.run steps).1 s (outcomesAt i steps)) ∧
    ∀ policy next chosen, (p.run steps).1.tryNext policy = .ok (some chosen, next) →
      (∃ i s c, (p.run steps).1.slots[i]? = some s ∧ (p.run steps).1.current? s = some c ∧
        chosen = c.candidate ∧ ProbeHistory.isBarred config.rules (outcomesAt i steps) = false) ∧
      ∀ i s c, (p.run steps).1.slots[i]? = some s → (p.run steps).1.current? s = some c →
        ProbeHistory.isBarred config.rules (outcomesAt i steps) = true → chosen ≠ c.candidate := by
  have hbegun := Begun.of_start hstart hresults
  have horder := hbegun.inOrder.run hsteps
  have hremembered {i : Nat} {s : Slot} (hs : (p.run steps).1.slots[i]? = some s) :
      (p.run steps).1.config = config ∧
        s.history = ProbeHistory.fresh.recordAll config.rules (outcomesAt i steps) := by
    obtain ⟨hconfig, r, hr, hhistory⟩ := hbegun.inOrder.history_of_run hsteps hs
    rw [hbegun.unprobed hr, hbegun.config_eq] at hhistory
    exact ⟨hconfig.trans hbegun.config_eq, hhistory⟩
  have hfollows (i : Nat) (s : Slot) (hs : (p.run steps).1.slots[i]? = some s) :
      Follows (p.run steps).1 s (outcomesAt i steps) := by
    obtain ⟨hconfig, hhistory⟩ := hremembered hs
    apply horder.follows hs
    rw [hconfig]
    exact hhistory
  have hallowed (i : Nat) (s : Slot) (c : Connection) (hs : (p.run steps).1.slots[i]? = some s)
      (hc : (p.run steps).1.current? s = some c) (hready : c.isReady = true) :
      ProbeHistory.isBarred config.rules (outcomesAt i steps) = false := by
    have hbarred := (hfollows i s hs).isBarred_of_isReady hc hready
    rwa [(hremembered hs).1] at hbarred
  refine ⟨hfollows, ?_⟩
  intro policy next chosen hchosen
  obtain ⟨i, s, c, hs, hc, rfl, hready⟩ := of_tryNext hchosen
  refine ⟨⟨i, s, c, hs, hc, rfl, hallowed i s c hs hc hready⟩, ?_⟩
  intro j t d ht hd hbarred hsame
  have hready' : d.isReady = true := by
    have hflag := congrArg Candidate.isReady hsame
    exact hflag.symm.trans hready
  rw [hallowed j t d ht hd hready'] at hbarred
  cases hbarred

namespace Relapse

/-- Two connections to one instance. -/
def group : Group := { tag := "default", host := "localhost", port := 3301, size := 2 }

/-- One failed probe of two makes a window bad, and two bad windows are the death of a slot. -/
def config : PoolConfig := ⟨.ofMillis 10, false, .ofMillis 0, true, ⟨2, 1, 2⟩⟩

/-- An answer without data. -/
def answer (sync : UInt64) : ReceivedPacket := ⟨[], ⟨⟨0, sync, some 1, none⟩, Body.empty⟩⟩

/-- A handshake that waits for its last answer. -/
def handshake (index : Nat) : Handshake where
  group := group
  conn :=
    { tag := "default", index, salt := [], requestTimeout := .ofMillis 1000,
      lifecycle := .schemaSync, issued := 1,
      pending := SortedMap.empty.insert 1 ⟨.data, .ofMillis 1000, 0⟩ }
  stage := .probing
  awaited := 1

/-- The connection that it hands over. -/
def conn (index : Nat) : Connection :=
  { (handshake index).conn with lifecycle := .ready, pending := SortedMap.empty }

theorem handsOver_conn (index : Nat) : Handshake.HandsOver (conn index) :=
  ⟨handshake index, [(1, .conn (.receive (answer 1)))], _, rfl⟩

/-- The first slot dies of its probes; the loss of its connection is noticed, and after an attempt
that fails comes one that succeeds. -/
def steps : List (Nat × Event) :=
  [(1, .probed 0 false), (2, .probed 0 false), (3, .probed 0 false), (4, .probed 0 false),
    (5, .lost 0), (6, .rested 0), (7, .unreachable 0 .connectionClosed), (8, .rested 0),
    (9, .greeted 0 (.ofMillis 1000) (Greeting.encode ⟨"Tarantool", List.replicate 20 0⟩)),
    (10, .handshake 0 (.conn (.receive (answer 1)))),
    (11, .handshake 0 (.conn (.receive (answer 2))))]

/-- The new connection of a dead slot is not chosen, whereas that of the other slot is. -/
theorem selection_after_relapse :
    let started := start config [group] {} 0 [.ok (conn 0), .ok (conn 1)]
    ∃ p, started = (.ok p, started.2) ∧
      ((p.run steps).1.tryNext (.roundRobin 0)).toOption.map Prod.fst =
        some (some ⟨"default", 1, true⟩) ∧
      ((p.run steps).1.slots[0]?.bind (p.run steps).1.current?).map Connection.lifecycle =
        some .degraded ∧
      ∀ s c policy next chosen, (p.run steps).1.slots[0]? = some s →
        (p.run steps).1.current? s = some c →
        (p.run steps).1.tryNext policy = .ok (some chosen, next) → chosen ≠ c.candidate := by
  intro started
  have hbarred : ProbeHistory.isBarred config.rules (outcomesAt 0 steps) = true := by decide
  have hresults (c : Connection)
      (hc : (.ok c : Except ClientError Connection) ∈ [.ok (conn 0), .ok (conn 1)]) :
      Handshake.HandsOver c := by
    rcases List.mem_cons.1 hc with heq | hc
    · cases heq
      exact handsOver_conn 0
    · cases List.mem_singleton.1 hc
      exact handsOver_conn 1
  refine ⟨_, rfl, ?_, ?_, ?_⟩
  · decide +kernel
  · decide +kernel
  · intro s c policy next chosen hs hc hchosen
    have h := @selection_follows_probes config [group] {} 0 _ _ _ rfl hresults steps
      (by simp [steps, Event.isRegular])
    exact (h.2 policy next chosen hchosen).2 0 s c hs hc hbarred

end Relapse

end Pool

end TupleWire
