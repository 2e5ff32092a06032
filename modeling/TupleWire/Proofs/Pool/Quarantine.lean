/-
  The health of a slot.

  A slot's health is known in three places: in the history of its probes, in the
  marks of the slot and in the state of its connection.  `InOrder` says that
  they agree, and every step of an open pool keeps it so, whether it judges a
  probe, loses a connection or installs a new one.  What was made of the
  verdicts on a slot so far is then what decides whether a policy may choose its
  connection.
-/
import TupleWire.Proofs.Heartbeat.Verdict
import TupleWire.Proofs.Pool.Turn

set_option autoImplicit false

namespace TupleWire

/-- The state in which the connection of a slot has to be unless it is closed. -/
def Slot.due (s : Slot) : Lifecycle := if s.isQuarantined then .degraded else .ready

namespace Pool

/-! ## The invariant -/

/-- An open pool whose histories, marks and connections agree. -/
structure InOrder (p : Pool) : Prop where
  isOpen : p.isClosed = false
  nothingClosing : p.closing = []
  /-- a slot is evicted if and only if its history is that of a dead one -/
  evicted {i : Nat} {s : Slot} : p.slots[i]? = some s → s.isEvicted = s.history.isDead
  /-- a slot is quarantined if and only if its probes speak against it -/
  quarantined {i : Nat} {s : Slot} : p.slots[i]? = some s → s.isQuarantined = s.history.isBad
  /-- a connection that is installed and not closed is in the state that its slot asks for -/
  due {i : Nat} {s : Slot} {n : Nat} : p.slots[i]? = some s → s.conn = some n →
    ∃ c, p.conns[n]? = some c ∧ (c.lifecycle = s.due ∨ c.lifecycle = .closed)
  /-- no two slots share a connection -/
  apart {i j : Nat} {s t : Slot} {n : Nat} : p.slots[i]? = some s → p.slots[j]? = some t →
    s.conn = some n → t.conn = some n → i = j

/-! ## What a verdict does

Each verdict comes in one state of the marks only, and there it does its work. -/

section Marks

variable {p : Pool} {now i : Nat} {s : Slot}

theorem invalidate_eq (hfree : s.isQuarantined = false) : (p.invalidate now i s).1 =
    (p.setSlot i { s with isQuarantined := true }).performOn now s (.setLifecycle .degraded) := by
  rw [invalidate, if_neg (by simp [hfree])]

theorem recover_eq (halive : s.isEvicted = false) (hbarred : s.isQuarantined = true) :
    (p.recover now i s).1 =
      (p.setSlot i { s with isQuarantined := false }).performOn now s (.setLifecycle .ready) := by
  rw [recover, if_neg (by simp [halive, hbarred])]

theorem evict_eq (halive : s.isEvicted = false) : (p.evict now i s).1 =
    (p.setSlot i { s with isQuarantined := true, isEvicted := true }).performOn now s
      .shutdown := by
  rw [evict, if_neg (by simp [halive])]

theorem reinstate_eq (hgone : s.isEvicted = true) : (p.reinstate now i s).1 =
    (p.setSlot i { s with isQuarantined := false, isEvicted := false }).performOn now s
      (.setLifecycle .ready) := by
  rw [reinstate, if_neg (by simp [hgone])]

end Marks

/-! ## What installing does -/

/-- A connection as it is installed, apart from what it watches. -/
def prepared (s : Slot) (c : Connection) : Connection :=
  if s.isQuarantined then c.setLifecycle .degraded else c

theorem lifecycle_prepared {s : Slot} {c : Connection}
    (hc : c.lifecycle = .ready ∨ c.lifecycle = .closed) :
    (prepared s c).lifecycle = s.due ∨ (prepared s c).lifecycle = .closed := by
  unfold prepared Slot.due
  split
  · exact c.lifecycle_setLifecycle .degraded
  · exact hc

/-- Setting the state of the connection that was appended last. -/
theorem perform_last (p : Pool) (now : Nat) (c : Connection) (state : Lifecycle) :
    { p with conns := p.conns ++ [c] }.perform now (.setLifecycle state) p.conns.length =
      { p with conns := p.conns ++ [c.setLifecycle state] } := by
  have hlast : (p.conns ++ [c])[p.conns.length]? = some c := List.getElem?_concat_length
  have hset : (p.conns ++ [c]).set p.conns.length (c.setLifecycle state) =
      p.conns ++ [c.setLifecycle state] := by
    rw [List.set_append_right _ _ (Nat.le_refl _), Nat.sub_self]
    rfl
  simp only [perform, act, hlast, Connection.act, hset]
  rfl

/-- Installing appends the connection to those of the pool, lets it watch what is watched, and puts
it into its slot. -/
theorem install_eq (p : Pool) (now position : Nat) (s : Slot) (c : Connection) :
    ∃ q, Fades { p with conns := p.conns ++ [prepared s c] } q ∧
      (p.install now position s c).1 = q.setSlot position
        { s with conn := some p.conns.length, supervisor := .watching p.conns.length } := by
  have hdegraded : (if s.isQuarantined then [Action.setLifecycle .degraded] else []).foldl
      (fun p' action => p'.perform now action p.conns.length)
      { p with conns := p.conns ++ [c] } = { p with conns := p.conns ++ [prepared s c] } := by
    unfold prepared
    split
    · exact p.perform_last now c .degraded
    · rfl
  refine ⟨_, ?_, rfl⟩
  rw [preparations, List.foldl_append, hdegraded]
  split
  · rw [List.foldl_map]
    exact foldl_fades (fun q w => perform_fades (by simp) q now p.conns.length) _ _
  · exact .refl _

theorem setSlot_setSlot (p : Pool) (i : Nat) (s t : Slot) :
    (p.setSlot i s).setSlot i t = p.setSlot i t := by
  rw [setSlot, setSlot, setSlot, List.set_set]

namespace InOrder

variable {p q : Pool} {i : Nat} {s s' : Slot}

theorem fade (h : InOrder p) (hfades : Fades p q) : InOrder q where
  isOpen := hfades.isClosed.trans h.isOpen
  nothingClosing := hfades.closing.trans h.nothingClosing
  evicted hs := h.evicted (hfades.slots ▸ hs)
  quarantined hs := h.quarantined (hfades.slots ▸ hs)
  due hs hn := by
    obtain ⟨c, hc, hdue⟩ := h.due (hfades.slots ▸ hs) hn
    obtain ⟨d, hd, hcd⟩ := hfades.lifecycle hc
    exact ⟨d, hd, Connection.lifecycle_of_stays hcd hdue⟩
  apart hs ht := h.apart (hfades.slots ▸ hs) (hfades.slots ▸ ht)

/-- A slot in order can take the place of one if its connection, which is the same or a new one, is
in the state that it asks for, and the other connections are as they were or closed. -/
theorem replace (h : InOrder p) (hs : p.slots[i]? = some s) (hslots : q.slots = p.slots.set i s')
    (hopen : q.isClosed = p.isClosed) (hclosing : q.closing = p.closing)
    (hevicted : s'.isEvicted = s'.history.isDead)
    (hquarantined : s'.isQuarantined = s'.history.isBad)
    (hown : ∀ n, s'.conn = some n → (s.conn = some n ∨ p.conns.length ≤ n) ∧
      ∃ c, q.conns[n]? = some c ∧ (c.lifecycle = s'.due ∨ c.lifecycle = .closed))
    (hothers : ∀ n c, p.conns[n]? = some c → s.conn ≠ some n →
      ∃ d, q.conns[n]? = some d ∧ (d.lifecycle = c.lifecycle ∨ d.lifecycle = .closed)) :
    InOrder q := by
  have hlt : i < p.slots.length := (List.getElem?_eq_some_iff.1 hs).1
  have hself {t : Slot} (ht : q.slots[i]? = some t) : t = s' := by
    rw [hslots, List.getElem?_set_self hlt] at ht
    exact (Option.some.inj ht).symm
  have hother {j : Nat} {t : Slot} (hij : i ≠ j) (ht : q.slots[j]? = some t) :
      p.slots[j]? = some t := by
    rwa [hslots, List.getElem?_set_ne hij] at ht
  have hforeign {j : Nat} {t : Slot} {n : Nat} (hij : i ≠ j) (ht : q.slots[j]? = some t)
      (hn : t.conn = some n) : s'.conn ≠ some n := by
    intro hn'
    rcases (hown n hn').1 with hkept | hnew
    · exact hij (h.apart hs (hother hij ht) hkept hn)
    · obtain ⟨c, hc, _⟩ := h.due (hother hij ht) hn
      have hbound := (List.getElem?_eq_some_iff.1 hc).1
      omega
  refine ⟨hopen.trans h.isOpen, hclosing.trans h.nothingClosing, fun {j t} ht => ?_,
    fun {j t} ht => ?_, fun {j t n} ht hn => ?_, fun {j k t u n} ht hu hn hn' => ?_⟩
  · by_cases hij : i = j
    · subst hij
      rw [hself ht]
      exact hevicted
    · exact h.evicted (hother hij ht)
  · by_cases hij : i = j
    · subst hij
      rw [hself ht]
      exact hquarantined
    · exact h.quarantined (hother hij ht)
  · by_cases hij : i = j
    · subst hij
      have hsame := hself ht
      subst hsame
      exact (hown n hn).2
    · obtain ⟨c, hc, hdue⟩ := h.due (hother hij ht) hn
      obtain ⟨d, hd, hcd⟩ := hothers n c hc fun hshared =>
        hij (h.apart hs (hother hij ht) hshared hn)
      exact ⟨d, hd, Connection.lifecycle_of_stays hcd hdue⟩
  · by_cases hij : i = j
    · by_cases hik : i = k
      · exact hij.symm.trans hik
      · subst hij
        rw [hself ht] at hn
        exact absurd hn (hforeign hik hu hn')
    · by_cases hik : i = k
      · subst hik
        rw [hself hu] at hn'
        exact absurd hn' (hforeign hij ht hn)
      · exact h.apart (hother hij ht) (hother hik hu) hn hn'

/-- A slot may change what is not its health, and give its connection up. -/
theorem keep (h : InOrder p) (hs : p.slots[i]? = some s)
    (hdead : s'.history.isDead = s.history.isDead) (hbad : s'.history.isBad = s.history.isBad)
    (hevicted : s'.isEvicted = s.isEvicted) (hquarantined : s'.isQuarantined = s.isQuarantined)
    (hconn : s'.conn = none ∨ s'.conn = s.conn) : InOrder (p.setSlot i s') := by
  have hdue : s'.due = s.due := by rw [Slot.due, hquarantined, Slot.due]
  refine h.replace hs rfl rfl rfl ?_ ?_ ?_ (fun n c hc _ => ⟨c, hc, .inl rfl⟩)
  · rw [hevicted, hdead]
    exact h.evicted hs
  · rw [hquarantined, hbad]
    exact h.quarantined hs
  · intro n hn
    rcases hconn with hnone | hsame
    · rw [hnone] at hn
      cases hn
    · rw [hsame] at hn
      rw [hdue]
      exact ⟨.inl hn, h.due hs hn⟩

/-! ## Verdicts -/

/-- A slot in order can take the place of one whose connection is then closed, or set to the state
that the new one asks for. -/
theorem judge (h : InOrder p) (now : Nat) (hs : p.slots[i]? = some s) (s' : Slot)
    (hconn : s'.conn = s.conn) (hevicted : s'.isEvicted = s'.history.isDead)
    (hquarantined : s'.isQuarantined = s'.history.isBad) {action : Action}
    (haction : action = .shutdown ∨ action = .setLifecycle s'.due) :
    InOrder ((p.setSlot i s').performOn now s' action) := by
  rw [performOn, hconn]
  cases hn : s.conn with
  | none =>
      refine h.replace hs rfl rfl rfl hevicted hquarantined ?_
        (fun n c hc _ => ⟨c, hc, .inl rfl⟩)
      intro n hn'
      rw [hconn, hn] at hn'
      cases hn'
  | some n =>
      obtain ⟨_, hslots, hclosed, hclosing, _⟩ := (p.setSlot i s').frame_perform now action n
      obtain ⟨c, hc, _⟩ := h.due hs hn
      refine h.replace hs hslots hclosed hclosing hevicted hquarantined ?_ ?_
      · intro m hm
        rw [hconn, hn] at hm
        cases hm
        have hacted : ((p.setSlot i s').perform now action n).conns[n]? =
            some (c.act now action).2.1 := by
          rw [conns_perform, if_pos rfl]
          exact congrArg (Option.map _) hc
        refine ⟨.inl hn, _, hacted, ?_⟩
        rcases haction with rfl | rfl
        · exact .inr (Connection.lifecycle_shutdown c now)
        · exact Connection.lifecycle_setLifecycle c s'.due
      · intro m d hd hm
        have hother : n ≠ m := fun hsame => hm (hsame ▸ hn)
        refine ⟨d, ?_, .inl rfl⟩
        rw [conns_perform, if_neg hother]
        exact hd

/-- A verdict is carried out so that everything agrees with the history that it explains. -/
theorem applyVerdict (h : InOrder p) (now : Nat) (hs : p.slots[i]? = some s)
    (hconn : s'.conn = s.conn) (hsameEvicted : s'.isEvicted = s.isEvicted)
    (hsameQuarantined : s'.isQuarantined = s.isQuarantined) {verdict : Verdict}
    (hexplains : ProbeHistory.Explains s.history s'.history verdict) :
    InOrder ((p.setSlot i s').applyVerdict now i s' verdict).1 := by
  have hevicted : s'.isEvicted = s.history.isDead := hsameEvicted.trans (h.evicted hs)
  have hquarantined : s'.isQuarantined = s.history.isBad :=
    hsameQuarantined.trans (h.quarantined hs)
  have hlater := ProbeHistory.isBad_of_explains hexplains
  cases verdict with
  | unchanged =>
      obtain ⟨_, hdead⟩ := hexplains
      exact h.keep hs hdead hlater hsameEvicted hsameQuarantined (.inr hconn)
  | invalidated =>
      obtain ⟨hgood, _, hdead⟩ := hexplains
      have hfree : s'.isQuarantined = false := hquarantined.trans hgood
      have halive : s'.isEvicted = false := hevicted.trans (ProbeHistory.isDead_of_isBad hgood)
      rw [Pool.applyVerdict, invalidate_eq hfree, setSlot_setSlot]
      exact h.judge now hs { s' with isQuarantined := true } hconn (halive.trans hdead.symm)
        hlater.symm (.inr rfl)
  | recovered =>
      obtain ⟨hmarked, halive, hgood⟩ := hexplains
      have hbarred : s'.isQuarantined = true := by
        rw [hquarantined, ProbeHistory.isBad, hmarked]
        rfl
      have halive : s'.isEvicted = false := hevicted.trans halive
      rw [Pool.applyVerdict, recover_eq halive hbarred, setSlot_setSlot]
      exact h.judge now hs { s' with isQuarantined := false } hconn
        (halive.trans (ProbeHistory.isDead_of_isBad hgood).symm) hgood.symm (.inr rfl)
  | dead =>
      obtain ⟨halive, _, hdead⟩ := hexplains
      have halive : s'.isEvicted = false := hevicted.trans halive
      rw [Pool.applyVerdict, evict_eq halive, setSlot_setSlot]
      exact h.judge now hs { s' with isQuarantined := true, isEvicted := true } hconn
        hdead.symm hlater.symm (.inl rfl)
  | reinstated =>
      obtain ⟨hdead, hgood⟩ := hexplains
      have hgone : s'.isEvicted = true := hevicted.trans hdead
      rw [Pool.applyVerdict, reinstate_eq hgone, setSlot_setSlot]
      exact h.judge now hs { s' with isQuarantined := false, isEvicted := false } hconn
        (ProbeHistory.isDead_of_isBad hgood).symm hgood.symm (.inr rfl)

theorem probed (h : InOrder p) (now : Nat) (hs : p.slots[i]? = some s) (valid : Bool) :
    InOrder (p.probed now i valid).1 := by
  have hexplains := ProbeHistory.record_explains p.config.rules s.history valid
  rw [Pool.probed, hs]
  refine h.applyVerdict now hs ?_ ?_ ?_ hexplains
  · rfl
  · rfl
  · rfl

/-! ## Installing -/

/-- A connection that a handshake has handed over is installed in the state that its slot asks
for. -/
theorem install (h : InOrder p) (now : Nat) (hs : p.slots[i]? = some s) {c : Connection}
    (hc : c.lifecycle = .ready ∨ c.lifecycle = .closed) :
    InOrder (p.install now i s c).1 := by
  obtain ⟨q, hfades, hinstall⟩ := install_eq p now i s c
  have hold {n : Nat} {d : Connection} (hd : p.conns[n]? = some d) :
      ∃ e, q.conns[n]? = some e ∧ (e.lifecycle = d.lifecycle ∨ e.lifecycle = .closed) := by
    have hlt : n < p.conns.length := (List.getElem?_eq_some_iff.1 hd).1
    apply hfades.lifecycle
    show (p.conns ++ _)[n]? = some d
    rw [List.getElem?_append_left hlt]
    exact hd
  rw [hinstall]
  refine h.replace hs (congrArg (List.set · i _) hfades.slots) hfades.isClosed hfades.closing
    (h.evicted (s := s) hs) (h.quarantined (s := s) hs) ?_ (fun n d hd _ => hold hd)
  intro n hn
  obtain rfl : p.conns.length = n := Option.some.inj hn
  obtain ⟨d, hd, hsame⟩ := hfades.lifecycle (n := p.conns.length)
    (c := prepared s c) List.getElem?_concat_length
  exact ⟨.inr (Nat.le_refl _), d, hd, Connection.lifecycle_of_stays hsame (lifecycle_prepared hc)⟩

/-! ## Steps -/

theorem of_turn (h : InOrder p) {now : Nat} {event : Event} (hturn : Turn p now event q) :
    InOrder q := by
  cases hturn with
  | faded hfades _ => exact h.fade hfades
  | supervised hfades hs hhistory hevicted hquarantined hconn _ =>
      exact (h.fade hfades).keep (hfades.slots ▸ hs) (congrArg _ hhistory) (congrArg _ hhistory)
        hevicted hquarantined hconn
  | installed hfades hs hc _ => exact (h.fade hfades).install now (hfades.slots ▸ hs) hc
  | judged hs => exact h.probed now hs _

/-- Every step of an open pool keeps it in order. -/
theorem step (h : InOrder p) (now : Nat) {event : Event} (hevent : event.isRegular) :
    InOrder (p.step now event).1 :=
  h.of_turn (step_turn h.isOpen h.nothingClosing hevent)

theorem run (h : InOrder p) {steps : List (Nat × Event)}
    (hsteps : ∀ step ∈ steps, step.2.isRegular) : InOrder (p.run steps).1 := by
  induction steps generalizing p with
  | nil => exact h
  | cons step rest ih =>
      have hnow := h.step step.1 (hsteps step List.mem_cons_self)
      exact ih hnow fun next hnext => hsteps next (List.mem_cons_of_mem _ hnext)

end InOrder

end Pool

end TupleWire
