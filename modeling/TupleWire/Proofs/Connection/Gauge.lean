/-
  The gauge of requests that wait, over a fleet that is not alone.

  Other requests may wait beside those on the connections of a fleet, and the
  gauge may have shown something before.  `Booked` says what it shows then; it is
  kept by whatever is done to the connections (`Booked.reaches`), by a connection
  that joins with nothing that waits on it, and by an attempt that settles what
  it begins.
-/
import TupleWire.Proofs.Connection.Sole

set_option autoImplicit false

namespace TupleWire

open Effect

/-! ## The gauge -/

/-- The gauge goes up with a request that begins, and down with one that ends. -/
theorem Shared.inflight_apply (s : Shared) (e : Effect) :
    (s.apply e).metrics.inflight + UInt64.ofNat (outcomesOf [e]).length =
      s.metrics.inflight + UInt64.ofNat (beginnings [e]) := by
  cases e with
  | started sync =>
      show s.metrics.inflight + 1 + 0 = s.metrics.inflight + 1
      exact UInt64.add_zero _
  | resolved sync result after =>
      have hfinish : (s.apply (.resolved sync result after)).metrics.inflight =
          s.metrics.inflight - 1 := by
        simp only [apply, Metrics.finish]
        split <;> rfl
      rw [hfinish]
      show s.metrics.inflight - 1 + 1 = s.metrics.inflight + 0
      rw [UInt64.sub_add_cancel, UInt64.add_zero]
  | queued packet | ignored payload | notified callback event | observed version | closed => rfl

theorem Shared.inflight_applyAll (s : Shared) (effects : List Effect) :
    (s.applyAll effects).metrics.inflight + UInt64.ofNat (outcomesOf effects).length =
      s.metrics.inflight + UInt64.ofNat (beginnings effects) := by
  induction effects generalizing s with
  | nil => rfl
  | cons e rest ih =>
      have hfirst := s.inflight_apply e
      have hrest := ih (s.apply e)
      have hsplit : e :: rest = [e] ++ rest := rfl
      rw [hsplit, beginnings_append, outcomesOf_append, List.length_append, UInt64.ofNat_add,
        UInt64.ofNat_add]
      show ((s.apply e).applyAll rest).metrics.inflight + _ = _
      generalize UInt64.ofNat (outcomesOf [e]).length = ended at *
      generalize UInt64.ofNat (outcomesOf rest).length = endedLater at *
      rw [UInt64.add_comm ended, ← UInt64.add_assoc, hrest, UInt64.add_assoc,
        UInt64.add_comm _ ended, ← UInt64.add_assoc, hfirst, UInt64.add_assoc]

variable {base : UInt64} {n m : Nat}

/-- Whatever waits before effects or begins with them ends with them or waits after them. -/
theorem Shared.gauge_applyAll {s : Shared} {effects : List Effect}
    (hgauge : s.metrics.inflight = base + UInt64.ofNat n)
    (hbalance : n + beginnings effects = (outcomesOf effects).length + m) :
    (s.applyAll effects).metrics.inflight = base + UInt64.ofNat m := by
  have hall := s.inflight_applyAll effects
  rw [hgauge, UInt64.add_assoc, ← UInt64.ofNat_add, hbalance, Nat.add_comm, UInt64.ofNat_add,
    ← UInt64.add_assoc] at hall
  exact (UInt64.add_left_inj _).1 hall

/-! ## Fleets -/

namespace Fleet

variable {f g : Fleet} {others : Nat} {c : Connection}

/-- Whether every connection has numbers left. -/
def HasNumbers (f : Fleet) : Prop := ∀ c ∈ f.conns, c.issued < UInt64.size

/-- What a gauge shows that showed something before, while other requests wait beside those on the
connections of a fleet.  The books are good as long as there are numbers left. -/
structure Booked (base : UInt64) (f : Fleet) (others : Nat) : Prop where
  /-- nothing waits on a connection that is closed -/
  settled {c : Connection} : c ∈ f.conns → c.isClosed = true → c.pending = .empty
  numbered {c : Connection} : c ∈ f.conns → c.issued < UInt64.size → ∃ past, c.Balanced past
  gauge : f.HasNumbers →
    f.shared.metrics.inflight = base + UInt64.ofNat (f.pendingCount + others)

/-- Whether one fleet comes from another by what is done to its connections.  None of them is set
to be closed without being closed. -/
inductive Reaches (f : Fleet) : Fleet → Prop
  | refl : Reaches f f
  | act {g : Fleet} (before : Reaches f g) (n now : Nat) {action : Action}
      (allowed : action ≠ .setLifecycle .closed) : Reaches f (g.step (.act n now action))

theorem Reaches.trans {e : Fleet} (hfirst : e.Reaches f) (hsecond : f.Reaches g) :
    e.Reaches g := by
  induction hsecond with
  | refl => exact hfirst
  | act _ n now hallowed ih => exact ih.act n now hallowed

/-- A connection gives none of its numbers back. -/
theorem HasNumbers.of_set {k : Nat} {c' : Connection} {shared : Shared}
    (hk : f.conns[k]? = some c) (hle : c.issued ≤ c'.issued)
    (h : HasNumbers ⟨f.conns.set k c', shared⟩) : f.HasNumbers := by
  have hlt : k < f.conns.length := (List.getElem?_eq_some_iff.1 hk).1
  intro d hd
  obtain ⟨j, hj⟩ := List.mem_iff_getElem?.1 hd
  by_cases hkj : k = j
  · subst hkj
    rw [hk] at hj
    cases hj
    exact Nat.lt_of_le_of_lt hle (h c' (List.mem_of_getElem? (List.getElem?_set_self hlt)))
  · refine h d (List.mem_of_getElem? (i := j) ?_)
    dsimp only
    rw [List.getElem?_set_ne hkj]
    exact hj

namespace Booked

theorem act (h : Booked base f others) (n now : Nat) {action : Action}
    (hallowed : action ≠ .setLifecycle .closed) :
    Booked base (f.step (.act n now action)) others := by
  rw [Fleet.step]
  cases hk : f.conns[n]? with
  | none => exact h
  | some c =>
      have hmem : c ∈ f.conns := List.mem_of_getElem? hk
      have hturn := c.act_turn now action
      have hle := c.issued_le_act now action
      show Booked base ⟨f.conns.set n (c.act now action).2.1,
        f.shared.applyAll (c.act now action).2.2⟩ others
      refine ⟨fun {d} hd hclosed => ?_, fun {d} hd hfew => ?_, fun hfew => ?_⟩
      · rcases List.mem_or_eq_of_mem_set hd with hd | rfl
        · exact h.settled hd hclosed
        · exact hturn.pending_of_closed (h.settled hmem) hallowed hclosed
      · rcases List.mem_or_eq_of_mem_set hd with hd | rfl
        · exact h.numbered hd hfew
        · obtain ⟨past, hbooks⟩ := h.numbered hmem (Nat.lt_of_le_of_lt hle hfew)
          exact ⟨_, hbooks.act now action hfew⟩
      · have hbefore : f.HasNumbers := hfew.of_set hk hle
        have hown := hbefore c hmem
        obtain ⟨past, hbooks⟩ := h.numbered hmem hown
        have hbalance : c.pendingCount + beginnings (c.act now action).2.2 =
            (outcomesOf (c.act now action).2.2).length + (c.act now action).2.1.pendingCount :=
          (hturn.balance fun _ => hbooks.get?_nextSync hown).2
        have hset : pendingCount ⟨f.conns.set n (c.act now action).2.1,
              f.shared.applyAll (c.act now action).2.2⟩ + c.pendingCount =
            f.pendingCount + (c.act now action).2.1.pendingCount := pendingCount_set hk
        refine Shared.gauge_applyAll (h.gauge hbefore) ?_
        omega

theorem reaches (h : Booked base f others) (hreaches : f.Reaches g) : Booked base g others := by
  induction hreaches with
  | refl => exact h
  | act _ n now hallowed ih => exact ih.act n now hallowed

/-- A connection joins on which nothing waits. -/
theorem join (h : Booked base f others) (hempty : c.pending = .empty) :
    Booked base ⟨f.conns ++ [c], f.shared⟩ others where
  settled {d} hd hclosed := by
    rcases List.mem_append.1 hd with hd | hd
    · exact h.settled hd hclosed
    · rw [List.mem_singleton.1 hd]
      exact hempty
  numbered {d} hd hfew := by
    rcases List.mem_append.1 hd with hd | hd
    · exact h.numbered hd hfew
    · rw [List.mem_singleton.1 hd]
      refine ⟨[], fun n => ?_, fun n => Nat.zero_le 1, fun n hpos => absurd hpos (Nat.lt_irrefl 0)⟩
      rw [Connection.waits_of_none (by rw [hempty]; rfl)]
      rfl
  gauge hfew := by
    have hbefore : f.HasNumbers := fun d hd => hfew d (List.mem_append_left _ hd)
    have hsame : pendingCount ⟨f.conns ++ [c], f.shared⟩ = f.pendingCount := by
      simp [pendingCount, Connection.pendingCount_of_empty hempty]
    rw [hsame]
    exact h.gauge hbefore

/-- An attempt beside the fleet settles what it begins. -/
theorem settle {before : Nat} {a : Attempt} {effects : List Effect}
    (h : Booked base f (others + before)) (hsettles : Attempt.Settles before a effects) :
    Booked base ⟨f.conns, f.shared.applyAll effects⟩ (others + a.waiting) where
  settled := h.settled
  numbered := h.numbered
  gauge hfew := by
    have hbalance := hsettles.balance
    refine Shared.gauge_applyAll (h.gauge hfew) ?_
    show f.pendingCount + _ + _ = _ + (f.pendingCount + _)
    omega

/-- Once every connection is closed the gauge shows the others only. -/
theorem gauge_of_closed (h : Booked base f others) (hfew : f.HasNumbers)
    (hclosed : ∀ c ∈ f.conns, c.isClosed = true) :
    f.shared.metrics.inflight = base + UInt64.ofNat others := by
  have hnone : f.pendingCount = 0 := by
    rw [pendingCount, List.sum_eq_zero_iff_forall_eq_nat]
    intro count hcount
    obtain ⟨c, hc, rfl⟩ := List.mem_map.1 hcount
    exact Connection.pendingCount_of_empty (h.settled hc (hclosed c hc))
  rw [h.gauge hfew, hnone, Nat.zero_add]

end Booked

end Fleet

end TupleWire
