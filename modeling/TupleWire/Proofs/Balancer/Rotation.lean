/-
  What the three policies have in common, and what the cyclic ones promise.

  Whatever it remembers, a policy chooses exactly when there is a connection that
  it may choose, it chooses one of these, and a choice of none leaves it as it was
  (`select_cases`).  Those that take turns choose each such connection once in as
  many choices as there are of them, in the order of their slots and around
  (`select_takes_turns`).
-/
import TupleWire.Connection.Basic
import TupleWire.Proofs.Balancer.Shares

set_option autoImplicit false

namespace TupleWire.Policy

/-! ## Choices and none -/

/-- A policy chooses what it may choose, or nothing may be chosen and it stays as it was. -/
theorem select_cases (p : Policy) (cs : List Candidate) :
    (p.selectable cs = [] ∧ p.select cs = (none, p)) ∨
      ∃ c ∈ p.selectable cs, (p.select cs).1 = some c := by
  cases hturns : p.takesTurns with
  | true =>
      obtain ⟨first, _, hupcoming⟩ := upcoming_eq_rotate hturns cs
      cases hqueue : p.upcoming cs with
      | nil =>
          rw [hqueue] at hupcoming
          exact .inl ⟨List.rotate_eq_nil_iff.1 hupcoming.symm,
            select_of_upcoming_eq_nil hturns hqueue⟩
      | cons c rest =>
          have hmem : c ∈ (p.selectable cs).rotate first := by
            rw [← hupcoming, hqueue]
            exact List.mem_cons_self
          exact .inr ⟨c, List.mem_rotate.1 hmem, (select_of_upcoming hturns hqueue).1⟩
  | false =>
      cases p with
      | roundRobin cursor => cases hturns
      | tagRoundRobin tag cursor => cases hturns
      | distributing weights =>
          have hselectable : (distributing weights).selectable cs =
              cs.filter Candidate.isReady := rfl
          rw [hselectable, select]
          by_cases hready : cs.filter Candidate.isReady = []
          · rw [selectByWeight_of_filter_eq_nil hready]
            exact .inl ⟨hready, rfl⟩
          · obtain ⟨c, next, hselect, hgives⟩ := selectByWeight_gives weights hready
            have hmem : c ∈ readyOf cs c.tag := by
              obtain ⟨rest, hline, _⟩ := hgives.turn
              exact List.mem_rotate.1 (hline ▸ List.mem_cons_self)
            rw [hselect]
            exact .inr ⟨c, (mem_readyOf.1 hmem).1, rfl⟩

/-- A policy chooses a candidate that is ready. -/
theorem of_select {p next : Policy} {cs : List Candidate} {c : Candidate}
    (h : p.select cs = (some c, next)) : c ∈ cs ∧ c.isReady = true := by
  rcases p.select_cases cs with ⟨_, hselect⟩ | ⟨chosen, hchosen, hselect⟩
  · rw [h] at hselect
    cases hselect
  · rw [h] at hselect
    cases hselect
    obtain ⟨hmem, hmay⟩ := List.mem_filter.1 hchosen
    exact ⟨hmem, (Bool.and_eq_true _ _ ▸ hmay).2⟩

/-- A policy that may choose a ready candidate chooses. -/
theorem isSome_select {p : Policy} {cs : List Candidate} {c : Candidate} (hc : c ∈ cs)
    (hcovers : p.covers c.tag = true) (hready : c.isReady = true) :
    (p.select cs).1.isSome = true := by
  rcases p.select_cases cs with ⟨hnone, _⟩ | ⟨chosen, _, hchosen⟩
  · have hmem : c ∈ p.selectable cs := by
      rw [selectable, List.mem_filter, hcovers, hready]
      exact ⟨hc, rfl⟩
    rw [hnone] at hmem
    cases hmem
  · rw [hchosen]
    rfl

/-- What a policy remembers has no part in what it may choose. -/
theorem covers_select (p : Policy) (cs : List Candidate) : (p.select cs).2.covers = p.covers := by
  cases p with
  | roundRobin cursor =>
      rw [select]
      split <;> rfl
  | tagRoundRobin tag cursor =>
      rw [select]
      split <;> rfl
  | distributing weights => rfl

theorem covers_after (p : Policy) (seen : List (List Candidate)) :
    (p.after seen).covers = p.covers := by
  induction seen generalizing p with
  | nil => rfl
  | cons cs seen ih => exact (ih (p.select cs).2).trans (covers_select p cs)

/-! ## Connections -/

/-- The connections that a policy may choose: those of its tag that are ready and not about to be
closed. -/
def MayChoose (p : Policy) (c : Connection) : Prop :=
  p.covers c.tag = true ∧ c.lifecycle = .ready ∧ c.isDraining = false

instance (p : Policy) (c : Connection) : Decidable (p.MayChoose c) :=
  inferInstanceAs (Decidable (_ ∧ _ ∧ _))

theorem mayChoose_iff {p : Policy} {c : Connection} :
    p.MayChoose c ↔ (p.covers c.candidate.tag && c.candidate.isReady) = true := by
  simp [MayChoose, Connection.candidate, Connection.isReady]

theorem selectable_map_candidate (p : Policy) (conns : List Connection) :
    p.selectable (conns.map Connection.candidate) =
      (conns.filter fun c => p.MayChoose c).map Connection.candidate := by
  rw [selectable, List.filter_map]
  congr 1
  refine List.filter_congr fun c _ => ?_
  rw [Bool.eq_iff_iff, decide_eq_true_iff, mayChoose_iff]
  rfl

/-- A policy chooses if and only if there is a connection that it may choose; what it chooses is
one of them, and a choice of none leaves it as it was.  While connections stay what they are, a
policy that takes turns chooses each of those it may choose once in any row of as many choices, in
the order of their slots and around, and begins with the first if it remembers nothing. -/
theorem select_takes_turns (p : Policy) (conns : List Connection) :
    let cs := conns.map Connection.candidate
    let eligible := conns.filter fun c => p.MayChoose c
    ((p.select cs).1.isSome = true ↔ ∃ c ∈ conns, p.MayChoose c) ∧
      (∀ chosen, (p.select cs).1 = some chosen →
        ∃ c ∈ conns, p.MayChoose c ∧ c.candidate = chosen) ∧
      ((p.select cs).1 = none → (p.select cs).2 = p) ∧
      (p.takesTurns = true → ∃ first, (p.forget = p → first = 0) ∧ ∀ passed,
        (p.after (.replicate passed cs)).choices cs eligible.length =
          (eligible.rotate (first + passed)).map fun c => some c.candidate) := by
  intro cs eligible
  have hselectable : p.selectable cs = eligible.map Connection.candidate :=
    selectable_map_candidate p conns
  have heligible (c : Connection) : c ∈ eligible ↔ c ∈ conns ∧ p.MayChoose c := by
    rw [List.mem_filter, decide_eq_true_iff]
  have hturn (hturns : p.takesTurns = true) : ∃ first, (p.forget = p → first = 0) ∧ ∀ passed,
      (p.after (.replicate passed cs)).choices cs eligible.length =
        (eligible.rotate (first + passed)).map fun c => some c.candidate := by
    obtain ⟨first, hfirst, hrow⟩ := choices_eq_rotate hturns cs
    refine ⟨first, hfirst, fun passed => ?_⟩
    have hpassed := hrow passed
    rw [hselectable, List.length_map, ← List.map_rotate, List.map_map] at hpassed
    exact hpassed
  rcases p.select_cases cs with ⟨hnone, hselect⟩ | ⟨chosen, hchosen, hselect⟩
  · rw [hselectable, List.map_eq_nil_iff] at hnone
    have hnowhere : ¬ ∃ c ∈ conns, p.MayChoose c := fun ⟨c, hc, hmay⟩ =>
      List.not_mem_nil (hnone ▸ (heligible c).2 ⟨hc, hmay⟩)
    rw [hselect]
    refine ⟨iff_of_false (by simp) hnowhere, ?_, fun _ => rfl, hturn⟩
    intro chosen hchosen
    cases hchosen
  · rw [hselectable] at hchosen
    obtain ⟨c, hc, rfl⟩ := List.mem_map.1 hchosen
    obtain ⟨hmem, hmay⟩ := (heligible c).1 hc
    rw [hselect]
    refine ⟨iff_of_true rfl ⟨c, hmem, hmay⟩, ?_, ?_, hturn⟩
    · intro other hother
      cases hother
      exact ⟨c, hmem, hmay, rfl⟩
    · intro hnone
      cases hnone

end TupleWire.Policy
