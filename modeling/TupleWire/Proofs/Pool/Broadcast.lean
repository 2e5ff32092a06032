/-
  How far a broadcast gets.

  A broadcast acts on the live connections in the order of their slots and stops
  at the first that refuses.  So it acts on a first part of them: on all, or on
  those before the first that refuses and on that one.
-/
import TupleWire.Proofs.Pool.Aging

set_option autoImplicit false

namespace TupleWire.Pool

/-- The connections among some that are not closed. -/
def unclosed (p : Pool) (ns : List Nat) : List Nat := ns.filter fun n => !p.isConnClosed n

/-- The connections that are installed and not closed, in the order of their slots. -/
def live (p : Pool) : List Nat := p.unclosed p.installed

/-- Whether a connection accepts an action. -/
def accepts (p : Pool) (now : Nat) (action : Action) (n : Nat) : Bool :=
  (p.act now n action).1.isOk

/-- Acts on connections, one after the other. -/
def performAll (p : Pool) (now : Nat) (action : Action) (ns : List Nat) : Pool :=
  ns.foldl (fun p n => p.perform now action n) p

variable {p q : Pool} {now : Nat} {action : Action} {n : Nat} {ns : List Nat}

/-! ## Acting on several connections -/

/-- Acting on several connections acts on each of them once and leaves the others alone. -/
theorem conns_performAll (hns : ns.Nodup) (p : Pool) (now : Nat) (action : Action) (m : Nat) :
    (p.performAll now action ns).conns[m]? =
      if m ∈ ns then p.conns[m]?.map fun c => (c.act now action).2.1 else p.conns[m]? := by
  induction ns generalizing p with
  | nil => rfl
  | cons n rest ih =>
      obtain ⟨hn, hrest⟩ := List.nodup_cons.1 hns
      have hstep := ih hrest (p.perform now action n)
      rw [conns_perform] at hstep
      show ((p.perform now action n).performAll now action rest).conns[m]? = _
      rw [hstep]
      by_cases hnm : n = m
      · subst hnm
        rw [if_neg hn, if_pos rfl, if_pos List.mem_cons_self]
      · rw [if_neg hnm]
        have hmem : m ∈ n :: rest ↔ m ∈ rest := by
          rw [List.mem_cons, or_iff_right (Ne.symm hnm)]
        simp only [hmem]

theorem performAll_ages {quiet : Prop} (h : quiet → action.leavesWatches) (p : Pool) (now : Nat)
    (ns : List Nat) : Ages quiet p (p.performAll now action ns) :=
  foldl_ages (fun p n => p.perform_ages now n h) ns p

/-- Acting on several connections leaves what the pool remembers alone. -/
theorem watches_performAll (p : Pool) (now : Nat) (action : Action) (ns : List Nat) :
    (p.performAll now action ns).watches = p.watches := by
  have hages : Ages False p (p.performAll now action ns) := performAll_ages False.elim p now ns
  exact hages.watches

/-! ## What depends on one connection -/

theorem result_act_congr (h : q.conns[n]? = p.conns[n]?) :
    (q.act now n action).1 = (p.act now n action).1 := by
  unfold act
  rw [h]
  cases p.conns[n]? with
  | none => rfl
  | some c => rfl

theorem accepts_congr (h : q.conns[n]? = p.conns[n]?) :
    q.accepts now action n = p.accepts now action n :=
  congrArg Except.isOk (result_act_congr h)

theorem isConnClosed_congr (h : q.conns[n]? = p.conns[n]?) :
    q.isConnClosed n = p.isConnClosed n := by
  rw [isConnClosed, h, isConnClosed]

theorem unclosed_congr (h : ∀ n ∈ ns, q.conns[n]? = p.conns[n]?) : q.unclosed ns = p.unclosed ns := by
  apply List.filter_congr
  intro n hn
  rw [isConnClosed_congr (h n hn)]

/-- What an action on a connection that is there gives. -/
theorem accepts_of_conn {c : Connection} (hc : p.conns[n]? = some c) :
    p.accepts now action n = (c.act now action).1.isOk := by
  simp only [accepts, act, hc]

/-! ## Broadcasts -/

/-- The outcome of a broadcast to some connections of a pool. -/
abbrev Delivery : Type := Except ClientError Unit × List Nat × Pool

/-- What a broadcast comes to. -/
inductive Spreads (p : Pool) (now : Nat) (action : Action) (ns : List Nat) : Delivery → Prop
  /-- every connection accepts -/
  | whole (accepted : ∀ n ∈ p.unclosed ns, p.accepts now action n = true) :
      Spreads p now action ns (.ok (), p.unclosed ns, p.performAll now action (p.unclosed ns))
  /-- one refuses, and those behind it are not reached -/
  | cut {reached beyond : List Nat} {refusing : Nat} {e : ClientError}
      (split : p.unclosed ns = reached ++ refusing :: beyond)
      (accepted : ∀ n ∈ reached, p.accepts now action n = true)
      (refused : (p.act now refusing action).1 = .error e) :
      Spreads p now action ns
        (.error e, reached, p.performAll now action (reached ++ [refusing]))

section First

variable {rest : List Nat}

theorem performEach_of_closed (h : p.isConnClosed n = true) :
    performEach now action p (n :: rest) = performEach now action p rest := by
  rw [performEach]
  exact if_pos h

theorem performEach_of_error (h : p.isConnClosed n = false) {e : ClientError}
    (hresult : (p.act now n action).1 = .error e) :
    performEach now action p (n :: rest) = (.error e, [], p.perform now action n) := by
  have hact : p.act now n action = (.error e, p.perform now action n) := Prod.ext hresult rfl
  have hopen : (p.conns[n]?).all Connection.isClosed = false := h
  rw [performEach, hopen, hact]
  rfl

theorem performEach_of_ok (h : p.isConnClosed n = false) {receipt : Receipt}
    (hresult : (p.act now n action).1 = .ok receipt) :
    performEach now action p (n :: rest) =
      ((performEach now action (p.perform now action n) rest).1,
        n :: (performEach now action (p.perform now action n) rest).2.1,
        (performEach now action (p.perform now action n) rest).2.2) := by
  have hact : p.act now n action = (.ok receipt, p.perform now action n) := Prod.ext hresult rfl
  have hopen : (p.conns[n]?).all Connection.isClosed = false := h
  rw [performEach, hopen, hact]
  rfl

end First

/-- Where the first connection accepts, a broadcast goes on as one to the others. -/
theorem Spreads.cons {rest : List Nat} (hn : n ∉ rest) (hopen : p.isConnClosed n = false)
    (hfirst : p.accepts now action n = true) {outcome : Delivery}
    (h : Spreads (p.perform now action n) now action rest outcome) :
    Spreads p now action (n :: rest) (outcome.1, n :: outcome.2.1, outcome.2.2) := by
  -- The connections behind the first are as they were, since it is none of them.
  have hothers (m : Nat) (hm : m ∈ rest) : (p.perform now action n).conns[m]? = p.conns[m]? := by
    rw [conns_perform, if_neg]
    rintro rfl
    exact hn hm
  have hsame : (p.perform now action n).unclosed rest = p.unclosed rest := unclosed_congr hothers
  have hfilter : p.unclosed (n :: rest) = n :: p.unclosed rest :=
    List.filter_cons_of_pos (by simp [hopen])
  have hkept {ms : List Nat} (hms : ∀ m ∈ ms, m ∈ rest)
      (haccepted : ∀ m ∈ ms, (p.perform now action n).accepts now action m = true) :
      ∀ m ∈ n :: ms, p.accepts now action m = true := by
    intro m hm
    rcases List.mem_cons.1 hm with rfl | hm
    · exact hfirst
    · rw [← accepts_congr (hothers m (hms m hm))]
      exact haccepted m hm
  cases h with
  | whole haccepted =>
      rw [hsame] at haccepted ⊢
      have hall : ∀ m ∈ p.unclosed (n :: rest), p.accepts now action m = true := by
        rw [hfilter]
        exact hkept (fun m hm => (List.mem_filter.1 hm).1) haccepted
      have hwhole := Spreads.whole hall
      rw [hfilter] at hwhole
      exact hwhole
  | @cut reached beyond refusing e hsplit haccepted hrefused =>
      rw [hsame] at hsplit
      have hmem (m : Nat) (hm : m ∈ reached ++ refusing :: beyond) : m ∈ rest := by
        rw [← hsplit] at hm
        exact (List.mem_filter.1 hm).1
      rw [result_act_congr (hothers refusing (hmem refusing (by simp)))] at hrefused
      have hlonger : p.unclosed (n :: rest) = (n :: reached) ++ refusing :: beyond := by
        rw [hfilter, hsplit]
        rfl
      exact .cut hlonger (hkept (fun m hm => hmem m (List.mem_append_left _ hm)) haccepted) hrefused

theorem performEach_spreads (hns : ns.Nodup) (p : Pool) (now : Nat) (action : Action) :
    Spreads p now action ns (performEach now action p ns) := by
  induction ns generalizing p with
  | nil => exact .whole (by simp [unclosed])
  | cons n rest ih =>
      obtain ⟨hn, hrest⟩ := List.nodup_cons.1 hns
      cases hclosed : p.isConnClosed n with
      | true =>
          have hskip : p.unclosed (n :: rest) = p.unclosed rest :=
            List.filter_cons_of_neg (by simp [hclosed])
          rw [performEach_of_closed hclosed]
          have hlater := ih hrest p
          generalize performEach now action p rest = outcome at hlater ⊢
          cases hlater with
          | whole haccepted =>
              rw [← hskip] at haccepted ⊢
              exact .whole haccepted
          | cut hsplit haccepted hrefused => exact .cut (hskip.trans hsplit) haccepted hrefused
      | false =>
          cases hresult : (p.act now n action).1 with
          | error e =>
              have hfilter : p.unclosed (n :: rest) = [] ++ n :: p.unclosed rest :=
                List.filter_cons_of_pos (by simp [hclosed])
              rw [performEach_of_error hclosed hresult]
              exact .cut hfilter (by simp) hresult
          | ok receipt =>
              rw [performEach_of_ok hclosed hresult]
              have hfirst : p.accepts now action n = true := by
                rw [accepts, hresult]
                rfl
              exact (ih hrest (p.perform now action n)).cons hn hclosed hfirst

end TupleWire.Pool
