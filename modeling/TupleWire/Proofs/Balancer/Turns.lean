/-
  Choosing one after the other.

  Whatever a cursor points at, even past the end of the candidates, it stands for
  a queue: the ready candidates in the order in which they come from there on and
  around (`Policy.queue`).  `nextReady?_of_queue` says that a choice takes the
  head of that queue and leaves a cursor that stands for the queue with it at the
  end.  A row of choices from the same candidates then deals the queue out
  (`choices_of_upcoming`), and after some of them the queue has moved on by as
  many (`upcoming_after`).
-/
import Mathlib.Data.List.Rotate
import TupleWire.Balancer.Policy

set_option autoImplicit false

namespace TupleWire.Policy

/-! ## Rows of choices -/

/-- The policy after it has chosen from each of some lists of candidates. -/
def after (p : Policy) (seen : List (List Candidate)) : Policy :=
  seen.foldl (fun p cs => (p.select cs).2) p

/-- What a policy chooses from the same candidates time after time. -/
def choices (p : Policy) (cs : List Candidate) : Nat → List (Option Candidate)
  | 0 => []
  | n + 1 => (p.select cs).1 :: choices (p.select cs).2 cs n

theorem after_replicate_succ (p : Policy) (cs : List Candidate) (n : Nat) :
    p.after (.replicate (n + 1) cs) = (p.select cs).2.after (.replicate n cs) := rfl

theorem length_choices (p : Policy) (cs : List Candidate) (n : Nat) :
    (p.choices cs n).length = n := by
  induction n generalizing p with
  | zero => rfl
  | succ n ih => rw [choices, List.length_cons, ih]

/-! ## The queue of a cursor -/

/-- The ready candidates from a position on and around. -/
def queue (cursor : Nat) (cs : List Candidate) : List Candidate :=
  (cs.rotate cursor).filter Candidate.isReady

/-- Filtering a list that was rotated rotates what is left of it. -/
theorem filter_rotate {α : Type} (keep : α → Bool) (l : List α) (n : Nat) :
    (l.rotate n).filter keep =
      (l.filter keep).rotate ((l.take (n % l.length)).filter keep).length := by
  have hsplit : (l.take (n % l.length)).filter keep ++ (l.drop (n % l.length)).filter keep =
      l.filter keep := by
    rw [← List.filter_append, List.take_append_drop]
  rw [List.rotate_eq_drop_append_take_mod, List.filter_append, ← hsplit,
    List.rotate_append_length_eq]

/-- The first thing that is found in a range. -/
theorem findSome?_range_of_first {α : Type} {f : Nat → Option α} {n i : Nat} {a : α} (hi : i < n)
    (hfound : f i = some a) (hbefore : ∀ j < i, f j = none) :
    (List.range n).findSome? f = some a := by
  obtain ⟨more, rfl⟩ := Nat.exists_eq_add_of_lt hi
  have hrange : List.range (i + more + 1) =
      List.range i ++ i :: ((List.range more).map Nat.succ).map (i + ·) := by
    rw [Nat.add_assoc, List.range_add, List.range_succ_eq_map, List.map_cons, Nat.add_zero]
  rw [List.findSome?_eq_some_iff]
  exact ⟨_, _, _, hrange, hfound, fun j hj => hbefore j (List.mem_range.1 hj)⟩

variable {cs : List Candidate} {cursor : Nat}

theorem nextReady?_of_queue_eq_nil (h : queue cursor cs = []) : nextReady? cursor cs = none := by
  rw [nextReady?, List.findSome?_eq_none_iff]
  intro offset _
  have hnone : cs[(cursor + offset) % cs.length]?.filter Candidate.isReady = none := by
    rw [Option.filter_eq_none_iff]
    intro c hc
    have hmem : c ∈ cs.rotate cursor := List.mem_rotate.2 (List.mem_of_getElem? hc)
    exact List.filter_eq_nil_iff.1 h c hmem
  exact Option.map_eq_none_iff.2 hnone

/-- A choice takes the head of the queue and puts it at the end. -/
theorem nextReady?_of_queue {c : Candidate} {rest : List Candidate}
    (h : queue cursor cs = c :: rest) :
    ∃ next, nextReady? cursor cs = some (c, next) ∧ queue next cs = rest ++ [c] := by
  obtain ⟨passed, ahead, hrotated, hpassed, hready, hahead⟩ := List.filter_eq_cons_iff.1 h
  have hlength : cs.length = passed.length + (ahead.length + 1) := by
    rw [← List.length_rotate cs cursor, hrotated, List.length_append, List.length_cons]
  have hat (i : Nat) (hi : i < cs.length) :
      cs[(cursor + i) % cs.length]? = (passed ++ c :: ahead)[i]? := by
    rw [← hrotated, List.getElem?_rotate hi, Nat.add_comm]
  have hhere : cs[(cursor + passed.length) % cs.length]? = some c := by
    rw [hat _ (by omega), List.getElem?_append_right (le_refl _), Nat.sub_self,
      List.getElem?_cons_zero]
  refine ⟨(cursor + passed.length) % cs.length + 1, ?_, ?_⟩
  · refine findSome?_range_of_first (i := passed.length) (by omega) ?_ ?_
    · show Option.map _ (cs[(cursor + passed.length) % cs.length]?.filter _) = _
      rw [hhere, Option.filter_some_pos hready]
      rfl
    · intro i hi
      have hskipped : cs[(cursor + i) % cs.length]?.filter Candidate.isReady = none := by
        rw [hat i (by omega), List.getElem?_append_left hi, Option.filter_eq_none_iff]
        exact fun c hc => hpassed c (List.mem_of_getElem? hc)
      exact Option.map_eq_none_iff.2 hskipped
  · -- the new cursor is one place further than the choice, as counted from the old one
    have hturned := List.rotate_append_length_eq (passed ++ [c]) ahead
    rw [List.length_append, List.length_singleton, ← List.append_cons] at hturned
    have hmoved : cs.rotate ((cursor + passed.length) % cs.length + 1) =
        ahead ++ (passed ++ [c]) := by
      rw [← List.rotate_rotate, List.rotate_mod, List.rotate_rotate, Nat.add_assoc,
        ← List.rotate_rotate, hrotated, hturned]
    rw [queue, hmoved, List.filter_append, List.filter_append, hahead,
      List.filter_eq_nil_iff.2 hpassed, List.nil_append, List.filter_cons_of_pos hready,
      List.filter_nil]

/-! ## Policies that take turns -/

/-- Whether a policy chooses one after the other. -/
def takesTurns : Policy → Bool
  | roundRobin _ | tagRoundRobin _ _ => true
  | distributing _ => false

/-- Whether a policy chooses among the candidates of a tag. -/
def covers : Policy → String → Bool
  | tagRoundRobin tag _, other => other == tag
  | roundRobin _, _ | distributing _, _ => true

/-- The candidates that a policy may choose. -/
def selectable (p : Policy) (cs : List Candidate) : List Candidate :=
  cs.filter fun c => p.covers c.tag && c.isReady

/-- A policy as it is configured, with nothing remembered. -/
def forget : Policy → Policy
  | roundRobin _ => roundRobin 0
  | tagRoundRobin tag _ => tagRoundRobin tag 0
  | distributing _ => distributing .empty

/-- The candidates that a policy which takes turns will choose next, in order. -/
def upcoming : Policy → List Candidate → List Candidate
  | roundRobin cursor, cs => queue cursor cs
  | tagRoundRobin tag cursor, cs => queue cursor (cs.filter fun c => c.tag == tag)
  | distributing _, _ => []

variable {p : Policy}

theorem queue_eq_rotate (cursor : Nat) (cs : List Candidate) :
    ∃ first, (cursor = 0 → first = 0) ∧
      queue cursor cs = (cs.filter Candidate.isReady).rotate first := by
  refine ⟨_, ?_, filter_rotate _ _ _⟩
  rintro rfl
  rw [Nat.zero_mod, List.take_zero]
  rfl

/-- What a policy chooses next is what it may choose at all, in cyclic order; as it is configured
it begins with the first. -/
theorem upcoming_eq_rotate (hturns : p.takesTurns = true) (cs : List Candidate) :
    ∃ first, (p.forget = p → first = 0) ∧ p.upcoming cs = (p.selectable cs).rotate first := by
  cases p with
  | roundRobin cursor =>
      obtain ⟨first, hfirst, hqueue⟩ := queue_eq_rotate cursor cs
      refine ⟨first, fun hfresh => hfirst ?_, ?_⟩
      · injection hfresh with hcursor
        exact hcursor.symm
      · rw [upcoming, hqueue]
        rfl
  | tagRoundRobin tag cursor =>
      obtain ⟨first, hfirst, hqueue⟩ := queue_eq_rotate cursor (cs.filter fun c => c.tag == tag)
      refine ⟨first, fun hfresh => hfirst ?_, ?_⟩
      · injection hfresh with _ hcursor
        exact hcursor.symm
      · rw [upcoming, hqueue, List.filter_filter]
        simp only [selectable, covers, Bool.and_comm]
  | distributing weights => cases hturns

/-- A policy that takes turns chooses the next of its queue, which goes to the end. -/
theorem select_of_upcoming (hturns : p.takesTurns = true) {c : Candidate} {rest : List Candidate}
    (h : p.upcoming cs = c :: rest) :
    (p.select cs).1 = some c ∧ (p.select cs).2.takesTurns = true ∧
      (p.select cs).2.upcoming cs = rest ++ [c] := by
  cases p with
  | roundRobin cursor =>
      obtain ⟨next, hnext, hqueue⟩ := nextReady?_of_queue h
      rw [select, hnext]
      exact ⟨rfl, rfl, hqueue⟩
  | tagRoundRobin tag cursor =>
      obtain ⟨next, hnext, hqueue⟩ := nextReady?_of_queue h
      rw [select, hnext]
      exact ⟨rfl, rfl, hqueue⟩
  | distributing weights => cases hturns

theorem select_of_upcoming_eq_nil (hturns : p.takesTurns = true) (h : p.upcoming cs = []) :
    p.select cs = (none, p) := by
  cases p with
  | roundRobin cursor => rw [select, nextReady?_of_queue_eq_nil h]
  | tagRoundRobin tag cursor => rw [select, nextReady?_of_queue_eq_nil h]
  | distributing weights => cases hturns

/-! ## Rows of turns -/

theorem takesTurns_select (hturns : p.takesTurns = true) (cs : List Candidate) :
    (p.select cs).2.takesTurns = true := by
  cases h : p.upcoming cs with
  | nil => rwa [select_of_upcoming_eq_nil hturns h]
  | cons c rest => exact (select_of_upcoming hturns h).2.1

/-- A choice moves the queue on by one. -/
theorem upcoming_select (hturns : p.takesTurns = true) :
    (p.select cs).2.upcoming cs = (p.upcoming cs).rotate 1 := by
  cases h : p.upcoming cs with
  | nil => rw [select_of_upcoming_eq_nil hturns h, h, List.rotate_nil]
  | cons c rest =>
      rw [(select_of_upcoming hturns h).2.2, List.rotate_cons_succ, List.rotate_zero]

theorem upcoming_after (hturns : p.takesTurns = true) (cs : List Candidate) (n : Nat) :
    (p.after (.replicate n cs)).takesTurns = true ∧
      (p.after (.replicate n cs)).upcoming cs = (p.upcoming cs).rotate n := by
  induction n generalizing p with
  | zero => exact ⟨hturns, (List.rotate_zero _).symm⟩
  | succ n ih =>
      obtain ⟨hstill, hmoved⟩ := ih (takesTurns_select hturns cs)
      rw [after_replicate_succ]
      refine ⟨hstill, ?_⟩
      rw [hmoved, upcoming_select hturns, List.rotate_rotate, Nat.add_comm]

/-- A row of choices deals out the queue from its head on. -/
theorem choices_of_upcoming (hturns : p.takesTurns = true) {dealt rest : List Candidate}
    (h : p.upcoming cs = dealt ++ rest) : p.choices cs dealt.length = dealt.map some := by
  induction dealt generalizing p rest with
  | nil => rfl
  | cons c dealt ih =>
      rw [List.cons_append] at h
      obtain ⟨hchoice, hstill, hmoved⟩ := select_of_upcoming hturns h
      rw [List.append_assoc] at hmoved
      rw [List.length_cons, choices, hchoice, ih hstill hmoved, List.map_cons]

/-- In as many choices as there are candidates to choose, a policy that takes turns chooses each of
them once, in cyclic order; as it is configured it begins with the first. -/
theorem choices_eq_rotate (hturns : p.takesTurns = true) (cs : List Candidate) :
    ∃ first, (p.forget = p → first = 0) ∧ ∀ passed,
      (p.after (.replicate passed cs)).choices cs (p.selectable cs).length =
        ((p.selectable cs).rotate (first + passed)).map some := by
  obtain ⟨first, hfirst, hupcoming⟩ := upcoming_eq_rotate hturns cs
  refine ⟨first, hfirst, fun passed => ?_⟩
  obtain ⟨hstill, hmoved⟩ := upcoming_after hturns cs passed
  rw [hupcoming, List.rotate_rotate] at hmoved
  have hdealt := choices_of_upcoming hstill (hmoved.trans (List.append_nil _).symm)
  rwa [List.length_rotate] at hdealt

end TupleWire.Policy
