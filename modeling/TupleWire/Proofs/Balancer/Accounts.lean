/-
  Rows of choices by weight.

  Over a row of choices from the same candidates the account of a tag is what it
  was, raised by its share for each choice and lowered by all the shares for each
  time that it gave (`current_remembered`), and it gives its ready candidates in
  the order of its line (`dealt_prefix_given`).  So a bound on the accounts is a
  bound on how often a tag gave.  There is one from below (`IsFloor`): the tag
  that gives was not below the average, so a choice cannot take it under a floor
  that leaves the average room.  As the accounts of the tags with ready candidates
  keep their sum (`sum_current_remembered`), the floor bounds each of them from
  above as well (`IsFloor.current_le`).
-/
import Mathlib.Algebra.BigOperators.Group.Finset.Piecewise
import Mathlib.Algebra.BigOperators.Ring.Finset
import Mathlib.Algebra.Order.BigOperators.Group.Finset
import Mathlib.Tactic.Ring
import TupleWire.Proofs.Balancer.Shares

set_option autoImplicit false

namespace TupleWire.Policy

variable {weights next : Dict String TagWeight} {cs : List Candidate}

/-! ## What is remembered of a row of choices -/

/-- What is remembered after a choice by weight from each of some lists of candidates. -/
def remembered (weights : Dict String TagWeight) (seen : List (List Candidate)) :
    Dict String TagWeight :=
  seen.foldl (fun weights cs => (selectByWeight weights cs).2) weights

theorem after_distributing (weights : Dict String TagWeight) (seen : List (List Candidate)) :
    (distributing weights).after seen = distributing (remembered weights seen) := by
  induction seen generalizing weights with
  | nil => rfl
  | cons cs rest ih => exact ih _

theorem remembered_append (weights : Dict String TagWeight) (first second : List (List Candidate)) :
    remembered weights (first ++ second) = remembered (remembered weights first) second :=
  List.foldl_append

/-- What was chosen of a tag. -/
def given (tag : String) (choices : List (Option Candidate)) : List (Option Candidate) :=
  choices.filter fun choice => choice.any fun c => c.tag == tag

theorem given_cons_self (c : Candidate) (choices : List (Option Candidate)) :
    given c.tag (some c :: choices) = some c :: given c.tag choices :=
  List.filter_cons_of_pos (beq_self_eq_true c.tag)

theorem given_cons_of_ne {c : Candidate} {tag : String} (h : tag ≠ c.tag)
    (choices : List (Option Candidate)) : given tag (some c :: choices) = given tag choices :=
  List.filter_cons_of_neg (by simpa using h.symm)

/-- An induction over a row of choices: what holds of no choice, and of a row if it holds of the row
without its first choice, holds of all rows. -/
theorem row_induction {motive : Dict String TagWeight → Nat → Dict String TagWeight →
      List (Option Candidate) → Prop}
    (hready : cs.filter Candidate.isReady ≠ [])
    (nil : ∀ weights, motive weights 0 weights [])
    (cons : ∀ weights c next n last choices, Gives weights cs c next →
      motive next n last choices → motive weights (n + 1) last (some c :: choices))
    (weights : Dict String TagWeight) (n : Nat) :
    motive weights n (remembered weights (.replicate n cs))
      ((distributing weights).choices cs n) := by
  induction n generalizing weights with
  | zero => exact nil weights
  | succ n ih =>
      obtain ⟨c, next, hselect, hgives⟩ := selectByWeight_gives weights hready
      have hrow := cons weights c next n _ _ hgives (ih next)
      have hchoices : (distributing weights).choices cs (n + 1) =
          some c :: (distributing next).choices cs n := by
        rw [choices, select, hselect]
      have hremembered : remembered weights (.replicate (n + 1) cs) =
          remembered next (.replicate n cs) := by
        show remembered (selectByWeight weights cs).2 _ = _
        rw [hselect]
      rwa [hchoices, hremembered]

/-! ## Accounts -/

/-- How often a tag gave and how often it was raised explain its account. -/
theorem current_remembered (hready : cs.filter Candidate.isReady ≠ [])
    (weights : Dict String TagWeight) (n : Nat) (tag : String) :
    current (remembered weights (.replicate n cs)) tag =
      current weights tag + n * (readyOf cs tag).length -
        (cs.filter Candidate.isReady).length *
          (given tag ((distributing weights).choices cs n)).length := by
  refine row_induction (motive := fun weights n last choices => current last tag =
    current weights tag + n * (readyOf cs tag).length -
      (cs.filter Candidate.isReady).length * (given tag choices).length) hready ?_ ?_ weights n
  · intro weights
    simp [given]
  · intro weights c next n last choices hgives hrow
    rw [hrow, hgives.current_eq]
    by_cases htag : tag = c.tag
    · subst htag
      rw [if_pos rfl, given_cons_self, List.length_cons]
      push_cast
      ring
    · rw [if_neg htag, given_cons_of_ne htag]
      push_cast
      ring

/-- A tag gives its ready candidates in the order of its line. -/
theorem dealt_prefix_given (hready : cs.filter Candidate.isReady ≠ [])
    (weights : Dict String TagWeight) (n : Nat) (tag : String) {dealt rest : List Candidate}
    (hline : line weights cs tag = dealt ++ rest)
    (henough : dealt.length ≤ (given tag ((distributing weights).choices cs n)).length) :
    dealt.map some <+: given tag ((distributing weights).choices cs n) := by
  refine row_induction (motive := fun weights _ _ choices => ∀ dealt rest,
    line weights cs tag = dealt ++ rest → dealt.length ≤ (given tag choices).length →
      dealt.map some <+: given tag choices) hready ?_ ?_ weights n dealt rest hline henough
  · intro _ dealt _ _ hnone
    rw [List.length_eq_zero_iff.1 (Nat.le_zero.1 hnone)]
    exact List.prefix_refl _
  · intro weights c next n last choices hgives hrow dealt rest hline henough
    by_cases htag : tag = c.tag
    · subst htag
      obtain ⟨others, hfirst, hlast⟩ := hgives.turn
      cases dealt with
      | nil => exact List.nil_prefix
      | cons first dealt =>
          rw [hfirst, List.cons_append] at hline
          obtain ⟨rfl, rfl⟩ := List.cons.inj hline
          rw [given_cons_self, List.length_cons, List.length_cons] at henough
          rw [given_cons_self, List.map_cons, List.prefix_cons_inj]
          rw [List.append_assoc] at hlast
          exact hrow dealt _ hlast (Nat.succ_le_succ_iff.1 henough)
    · rw [given_cons_of_ne htag] at henough ⊢
      exact hrow dealt rest ((hgives.line_eq tag htag).trans hline) henough

/-- The accounts of the tags with ready candidates keep their sum. -/
theorem Gives.sum_current {c : Candidate} (hgives : Gives weights cs c next) :
    ∑ tag ∈ readyTags cs, current next tag = ∑ tag ∈ readyTags cs, current weights tag := by
  simp only [hgives.current_eq, Finset.sum_sub_distrib, Finset.sum_add_distrib,
    Finset.sum_ite_eq', if_pos hgives.mem_tags]
  have htotal := congrArg (Nat.cast (R := Int)) (sum_length_readyOf cs)
  rw [Nat.cast_sum] at htotal
  omega

/-- A floor of the accounts: all are above it, and on average by no less than the one that gives is
lowered. -/
structure IsFloor (weights : Dict String TagWeight) (cs : List Candidate) (floor : Int) : Prop where
  lt_current : ∀ tag ∈ readyTags cs, floor < current weights tag
  room : (readyTags cs).card * (floor + (cs.filter Candidate.isReady).length) ≤
    ∑ tag ∈ readyTags cs, current weights tag

/-- The tag that gives stays above the floor, for it was not below the average. -/
theorem IsFloor.gives {floor : Int} {c : Candidate} (hready : cs.filter Candidate.isReady ≠ [])
    (hfloor : IsFloor weights cs floor) (hgives : Gives weights cs c next) :
    IsFloor next cs floor := by
  have htotal : 0 < (cs.filter Candidate.isReady).length := List.length_pos_of_ne_nil hready
  have hraised : ∑ tag ∈ readyTags cs, ((readyOf cs tag).length : Int) =
      (cs.filter Candidate.isReady).length := by
    rw [← Nat.cast_sum, sum_length_readyOf]
  have hhighest : floor + (cs.filter Candidate.isReady).length <
      current weights c.tag + (readyOf cs c.tag).length := by
    have haverage : ∑ _tag ∈ readyTags cs, (floor + (cs.filter Candidate.isReady).length) <
        ∑ tag ∈ readyTags cs, (current weights tag + (readyOf cs tag).length) := by
      rw [Finset.sum_const, nsmul_eq_mul, Finset.sum_add_distrib, hraised]
      have hroom := hfloor.room
      omega
    obtain ⟨tag, htag, hlt⟩ := Finset.exists_lt_of_sum_lt haverage
    exact hlt.trans_le (hgives.furthest tag htag)
  refine ⟨fun tag htag => ?_, hgives.sum_current ▸ hfloor.room⟩
  have habove := hfloor.lt_current tag htag
  rw [hgives.current_eq]
  by_cases heq : tag = c.tag
  · rw [if_pos heq, heq]
    omega
  · rw [if_neg heq]
    omega

theorem sum_current_remembered (hready : cs.filter Candidate.isReady ≠ [])
    (weights : Dict String TagWeight) (n : Nat) :
    ∑ tag ∈ readyTags cs, current (remembered weights (.replicate n cs)) tag =
      ∑ tag ∈ readyTags cs, current weights tag := by
  refine row_induction (motive := fun weights _ last _ =>
    ∑ tag ∈ readyTags cs, current last tag = ∑ tag ∈ readyTags cs, current weights tag)
    hready (fun _ => rfl) ?_ weights n
  intro weights c next n last choices hgives hrow
  rw [hrow, hgives.sum_current]

theorem IsFloor.remembered {floor : Int} (hready : cs.filter Candidate.isReady ≠ [])
    (hfloor : IsFloor weights cs floor) (n : Nat) :
    IsFloor (remembered weights (.replicate n cs)) cs floor := by
  refine row_induction (motive := fun weights _ last _ =>
    IsFloor weights cs floor → IsFloor last cs floor) hready (fun _ => id) ?_ weights n hfloor
  intro weights c next n last choices hgives hrow hfloor
  exact hrow (hfloor.gives hready hgives)

/-- An account is above the floor by no more than all of them are together. -/
theorem IsFloor.current_le {floor : Int} (hfloor : IsFloor weights cs floor) {tag : String}
    (htag : tag ∈ readyTags cs) :
    current weights tag - floor ≤
      ∑ tag ∈ readyTags cs, current weights tag - (readyTags cs).card * floor := by
  have hsingle : current weights tag - floor ≤
      ∑ tag ∈ readyTags cs, (current weights tag - floor) :=
    Finset.single_le_sum (f := fun tag => current weights tag - floor)
      (fun tag htag => (sub_pos.2 (hfloor.lt_current tag htag)).le) htag
  rwa [Finset.sum_sub_distrib, Finset.sum_const, nsmul_eq_mul] at hsingle

/-! ## Enough of every tag -/

/-- If every tag gave as often as it has ready candidates, each of them was chosen. -/
theorem subperm_choices (weights : Dict String TagWeight) (n : Nat)
    (henough : ∀ tag ∈ readyTags cs, (readyOf cs tag).length ≤
      (given tag ((distributing weights).choices cs n)).length) :
    ((cs.filter Candidate.isReady).map some).Subperm ((distributing weights).choices cs n) := by
  rw [List.subperm_ext_iff]
  intro choice hchoice
  obtain ⟨c, hc, rfl⟩ := List.mem_map.1 hchoice
  have hready : cs.filter Candidate.isReady ≠ [] := List.ne_nil_of_mem hc
  have hmem : c ∈ readyOf cs c.tag := mem_readyOf.2 ⟨hc, rfl⟩
  have hgave := henough c.tag (mem_readyTags.2 (List.ne_nil_of_mem hmem))
  have hprefix := dealt_prefix_given hready weights n c.tag (List.append_nil _).symm
    (by rwa [line, List.length_rotate])
  calc ((cs.filter Candidate.isReady).map some).count (some c)
      = (cs.filter Candidate.isReady).count c :=
        List.count_map_of_injective _ _ (Option.some_injective _) c
    _ = (readyOf cs c.tag).count c :=
        (List.count_filter (p := fun other : Candidate => other.tag == c.tag)
          (beq_self_eq_true c.tag)).symm
    _ = (line weights cs c.tag).count c := ((List.rotate_perm _ _).count_eq c).symm
    _ = ((line weights cs c.tag).map some).count (some c) :=
        (List.count_map_of_injective _ _ (Option.some_injective _) c).symm
    _ ≤ (given c.tag ((distributing weights).choices cs n)).count (some c) :=
        hprefix.sublist.count_le _
    _ = ((distributing weights).choices cs n).count (some c) :=
        List.count_filter (beq_self_eq_true c.tag)

end TupleWire.Policy
