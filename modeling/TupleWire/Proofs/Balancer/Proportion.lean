/-
  Sharing by weight, exactly and without end.

  Where the accounts are level, as many choices as there are ready candidates
  let every tag give its share and leave the accounts level again
  (`choices_of_isLevel`): they are multiples of that number then, above its
  negative, and add up to nothing.  So a policy that begins with nothing
  remembered shares out exactly, block by block (`blocks_are_exact`).

  Whatever was remembered before, of tags that went away too, the accounts have
  some floor, and that bounds how long a ready candidate is not chosen
  (`ready_candidates_return`).
-/
import Mathlib.Order.Directed
import TupleWire.Proofs.Balancer.Accounts

set_option autoImplicit false

namespace TupleWire.Policy

variable {weights : Dict String TagWeight} {cs : List Candidate}

/-- The accounts of all tags that a policy has seen. -/
def currents : Policy → List Int
  | distributing weights => weights.values.map TagWeight.current
  | roundRobin _ | tagRoundRobin _ _ => []

/-! ## Blocks of choices -/

/-- No tag is ahead or behind. -/
def IsLevel (weights : Dict String TagWeight) : Prop := ∀ tag, current weights tag = 0

theorem IsLevel.eq_zero_of_mem_currents (hlevel : IsLevel weights) {n : Int}
    (hn : n ∈ (distributing weights).currents) : n = 0 := by
  obtain ⟨w, hw, rfl⟩ := List.mem_map.1 hn
  obtain ⟨⟨tag, w⟩, hentry, rfl⟩ := List.mem_map.1 hw
  have hfound : weights.get? tag = some w := Dict.find?_eq_some_of_mem weights.nodup hentry
  have hzero := hlevel tag
  rwa [current, weightOf, hfound] at hzero

theorem isFloor_of_isLevel (hready : cs.filter Candidate.isReady ≠ []) (hlevel : IsLevel weights) :
    IsFloor weights cs (-(cs.filter Candidate.isReady).length) := by
  have htotal : 0 < (cs.filter Candidate.isReady).length := List.length_pos_of_ne_nil hready
  refine ⟨fun tag _ => ?_, ?_⟩
  · rw [hlevel tag]
    omega
  · rw [Finset.sum_eq_zero fun tag _ => hlevel tag, Int.add_left_neg, mul_zero]

/-- A tag without ready candidates gives none. -/
theorem given_eq_nil (hready : cs.filter Candidate.isReady ≠ []) (weights : Dict String TagWeight)
    (n : Nat) {tag : String} (htag : tag ∉ readyTags cs) :
    given tag ((distributing weights).choices cs n) = [] := by
  refine row_induction (motive := fun _ _ _ choices => given tag choices = []) hready
    (fun _ => rfl) ?_ weights n
  intro weights c next n last choices hgives hrow
  have hne : tag ≠ c.tag := fun heq => htag (heq ▸ hgives.mem_tags)
  rwa [given_cons_of_ne hne]

/-- As many choices as there are ready candidates, from level accounts. -/
theorem choices_of_isLevel (cs : List Candidate) (hlevel : IsLevel weights) :
    let total := (cs.filter Candidate.isReady).length
    IsLevel (remembered weights (.replicate total cs)) ∧
      ∀ tag, (given tag ((distributing weights).choices cs total)).length =
        (readyOf cs tag).length := by
  intro total
  by_cases hready : cs.filter Candidate.isReady = []
  · have hnone : total = 0 := List.length_eq_zero_iff.2 hready
    rw [hnone]
    refine ⟨hlevel, fun tag => ?_⟩
    rw [readyOf, hready]
    rfl
  have htotal : (0 : Int) < total := Int.natCast_pos.2 (List.length_pos_of_ne_nil hready)
  have hcurrent (tag : String) : current (remembered weights (.replicate total cs)) tag =
      total * ((readyOf cs tag).length -
        (given tag ((distributing weights).choices cs total)).length) := by
    rw [current_remembered hready, hlevel tag]
    ring
  have hnonneg : ∀ tag ∈ readyTags cs,
      0 ≤ current (remembered weights (.replicate total cs)) tag := by
    intro tag htag
    have habove := ((isFloor_of_isLevel hready hlevel).remembered hready total).lt_current tag htag
    rw [hcurrent] at habove ⊢
    -- a multiple of the number that is above its negative is not below zero
    have hmultiple : (total : Int) * (-1) < total * ((readyOf cs tag).length -
        (given tag ((distributing weights).choices cs total)).length) := by
      rwa [mul_neg_one]
    have hless := Int.lt_of_mul_lt_mul_left hmultiple htotal.le
    exact Int.mul_nonneg htotal.le (by omega)
  have hsum : ∑ tag ∈ readyTags cs, current (remembered weights (.replicate total cs)) tag = 0 := by
    rw [sum_current_remembered hready]
    exact Finset.sum_eq_zero fun tag _ => hlevel tag
  have hgiven (tag : String) : (given tag ((distributing weights).choices cs total)).length =
      (readyOf cs tag).length := by
    by_cases htag : tag ∈ readyTags cs
    · have hzero := (Finset.sum_eq_zero_iff_of_nonneg hnonneg).1 hsum tag htag
      rw [hcurrent] at hzero
      have hsame := (mul_eq_zero.1 hzero).resolve_left htotal.ne'
      omega
    · have hnone : readyOf cs tag = [] := not_not.1 (mt mem_readyTags.2 htag)
      rw [given_eq_nil hready weights total htag, hnone]
      rfl
  refine ⟨fun tag => ?_, hgiven⟩
  rw [hcurrent, hgiven, sub_self, mul_zero]

theorem isLevel_blocks (cs : List Candidate) (block : Nat) :
    IsLevel (remembered .empty (.replicate (block * (cs.filter Candidate.isReady).length) cs)) := by
  induction block with
  | zero =>
      rw [Nat.zero_mul]
      exact fun _ => rfl
  | succ block ih =>
      rw [Nat.succ_mul, List.replicate_add, remembered_append]
      exact (choices_of_isLevel cs ih).1

/-- From a policy that begins with nothing remembered, and while the candidates stay the same, every
block of as many choices as there are ready candidates chooses each of them once, each tag as often
as it has ready candidates, and leaves all accounts at nothing. -/
theorem blocks_are_exact (cs : List Candidate) (block : Nat) :
    let total := (cs.filter Candidate.isReady).length
    let p := (distributing .empty).after (.replicate (block * total) cs)
    (p.choices cs total).Perm ((cs.filter Candidate.isReady).map some) ∧
      (∀ tag, (given tag (p.choices cs total)).length = (readyOf cs tag).length) ∧
      ∀ n ∈ (p.after (.replicate total cs)).currents, n = 0 := by
  intro total p
  have hp : p = distributing (remembered .empty (.replicate (block * total) cs)) :=
    after_distributing _ _
  have hlevel := isLevel_blocks cs block
  have hnext := isLevel_blocks cs (block + 1)
  rw [Nat.succ_mul, List.replicate_add, remembered_append] at hnext
  rw [hp, after_distributing]
  have hgiven := (choices_of_isLevel cs hlevel).2
  refine ⟨?_, hgiven, fun n hn => hnext.eq_zero_of_mem_currents hn⟩
  have hsubperm := subperm_choices _ total fun tag _ => (hgiven tag).ge
  refine (hsubperm.perm_of_length_le ?_).symm
  rw [length_choices, List.length_map]

/-- The tag with three of four ready candidates does not give them all at once. -/
example :
    (distributing .empty).choices
        [⟨"a", 0, true⟩, ⟨"a", 1, true⟩, ⟨"a", 2, true⟩, ⟨"b", 0, true⟩] 4 =
      [some ⟨"a", 0, true⟩, some ⟨"a", 1, true⟩, some ⟨"b", 0, true⟩, some ⟨"a", 2, true⟩] := by
  decide +kernel

/-! ## No candidate is left out for good -/

theorem balance_remembered (weights : Dict String TagWeight) (seen : List (List Candidate)) :
    balance (remembered weights seen) = balance weights := by
  induction seen generalizing weights with
  | nil => rfl
  | cons cs rest ih =>
      have hrest : balance (remembered (selectByWeight weights cs).2 rest) =
          balance (selectByWeight weights cs).2 := ih _
      refine hrest.trans ?_
      by_cases hready : cs.filter Candidate.isReady = []
      · rw [selectByWeight_of_filter_eq_nil hready]
      · obtain ⟨c, next, hselect, hgives⟩ := selectByWeight_gives weights hready
        rw [hselect]
        exact hgives.balance_eq

/-- All accounts have a floor, one choice below the least of them. -/
theorem exists_isFloor (weights : Dict String TagWeight)
    (hready : cs.filter Candidate.isReady ≠ []) : ∃ floor, IsFloor weights cs floor := by
  have htotal : (0 : Int) < (cs.filter Candidate.isReady).length :=
    Int.natCast_pos.2 (List.length_pos_of_ne_nil hready)
  obtain ⟨least, -, hleast⟩ :=
    (readyTags cs).exists_min_image (current weights) (readyTags_nonempty hready)
  refine ⟨current weights least - (cs.filter Candidate.isReady).length, fun tag htag => ?_, ?_⟩
  · exact (Int.sub_lt_self _ htotal).trans_le (hleast tag htag)
  · rw [Int.sub_add_cancel, ← nsmul_eq_mul]
    exact Finset.card_nsmul_le_sum _ _ _ hleast

/-- In a row of choices long enough for every account to go through all of its range, besides one
choice of each ready candidate, no tag gives less often than it has ready candidates. -/
theorem IsFloor.length_readyOf_le {floor : Int} (hready : cs.filter Candidate.isReady ≠ [])
    (hfloor : IsFloor weights cs floor) {n : Nat}
    (hn : (cs.filter Candidate.isReady).length +
      (∑ tag ∈ readyTags cs, current weights tag - (readyTags cs).card * floor) ≤ n)
    {tag : String} (htag : tag ∈ readyTags cs) :
    (readyOf cs tag).length ≤ (given tag ((distributing weights).choices cs n)).length := by
  have haccount := current_remembered hready weights n tag
  have hbefore := hfloor.lt_current tag htag
  have hrange := hfloor.current_le htag
  have hafter := (hfloor.remembered hready n).current_le htag
  have hshare : 0 < (readyOf cs tag).length := List.length_pos_of_ne_nil (mem_readyTags.1 htag)
  rw [sum_current_remembered hready] at hafter
  generalize (readyOf cs tag).length = share at *
  generalize (given tag ((distributing weights).choices cs n)).length = turns at *
  generalize (cs.filter Candidate.isReady).length = total at *
  by_contra hfewer
  have hlowered : (total : Int) * turns ≤ total * (share - 1) :=
    Int.mul_le_mul_of_nonneg_left (by omega) (Int.natCast_nonneg total)
  -- beyond the first choices, one for each ready candidate, every choice raises the account
  have hraised : 0 ≤ ((n : Int) - total) * (share - 1) := Int.mul_nonneg (by omega) (by omega)
  have hexpand : ((n : Int) - total) * (share - 1) = n * share - n - total * share + total := by
    ring
  rw [Int.mul_sub, Int.mul_one] at hlowered
  omega

/-- Whatever a policy that shares out by weight has chosen from before, its accounts add up to
nothing; and once the candidates stay the same there is a number of choices such that every row of
so many chooses each ready candidate. -/
theorem ready_candidates_return (seen : List (List Candidate)) (cs : List Candidate) :
    let p := (distributing .empty).after seen
    p.currents.sum = 0 ∧
      ∃ bound, ∀ passed, ((cs.filter Candidate.isReady).map some).Subperm
        ((p.after (.replicate passed cs)).choices cs bound) := by
  intro p
  have hp : p = distributing (remembered .empty seen) := after_distributing _ _
  rw [hp]
  refine ⟨balance_remembered .empty seen, ?_⟩
  by_cases hready : cs.filter Candidate.isReady = []
  · refine ⟨0, fun _ => ?_⟩
    rw [hready]
    exact List.nil_subperm
  · obtain ⟨floor, hfloor⟩ := exists_isFloor (remembered .empty seen) hready
    refine ⟨(cs.filter Candidate.isReady).length +
      (∑ tag ∈ readyTags cs, current (remembered .empty seen) tag -
        (readyTags cs).card * floor).toNat, fun passed => ?_⟩
    -- floor and sum stay what they are, and with them the bound
    have hstill := hfloor.remembered hready passed
    rw [after_distributing]
    refine subperm_choices _ _ fun tag htag => hstill.length_readyOf_le hready ?_ htag
    rw [sum_current_remembered hready]
    push_cast
    exact Int.add_le_add_left (Int.self_le_toNat _) _

end TupleWire.Policy
