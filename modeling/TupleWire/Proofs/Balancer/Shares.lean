/-
  One choice by weight.

  Every tag has an account of how far it is behind its share.  A choice raises it
  by the number of the tag's ready candidates, and the tag that is furthest behind
  gives the connection and is lowered by all of them together.
  `selectByWeight_gives` says at once (`Policy.Gives`) what a choice does to every
  account, to the line of each tag's candidates and to the sum of all accounts.
  Nothing after it looks into `selectByWeight` again.
-/
import Mathlib.Algebra.BigOperators.Group.Finset.Basic
import Mathlib.Algebra.Order.BigOperators.Group.Finset
import Mathlib.Algebra.Ring.Int.Defs
import TupleWire.Proofs.Balancer.Turns
import TupleWire.Proofs.Map.Dict

set_option autoImplicit false

namespace TupleWire.Policy

/-! ## Ready candidates by their tags -/

/-- The ready candidates of a tag. -/
def readyOf (cs : List Candidate) (tag : String) : List Candidate :=
  (cs.filter Candidate.isReady).filter fun c => c.tag == tag

/-- The tags that have ready candidates. -/
def readyTags (cs : List Candidate) : Finset String :=
  ((cs.filter Candidate.isReady).map Candidate.tag).toFinset

variable {cs : List Candidate} {tag : String}

theorem mem_readyOf {c : Candidate} :
    c ∈ readyOf cs tag ↔ c ∈ cs.filter Candidate.isReady ∧ c.tag = tag := by
  rw [readyOf, List.mem_filter, beq_iff_eq]

theorem mem_readyTags : tag ∈ readyTags cs ↔ readyOf cs tag ≠ [] := by
  rw [readyTags, List.mem_toFinset, List.mem_map]
  constructor
  · rintro ⟨c, hc, rfl⟩
    exact List.ne_nil_of_mem (mem_readyOf.2 ⟨hc, rfl⟩)
  · intro hsome
    obtain ⟨c, hc⟩ := List.exists_mem_of_ne_nil _ hsome
    exact ⟨c, mem_readyOf.1 hc⟩

theorem readyTags_nonempty (hready : cs.filter Candidate.isReady ≠ []) :
    (readyTags cs).Nonempty := by
  obtain ⟨c, hc⟩ := List.exists_mem_of_ne_nil _ hready
  exact ⟨c.tag, mem_readyTags.2 (List.ne_nil_of_mem (mem_readyOf.2 ⟨hc, rfl⟩))⟩

/-- Every ready candidate belongs to one tag. -/
theorem sum_length_readyOf (cs : List Candidate) :
    ∑ tag ∈ readyTags cs, (readyOf cs tag).length = (cs.filter Candidate.isReady).length := by
  have hcount (tag : String) : (readyOf cs tag).length =
      ((cs.filter Candidate.isReady).map Candidate.tag).count tag := by
    rw [readyOf, ← List.countP_eq_length_filter, List.count, List.countP_map]
    rfl
  simp only [hcount]
  rw [readyTags, List.sum_toFinset_count_eq_length, List.length_map]

theorem nodup_eraseDups (l : List String) : l.eraseDups.Nodup := by
  induction h : l.length using Nat.strongRecOn generalizing l with
  | ind n ih =>
      cases l with
      | nil => exact List.nodup_nil
      | cons a rest =>
          have hshorter := List.length_filter_le (fun b => !b == a) rest
          rw [List.length_cons] at h
          rw [List.eraseDups_cons]
          refine List.nodup_cons.2 ⟨?_, ih _ (by omega) _ rfl⟩
          rw [List.mem_eraseDups, List.mem_filter]
          simp

/-- The shares are those of the tags with ready candidates, each once. -/
theorem readyByTag_eq (cs : List Candidate) : ∃ tags : List String, tags.Nodup ∧
    tags.toFinset = readyTags cs ∧
      readyByTag cs = tags.map fun tag => (tag, readyOf cs tag) := by
  refine ⟨_, nodup_eraseDups _, ?_, rfl⟩
  ext tag
  rw [readyTags, List.mem_toFinset, List.mem_toFinset, List.mem_eraseDups]

/-- What all the ready candidates are worth together. -/
theorem total_readyByTag (cs : List Candidate) :
    (readyByTag cs).foldl (fun total share => total + share.2.length) 0 =
      (cs.filter Candidate.isReady).length := by
  obtain ⟨tags, hnodup, htags, hshares⟩ := readyByTag_eq cs
  have hfold : (readyByTag cs).foldl (fun total share => total + share.2.length) 0 =
      ((readyByTag cs).map fun share => share.2.length).sum := by
    rw [List.sum_eq_foldl, List.foldl_map]
  rw [hfold, hshares, List.map_map, ← sum_length_readyOf, ← htags, List.sum_toFinset _ hnodup]
  rfl

/-! ## Accounts -/

variable {weights next : Dict String TagWeight}

/-- The account of a tag: how far it is behind its share. -/
def current (weights : Dict String TagWeight) (tag : String) : Int :=
  (weightOf weights tag).current

/-- The ready candidates of a tag in the order in which it will give them. -/
def line (weights : Dict String TagWeight) (cs : List Candidate) (tag : String) :
    List Candidate :=
  (readyOf cs tag).rotate (weightOf weights tag).cursor

/-- The cursor of a tag points at the first of its line. -/
theorem getElem?_of_line {c : Candidate} {rest : List Candidate}
    (hline : line weights cs tag = c :: rest) :
    (readyOf cs tag)[(weightOf weights tag).cursor % (readyOf cs tag).length]? = some c := by
  have hnonempty : readyOf cs tag ≠ [] := by
    intro hnil
    rw [line, hnil, List.rotate_nil] at hline
    cases hline
  have hhead := List.getElem?_rotate (n := (weightOf weights tag).cursor)
    (List.length_pos_of_ne_nil hnonempty)
  rw [Nat.zero_add] at hhead
  rw [← hhead, ← line, hline, List.getElem?_cons_zero]

/-- The sum of the accounts of all tags ever seen. -/
def balance (weights : Dict String TagWeight) : Int :=
  (weights.values.map TagWeight.current).sum

theorem weightOf_insert (weights : Dict String TagWeight) (k tag : String) (w : TagWeight) :
    weightOf (weights.insert k w) tag = if k = tag then w else weightOf weights tag := by
  rw [weightOf, Dict.get?_insert]
  split
  · rfl
  · rfl

theorem balance_insert (weights : Dict String TagWeight) (tag : String) (w : TagWeight) :
    balance (weights.insert tag w) = balance weights + w.current - current weights tag := by
  have hcurrent : ((weights.get? tag).map TagWeight.current).getD 0 = current weights tag := by
    rw [current, weightOf]
    cases weights.get? tag with
    | none => rfl
    | some w => rfl
  rw [balance, Dict.sum_insert, hcurrent]
  rfl

/-! ## Raising -/

theorem weightOf_raise (weights : Dict String TagWeight) (share : String × List Candidate)
    (tag : String) : weightOf (raise weights share) tag =
      if share.1 = tag then ⟨current weights tag + share.2.length, (weightOf weights tag).cursor⟩
      else weightOf weights tag := by
  rw [raise, weightOf_insert]
  by_cases h : share.1 = tag
  · rw [if_pos h, if_pos h, h]
    rfl
  · rw [if_neg h, if_neg h]

theorem balance_raise (weights : Dict String TagWeight) (share : String × List Candidate) :
    balance (raise weights share) = balance weights + share.2.length := by
  rw [raise, balance_insert, current]
  dsimp only
  omega

theorem weightOf_foldl_raise (ready : String → List Candidate) {tags : List String}
    (hnodup : tags.Nodup) (tag : String) :
    weightOf ((tags.map fun tag => (tag, ready tag)).foldl raise weights) tag =
      if tag ∈ tags then ⟨current weights tag + (ready tag).length, (weightOf weights tag).cursor⟩
      else weightOf weights tag := by
  induction tags generalizing weights with
  | nil => rfl
  | cons first rest ih =>
      obtain ⟨hfirst, hrest⟩ := List.nodup_cons.1 hnodup
      rw [List.map_cons, List.foldl_cons, ih hrest, current, weightOf_raise]
      by_cases heq : first = tag
      · subst heq
        rw [if_neg hfirst, if_pos rfl, if_pos List.mem_cons_self]
      · rw [if_neg heq]
        simp only [List.mem_cons, Ne.symm heq, false_or]
        rfl

/-- Every tag is raised by the number of its ready candidates. -/
theorem weightOf_raised (weights : Dict String TagWeight) (cs : List Candidate) (tag : String) :
    weightOf ((readyByTag cs).foldl raise weights) tag =
      ⟨current weights tag + (readyOf cs tag).length, (weightOf weights tag).cursor⟩ := by
  obtain ⟨tags, hnodup, htags, hshares⟩ := readyByTag_eq cs
  rw [hshares, weightOf_foldl_raise _ hnodup]
  split
  · rfl
  · rename_i habsent
    have hnone : readyOf cs tag = [] := by
      by_contra hsome
      exact habsent (List.mem_toFinset.1 (htags ▸ mem_readyTags.2 hsome))
    rw [hnone, List.length_nil, Int.natCast_zero, Int.add_zero]
    rfl

theorem current_raised (weights : Dict String TagWeight) (cs : List Candidate) (tag : String) :
    current ((readyByTag cs).foldl raise weights) tag =
      current weights tag + (readyOf cs tag).length := by
  rw [current, weightOf_raised]

theorem balance_foldl_raise (shares : List (String × List Candidate))
    (weights : Dict String TagWeight) (start : Nat) :
    balance (shares.foldl raise weights) + start = balance weights +
      (shares.foldl (fun total share => total + share.2.length) start : Nat) := by
  induction shares generalizing weights start with
  | nil => rfl
  | cons share rest ih =>
      have hrest := ih (raise weights share) (start + share.2.length)
      rw [balance_raise, Int.natCast_add] at hrest
      rw [List.foldl_cons, List.foldl_cons]
      omega

/-- All the ready candidates raise the sum of the accounts by their number. -/
theorem balance_raised (weights : Dict String TagWeight) (cs : List Candidate) :
    balance ((readyByTag cs).foldl raise weights) =
      balance weights + (cs.filter Candidate.isReady).length := by
  have hfold := balance_foldl_raise (readyByTag cs) weights 0
  rwa [total_readyByTag, Int.natCast_zero, Int.add_zero] at hfold

/-! ## The tag that gives -/

theorem furthestBehind?_eq_none_iff {shares : List (String × List Candidate)} :
    furthestBehind? weights shares = none ↔ shares = [] := by
  cases shares with
  | nil => exact iff_of_true rfl rfl
  | cons share rest =>
      refine iff_of_false ?_ (List.cons_ne_nil _ _)
      rw [furthestBehind?]
      split
      · exact Option.some_ne_none _
      · split
        · exact Option.some_ne_none _
        · exact Option.some_ne_none _

theorem mem_of_furthestBehind? {shares : List (String × List Candidate)}
    {share : String × List Candidate} (h : furthestBehind? weights shares = some share) :
    share ∈ shares := by
  induction shares with
  | nil => cases h
  | cons first rest ih =>
      rw [furthestBehind?] at h
      split at h
      · cases h
        exact List.mem_cons_self
      · rename_i best hbest
        split at h
        · cases h
          exact List.mem_cons_of_mem _ (ih hbest)
        · cases h
          exact List.mem_cons_self

/-- No share is further behind than the one that is chosen. -/
theorem current_le_of_furthestBehind? {shares : List (String × List Candidate)}
    {share other : String × List Candidate} (h : furthestBehind? weights shares = some share)
    (hother : other ∈ shares) : current weights other.1 ≤ current weights share.1 := by
  induction shares generalizing share with
  | nil => cases hother
  | cons first rest ih =>
      rw [furthestBehind?] at h
      split at h
      · rename_i hnone
        cases h
        rw [furthestBehind?_eq_none_iff.1 hnone, List.mem_singleton] at hother
        rw [hother]
      · rename_i best hbest
        split at h
        · rename_i hlt
          cases h
          rcases List.mem_cons.1 hother with rfl | hmem
          · exact hlt.le
          · exact ih hbest hmem
        · rename_i hge
          cases h
          rcases List.mem_cons.1 hother with rfl | hmem
          · exact le_refl _
          · exact (ih hbest hmem).trans (not_lt.1 hge)

/-- If there are ready candidates, a tag of theirs is furthest behind once all are raised. -/
theorem exists_furthestBehind (weights : Dict String TagWeight)
    (hready : cs.filter Candidate.isReady ≠ []) : ∃ tag ∈ readyTags cs,
      furthestBehind? ((readyByTag cs).foldl raise weights) (readyByTag cs) =
        some (tag, readyOf cs tag) ∧
      ∀ other ∈ readyTags cs, current weights other + (readyOf cs other).length ≤
        current weights tag + (readyOf cs tag).length := by
  obtain ⟨tags, -, htags, hshares⟩ := readyByTag_eq cs
  have hmem_shares {tag : String} (htag : tag ∈ readyTags cs) :
      (tag, readyOf cs tag) ∈ readyByTag cs := by
    rw [hshares]
    exact List.mem_map_of_mem (List.mem_toFinset.1 (htags ▸ htag))
  cases hbest : furthestBehind? ((readyByTag cs).foldl raise weights) (readyByTag cs) with
  | none =>
      obtain ⟨tag, htag⟩ := readyTags_nonempty hready
      exact absurd (furthestBehind?_eq_none_iff.1 hbest) (List.ne_nil_of_mem (hmem_shares htag))
  | some share =>
      have hshare := mem_of_furthestBehind? hbest
      rw [hshares] at hshare
      obtain ⟨tag, htag, rfl⟩ := List.mem_map.1 hshare
      refine ⟨tag, htags ▸ List.mem_toFinset.2 htag, rfl, fun other hother => ?_⟩
      have hle := current_le_of_furthestBehind? hbest (hmem_shares hother)
      rwa [current_raised, current_raised] at hle

/-! ## A choice -/

/-- What a choice by weight of a candidate does. -/
structure Gives (weights : Dict String TagWeight) (cs : List Candidate) (c : Candidate)
    (next : Dict String TagWeight) : Prop where
  /-- the tag that gives was furthest behind once every one was raised by its share -/
  furthest : ∀ tag ∈ readyTags cs, current weights tag + (readyOf cs tag).length ≤
    current weights c.tag + (readyOf cs c.tag).length
  mem_tags : c.tag ∈ readyTags cs
  /-- every tag is raised by its share, and the one that gives is lowered by all of them -/
  current_eq : ∀ tag, current next tag = current weights tag + (readyOf cs tag).length -
    if tag = c.tag then ((cs.filter Candidate.isReady).length : Int) else 0
  /-- the candidate was the first in the line of its tag and is the last now -/
  turn : ∃ rest, line weights cs c.tag = c :: rest ∧ line next cs c.tag = rest ++ [c]
  /-- the other lines stay as they are -/
  line_eq : ∀ tag ≠ c.tag, line next cs tag = line weights cs tag
  balance_eq : balance next = balance weights

/-- Without ready candidates there is no choice, and nothing is remembered of it. -/
theorem selectByWeight_of_filter_eq_nil (hnone : cs.filter Candidate.isReady = []) :
    selectByWeight weights cs = (none, weights) := by
  have hshares : readyByTag cs = [] := by
    rw [readyByTag, hnone]
    rfl
  rw [selectByWeight, hshares]
  rfl

theorem selectByWeight_gives (weights : Dict String TagWeight)
    (hready : cs.filter Candidate.isReady ≠ []) :
    ∃ c next, selectByWeight weights cs = (some c, next) ∧ Gives weights cs c next := by
  obtain ⟨tag, htag, hbest, hfurthest⟩ := exists_furthestBehind weights hready
  have hnonempty := mem_readyTags.1 htag
  obtain ⟨c, rest, hline⟩ : ∃ c rest, line weights cs tag = c :: rest :=
    List.exists_cons_of_ne_nil fun hnil => hnonempty (List.rotate_eq_nil_iff.1 hnil)
  obtain rfl : c.tag = tag :=
    (mem_readyOf.1 (List.mem_rotate.1 (hline ▸ List.mem_cons_self))).2
  let position := (weightOf weights c.tag).cursor % (readyOf cs c.tag).length
  let next := ((readyByTag cs).foldl raise weights).insert c.tag
    ⟨current weights c.tag + (readyOf cs c.tag).length - (cs.filter Candidate.isReady).length,
      position + 1⟩
  have hselect : selectByWeight weights cs = (some c, next) := by
    simp only [selectByWeight, hbest, total_readyByTag, weightOf_raised]
    rw [← getElem?_of_line hline]
  have hnext (tag : String) : weightOf next tag = if c.tag = tag then
      ⟨current weights c.tag + (readyOf cs c.tag).length -
        (cs.filter Candidate.isReady).length, position + 1⟩
      else ⟨current weights tag + (readyOf cs tag).length, (weightOf weights tag).cursor⟩ := by
    rw [weightOf_insert, weightOf_raised]
  refine ⟨c, next, hselect, hfurthest, htag, ?_, ⟨rest, hline, ?_⟩, ?_, ?_⟩
  · intro tag
    rw [current, hnext]
    by_cases heq : tag = c.tag
    · rw [if_pos heq.symm, if_pos heq, heq]
    · rw [if_neg (Ne.symm heq), if_neg heq, Int.sub_zero]
  · rw [line, hnext, if_pos rfl, ← List.rotate_rotate, List.rotate_mod, ← line, hline,
      List.rotate_cons_succ, List.rotate_zero]
  · intro tag htag
    rw [line, hnext, if_neg (Ne.symm htag), line]
  · rw [balance_insert, balance_raised, current_raised]
    dsimp only
    omega

end TupleWire.Policy
