/-
  Maps in the order of first insertion, seen through their look-ups.

  An entry that is inserted and erased again leaves a map exactly as it was if
  and only if nothing was under its key before, and the entries of a map,
  inserted into another one, put what they say over what was there.  By position,
  an insertion is `List.set` or an entry at the end, and erasing is
  `List.eraseIdx`.
-/
import Mathlib.Algebra.Ring.Int.Defs
import TupleWire.Map.Dict

set_option autoImplicit false

namespace TupleWire.Dict

variable {κ α β : Type}

theorem ext_entries {d e : Dict κ α} (h : d.entries = e.entries) : d = e := by
  cases d
  cases e
  cases h
  rfl

theorem ne_of_not_mem_keys {k : κ} {es : List (κ × α)} (hk : k ∉ es.map Prod.fst) {e : κ × α}
    (he : e ∈ es) : k ≠ e.1 := by
  rintro rfl
  exact hk (List.mem_map.2 ⟨e, he, rfl⟩)

/-! ## Entries by what comes of them -/

/-- The entries that something comes of, with what comes of each. -/
def gather (f : κ → α → Option β) (es : List (κ × α)) : List (κ × β) :=
  es.filterMap fun e => (f e.1 e.2).map fun b => (e.1, b)

theorem gather_cons (f : κ → α → Option β) (k : κ) (a : α) (es : List (κ × α)) :
    gather f ((k, a) :: es) = ((f k a).map fun b => (k, b)).toList ++ gather f es := by
  rw [gather, List.filterMap_cons]
  dsimp only
  cases f k a with
  | none => rfl
  | some b => rfl

theorem mem_keys_of_gather {f : κ → α → Option β} {es : List (κ × α)} {k : κ}
    (h : k ∈ (gather f es).map Prod.fst) : k ∈ es.map Prod.fst := by
  obtain ⟨⟨j, b⟩, hb, rfl⟩ := List.mem_map.1 h
  obtain ⟨e, he, hgathered⟩ := List.mem_filterMap.1 hb
  obtain ⟨c, -, hc⟩ := Option.map_eq_some_iff.1 hgathered
  have hkey : e.1 = j := congrArg Prod.fst hc
  exact List.mem_map.2 ⟨e, he, hkey⟩

theorem nodup_gather {f : κ → α → Option β} {es : List (κ × α)} (h : (es.map Prod.fst).Nodup) :
    ((gather f es).map Prod.fst).Nodup := by
  induction es with
  | nil => exact List.nodup_nil
  | cons hd rest ih =>
      obtain ⟨k, a⟩ := hd
      obtain ⟨hk, hrest⟩ := List.nodup_cons.1 h
      rw [gather_cons]
      cases f k a with
      | none => exact ih hrest
      | some b => exact List.nodup_cons.2 ⟨fun hmem => hk (mem_keys_of_gather hmem), ih hrest⟩

variable [DecidableEq κ] {d : Dict κ α} {k : κ} {a : α}

/-! ## Look-ups and entries -/

theorem mem_of_find?_eq_some {es : List (κ × α)} (h : find? k es = some a) : (k, a) ∈ es := by
  induction es with
  | nil => cases h
  | cons hd rest ih =>
      obtain ⟨j, b⟩ := hd
      rw [find?] at h
      split at h
      · rename_i hj
        subst hj
        cases h
        exact List.mem_cons_self
      · exact List.mem_cons_of_mem _ (ih h)

theorem find?_eq_none_of_not_mem {es : List (κ × α)} (h : k ∉ es.map Prod.fst) :
    find? k es = none := by
  rw [Option.eq_none_iff_forall_ne_some]
  intro a ha
  exact h (List.mem_map.2 ⟨(k, a), mem_of_find?_eq_some ha, rfl⟩)

theorem find?_map (f : α → β) (k : κ) (es : List (κ × α)) :
    find? k (es.map fun e => (e.1, f e.2)) = (find? k es).map f := by
  induction es with
  | nil => rfl
  | cons hd rest ih =>
      rw [List.map_cons, find?, find?, ih]
      split
      · rfl
      · rfl

/-- What comes of a key is what comes of its value. -/
theorem find?_gather {f : κ → α → Option β} {es : List (κ × α)} (h : (es.map Prod.fst).Nodup)
    (k : κ) : find? k (gather f es) = (find? k es).bind (f k) := by
  induction es with
  | nil => rfl
  | cons hd rest ih =>
      obtain ⟨j, a⟩ := hd
      obtain ⟨hj, hrest⟩ := List.nodup_cons.1 h
      rw [gather_cons, find?]
      by_cases hjk : j = k
      · subst hjk
        rw [if_pos rfl, Option.bind_some]
        cases f j a with
        | some b => exact if_pos rfl
        | none => exact find?_eq_none_of_not_mem fun hmem => hj (mem_keys_of_gather hmem)
      · rw [if_neg hjk, ← ih hrest]
        cases f j a with
        | some b => exact if_neg hjk
        | none => rfl

theorem find?_eq_some_of_mem {es : List (κ × α)} (hes : (es.map Prod.fst).Nodup)
    (h : (k, a) ∈ es) : find? k es = some a := by
  induction es with
  | nil => cases h
  | cons hd rest ih =>
      obtain ⟨j, b⟩ := hd
      obtain ⟨hj, hrest⟩ := List.nodup_cons.1 hes
      rw [find?]
      rcases List.mem_cons.1 h with hhead | hmem
      · cases hhead
        exact if_pos rfl
      · rw [if_neg (ne_of_not_mem_keys hj hmem)]
        exact ih hrest hmem

/-! ## Changes by the positions of entries -/

theorem put_of_find?_eq_none {es : List (κ × α)} (h : find? k es = none) :
    put k a es = es ++ [(k, a)] := by
  induction es with
  | nil => rfl
  | cons hd rest ih =>
      obtain ⟨j, b⟩ := hd
      rw [find?] at h
      split at h
      · cases h
      · rename_i hj
        rw [put, if_neg hj, ih h]
        rfl

/-- A key that is there keeps its place. -/
theorem put_of_getElem? {es : List (κ × α)} (hes : (es.map Prod.fst).Nodup) {position : Nat}
    {b : α} (h : es[position]? = some (k, b)) : put k a es = es.set position (k, a) := by
  induction es generalizing position with
  | nil => cases h
  | cons hd rest ih =>
      obtain ⟨j, c⟩ := hd
      obtain ⟨hj, hrest⟩ := List.nodup_cons.1 hes
      cases position with
      | zero =>
          cases h
          exact if_pos rfl
      | succ position =>
          rw [List.getElem?_cons_succ] at h
          rw [put, if_neg (ne_of_not_mem_keys hj (List.mem_of_getElem? h)), ih hrest h]
          rfl

/-- Without a key, the entry in its place is gone. -/
theorem filter_of_getElem? {es : List (κ × α)} (hes : (es.map Prod.fst).Nodup) {position : Nat}
    {b : α} (h : es[position]? = some (k, b)) :
    es.filter (fun e => !decide (e.1 = k)) = es.eraseIdx position := by
  induction es generalizing position with
  | nil => cases h
  | cons hd rest ih =>
      obtain ⟨j, c⟩ := hd
      obtain ⟨hj, hrest⟩ := List.nodup_cons.1 hes
      cases position with
      | zero =>
          cases h
          rw [List.filter_cons_of_neg (by simp), List.eraseIdx_cons_zero, List.filter_eq_self]
          intro e he
          simpa using (ne_of_not_mem_keys hj he).symm
      | succ position =>
          rw [List.getElem?_cons_succ] at h
          have hne : j ≠ k := ne_of_not_mem_keys hj (List.mem_of_getElem? h)
          rw [List.filter_cons_of_pos (by simpa using hne), ih hrest h, List.eraseIdx_cons_succ]

/-! ## Changes that change nothing -/

theorem put_eq_self {es : List (κ × α)} (h : find? k es = some a) : put k a es = es := by
  induction es with
  | nil => cases h
  | cons hd rest ih =>
      obtain ⟨j, b⟩ := hd
      rw [find?] at h
      rw [put]
      split at h
      · rename_i hj
        subst hj
        cases h
        rw [if_pos rfl]
      · rename_i hj
        rw [if_neg hj, ih h]

theorem insert_eq_self_iff : d.insert k a = d ↔ d.get? k = some a := by
  constructor
  · intro h
    rw [← h, get?_insert, if_pos rfl]
  · intro h
    exact ext_entries (put_eq_self h)

theorem filter_put_of_find?_eq_none {es : List (κ × α)} (h : find? k es = none) :
    (put k a es).filter (fun e => !decide (e.1 = k)) = es := by
  induction es with
  | nil => simp [put]
  | cons hd rest ih =>
      obtain ⟨j, b⟩ := hd
      rw [find?] at h
      rw [put]
      split at h
      · cases h
      · rename_i hj
        rw [if_neg hj, List.filter_cons_of_pos (by simpa using hj), ih h]

/-- An entry inserted and erased again leaves no trace if and only if nothing was there before. -/
theorem erase_insert_eq_self_iff : (d.insert k a).erase k = d ↔ d.get? k = none := by
  constructor
  · intro h
    rw [← h, get?_erase, if_pos rfl]
  · intro h
    exact ext_entries (filter_put_of_find?_eq_none h)

/-! ## Sums over the values -/

theorem sum_put (f : α → Int) (k : κ) (a : α) (es : List (κ × α)) :
    ((put k a es).map fun e => f e.2).sum =
      (es.map fun e => f e.2).sum + f a - ((find? k es).map f).getD 0 := by
  induction es with
  | nil => simp [put, find?]
  | cons hd rest ih =>
      obtain ⟨j, b⟩ := hd
      rw [put, find?]
      by_cases hj : j = k
      · rw [if_pos hj, if_pos hj, List.map_cons, List.sum_cons, List.map_cons, List.sum_cons,
          Option.map_some, Option.getD_some]
        dsimp only
        omega
      · rw [if_neg hj, if_neg hj, List.map_cons, List.sum_cons, List.map_cons, List.sum_cons, ih]
        omega

/-- A value that is set takes the place of what was under its key. -/
theorem sum_insert (f : α → Int) (d : Dict κ α) (k : κ) (a : α) :
    ((d.insert k a).values.map f).sum =
      (d.values.map f).sum + f a - ((d.get? k).map f).getD 0 := by
  rw [values, values, List.map_map, List.map_map]
  exact sum_put f k a d.entries

/-! ## Maps put over maps -/

theorem get?_foldl_insert {es : List (κ × α)} (hes : (es.map Prod.fst).Nodup) (d : Dict κ α)
    (k : κ) : (es.foldl (fun d e => d.insert e.1 e.2) d).get? k = (find? k es).or (d.get? k) := by
  induction es generalizing d with
  | nil => rfl
  | cons hd rest ih =>
      obtain ⟨j, b⟩ := hd
      obtain ⟨hj, hrest⟩ := List.nodup_cons.1 hes
      rw [List.foldl_cons, ih hrest, get?_insert, find?]
      by_cases hjk : j = k
      · subst hjk
        have habsent : find? j rest = none := find?_eq_none_of_not_mem hj
        rw [if_pos rfl, if_pos rfl, habsent]
        rfl
      · rw [if_neg hjk, if_neg hjk]

/-- The entries of a map put over another one say what they said in the first. -/
theorem get?_foldl_insert_entries {m : Dict κ α} (h : m.get? k = some a) (d : Dict κ α) :
    (m.entries.foldl (fun d e => d.insert e.1 e.2) d).get? k = some a := by
  have hfind : find? k m.entries = some a := h
  rw [get?_foldl_insert m.nodup, hfind]
  rfl

end TupleWire.Dict
