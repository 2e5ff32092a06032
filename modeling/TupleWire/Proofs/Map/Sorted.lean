/-
  Sorted maps seen through their entries.

  A look-up and membership in the list of entries say the same, so a walk over
  the entries of a map meets a key exactly as often as a look-up finds it.
-/
import TupleWire.Map.Sorted

set_option autoImplicit false

namespace TupleWire.SortedMap

variable {κ α β : Type} [Ranked κ]

/-! ## Look-ups and entries -/

/-- In a list of ascending entries the look-up of a key finds every entry under it. -/
theorem find?_eq_some_of_mem {k : κ} {a : α} {es : List (κ × α)}
    (hes : es.Pairwise fun x y => rank x.1 < rank y.1) (h : (k, a) ∈ es) : find? k es = some a := by
  induction es with
  | nil => simp at h
  | cons hd rest ih =>
      obtain ⟨j, b⟩ := hd
      obtain ⟨hlt, hrest⟩ := List.pairwise_cons.1 hes
      rcases List.mem_cons.1 h with heq | hmem
      · cases heq
        simp [find?]
      · have hj : rank j < rank k := hlt (k, a) hmem
        rw [find?, if_neg (by omega)]
        exact ih hrest hmem

theorem mem_of_find?_eq_some {k : κ} {a : α} {es : List (κ × α)} (h : find? k es = some a) :
    (k, a) ∈ es := by
  induction es with
  | nil => simp [find?] at h
  | cons hd rest ih =>
      obtain ⟨j, b⟩ := hd
      unfold find? at h
      split at h
      · rename_i heq
        cases Ranked.rank_injective heq
        cases h
        exact List.mem_cons_self
      · exact List.mem_cons_of_mem _ (ih h)

theorem get?_eq_some_iff {m : SortedMap κ α} {k : κ} {a : α} :
    m.get? k = some a ↔ (k, a) ∈ m.entries :=
  ⟨mem_of_find?_eq_some, find?_eq_some_of_mem m.ascending⟩

section Keys

variable [DecidableEq κ]

/-- Of the entries of a map at most one is under a given key: the one that a look-up finds. -/
theorem filterMap_entries (m : SortedMap κ α) (k : κ) (f : α → β) :
    (m.entries.filterMap fun e => if e.1 = k then some (f e.2) else none) =
      ((m.get? k).map f).toList := by
  obtain ⟨es, hes⟩ := m
  simp only [get?]
  induction es with
  | nil => rfl
  | cons hd rest ih =>
      obtain ⟨j, b⟩ := hd
      obtain ⟨hlt, hrest⟩ := List.pairwise_cons.1 hes
      by_cases hj : j = k
      · subst hj
        have hnone : find? j rest = none := find?_eq_none_of_lt hlt
        have htail := ih hrest
        rw [hnone] at htail
        simpa [find?] using htail
      · have hrank : rank j ≠ rank k := fun heq => hj (Ranked.rank_injective heq)
        simpa [find?, hj, hrank] using ih hrest

/-- What the entries of a map contribute that are under a given key. -/
theorem flatMap_entries (m : SortedMap κ α) (k : κ) (f : α → List β) :
    (m.entries.flatMap fun e => if e.1 = k then f e.2 else []) = ((m.get? k).map f).getD [] := by
  have hflatten : (m.entries.flatMap fun e => if e.1 = k then f e.2 else []) =
      (m.entries.filterMap fun e => if e.1 = k then some (f e.2) else none).flatten := by
    induction m.entries with
    | nil => rfl
    | cons e rest ih =>
        rw [List.flatMap_cons, ih, List.filterMap_cons]
        split
        · rfl
        · rfl
  rw [hflatten, filterMap_entries]
  cases m.get? k with
  | none => rfl
  | some a => exact List.append_nil _

end Keys

theorem mem_values_iff {m : SortedMap κ α} {a : α} : a ∈ m.values ↔ ∃ k, m.get? k = some a := by
  rw [values, List.mem_map]
  constructor
  · rintro ⟨⟨k, b⟩, hmem, rfl⟩
    exact ⟨k, get?_eq_some_iff.2 hmem⟩
  · rintro ⟨k, hk⟩
    exact ⟨(k, a), get?_eq_some_iff.1 hk, rfl⟩

theorem insert_eq_self [DecidableEq κ] {m : SortedMap κ α} {k : κ} {a : α}
    (h : m.get? k = some a) : m.insert k a = m := by
  refine ext_get? fun j => ?_
  rw [get?_insert]
  split
  · rename_i heq
    rw [← heq, h]
  · rfl

/-! ## Sizes -/

theorem length_put_of_find?_eq_none {k : κ} {a : α} {es : List (κ × α)} (h : find? k es = none) :
    (put k a es).length = es.length + 1 := by
  induction es with
  | nil => rfl
  | cons hd rest ih =>
      obtain ⟨j, b⟩ := hd
      rw [find?] at h
      split at h
      · cases h
      · rename_i hne
        rw [put]
        split
        · rfl
        · rw [if_neg (Ne.symm hne), List.length_cons, List.length_cons, ih h]

/-- A new key makes a map larger by one. -/
theorem size_insert {m : SortedMap κ α} {k : κ} {a : α} (h : m.get? k = none) :
    (m.insert k a).size = m.size + 1 :=
  length_put_of_find?_eq_none h

theorem length_filter_of_find?_eq_some {k : κ} {a : α} {es : List (κ × α)}
    (hes : es.Pairwise fun x y => rank x.1 < rank y.1) (h : find? k es = some a) :
    (es.filter fun e => rank e.1 != rank k).length + 1 = es.length := by
  induction es with
  | nil => cases h
  | cons hd rest ih =>
      obtain ⟨j, b⟩ := hd
      obtain ⟨hlt, hrest⟩ := List.pairwise_cons.1 hes
      rw [find?] at h
      split at h
      · -- nothing behind the entry is under the same key
        rename_i heq
        have hkept : rest.filter (fun e => rank e.1 != rank k) = rest :=
          List.filter_eq_self.2 fun e he => bne_iff_ne.2 (Nat.ne_of_gt (heq ▸ hlt e he))
        rw [List.filter_cons_of_neg (by simp [heq]), hkept, List.length_cons]
      · rename_i hne
        rw [List.filter_cons_of_pos (by simpa using hne), List.length_cons, ih hrest h,
          List.length_cons]

/-- A map without one of its keys is smaller by one. -/
theorem size_erase {m : SortedMap κ α} {k : κ} {a : α} (h : m.get? k = some a) :
    (m.erase k).size + 1 = m.size :=
  length_filter_of_find?_eq_some m.ascending h

/-! ## Maps with one key -/

theorem eq_of_get?_single [DecidableEq κ] {k j : κ} {a b : α}
    (h : (empty.insert k a).get? j = some b) : j = k := by
  rw [get?_insert, get?_empty] at h
  split at h
  · rename_i hsame
    exact hsame.symm
  · cases h

theorem erase_single [DecidableEq κ] (k : κ) (a : α) : (empty.insert k a).erase k = empty := by
  refine ext_get? fun j => ?_
  rw [get?_erase, get?_insert]
  split
  · rfl
  · rfl

/-! ## Maps made from lists -/

section OfList

variable [DecidableEq κ]

/-- What holds of every entry of a list holds of every entry of the map that it makes. -/
theorem forall_get?_ofList {P : κ → α → Prop} {es : List (κ × α)} (h : ∀ e ∈ es, P e.1 e.2)
    {k : κ} {a : α} (hk : (ofList es).get? k = some a) : P k a := by
  suffices hfold : ∀ m : SortedMap κ α, (∀ k a, m.get? k = some a → P k a) →
      ∀ k a, (es.foldl (fun m e => m.insert e.1 e.2) m).get? k = some a → P k a from
    hfold empty (fun _ _ hnone => by cases hnone) k a hk
  clear hk
  induction es with
  | nil => exact fun m hm => hm
  | cons e rest ih =>
      intro m hm
      refine ih (fun e he => h e (List.mem_cons_of_mem _ he)) (m.insert e.1 e.2) ?_
      intro j b hj
      rw [get?_insert] at hj
      by_cases hej : e.1 = j
      · rw [if_pos hej] at hj
        cases hj
        exact hej ▸ h e List.mem_cons_self
      · rw [if_neg hej] at hj
        exact hm j b hj

/-- A list whose entries are under keys of their own makes the map of these entries. -/
theorem get?_ofList_eq_some_iff {es : List (κ × α)} (hes : (es.map Prod.fst).Nodup) {k : κ}
    {a : α} : (ofList es).get? k = some a ↔ (k, a) ∈ es := by
  suffices hfold : ∀ m : SortedMap κ α, (∀ e ∈ es, m.get? e.1 = none) →
      ((es.foldl (fun m e => m.insert e.1 e.2) m).get? k = some a ↔
        (k, a) ∈ es ∨ m.get? k = some a) from
    (hfold empty fun _ _ => rfl).trans (or_iff_left (by simp))
  induction es with
  | nil => simp
  | cons e rest ih =>
      obtain ⟨j, b⟩ := e
      obtain ⟨hnew, hrest⟩ := List.nodup_cons.1 hes
      have hother (f : κ × α) (hf : f ∈ rest) : j ≠ f.1 := by
        rintro rfl
        exact hnew (List.mem_map.2 ⟨f, hf, rfl⟩)
      intro m hm
      have hstill (f : κ × α) (hf : f ∈ rest) : (m.insert j b).get? f.1 = none := by
        rw [get?_insert, if_neg (hother f hf)]
        exact hm f (List.mem_cons_of_mem _ hf)
      rw [List.foldl_cons, ih hrest _ hstill, get?_insert, List.mem_cons, Prod.mk.injEq]
      by_cases hj : j = k
      · subst hj
        have hnone : m.get? j = none := hm (j, b) List.mem_cons_self
        rw [if_pos rfl, hnone, Option.some.injEq, or_comm]
        simp [eq_comm]
      · rw [if_neg hj]
        simp [Ne.symm hj]

/-- A function of the keys and the values can be applied before a map is made from a list or
after it. -/
theorem get?_ofList_map (f : κ → α → β) (es : List (κ × α)) (k : κ) :
    (ofList (es.map fun e => (e.1, f e.1 e.2))).get? k = ((ofList es).get? k).map (f k) := by
  suffices hfold : ∀ (m : SortedMap κ α) (n : SortedMap κ β),
      n.get? k = (m.get? k).map (f k) →
      ((es.map fun e => (e.1, f e.1 e.2)).foldl (fun n e => n.insert e.1 e.2) n).get? k =
        ((es.foldl (fun m e => m.insert e.1 e.2) m).get? k).map (f k) from hfold empty empty rfl
  induction es with
  | nil => exact fun m n h => h
  | cons e rest ih =>
      intro m n h
      apply ih (m.insert e.1 e.2) (n.insert e.1 (f e.1 e.2))
      rw [get?_insert, get?_insert]
      by_cases hek : e.1 = k
      · rw [if_pos hek, if_pos hek, Option.map_some, hek]
      · rw [if_neg hek, if_neg hek, h]

/-- Ascending entries are inserted each beside the others. -/
theorem get?_foldl_insert {es : List (κ × α)} (hes : es.Pairwise fun x y => rank x.1 < rank y.1)
    (m : SortedMap κ α) (k : κ) :
    (es.foldl (fun m e => m.insert e.1 e.2) m).get? k = (find? k es).or (m.get? k) := by
  induction es generalizing m with
  | nil => rfl
  | cons e rest ih =>
      obtain ⟨hlt, hrest⟩ := List.pairwise_cons.1 hes
      obtain ⟨j, a⟩ := e
      rw [List.foldl_cons, ih hrest, get?_insert, find?]
      by_cases hj : j = k
      · subst hj
        rw [find?_eq_none_of_lt hlt, if_pos rfl, if_pos rfl]
        rfl
      · rw [if_neg hj, if_neg (fun hrank => hj (Ranked.rank_injective hrank))]

/-- A map is made of its entries. -/
theorem ofList_entries (m : SortedMap κ α) : ofList m.entries = m := by
  apply ext_get?
  intro k
  rw [ofList, get?_foldl_insert m.ascending, get?_empty, Option.or_none]
  rfl

end OfList

end TupleWire.SortedMap
