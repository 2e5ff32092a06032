/-
  Finite maps in ascending order of their keys.

  The order is part of the type: the entries of a map are strictly ascending, so
  a map has one list of entries and a key at most one value.  The view is
  `get?`; `get?_insert` and `get?_erase` say what the operations do to it, and
  `ext_get?` that a map is determined by it.
-/

set_option autoImplicit false

namespace TupleWire

/-- Key types that are ordered by a rank. -/
class Ranked (κ : Type) where
  rank : κ → Nat
  rank_injective : ∀ {a b : κ}, rank a = rank b → a = b

export Ranked (rank)

instance : Ranked UInt8 := ⟨UInt8.toNat, UInt8.toNat_inj.1⟩

instance : Ranked UInt32 := ⟨UInt32.toNat, UInt32.toNat_inj.1⟩

instance : Ranked UInt64 := ⟨UInt64.toNat, UInt64.toNat_inj.1⟩

/-- A finite map whose entries are listed in strictly ascending order of rank. -/
structure SortedMap (κ α : Type) [Ranked κ] where
  entries : List (κ × α)
  ascending : entries.Pairwise (fun a b => rank a.1 < rank b.1)

namespace SortedMap

variable {κ α : Type} [Ranked κ]

instance [DecidableEq κ] [DecidableEq α] : DecidableEq (SortedMap κ α) := fun a b =>
  decidable_of_iff (a.entries = b.entries) ⟨fun h => by cases a; cases b; simp_all, congrArg _⟩

/-! ## Operations on entry lists -/

/-- The value of the first entry with a key. -/
def find? (k : κ) : List (κ × α) → Option α
  | [] => none
  | (j, b) :: rest => if rank j = rank k then some b else find? k rest

/-- The entries with one key set; an entry that had the key is replaced. -/
def put (k : κ) (a : α) : List (κ × α) → List (κ × α)
  | [] => [(k, a)]
  | (j, b) :: rest =>
      if rank k < rank j then (k, a) :: (j, b) :: rest
      else if rank k = rank j then (k, a) :: rest
      else (j, b) :: put k a rest

theorem mem_put {k : κ} {a : α} {e : κ × α} {es : List (κ × α)} (h : e ∈ put k a es) :
    e = (k, a) ∨ e ∈ es := by
  induction es with
  | nil => simpa [put] using h
  | cons hd rest ih =>
      obtain ⟨j, b⟩ := hd
      rw [put] at h
      split at h
      · simpa using h
      · split at h
        · rcases List.mem_cons.1 h with rfl | h <;> simp_all
        · rcases List.mem_cons.1 h with rfl | h
          · simp
          · rcases ih h with rfl | h <;> simp_all

theorem put_ascending {k : κ} {a : α} {es : List (κ × α)}
    (h : es.Pairwise (fun a b => rank a.1 < rank b.1)) :
    (put k a es).Pairwise (fun a b => rank a.1 < rank b.1) := by
  induction es with
  | nil => simp [put]
  | cons hd rest ih =>
      obtain ⟨j, b⟩ := hd
      have ⟨hhd, hrest⟩ := List.pairwise_cons.1 h
      rw [put]
      split
      · rename_i hlt
        refine List.pairwise_cons.2 ⟨fun e he => ?_, h⟩
        rcases List.mem_cons.1 he with rfl | he
        · exact hlt
        · exact Nat.lt_trans hlt (hhd e he)
      · split
        · rename_i _ heq
          exact List.pairwise_cons.2 ⟨fun e he => heq ▸ hhd e he, hrest⟩
        · refine List.pairwise_cons.2 ⟨fun e he => ?_, ih hrest⟩
          rcases mem_put he with rfl | he
          · simp only; omega
          · exact hhd e he

theorem find?_put (k j : κ) (a : α) (es : List (κ × α)) :
    find? j (put k a es) = if rank k = rank j then some a else find? j es := by
  induction es with
  | nil => simp [put, find?]
  | cons hd rest ih =>
      obtain ⟨i, b⟩ := hd
      simp only [put]
      split
      · rfl
      · split
        · rename_i _ heq
          simp only [find?, heq]
          split <;> rfl
        · by_cases hi : rank i = rank j
          · have hk : rank k ≠ rank j := by omega
            simp [find?, hi, hk]
          · simp [find?, hi, ih]

/-! ## Maps -/

/-- The map without entries. -/
def empty : SortedMap κ α := ⟨[], .nil⟩

instance : Inhabited (SortedMap κ α) := ⟨empty⟩

/-- The value under a key. -/
def get? (m : SortedMap κ α) (k : κ) : Option α := find? k m.entries

/-- The map with a key set to a value. -/
def insert (m : SortedMap κ α) (k : κ) (a : α) : SortedMap κ α :=
  ⟨put k a m.entries, put_ascending m.ascending⟩

/-- The map without a key. -/
def erase (m : SortedMap κ α) (k : κ) : SortedMap κ α :=
  ⟨m.entries.filter (fun e => rank e.1 != rank k), m.ascending.filter _⟩

/-- The map that a list of entries makes; later entries replace earlier ones. -/
def ofList (es : List (κ × α)) : SortedMap κ α :=
  es.foldl (fun m e => m.insert e.1 e.2) empty

/-- The number of keys. -/
def size (m : SortedMap κ α) : Nat := m.entries.length

/-- Whether there is no key. -/
def isEmpty (m : SortedMap κ α) : Bool := m.entries.isEmpty

/-- The keys, ascending. -/
def keys (m : SortedMap κ α) : List κ := m.entries.map Prod.fst

/-- The values, in ascending order of their keys. -/
def values (m : SortedMap κ α) : List α := m.entries.map Prod.snd

/-- The map with a value replaced by a function of it, if the key is there. -/
def modify (m : SortedMap κ α) (k : κ) (f : α → α) : SortedMap κ α :=
  match m.get? k with
  | some a => m.insert k (f a)
  | none => m

@[simp] theorem get?_empty (k : κ) : (empty : SortedMap κ α).get? k = none := rfl

theorem get?_insert (m : SortedMap κ α) (k j : κ) (a : α) [DecidableEq κ] :
    (m.insert k a).get? j = if k = j then some a else m.get? j := by
  rw [get?, insert, find?_put]
  by_cases h : k = j
  · simp [h]
  · simp [h, mt Ranked.rank_injective h, get?]

theorem get?_erase (m : SortedMap κ α) (k j : κ) [DecidableEq κ] :
    (m.erase k).get? j = if k = j then none else m.get? j := by
  show find? j (m.entries.filter _) = if k = j then none else find? j m.entries
  induction m.entries with
  | nil => simp [find?]
  | cons hd rest ih =>
      obtain ⟨i, b⟩ := hd
      by_cases hi : rank i = rank k
      · simp only [List.filter_cons, hi, bne_self_eq_false, Bool.false_eq_true, if_false, ih]
        simp only [find?, hi]
        by_cases h : k = j
        · simp [h]
        · simp [h, mt Ranked.rank_injective h]
      · simp only [List.filter_cons, bne_iff_ne, ne_eq, hi, not_false_eq_true, if_true, find?, ih]
        by_cases h : k = j
        · subst h; simp [hi]
        · simp [h]

/-- The entry under the lowest key decides: a key below every entry is not there. -/
theorem find?_eq_none_of_lt {k : κ} {es : List (κ × α)} (h : ∀ e ∈ es, rank k < rank e.1) :
    find? k es = none := by
  induction es with
  | nil => rfl
  | cons hd rest ih =>
      obtain ⟨j, b⟩ := hd
      have hj := h (j, b) (by simp)
      rw [find?, if_neg (by simp only at hj; omega)]
      exact ih fun e he => h e (by simp [he])

/-- A map is determined by its look-ups. -/
theorem ext_get? {m n : SortedMap κ α} (h : ∀ k, m.get? k = n.get? k) : m = n := by
  obtain ⟨es, hes⟩ := m
  obtain ⟨fs, hfs⟩ := n
  suffices es = fs by simp [this]
  simp only [get?] at h
  induction es generalizing fs with
  | nil =>
      cases fs with
      | nil => rfl
      | cons hd rest => have := h hd.1; simp [find?] at this
  | cons hd rest ih =>
      obtain ⟨j, b⟩ := hd
      have ⟨hlt, hrest⟩ := List.pairwise_cons.1 hes
      cases fs with
      | nil => have := h j; simp [find?] at this
      | cons hd' rest' =>
          obtain ⟨j', b'⟩ := hd'
          have ⟨hlt', hrest'⟩ := List.pairwise_cons.1 hfs
          have hj : rank j = rank j' := by
            rcases Nat.lt_trichotomy (rank j) (rank j') with hc | hc | hc
            · have h0 := h j
              rw [find?, if_pos rfl, find?, if_neg (by omega), find?_eq_none_of_lt] at h0
              · exact absurd h0 (by simp)
              · intro e he; exact Nat.lt_trans hc (hlt' e he)
            · exact hc
            · have h0 := h j'
              rw [find?, if_neg (by omega), find?_eq_none_of_lt, find?, if_pos rfl] at h0
              · exact absurd h0 (by simp)
              · intro e he; exact Nat.lt_trans hc (hlt e he)
          obtain rfl := Ranked.rank_injective hj
          have hb : b = b' := by simpa [find?] using h j
          subst hb
          congr 1
          refine ih hrest rest' hrest' fun k => ?_
          by_cases hk : rank j = rank k
          · rw [find?_eq_none_of_lt (fun e he => hk ▸ hlt e he),
              find?_eq_none_of_lt (fun e he => hk ▸ hlt' e he)]
          · simpa [find?, hk] using h k

end SortedMap

end TupleWire
