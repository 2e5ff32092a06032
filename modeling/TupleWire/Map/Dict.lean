/-
  Finite maps that keep their keys in the order of first insertion.

  The entries of a `Dict` have pairwise distinct keys, which is part of the
  type.  The view is `get?`; `get?_insert` and `get?_erase` say what the
  operations do to it.
-/

set_option autoImplicit false

namespace TupleWire

/-- A finite map with distinct keys, in order of first insertion. -/
structure Dict (κ α : Type) where
  entries : List (κ × α)
  nodup : (entries.map Prod.fst).Nodup

namespace Dict

variable {κ α : Type}

instance [DecidableEq κ] [DecidableEq α] : DecidableEq (Dict κ α) := fun a b =>
  decidable_of_iff (a.entries = b.entries) ⟨fun h => by cases a; cases b; simp_all, congrArg _⟩

/-- The map without entries. -/
def empty : Dict κ α := ⟨[], by simp⟩

instance : Inhabited (Dict κ α) := ⟨empty⟩

/-- The number of keys. -/
def size (d : Dict κ α) : Nat := d.entries.length

/-- Whether there is no key. -/
def isEmpty (d : Dict κ α) : Bool := d.entries.isEmpty

/-- The keys, in order of first insertion. -/
def keys (d : Dict κ α) : List κ := d.entries.map Prod.fst

/-- The values, in the order of their keys. -/
def values (d : Dict κ α) : List α := d.entries.map Prod.snd

section Keys

variable [DecidableEq κ]

/-- The value of the first entry with a key. -/
def find? (k : κ) : List (κ × α) → Option α
  | [] => none
  | (j, a) :: rest => if j = k then some a else find? k rest

/-- The entries with one key set, in place if it is there and at the end otherwise. -/
def put (k : κ) (a : α) : List (κ × α) → List (κ × α)
  | [] => [(k, a)]
  | (j, b) :: rest => if j = k then (k, a) :: rest else (j, b) :: put k a rest

theorem mem_keys_put {k j : κ} {a : α} {es : List (κ × α)} :
    j ∈ (put k a es).map Prod.fst ↔ j = k ∨ j ∈ es.map Prod.fst := by
  induction es with
  | nil => simp [put]
  | cons hd rest ih =>
      obtain ⟨i, b⟩ := hd
      rw [put]
      split
      · rename_i h; subst h; simp
      · rw [List.map_cons, List.map_cons, List.mem_cons, List.mem_cons, ih]
        constructor
        · rintro (h | h | h) <;> simp [h]
        · rintro (h | h | h) <;> simp [h]

theorem put_nodup {k : κ} {a : α} {es : List (κ × α)} (h : (es.map Prod.fst).Nodup) :
    ((put k a es).map Prod.fst).Nodup := by
  induction es with
  | nil => simp [put]
  | cons hd rest ih =>
      obtain ⟨i, b⟩ := hd
      have ⟨hi, hrest⟩ := List.nodup_cons.1 h
      rw [put]
      split
      · rename_i heq; subst heq; exact List.nodup_cons.2 ⟨hi, hrest⟩
      · rename_i hne
        refine List.nodup_cons.2 ⟨fun hmem => ?_, ih hrest⟩
        rcases mem_keys_put.1 hmem with heq | hmem
        · exact hne heq
        · exact hi hmem

/-- The value under a key. -/
def get? (d : Dict κ α) (k : κ) : Option α := find? k d.entries

/-- Whether a key is there. -/
def contains (d : Dict κ α) (k : κ) : Bool := (d.get? k).isSome

/-- The map with a key set to a value. -/
def insert (d : Dict κ α) (k : κ) (a : α) : Dict κ α :=
  ⟨put k a d.entries, put_nodup d.nodup⟩

/-- The map without a key. -/
def erase (d : Dict κ α) (k : κ) : Dict κ α :=
  ⟨d.entries.filter (fun e => !decide (e.1 = k)), (List.filter_sublist.map Prod.fst).nodup d.nodup⟩

/-- The map that a list of entries makes; later entries replace earlier ones. -/
def ofList (es : List (κ × α)) : Dict κ α :=
  es.foldl (fun d e => d.insert e.1 e.2) empty

@[simp] theorem get?_empty (k : κ) : (empty : Dict κ α).get? k = none := rfl

theorem get?_insert (d : Dict κ α) (k j : κ) (a : α) :
    (d.insert k a).get? j = if k = j then some a else d.get? j := by
  show find? j (put k a d.entries) = if k = j then some a else find? j d.entries
  induction d.entries with
  | nil => simp [put, find?]
  | cons hd rest ih =>
      obtain ⟨i, b⟩ := hd
      rw [put]
      split
      · rename_i heq; subst heq
        simp only [find?]
        split <;> rfl
      · rename_i hne
        simp only [find?, ih]
        split
        · rename_i heq; subst heq
          rw [if_neg (fun h => hne h.symm)]
        · rfl

theorem get?_erase (d : Dict κ α) (k j : κ) :
    (d.erase k).get? j = if k = j then none else d.get? j := by
  show find? j (d.entries.filter _) = if k = j then none else find? j d.entries
  induction d.entries with
  | nil => simp [find?]
  | cons hd rest ih =>
      obtain ⟨i, b⟩ := hd
      by_cases hi : i = k
      · subst hi
        simp only [List.filter_cons, decide_true, Bool.not_true, Bool.false_eq_true, if_false, ih,
          find?]
        split <;> rfl
      · simp only [List.filter_cons, hi, decide_false, Bool.not_false, if_true, find?, ih]
        by_cases h : k = j
        · subst h; simp [hi]
        · simp [h]

end Keys

end Dict

end TupleWire
