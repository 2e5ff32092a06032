/-
  The rows of a space as a finite map.

  As long as every tuple has a primary key and operations assign to fields that
  are there, the first one apart, a space is a map from primary keys to rows.  A
  `RowMap` keeps its keys in the order of first insertion, and
  `DataRequest.applyTo` says what a request comes to on it by look-up, insertion
  and erasure alone; a run of requests does the same to both
  (`rows_are_a_map`).  The key of a row is the standard form of its first field,
  since a search takes the two zeros for one key.

  The simulation is `Mirrors`.  It is kept by a row at the end, by one that is
  replaced in its place and by one that is removed, which is all that a request
  does to rows.
-/
import Mathlib.Data.List.InsertIdx
import TupleWire.Proofs.Instance.PrimaryKey
import TupleWire.Proofs.Map.Dict

set_option autoImplicit false

namespace TupleWire

open StoredSpace (applyOperations assignment? assignments hasPrimaryKey matchesKey sharesKey)

/-! ## Primary keys -/

/-- The primary key of a row, as a search sees it. -/
def Row.key (row : Row) : Value := (row.head?.map Value.standard).getD .nil

/-- Whether a tuple has a primary key: a first field without a NaN in it. -/
def Row.hasKey (tuple : Row) : Bool := tuple.head?.any fun key => key.agrees key

namespace Row

variable {row other tuple : Row}

theorem key_congr (h : row.head? = other.head?) : row.key = other.key := by
  rw [key, h, key]

theorem hasKey_congr (h : row.head? = other.head?) : row.hasKey = other.hasKey := by
  rw [hasKey, h, hasKey]

theorem hasPrimaryKey_iff (h : row.hasKey = true) {key : Value} :
    hasPrimaryKey key row = true ↔ row.key = key.standard := by
  cases row with
  | nil => cases h
  | cons field fields =>
      have hself : field.agrees field = true := h
      have hkey : Row.key (field :: fields) = field.standard := rfl
      rw [hasPrimaryKey, Value.agrees_iff, hkey, and_iff_right hself]

theorem sharesKey_iff (h : row.hasKey = true) (htuple : tuple.hasKey = true) :
    sharesKey row tuple = true ↔ row.key = tuple.key := by
  cases tuple with
  | nil => cases htuple
  | cons field fields => exact hasPrimaryKey_iff h

end Row

/-! ## Assignments to other fields -/

/-- Whether operations are all assignments to fields that a row of so many fields has, the first
one apart. -/
def assignsWithin (width : Nat) (operations : List Value) : Bool :=
  operations.all fun operation =>
    (assignment? operation).any fun a => a.1 != 0 && decide (a.1.toNat < width)

/-- A row with values assigned to its fields. -/
def Row.assign (row : Row) (operations : List Value) : Row :=
  (assignments operations).foldl (fun row a => row.set a.1.toNat a.2) row

theorem assignsWithin_cons {width : Nat} {operation : Value} {rest : List Value}
    (h : assignsWithin width (operation :: rest) = true) :
    (∃ a, assignment? operation = some a ∧ a.1 ≠ 0 ∧ a.1.toNat < width) ∧
      assignsWithin width rest = true := by
  rw [assignsWithin, List.all_cons, Bool.and_eq_true, Option.any_eq_true] at h
  obtain ⟨⟨a, ha, hfits⟩, hrest⟩ := h
  rw [Bool.and_eq_true, bne_iff_ne, decide_eq_true_iff] at hfits
  exact ⟨⟨a, ha, hfits⟩, hrest⟩

namespace Row

variable {row : Row} {operations : List Value}

/-- Such operations are carried out to the end. -/
theorem applyOperations_eq (h : assignsWithin row.length operations = true) :
    applyOperations row operations = (none, row.assign operations) := by
  induction operations generalizing row with
  | nil => rfl
  | cons operation rest ih =>
      obtain ⟨⟨⟨field, value⟩, ha, -, hfield⟩, hrest⟩ := assignsWithin_cons h
      have hset : assignsWithin (row.set field.toNat value).length rest = true := by
        rw [List.length_set]
        exact hrest
      have hassign : row.assign (operation :: rest) =
          Row.assign (row.set field.toNat value) rest := by
        rw [assign, StoredSpace.assignments_cons_of_some ha, List.foldl_cons]
        rfl
      rw [applyOperations, ha]
      dsimp only
      rw [if_pos hfield, ih hset, hassign]

/-- Such operations leave the first field alone. -/
theorem head?_assign (h : assignsWithin row.length operations = true) :
    (row.assign operations).head? = row.head? := by
  induction operations generalizing row with
  | nil => rfl
  | cons operation rest ih =>
      obtain ⟨⟨⟨field, value⟩, ha, hne, -⟩, hrest⟩ := assignsWithin_cons h
      have hset : assignsWithin (row.set field.toNat value).length rest = true := by
        rw [List.length_set]
        exact hrest
      have hnot : field.toNat ≠ 0 := fun hzero => hne (UInt64.toNat_inj.1 hzero)
      rw [assign, StoredSpace.assignments_cons_of_some ha, List.foldl_cons]
      refine (ih hset).trans ?_
      rw [List.head?_eq_getElem?, List.head?_eq_getElem?, List.getElem?_set_ne hnot]

end Row

/-! ## Maps from keys to rows -/

/-- Rows by their primary keys, in order of first insertion. -/
abbrev RowMap : Type := Dict Value Row

namespace RowMap

/-- The rows with a key in an index.  By the first index, that is what is under the key. -/
def under (m : RowMap) (index : UInt32) : Row → List Row
  | [] => m.values
  | key :: _ =>
      if index = 0 then (m.get? key.standard).toList
      else m.values.filter (matchesKey index [key])

/-- The first row with a key in an index. -/
def first? (m : RowMap) (index : UInt32) (key : Row) : Option Row := (m.under index key).head?

/-- The map with a row in place of the one with its key, or at the end. -/
def put (m : RowMap) (row : Row) : RowMap := m.insert row.key row

end RowMap

namespace DataRequest

/-- What a request comes to on a map: the rows that it gives, unless it fails, and the map after
it. -/
def applyTo (m : RowMap) (index : UInt32) : DataRequest → Option (List Row) × RowMap
  | select key params =>
      (some (((m.under index key).drop params.offset.toNat).take params.limit.toNat), m)
  | insert tuple =>
      if m.contains tuple.key then (none, m) else (some [tuple], m.put tuple)
  | replace tuple => (some [tuple], m.put tuple)
  | update key operations =>
      match m.first? index key with
      | some row => (some [row.assign operations], m.put (row.assign operations))
      | none => (some [], m)
  | upsert tuple operations =>
      match m.get? tuple.key with
      | some row => (some [], m.put (row.assign operations))
      | none => (some [], m.put tuple)
  | delete key =>
      match m.first? index key with
      | some row => (some [row], m.erase row.key)
      | none => (some [], m)

/-- Whether a request keeps to tuples with primary keys and to assignments to fields that are
there, the first one apart. -/
def isOrderly (m : RowMap) (index : UInt32) : DataRequest → Bool
  | select _ _ | delete _ => true
  | insert tuple | replace tuple => tuple.hasKey
  | update key operations =>
      (m.first? index key).all fun row => assignsWithin row.length operations
  | upsert tuple operations =>
      tuple.hasKey && (m.get? tuple.key).all fun row => assignsWithin row.length operations

end DataRequest

namespace RowMap

/-- The map after requests. -/
def after (m : RowMap) : List (UInt32 × DataRequest) → RowMap
  | [] => m
  | (index, op) :: rest => after (op.applyTo m index).2 rest

/-- Whether requests are all orderly, each on the map as it is by then. -/
def areOrderly (m : RowMap) : List (UInt32 × DataRequest) → Bool
  | [] => true
  | (index, op) :: rest => op.isOrderly m index && areOrderly (op.applyTo m index).2 rest

end RowMap

/-! ## The simulation -/

/-- A space holds the rows of a map, in its order. -/
structure Mirrors (m : RowMap) (s : StoredSpace) : Prop where
  entries : m.entries = s.rows.map fun row => (row.key, row)
  keyed : ∀ row ∈ s.rows, row.hasKey = true

namespace Mirrors

variable {m : RowMap} {s : StoredSpace} {index : UInt32} {key row tuple changed : Row}
  {position : Nat}

theorem values_eq (h : Mirrors m s) : m.values = s.rows := by
  rw [Dict.values, h.entries, List.map_map]
  exact List.map_id _

theorem keys_eq (h : Mirrors m s) : m.keys = s.rows.map Row.key := by
  rw [Dict.keys, h.entries, List.map_map]
  rfl

theorem nodup (h : Mirrors m s) : (s.rows.map Row.key).Nodup := by
  rw [← h.keys_eq]
  exact m.nodup

theorem getElem?_entries (h : Mirrors m s) (hrow : s.rows[position]? = some row) :
    m.entries[position]? = some (row.key, row) := by
  rw [h.entries, List.getElem?_map, hrow]
  rfl

theorem get?_key (h : Mirrors m s) (hrow : row ∈ s.rows) : m.get? row.key = some row := by
  refine Dict.find?_eq_some_of_mem m.nodup ?_
  rw [h.entries]
  exact List.mem_map.2 ⟨row, hrow, rfl⟩

theorem of_get? (h : Mirrors m s) {k : Value} (hget : m.get? k = some row) :
    row ∈ s.rows ∧ row.key = k := by
  have hmem := Dict.mem_of_find?_eq_some hget
  rw [h.entries] at hmem
  obtain ⟨row', hrow', heq⟩ := List.mem_map.1 hmem
  cases heq
  exact ⟨hrow', rfl⟩

/-! ## What is found -/

/-- A search of the first index finds what is under the key. -/
theorem filter_hasPrimaryKey (h : Mirrors m s) (k : Value) :
    s.rows.filter (hasPrimaryKey k) = (m.get? k.standard).toList := by
  have hiff {row : Row} (hrow : row ∈ s.rows) :
      hasPrimaryKey k row = true ↔ row.key = k.standard :=
    Row.hasPrimaryKey_iff (h.keyed row hrow)
  cases hget : m.get? k.standard with
  | none =>
      rw [Option.toList_none, List.filter_eq_nil_iff]
      intro row hrow hfound
      have hsome := h.get?_key hrow
      rw [(hiff hrow).1 hfound, hget] at hsome
      cases hsome
  | some row =>
      obtain ⟨hrow, hkey⟩ := h.of_get? hget
      have hnodup : (s.rows.filter (hasPrimaryKey k)).Nodup :=
        (List.Nodup.of_map _ h.nodup).filter _
      -- the keys of two rows differ, so the row under the key is the only one that is found
      refine List.perm_singleton.1
        ((List.perm_ext_iff_of_nodup hnodup (List.nodup_singleton row)).2 fun other => ?_)
      rw [List.mem_filter, List.mem_singleton]
      constructor
      · rintro ⟨hother, hfound⟩
        have hsome := h.get?_key hother
        rw [(hiff hother).1 hfound, hget] at hsome
        exact (Option.some.inj hsome).symm
      · rintro rfl
        exact ⟨hrow, (hiff hrow).2 hkey⟩

/-- A search finds in the space what it finds in the map. -/
theorem filter_matchesKey (h : Mirrors m s) (index : UInt32) (key : Row) :
    s.rows.filter (matchesKey index key) = m.under index key := by
  cases key with
  | nil =>
      rw [RowMap.under, h.values_eq, List.filter_eq_self]
      intro row _
      rfl
  | cons k ks =>
      have hfirst : matchesKey index (k :: ks) = matchesKey index [k] := rfl
      rw [RowMap.under, hfirst]
      split
      · rename_i hindex
        subst hindex
        have hprimary : matchesKey 0 [k] = hasPrimaryKey k := by
          funext row
          cases row <;> rfl
        rw [hprimary]
        exact h.filter_hasPrimaryKey k
      · rw [h.values_eq]

theorem find?_matchesKey (h : Mirrors m s) (index : UInt32) (key : Row) :
    s.rows.find? (matchesKey index key) = m.first? index key := by
  rw [RowMap.first?, ← h.filter_matchesKey, List.head?_filter]

theorem find?_sharesKey (h : Mirrors m s) (htuple : tuple.hasKey = true) :
    s.rows.find? (fun row => sharesKey row tuple) = m.get? tuple.key := by
  cases tuple with
  | nil => cases htuple
  | cons k ks =>
      have hkey : Row.key (k :: ks) = k.standard := rfl
      have hshares : (fun row => sharesKey row (k :: ks)) = hasPrimaryKey k := rfl
      rw [hkey, hshares, ← List.head?_filter, h.filter_hasPrimaryKey]
      cases m.get? k.standard <;> rfl

/-- A search for a position finds none, or that of what is found. -/
theorem findIdx?_cases {rows : List Row} {p : Row → Bool} {found : Option Row}
    (h : rows.find? p = found) :
    (rows.findIdx? p = none ∧ found = none) ∨
      ∃ position row, rows.findIdx? p = some position ∧ rows[position]? = some row ∧
        p row = true ∧ found = some row := by
  rw [List.find?_eq_bind_findIdx?_getElem?] at h
  cases hfind : rows.findIdx? p with
  | none =>
      rw [hfind] at h
      exact .inl ⟨rfl, h.symm⟩
  | some position =>
      obtain ⟨hposition, hp, -⟩ := List.findIdx?_eq_some_iff_getElem.1 hfind
      have hrow := List.getElem?_eq_getElem hposition
      rw [hfind, Option.bind_some, hrow] at h
      exact .inr ⟨position, _, rfl, hrow, hp, h.symm⟩

theorem first?_cases (h : Mirrors m s) (index : UInt32) (key : Row) :
    (s.find? index key = none ∧ m.first? index key = none) ∨
      ∃ position row, s.find? index key = some position ∧ s.rows[position]? = some row ∧
        matchesKey index key row = true ∧ m.first? index key = some row :=
  findIdx?_cases (h.find?_matchesKey index key)

theorem tuple_cases (h : Mirrors m s) (htuple : tuple.hasKey = true) :
    (s.positionOf? tuple = none ∧ m.get? tuple.key = none) ∨
      ∃ position row, s.positionOf? tuple = some position ∧ s.rows[position]? = some row ∧
        sharesKey row tuple = true ∧ m.get? tuple.key = some row := by
  rw [StoredSpace.positionOf?_eq]
  exact findIdx?_cases (h.find?_sharesKey htuple)

/-! ## What changes -/

/-- A row with a new key goes to the end. -/
theorem append (h : Mirrors m s) (htuple : tuple.hasKey = true)
    (hnew : m.get? tuple.key = none) : Mirrors (m.put tuple) (s.append tuple) where
  entries := by
    have hput : (m.put tuple).entries = m.entries ++ [(tuple.key, tuple)] :=
      Dict.put_of_find?_eq_none hnew
    rw [hput, h.entries, StoredSpace.append, List.map_append]
    rfl
  keyed := by
    intro row hrow
    rcases List.mem_append.1 hrow with hold | hlast
    · exact h.keyed row hold
    · rw [List.mem_singleton.1 hlast]
      exact htuple

/-- A row with the key of another one takes the place of that. -/
theorem set (h : Mirrors m s) (hrow : s.rows[position]? = some row)
    (hkey : changed.key = row.key) (hchanged : changed.hasKey = true) :
    Mirrors (m.put changed) (s.set position changed) where
  entries := by
    have hentry := h.getElem?_entries hrow
    rw [← hkey] at hentry
    have hput : (m.put changed).entries = m.entries.set position (changed.key, changed) :=
      Dict.put_of_getElem? m.nodup hentry
    rw [hput, h.entries, StoredSpace.set, List.map_set]
  keyed := by
    intro other hother
    rcases List.mem_or_eq_of_mem_set hother with hold | rfl
    · exact h.keyed other hold
    · exact hchanged

/-- Erasing its key removes a row. -/
theorem eraseIdx (h : Mirrors m s) (hrow : s.rows[position]? = some row) :
    Mirrors (m.erase row.key) { s with rows := s.rows.eraseIdx position } where
  entries := by
    have herase : (m.erase row.key).entries = m.entries.eraseIdx position :=
      Dict.filter_of_getElem? m.nodup (h.getElem?_entries hrow)
    rw [herase, h.entries, List.eraseIdx_map]
  keyed := by
    intro other hother
    exact h.keyed other (List.mem_of_mem_eraseIdx hother)

/-- Operations on a row that assign to its other fields take it to the row with these values. -/
theorem modify (h : Mirrors m s) {operations : List Value}
    (hrow : s.rows[position]? = some row)
    (hwithin : assignsWithin row.length operations = true) :
    s.modify position operations =
        (.ok (some (row.assign operations)), s.set position (row.assign operations)) ∧
      Mirrors (m.put (row.assign operations)) (s.set position (row.assign operations)) := by
  have hhead := Row.head?_assign hwithin
  have hkeyed : (row.assign operations).hasKey = true :=
    (Row.hasKey_congr hhead).trans (h.keyed row (List.mem_of_getElem? hrow))
  refine ⟨?_, h.set hrow (Row.key_congr hhead) hkeyed⟩
  simp only [StoredSpace.modify, hrow, Row.applyOperations_eq hwithin]

/-! ## Requests -/

/-- A replacement is the same on both, whether the key was there or not. -/
theorem replace (h : Mirrors m s) (htuple : tuple.hasKey = true) :
    Mirrors (m.put tuple) (s.replace tuple) := by
  rcases h.tuple_cases htuple with ⟨hposition, hget⟩ | ⟨position, row, hposition, hrow, hshares, -⟩
  · rw [StoredSpace.replace, hposition]
    exact h.append htuple hget
  · have hkey := (Row.sharesKey_iff (h.keyed row (List.mem_of_getElem? hrow)) htuple).1 hshares
    rw [StoredSpace.replace, hposition]
    exact h.set hrow hkey.symm htuple

/-- An orderly request gives the same on both, and the space still mirrors the map. -/
theorem apply {op : DataRequest} (h : Mirrors m s) (horderly : op.isOrderly m index = true) :
    (op.apply s index).1.toOption = (op.applyTo m index).1 ∧
      Mirrors (op.applyTo m index).2 (op.apply s index).2 := by
  cases op with
  | select key params =>
      refine ⟨?_, h⟩
      simp only [DataRequest.apply, DataRequest.applyTo, StoredSpace.select, h.filter_matchesKey]
      rfl
  | insert tuple =>
      rcases h.tuple_cases horderly with ⟨hposition, hget⟩ | ⟨position, row, hposition, -, -, hget⟩
      · simp only [DataRequest.apply, DataRequest.applyTo, StoredSpace.insert, hposition,
          Dict.contains, hget, Option.isSome_none, Bool.false_eq_true, if_false]
        exact ⟨rfl, h.append horderly hget⟩
      · simp only [DataRequest.apply, DataRequest.applyTo, StoredSpace.insert, hposition,
          Dict.contains, hget, Option.isSome_some, if_true]
        exact ⟨rfl, h⟩
  | replace tuple => exact ⟨rfl, h.replace horderly⟩
  | update key operations =>
      rcases h.first?_cases index key with ⟨hfind, hfirst⟩ | ⟨position, row, hfind, hrow, -, hfirst⟩
      · simp only [DataRequest.apply, DataRequest.applyTo, StoredSpace.update, hfind, hfirst]
        exact ⟨rfl, h⟩
      · have hwithin : assignsWithin row.length operations = true := by
          simpa [DataRequest.isOrderly, hfirst] using horderly
        obtain ⟨hmodify, hafter⟩ := h.modify hrow hwithin
        simp only [DataRequest.apply, DataRequest.applyTo, StoredSpace.update, hfind, hfirst,
          hmodify]
        exact ⟨rfl, hafter⟩
  | upsert tuple operations =>
      obtain ⟨htuple, hwithin⟩ := Bool.and_eq_true_iff.1 horderly
      rcases h.tuple_cases htuple with ⟨hposition, hget⟩ | ⟨position, row, hposition, hrow, -, hget⟩
      · simp only [DataRequest.apply, DataRequest.applyTo, StoredSpace.upsert, hposition, hget]
        exact ⟨rfl, h.append htuple hget⟩
      · rw [hget] at hwithin
        obtain ⟨hmodify, hafter⟩ := h.modify hrow hwithin
        simp only [DataRequest.apply, DataRequest.applyTo, StoredSpace.upsert, hposition, hget,
          hmodify]
        exact ⟨rfl, hafter⟩
  | delete key =>
      rcases h.first?_cases index key with ⟨hfind, hfirst⟩ | ⟨position, row, hfind, hrow, -, hfirst⟩
      · simp only [DataRequest.apply, DataRequest.applyTo, StoredSpace.delete, hfind, hfirst]
        exact ⟨rfl, h⟩
      · simp only [DataRequest.apply, DataRequest.applyTo, StoredSpace.delete, hfind, hfirst, hrow]
        exact ⟨rfl, h.eraseIdx hrow⟩

/-- An orderly run leaves the space as it leaves the map. -/
theorem after {requests : List (UInt32 × DataRequest)} (h : Mirrors m s)
    (horderly : m.areOrderly requests = true) : Mirrors (m.after requests) (s.after requests) := by
  induction requests generalizing m s with
  | nil => exact h
  | cons r rest ih =>
      obtain ⟨index, op⟩ := r
      obtain ⟨hfirst, hrest⟩ := Bool.and_eq_true_iff.1 horderly
      exact ih (h.apply hfirst).2 hrest

end Mirrors

theorem RowMap.areOrderly_append (m : RowMap) (done rest : List (UInt32 × DataRequest)) :
    m.areOrderly (done ++ rest) = (m.areOrderly done && (m.after done).areOrderly rest) := by
  induction done generalizing m with
  | nil => rfl
  | cons r done ih =>
      obtain ⟨index, op⟩ := r
      rw [List.cons_append, areOrderly, areOrderly, ih, Bool.and_assoc]
      rfl

/-! ## A space as a map -/

/-- What a space holds and answers by the primary key is what a map says. -/
structure StoredSpace.ReadsAs (s : StoredSpace) (m : RowMap) : Prop where
  rows_eq : s.rows = m.values
  keys_eq : s.rows.map Row.key = m.keys
  insert_fails_iff : ∀ tuple : Row, tuple.hasKey = true →
    ((∃ e, s.insert tuple = .error e) ↔ (m.get? tuple.key).isSome = true)
  select_eq : ∀ key offset limit, s.select 0 [key] offset limit =
    ((m.get? key.standard).toList.drop offset).take limit
  delete_eq : ∀ key, (s.delete 0 [key]).1 = m.get? key.standard
  update_eq : ∀ key operations,
    (∀ row, m.get? key.standard = some row → assignsWithin row.length operations = true) →
    (s.update 0 [key] operations).1 =
      .ok ((m.get? key.standard).map fun row => row.assign operations)

theorem RowMap.first?_primary (m : RowMap) (key : Value) :
    m.first? 0 [key] = m.get? key.standard := by
  rw [first?, under, if_pos rfl]
  cases m.get? key.standard <;> rfl

theorem Mirrors.readsAs {m : RowMap} {s : StoredSpace} (h : Mirrors m s) : s.ReadsAs m where
  rows_eq := h.values_eq.symm
  keys_eq := h.keys_eq.symm
  insert_fails_iff := by
    intro tuple htuple
    rcases h.tuple_cases htuple with ⟨hposition, hget⟩ | ⟨position, row, hposition, -, -, hget⟩
    · simp [StoredSpace.insert, hposition, hget]
    · simp [StoredSpace.insert, hposition, hget]
  select_eq := by
    intro key offset limit
    rw [StoredSpace.select, h.filter_matchesKey, RowMap.under, if_pos rfl]
  delete_eq := by
    intro key
    rw [← m.first?_primary]
    rcases h.first?_cases 0 [key] with ⟨hfind, hfirst⟩ | ⟨position, row, hfind, hrow, -, hfirst⟩
    · simp only [StoredSpace.delete, hfind, hfirst]
    · simp only [StoredSpace.delete, hfind, hfirst, hrow]
  update_eq := by
    intro key operations hwithin
    rw [← m.first?_primary] at hwithin ⊢
    rcases h.first?_cases 0 [key] with ⟨hfind, hfirst⟩ | ⟨position, row, hfind, hrow, -, hfirst⟩
    · simp only [StoredSpace.update, hfind, hfirst, Option.map_none]
    · simp only [StoredSpace.update, hfind, hfirst, Option.map_some,
        (h.modify hrow (hwithin row hfirst)).1]

/-- Requests on a space that begins without rows, whose tuples have primary keys and whose
operations assign to fields that are there, the first one apart: at every step the space holds just
the rows of the map that the requests so far make, in the order of its keys; insertions fail on the
keys of the map and on no others, what is asked for, removed or changed by its primary key is what
the map has under it, and the next request gives what it gives on the map. -/
theorem rows_are_a_map {s : StoredSpace} (hs : s.rows = [])
    {requests : List (UInt32 × DataRequest)}
    (horderly : RowMap.areOrderly Dict.empty requests = true) (done : List (UInt32 × DataRequest))
    (hdone : done <+: requests) :
    (s.after done).ReadsAs (RowMap.after Dict.empty done) ∧
      ∀ index op, done ++ [(index, op)] <+: requests →
        (op.apply (s.after done) index).1.toOption =
          (op.applyTo (RowMap.after Dict.empty done) index).1 := by
  have hempty : Mirrors Dict.empty s := by
    refine ⟨?_, ?_⟩
    · rw [hs]
      rfl
    · rw [hs]
      exact fun _ hrow => nomatch hrow
  obtain ⟨rest, hrest⟩ := hdone
  have hsofar : RowMap.areOrderly Dict.empty done = true := by
    rw [← hrest, RowMap.areOrderly_append, Bool.and_eq_true] at horderly
    exact horderly.1
  have hmirrors := hempty.after hsofar
  refine ⟨hmirrors.readsAs, ?_⟩
  rintro index op ⟨later, hlater⟩
  rw [← hlater, List.append_assoc, RowMap.areOrderly_append, Bool.and_eq_true] at horderly
  have hnext : op.isOrderly (RowMap.after Dict.empty done) index = true :=
    (Bool.and_eq_true_iff.1 horderly.2).1
  exact (hmirrors.apply hnext).1

/-! ## Users that come, change and go -/

namespace Turnover

/-- A space for users, without any yet. -/
def users : StoredSpace := .create 512 "users"

/-- Gives a user an age. -/
def aged (age : UInt64) : List Value := [.array [.text "=", .uint 2, .uint age]]

/-- The number 1 is taken twice, replaced, freed and taken anew; the number 2 is added, found by the
name and changed; of the two zeros, the second takes the place of the first. -/
def requests : List (UInt32 × DataRequest) :=
  [(0, .insert [.uint 1, .text "ann", .uint 30]), (0, .upsert [.uint 2, .text "bob", .uint 40] []),
    (0, .insert [.f64 0, .text "nil"]), (0, .insert [.uint 1, .text "eve", .uint 20]),
    (0, .replace [.uint 1, .text "ann", .uint 31]), (0, .replace [.f64 0x8000000000000000]),
    (0, .upsert [.uint 2] (aged 41)), (0, .delete [.uint 1]), (1, .update [.text "bob"] (aged 42)),
    (0, .insert [.uint 1, .text "eve", .uint 20])]

theorem rows_are_a_map_of_turnover : users.rows = [] ∧
    RowMap.areOrderly Dict.empty requests = true ∧
    (users.after requests).ReadsAs (RowMap.after Dict.empty requests) ∧
    (users.after requests).rows = [[.uint 2, .text "bob", .uint 42], [.f64 0x8000000000000000],
      [.uint 1, .text "eve", .uint 20]] := by
  have horderly : RowMap.areOrderly Dict.empty requests = true := by decide +kernel
  obtain ⟨hreads, -⟩ := rows_are_a_map (s := users) rfl horderly requests (List.prefix_refl _)
  refine ⟨rfl, horderly, hreads, ?_⟩
  rw [hreads.rows_eq]
  decide +kernel

end Turnover

end TupleWire
