/-
  What operations leave of a row.

  Operations are carried out one after the other, up to the first one on a field
  that the row does not have.  A row keeps its width (`length_applyOperations`),
  and each of its fields holds the value that was assigned to it last, or what it
  held before (`getElem?_applyOperations`).

  A request that fails on the way does not take back what was assigned before.
  `failed_request_undone_iff` says when nothing is left of it: if what it had
  assigned by then was there already.
-/
import TupleWire.Proofs.Instance.Transparency

set_option autoImplicit false

namespace TupleWire

namespace StoredSpace

/-! ## Assignments -/

/-- The assignments of operations, each a field and its new value. -/
def assignments (operations : List Value) : List (UInt64 × Value) :=
  operations.filterMap assignment?

/-- The assignments that a row of so many fields takes: those before the first one to a field that
it does not have. -/
def taken (width : Nat) (operations : List Value) : List (UInt64 × Value) :=
  (assignments operations).takeWhile fun a => a.1.toNat < width

/-- The value that is assigned to a field last. -/
def lastValue? (field : Nat) : List (UInt64 × Value) → Option Value
  | [] => none
  | (f, v) :: rest => (lastValue? field rest).or (if f.toNat = field then some v else none)

variable {row : Row} {operation : Value} {rest operations : List Value} {width field : Nat}

theorem assignments_cons_of_none (h : assignment? operation = none) :
    assignments (operation :: rest) = assignments rest :=
  List.filterMap_cons_none h

theorem assignments_cons_of_some {a : UInt64 × Value} (h : assignment? operation = some a) :
    assignments (operation :: rest) = a :: assignments rest :=
  List.filterMap_cons_some h

theorem taken_cons_of_none (h : assignment? operation = none) :
    taken width (operation :: rest) = taken width rest := by
  rw [taken, assignments_cons_of_none h]
  rfl

theorem taken_cons_of_lt {a : UInt64 × Value} (h : assignment? operation = some a)
    (ha : a.1.toNat < width) : taken width (operation :: rest) = a :: taken width rest := by
  rw [taken, assignments_cons_of_some h, List.takeWhile_cons_of_pos (by simpa using ha)]
  rfl

theorem taken_cons_of_not_lt {a : UInt64 × Value} (h : assignment? operation = some a)
    (ha : ¬ a.1.toNat < width) : taken width (operation :: rest) = [] := by
  rw [taken, assignments_cons_of_some h, List.takeWhile_cons_of_neg (by simpa using ha)]

/-- A value is assigned last to a field only if it is assigned to it at all. -/
theorem mem_of_lastValue? {value : Value} : ∀ {as : List (UInt64 × Value)},
    lastValue? field as = some value → ∃ f, (f, value) ∈ as ∧ f.toNat = field
  | [], h => by cases h
  | (f, v) :: as, h => by
      rw [lastValue?] at h
      cases hrest : lastValue? field as with
      | some later =>
          rw [hrest] at h
          cases h
          obtain ⟨g, hg, hfield⟩ := mem_of_lastValue? hrest
          exact ⟨g, List.mem_cons_of_mem _ hg, hfield⟩
      | none =>
          rw [hrest, Option.none_or] at h
          split at h
          · rename_i hf
            cases h
            exact ⟨f, List.mem_cons_self, hf⟩
          · cases h

/-! ## Rows -/

theorem length_applyOperations (row : Row) (operations : List Value) :
    (applyOperations row operations).2.length = row.length := by
  induction operations generalizing row with
  | nil => rfl
  | cons operation rest ih =>
      rw [applyOperations]
      split
      · exact ih row
      · split
        · rw [ih, List.length_set]
        · rfl

/-- A field of a row holds the value that was assigned to it last, or what it held before. -/
theorem getElem?_applyOperations (row : Row) (operations : List Value) (field : Nat) :
    (applyOperations row operations).2[field]? =
      (lastValue? field (taken row.length operations)).or row[field]? := by
  induction operations generalizing row with
  | nil => rfl
  | cons operation rest ih =>
      rw [applyOperations]
      split
      · rename_i hnone
        rw [taken_cons_of_none hnone]
        exact ih row
      · rename_i f value hsome
        split
        · rename_i hf
          have hset : (row.set f.toNat value)[field]? =
              (if f.toNat = field then some value else none).or row[field]? := by
            by_cases hfield : f.toNat = field
            · subst hfield
              rw [List.getElem?_set_self hf, if_pos rfl, Option.some_or]
            · rw [List.getElem?_set_ne hfield, if_neg hfield, Option.none_or]
          rw [ih, List.length_set, taken_cons_of_lt hsome hf, lastValue?, Option.or_assoc, hset]
        · rename_i hf
          rw [taken_cons_of_not_lt hsome hf]
          rfl

/-- Operations leave a row as it was if and only if what they assign was there already. -/
theorem applyOperations_eq_self_iff : (applyOperations row operations).2 = row ↔
    ∀ field value, lastValue? field (taken row.length operations) = some value →
      row[field]? = some value := by
  rw [List.ext_getElem?_iff]
  refine forall_congr' fun field => ?_
  rw [getElem?_applyOperations]
  cases lastValue? field (taken row.length operations) with
  | none => simp
  | some value => simp [eq_comm]

/-- Putting a row in the place of another leaves the rows alone only if it is the same. -/
theorem rows_set_eq_self_iff {s : StoredSpace} {position : Nat} {changed : Row}
    (hrow : s.rows[position]? = some row) :
    (s.set position changed).rows = s.rows ↔ changed = row := by
  obtain ⟨hposition, hget⟩ := List.getElem?_eq_some_iff.1 hrow
  rw [set]
  constructor
  · intro hsame
    have hat := congrArg (fun rows : List Row => rows[position]?) hsame
    simp only [List.getElem?_set_self hposition, hrow] at hat
    exact Option.some.inj hat
  · intro hsame
    rw [hsame, ← hget, List.set_getElem_self]

end StoredSpace

/-! ## Requests that change a row by operations -/

namespace DataRequest

open StoredSpace (applyOperations lastValue? taken)

/-- The position of the row that the operations of a request are carried out on. -/
def target? (s : StoredSpace) (index : UInt32) : DataRequest → Option Nat
  | update key _ => s.find? index key
  | upsert tuple _ => s.positionOf? tuple
  | select _ _ | insert _ | replace _ | delete _ => none

/-- The operations of a request. -/
def operations : DataRequest → List Value
  | update _ operations | upsert _ operations => operations
  | select _ _ | insert _ | replace _ | delete _ => []

variable {s : StoredSpace} {index : UInt32} {op : DataRequest} {position : Nat}

theorem exists_row_of_target? (h : op.target? s index = some position) :
    ∃ row, s.rows[position]? = some row := by
  have hfound (p : Row → Bool) (h : s.rows.findIdx? p = some position) :
      ∃ row, s.rows[position]? = some row :=
    ⟨_, List.getElem?_eq_getElem (List.findIdx?_eq_some_iff_getElem.1 h).1⟩
  cases op with
  | update key operations => exact hfound _ h
  | upsert tuple operations =>
      cases tuple with
      | nil => cases h
      | cons key fields => exact hfound _ h
  | select | insert | replace | delete => cases h

/-- Such a request does to the row what its operations do, and fails as they do. -/
theorem apply_of_target? {row : Row} (h : op.target? s index = some position)
    (hrow : s.rows[position]? = some row) :
    (op.apply s index).2 = s.set position (applyOperations row op.operations).2 ∧
      ∀ e, (op.apply s index).1 = .error e ↔ (applyOperations row op.operations).1 = some e := by
  cases op with
  | update key operations =>
      have hfind : s.find? index key = some position := h
      have happly : s.update index key operations = s.modify position operations := by
        rw [StoredSpace.update, hfind]
      simp only [apply, happly, StoredSpace.modify, hrow, DataRequest.operations]
      cases hfault : applyOperations row operations with
      | mk fault changed => cases fault <;> simp [Except.map]
  | upsert tuple operations =>
      have hposition : s.positionOf? tuple = some position := h
      simp only [apply, StoredSpace.upsert, hposition, StoredSpace.modify, hrow,
        DataRequest.operations]
      cases hfault : applyOperations row operations with
      | mk fault changed => cases fault <;> simp [Except.map]
  | select | insert | replace | delete => cases h

/-- A request that fails without any operations leaves the space alone. -/
theorem apply_of_no_target {e : ServerError} (h : op.target? s index = none)
    (he : (op.apply s index).1 = .error e) : (op.apply s index).2 = s := by
  cases op with
  | select | replace | delete => cases he
  | insert tuple =>
      simp only [apply] at he ⊢
      split at he
      · cases he
      · rfl
  | update key operations =>
      have hfind : s.find? index key = none := h
      simp only [apply, StoredSpace.update, hfind] at he
      cases he
  | upsert tuple operations =>
      have hposition : s.positionOf? tuple = none := h
      simp only [apply, StoredSpace.upsert, hposition] at he
      cases he

/-- Whichever request on rows fails, the rows are what they were if and only if each value that was
assigned to a field before the failure had been there before.  So a failed insertion changes
nothing, and a failed update or upsert is undone only in so far as it had nothing to undo. -/
theorem failed_request_undone_iff {e : ServerError} (h : (op.apply s index).1 = .error e) :
    (op.apply s index).2.rows = s.rows ↔
      ∀ position row, op.target? s index = some position → s.rows[position]? = some row →
        ∀ field value, lastValue? field (taken row.length op.operations) = some value →
          row[field]? = some value := by
  cases htarget : op.target? s index with
  | none =>
      rw [apply_of_no_target htarget h]
      simp
  | some position =>
      obtain ⟨row, hrow⟩ := exists_row_of_target? htarget
      obtain ⟨hspace, -⟩ := apply_of_target? htarget hrow
      rw [hspace, StoredSpace.rows_set_eq_self_iff hrow, StoredSpace.applyOperations_eq_self_iff]
      constructor
      · rintro hkept position' row' ⟨⟩ hrow'
        rw [hrow] at hrow'
        cases hrow'
        exact hkept
      · intro hkept
        exact hkept position row rfl hrow

/-! ## Updates that fail half-way -/

namespace Halfway

/-- A space with the users and their ages. -/
def users : StoredSpace :=
  { StoredSpace.create 512 "users" with rows := [[.uint 1, .uint 30], [.uint 2, .uint 40]] }

/-- Gives the first user an age, and something in a field that there is none of. -/
def aging (age : UInt64) : DataRequest :=
  .update [.uint 1] [.array [.text "=", .uint 1, .uint age], .array [.text "=", .uint 7, .nil]]

theorem apply_aging (age : UInt64) : (aging age).apply users 0 =
    (.error (StoredSpace.noSuchField 7),
      { users with rows := [[.uint 1, .uint age], [.uint 2, .uint 40]] }) := rfl

/-- The update fails, and the user is older nevertheless. -/
theorem failed_update_changes_row :
    ((aging 31).apply users 0).1 = .error (StoredSpace.noSuchField 7) ∧
      ((aging 31).apply users 0).2.rows = [[.uint 1, .uint 31], [.uint 2, .uint 40]] ∧
      ((aging 31).apply users 0).2.rows ≠ users.rows := by
  rw [apply_aging]
  exact ⟨rfl, rfl, by decide⟩

/-- Nothing is left of an update that fails after it has given the user the age that it has. -/
theorem failed_request_undone_iff_of_aging :
    ((aging 30).apply users 0).1 = .error (StoredSpace.noSuchField 7) ∧
      ((aging 30).apply users 0).2.rows = users.rows := by
  have hfails : ((aging 30).apply users 0).1 = .error (StoredSpace.noSuchField 7) := by
    rw [apply_aging]
  refine ⟨hfails, (failed_request_undone_iff hfails).2 ?_⟩
  rintro position row ⟨⟩ ⟨⟩ field value hlast
  obtain ⟨f, hmem, rfl⟩ := StoredSpace.mem_of_lastValue? hlast
  cases List.mem_singleton.1 hmem
  rfl

end Halfway

end DataRequest

end TupleWire
