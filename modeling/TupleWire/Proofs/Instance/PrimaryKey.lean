/-
  The primary keys of the rows of a space.

  A space takes care that no two rows have one primary key when a tuple comes in:
  an insertion is refused, and a replacement or an upsert goes to the row that has
  the key.  It does not look at what operations assign.  So an update or an upsert
  that assigns to the first field of a row the key of another row leaves two rows
  with one key (`DataRequest.TakesKey`), and nothing else does:
  `keys_stay_unique_iff` says so of every run, and
  `hasUniqueKeys_after_of_assignments` of those in which no operation assigns to a
  first field.
-/
import Mathlib.Data.List.Induction
import TupleWire.Proofs.Instance.Assigning
import TupleWire.Proofs.MsgPack.Agreement

set_option autoImplicit false

namespace TupleWire

namespace StoredSpace

/-! ## Keys -/

/-- Whether a row has the primary key of a tuple. -/
def sharesKey (row tuple : Row) : Bool := tuple.head?.any fun key => hasPrimaryKey key row

/-- No two rows that have a first field have equal first fields. -/
def HasUniqueKeys (s : StoredSpace) : Prop := s.rows.Pairwise fun a b => sharesKey a b = false

instance (s : StoredSpace) : Decidable s.HasUniqueKeys :=
  inferInstanceAs (Decidable (s.rows.Pairwise fun a b => sharesKey a b = false))

variable {s : StoredSpace} {a b c row tuple : Row} {position : Nat}

theorem sharesKey_eq_true_iff : sharesKey a b = true ↔
    ∃ j as k bs, a = j :: as ∧ b = k :: bs ∧ j.agrees k = true := by
  cases a with
  | nil => cases b <;> simp [sharesKey, hasPrimaryKey]
  | cons j as => cases b <;> simp [sharesKey, hasPrimaryKey]

theorem sharesKey_symm (h : sharesKey a b = true) : sharesKey b a = true := by
  obtain ⟨j, as, k, bs, rfl, rfl, hagrees⟩ := sharesKey_eq_true_iff.1 h
  exact sharesKey_eq_true_iff.2 ⟨k, bs, j, as, rfl, rfl, Value.agrees_symm hagrees⟩

theorem sharesKey_comm (a b : Row) : sharesKey a b = sharesKey b a :=
  Bool.eq_iff_iff.2 ⟨sharesKey_symm, sharesKey_symm⟩

theorem sharesKey_trans (hab : sharesKey a b = true) (hbc : sharesKey b c = true) :
    sharesKey a c = true := by
  obtain ⟨i, as, j, bs, rfl, rfl, hij⟩ := sharesKey_eq_true_iff.1 hab
  obtain ⟨j', bs', k, cs, hb, rfl, hjk⟩ := sharesKey_eq_true_iff.1 hbc
  cases hb
  exact sharesKey_eq_true_iff.2 ⟨i, as, k, cs, rfl, rfl, Value.agrees_trans hij hjk⟩

theorem positionOf?_eq (s : StoredSpace) (tuple : Row) :
    s.positionOf? tuple = s.rows.findIdx? fun row => sharesKey row tuple := by
  cases tuple with
  | nil => exact (List.findIdx?_eq_none_iff.2 fun _ _ => rfl).symm
  | cons key fields => rfl

theorem not_sharesKey_of_positionOf?_eq_none (h : s.positionOf? tuple = none)
    (hrow : row ∈ s.rows) : sharesKey row tuple = false := by
  rw [positionOf?_eq, List.findIdx?_eq_none_iff] at h
  exact h row hrow

theorem sharesKey_of_positionOf?_eq_some (h : s.positionOf? tuple = some position) :
    ∃ row, s.rows[position]? = some row ∧ sharesKey row tuple = true := by
  rw [positionOf?_eq, List.findIdx?_eq_some_iff_getElem] at h
  obtain ⟨hposition, hshares, -⟩ := h
  exact ⟨_, List.getElem?_eq_getElem hposition, hshares⟩

/-! ## Rows with unique keys -/

/-- Keys are unique if and only if rows in two positions never share one. -/
theorem hasUniqueKeys_iff : s.HasUniqueKeys ↔ ∀ (p q : Nat) (a b : Row), p ≠ q →
    s.rows[p]? = some a → s.rows[q]? = some b → sharesKey a b = false := by
  rw [HasUniqueKeys, List.pairwise_iff_getElem]
  constructor
  · intro h p q a b hne ha hb
    obtain ⟨hp, rfl⟩ := List.getElem?_eq_some_iff.1 ha
    obtain ⟨hq, rfl⟩ := List.getElem?_eq_some_iff.1 hb
    rcases Nat.lt_or_gt_of_ne hne with hlt | hgt
    · exact h p q hp hq hlt
    · rw [sharesKey_comm]
      exact h q p hq hp hgt
  · intro h p q hp hq hlt
    exact h p q _ _ (Nat.ne_of_lt hlt) (List.getElem?_eq_getElem hp) (List.getElem?_eq_getElem hq)

/-- A row may become another one if and only if the others do not have the key of that. -/
theorem HasUniqueKeys.set_iff (h : s.HasUniqueKeys) (hrow : s.rows[position]? = some row) :
    (s.set position tuple).HasUniqueKeys ↔
      ∀ (q : Nat) (other : Row), q ≠ position → s.rows[q]? = some other →
        sharesKey other tuple = false := by
  have hself : (s.set position tuple).rows[position]? = some tuple :=
    List.getElem?_set_self (List.getElem?_eq_some_iff.1 hrow).1
  have hother {q : Nat} (hq : q ≠ position) : (s.set position tuple).rows[q]? = s.rows[q]? :=
    List.getElem?_set_ne hq.symm
  rw [hasUniqueKeys_iff]
  constructor
  · intro hunique q other hq hget
    exact hunique q position other tuple hq ((hother hq).trans hget) hself
  · intro hapart p q a b hne ha hb
    by_cases hp : p = position
    · subst hp
      have hq : q ≠ p := Ne.symm hne
      rw [hself] at ha
      cases ha
      rw [sharesKey_comm]
      exact hapart q b hq ((hother hq).symm.trans hb)
    · have ha' := (hother hp).symm.trans ha
      by_cases hq : q = position
      · subst hq
        rw [hself] at hb
        cases hb
        exact hapart p a hp ha'
      · exact hasUniqueKeys_iff.1 h p q a b hne ha' ((hother hq).symm.trans hb)

theorem HasUniqueKeys.append (h : s.HasUniqueKeys) (hnew : s.positionOf? tuple = none) :
    (s.append tuple).HasUniqueKeys := by
  refine List.pairwise_append.2 ⟨h, List.pairwise_singleton _ _, fun row hrow other hother => ?_⟩
  cases List.mem_singleton.1 hother
  exact not_sharesKey_of_positionOf?_eq_none hnew hrow

theorem HasUniqueKeys.replace (h : s.HasUniqueKeys) (tuple : Row) :
    (s.replace tuple).HasUniqueKeys := by
  rw [StoredSpace.replace]
  split
  · rename_i position hposition
    obtain ⟨row, hrow, hshares⟩ := sharesKey_of_positionOf?_eq_some hposition
    refine (h.set_iff hrow).2 fun q other hq hother => ?_
    -- a third row with the key of the tuple would have that of the row it replaces
    by_contra hsame
    have hthird := sharesKey_trans (by simpa using hsame) (sharesKey_symm hshares)
    rw [hasUniqueKeys_iff.1 h q position other row hq hother hrow] at hthird
    cases hthird
  · rename_i hnew
    exact h.append hnew

theorem HasUniqueKeys.delete (h : s.HasUniqueKeys) (index : UInt32) (key : Row) :
    (s.delete index key).2.HasUniqueKeys := by
  rw [StoredSpace.delete]
  split
  · exact List.Pairwise.sublist (List.eraseIdx_sublist _ _) h
  · exact h

/-! ## Runs -/

/-- The space after requests on its rows, each with the number of the index that it goes by. -/
def after (s : StoredSpace) : List (UInt32 × DataRequest) → StoredSpace
  | [] => s
  | (index, op) :: rest => (op.apply s index).2.after rest

theorem after_concat (s : StoredSpace) (done : List (UInt32 × DataRequest)) (index : UInt32)
    (op : DataRequest) :
    s.after (done ++ [(index, op)]) = (op.apply (s.after done) index).2 := by
  induction done generalizing s with
  | nil => rfl
  | cons r rest ih => exact ih _

end StoredSpace

namespace DataRequest

open StoredSpace (applyOperations assignments hasPrimaryKey lastValue? sharesKey taken)

variable {s : StoredSpace} {index : UInt32} {op : DataRequest}

/-- Operations of the request assign to the first field of a row, and last of all, a value that
another row has there. -/
def TakesKey (s : StoredSpace) (index : UInt32) (op : DataRequest) : Prop :=
  ∃ position row key other, op.target? s index = some position ∧ s.rows[position]? = some row ∧
    lastValue? 0 (taken row.length op.operations) = some key ∧
    hasPrimaryKey key other = true ∧ ∃ q : Nat, q ≠ position ∧ s.rows[q]? = some other

theorem not_takesKey_of_no_target (h : op.target? s index = none) : ¬ op.TakesKey s index := by
  rintro ⟨position, _, _, _, htarget, _⟩
  rw [h] at htarget
  cases htarget

theorem takesKey_iff {position : Nat} {row : Row} (htarget : op.target? s index = some position)
    (hrow : s.rows[position]? = some row) : op.TakesKey s index ↔
      ∃ key other, lastValue? 0 (taken row.length op.operations) = some key ∧
        hasPrimaryKey key other = true ∧ ∃ q : Nat, q ≠ position ∧ s.rows[q]? = some other := by
  constructor
  · rintro ⟨position', row', key, other, htarget', hrow', htakes⟩
    rw [htarget] at htarget'
    cases htarget'
    rw [hrow] at hrow'
    cases hrow'
    exact ⟨key, other, htakes⟩
  · rintro ⟨key, other, htakes⟩
    exact ⟨position, row, key, other, htarget, hrow, htakes⟩

/-- Operations that do not assign to the first field take no key. -/
theorem not_takesKey_of_assignments (h : ∀ a ∈ assignments op.operations, a.1 ≠ 0) :
    ¬ op.TakesKey s index := by
  rintro ⟨position, row, key, other, -, -, hkey, -⟩
  obtain ⟨field, hmem, hfield⟩ := StoredSpace.mem_of_lastValue? hkey
  have hassigned : (field, key) ∈ assignments op.operations :=
    (List.takeWhile_sublist _).subset hmem
  exact h _ hassigned (UInt64.toNat_inj.1 hfield)

/-- A request that carries out no operations keeps keys unique. -/
theorem hasUniqueKeys_of_no_target (h : s.HasUniqueKeys) (htarget : op.target? s index = none) :
    (op.apply s index).2.HasUniqueKeys := by
  cases op with
  | select key params => exact h
  | insert tuple =>
      simp only [apply, StoredSpace.insert]
      cases hposition : s.positionOf? tuple with
      | some position => exact h
      | none => exact h.append hposition
  | replace tuple => exact h.replace tuple
  | update key operations =>
      have hfind : s.find? index key = none := htarget
      simp only [apply, StoredSpace.update, hfind]
      exact h
  | upsert tuple operations =>
      have hposition : s.positionOf? tuple = none := htarget
      simp only [apply, StoredSpace.upsert, hposition]
      exact h.append hposition
  | delete key => exact h.delete index key

/-- Keys that are unique stay so in one step if and only if none is taken. -/
theorem hasUniqueKeys_apply_iff (h : s.HasUniqueKeys) :
    (op.apply s index).2.HasUniqueKeys ↔ ¬ op.TakesKey s index := by
  cases htarget : op.target? s index with
  | none =>
      exact iff_of_true (hasUniqueKeys_of_no_target h htarget) (not_takesKey_of_no_target htarget)
  | some position =>
      obtain ⟨row, hrow⟩ := exists_row_of_target? htarget
      have hchanged : (applyOperations row op.operations).2.head? =
          (lastValue? 0 (taken row.length op.operations)).or row.head? := by
        rw [List.head?_eq_getElem?, List.head?_eq_getElem?,
          StoredSpace.getElem?_applyOperations]
      rw [(apply_of_target? htarget hrow).1, h.set_iff hrow, takesKey_iff htarget hrow]
      cases hlast : lastValue? 0 (taken row.length op.operations) with
      | none =>
          rw [hlast, Option.none_or] at hchanged
          refine iff_of_true (fun q other hq hother => ?_) ?_
          · rw [sharesKey, hchanged]
            exact StoredSpace.hasUniqueKeys_iff.1 h q position other row hq hother hrow
          · rintro ⟨key, other, hkey, -⟩
            cases hkey
      | some key =>
          rw [hlast, Option.some_or] at hchanged
          have hshares (other : Row) : sharesKey other (applyOperations row op.operations).2 =
              hasPrimaryKey key other := by
            rw [sharesKey, hchanged]
            rfl
          simp only [hshares]
          constructor
          · rintro hapart ⟨key', other, hkey, hother, q, hq, hget⟩
            cases hkey
            rw [hapart q other hq hget] at hother
            cases hother
          · intro hfree q other hq hget
            by_contra hother
            exact hfree ⟨key, other, rfl, by simpa using hother, q, hq, hget⟩

end DataRequest

namespace StoredSpace

variable {s : StoredSpace}

/-- Keys are unique after a run in which no request takes one. -/
theorem hasUniqueKeys_after (hs : s.rows = []) {requests : List (UInt32 × DataRequest)}
    (hfree : ∀ done index op, done ++ [(index, op)] <+: requests →
      ¬ op.TakesKey (s.after done) index) : (s.after requests).HasUniqueKeys := by
  induction requests using List.reverseRecOn with
  | nil =>
      have hempty : (s.after []).rows = [] := hs
      rw [HasUniqueKeys, hempty]
      exact List.Pairwise.nil
  | append_singleton done r ih =>
      obtain ⟨index, op⟩ := r
      have hbefore := ih fun earlier i o hnext =>
        hfree earlier i o (hnext.trans (List.prefix_append _ _))
      rw [after_concat]
      exact (DataRequest.hasUniqueKeys_apply_iff hbefore).2
        (hfree done index op (List.prefix_refl _))

/-- Keys stay unique as long as no operation assigns to a first field. -/
theorem hasUniqueKeys_after_of_assignments (hs : s.rows = [])
    {requests : List (UInt32 × DataRequest)}
    (h : ∀ r ∈ requests, ∀ a ∈ assignments r.2.operations, a.1 ≠ 0) :
    (s.after requests).HasUniqueKeys := by
  refine hasUniqueKeys_after hs fun done index op hnext => ?_
  have hmem : (index, op) ∈ requests := hnext.subset (by simp)
  exact DataRequest.not_takesKey_of_assignments (h _ hmem)

/-- In any run of requests on a space that begins without rows, no two rows ever have one primary
key if and only if no operations of a request assign to the first field of a row the key of
another one. -/
theorem keys_stay_unique_iff (hs : s.rows = []) (requests : List (UInt32 × DataRequest)) :
    (∀ done, done <+: requests → (s.after done).HasUniqueKeys) ↔
      ∀ done index op, done ++ [(index, op)] <+: requests →
        ¬ op.TakesKey (s.after done) index := by
  constructor
  · intro hunique done index op hnext
    have hbefore : (s.after done).HasUniqueKeys :=
      hunique done ((List.prefix_append _ _).trans hnext)
    have hafter := hunique _ hnext
    rw [after_concat] at hafter
    exact (DataRequest.hasUniqueKeys_apply_iff hbefore).1 hafter
  · intro hfree done hdone
    exact hasUniqueKeys_after hs fun earlier index op hnext =>
      hfree earlier index op (hnext.trans hdone)

/-! ## A user who is given the number of another one -/

namespace Renumbering

/-- A space for users, without any yet. -/
def users : StoredSpace := .create 512 "users"

/-- Two users come in, and the first one gets the number of the second. -/
def requests : List (UInt32 × DataRequest) :=
  [(0, .insert [.uint 1, .text "ann"]), (0, .insert [.uint 2, .text "bob"]),
    (0, .update [.uint 1] [.array [.text "=", .uint 0, .uint 2]])]

theorem rows_after : (users.after requests).rows =
    [[.uint 2, .text "ann"], [.uint 2, .text "bob"]] := by
  decide +kernel

theorem not_hasUniqueKeys_after : ¬ (users.after requests).HasUniqueKeys := by
  rw [HasUniqueKeys, rows_after]
  decide +kernel

/-- Both users have the number 2 in the end. -/
theorem renumbered_row_shares_key : users.rows = [] ∧
    (users.after requests).rows = [[.uint 2, .text "ann"], [.uint 2, .text "bob"]] ∧
    ¬ (users.after requests).HasUniqueKeys :=
  ⟨rfl, rows_after, not_hasUniqueKeys_after⟩

/-- So there is a request among them that takes a key. -/
theorem keys_stay_unique_iff_of_renumbering : users.rows = [] ∧
    ∃ done index op, done ++ [(index, op)] <+: requests ∧
      op.TakesKey (users.after done) index := by
  refine ⟨rfl, ?_⟩
  by_contra hnone
  refine not_hasUniqueKeys_after ((keys_stay_unique_iff rfl requests).2 ?_ _ (List.prefix_refl _))
  intro done index op hnext htakes
  exact hnone ⟨done, index, op, hnext, htakes⟩

end Renumbering

end StoredSpace

end TupleWire
