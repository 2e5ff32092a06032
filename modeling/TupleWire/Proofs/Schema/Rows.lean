/-
  What a snapshot says of the rows that it is made from, in whatever order they come.

  If the rows bear numbers and names of their own, a space is found under a number
  exactly if it is what the rows say of it (`IsShown`): that speaks of the rows as
  a set, so neither their order nor rows that are not laid out as they should be
  make a difference.  Numbers are compared as the 32 bits that they are read as.
-/
import Mathlib.Data.List.Nodup
import TupleWire.Proofs.Schema.Resolution

set_option autoImplicit false

namespace TupleWire

/-! ## Rows in another order -/

/-- Whether rows are others in any order, among rows that describe nothing. -/
def Rearranged {α : Type} (parse : Value → Option α) (rows rows' : List Value) : Prop :=
  ∃ malformed, (∀ row ∈ malformed, parse row = none) ∧ rows'.Perm (rows ++ malformed)

/-- What rows describe is the same in any order. -/
theorem Rearranged.perm_filterMap {α : Type} {parse : Value → Option α} {rows rows' : List Value}
    (h : Rearranged parse rows rows') : (rows'.filterMap parse).Perm (rows.filterMap parse) := by
  obtain ⟨malformed, hmalformed, hperm⟩ := h
  have hnothing : malformed.filterMap parse = [] := List.filterMap_eq_nil_iff.2 hmalformed
  have hparsed := hperm.filterMap parse
  rwa [List.filterMap_append, hnothing, List.append_nil] at hparsed

namespace SchemaCache

/-- Whether each space has a number and a name of its own, and each index a number of its own in its
space. -/
structure Distinct (spaces : List SpaceInfo) (indexes : List IndexInfo) : Prop where
  ids : (spaces.map SpaceInfo.id).Nodup
  names : (spaces.map SpaceInfo.name).Nodup
  indexes : (indexes.map fun i => (i.spaceId, i.id)).Nodup

/-- Whether a space is what the two views say of it: a row describes it, and its indexes are those
with its number, strictly ascending by their own. -/
structure IsShown (spaces : List SpaceInfo) (indexes : List IndexInfo) (s : SpaceInfo) : Prop where
  row : ∃ bare ∈ spaces, s = { bare with indexes := s.indexes }
  ascending : s.indexes.Pairwise fun a b => a.id < b.id
  mem_indexes_iff : ∀ i, i ∈ s.indexes ↔ i ∈ indexes ∧ i.spaceId = s.id

variable {spaces spaces' : List SpaceInfo} {indexes indexes' : List IndexInfo} {s t : SpaceInfo}

/-! ## The order of the rows does not matter -/

theorem Distinct.of_perm (h : Distinct spaces indexes) (hspaces : spaces'.Perm spaces)
    (hindexes : indexes'.Perm indexes) : Distinct spaces' indexes' where
  ids := (hspaces.map _).nodup_iff.2 h.ids
  names := (hspaces.map _).nodup_iff.2 h.names
  indexes := (hindexes.map _).nodup_iff.2 h.indexes

theorem IsShown.of_perm (h : IsShown spaces indexes s) (hspaces : spaces'.Perm spaces)
    (hindexes : indexes'.Perm indexes) : IsShown spaces' indexes' s where
  row := by
    obtain ⟨bare, hbare, hs⟩ := h.row
    exact ⟨bare, hspaces.mem_iff.2 hbare, hs⟩
  ascending := h.ascending
  mem_indexes_iff i := by rw [h.mem_indexes_iff, hindexes.mem_iff]

/-! ## The indexes of a space -/

theorem mem_indexesOf {id : UInt32} {i : IndexInfo} :
    i ∈ indexesOf indexes id ↔ i ∈ indexes ∧ i.spaceId = id := by
  rw [indexesOf, List.mem_mergeSort, List.mem_filter, beq_iff_eq]

/-- Indexes with numbers of their own are strictly ascending when they are sorted. -/
theorem pairwise_indexesOf (h : (indexes.map fun i => (i.spaceId, i.id)).Nodup) (id : UInt32) :
    (indexesOf indexes id).Pairwise fun a b => a.id < b.id := by
  have hdistinct : (indexes.filter fun i => i.spaceId == id).Pairwise fun a b => a.id ≠ b.id := by
    refine ((List.pairwise_map.1 h).filter _).imp_of_mem ?_
    intro a b ha hb hne hsame
    have hspace : a.spaceId = b.spaceId :=
      (beq_iff_eq.1 (List.mem_filter.1 ha).2).trans (beq_iff_eq.1 (List.mem_filter.1 hb).2).symm
    exact hne (Prod.ext hspace hsame)
  have hsorted : (indexesOf indexes id).Pairwise fun a b => a.id ≠ b.id :=
    ((List.mergeSort_perm _ _).pairwise_iff Ne.symm).2 hdistinct
  refine ((pairwise_mergeSort_id _).and hsorted).imp ?_
  rintro a b ⟨hle, hne⟩
  exact UInt32.lt_of_le_of_ne hle hne

/-- Strictly ascending indexes are determined by which they are. -/
theorem eq_of_ascending {l l' : List IndexInfo} (hl : l.Pairwise fun a b => a.id < b.id)
    (hl' : l'.Pairwise fun a b => a.id < b.id) (h : ∀ i, i ∈ l ↔ i ∈ l') : l = l' := by
  have hnodup {l : List IndexInfo} (hl : l.Pairwise fun a b => a.id < b.id) : l.Nodup := by
    refine hl.imp ?_
    rintro a _ hlt rfl
    exact UInt32.lt_irrefl _ hlt
  have hperm : l.Perm l' := (List.perm_ext_iff_of_nodup (hnodup hl) (hnodup hl')).2 h
  exact hperm.eq_of_pairwise (fun a b _ _ hab hba => absurd hab (UInt32.lt_asymm hba)) hl hl'

/-! ## Spaces by number -/

/-- Spaces with numbers of their own are found exactly as the rows show them. -/
theorem get?_ofSpaces_eq_some_iff (h : Distinct spaces indexes) {id : UInt32} :
    (SortedMap.ofList (spaces.map fun s =>
        (s.id, { s with indexes := indexesOf indexes s.id }))).get? id = some s ↔
      s.id = id ∧ IsShown spaces indexes s := by
  have hkeys : ((spaces.map fun s =>
      (s.id, { s with indexes := indexesOf indexes s.id })).map Prod.fst).Nodup := by
    rw [List.map_map]
    exact h.ids
  rw [SortedMap.get?_ofList_eq_some_iff hkeys, List.mem_map]
  constructor
  · rintro ⟨bare, hbare, heq⟩
    obtain ⟨rfl, rfl⟩ := Prod.mk.inj heq
    exact ⟨rfl, ⟨bare, hbare, rfl⟩, pairwise_indexesOf h.indexes _, fun i => mem_indexesOf⟩
  · rintro ⟨rfl, hshown⟩
    obtain ⟨bare, hbare, hs⟩ := hshown.row
    have hid : s.id = bare.id := by rw [hs]
    have hindexes : s.indexes = indexesOf indexes bare.id :=
      eq_of_ascending hshown.ascending (pairwise_indexesOf h.indexes _) fun i => by
        rw [hshown.mem_indexes_iff, mem_indexesOf, hid]
    refine ⟨bare, hbare, Prod.ext hid.symm ?_⟩
    rw [← hindexes]
    exact hs.symm

section OfRows

variable {version : UInt64} {spaceRows indexRows : List Value}

theorem space?_byId_ofRows_iff {id : UInt32}
    (h : Distinct (spaceRows.filterMap SpaceInfo.ofRow?) (indexRows.filterMap IndexInfo.ofRow?)) :
    (ofRows version spaceRows indexRows).space? (.byId id) = some s ↔
      s.id = id ∧
        IsShown (spaceRows.filterMap SpaceInfo.ofRow?) (indexRows.filterMap IndexInfo.ofRow?) s :=
  get?_ofSpaces_eq_some_iff h

/-! ## Spaces by name -/

theorem name_of_spaceByName? {c : SchemaCache} {name : String} (h : c.spaceByName? name = some s) :
    s.name = name := by
  simpa using List.find?_some h

/-- Of spaces with names of their own the one that bears a name is found by it. -/
theorem space?_byName_ofRows_iff {name : String}
    (h : Distinct (spaceRows.filterMap SpaceInfo.ofRow?) (indexRows.filterMap IndexInfo.ofRow?)) :
    (ofRows version spaceRows indexRows).space? (.byName name) = some s ↔
      s.name = name ∧ (ofRows version spaceRows indexRows).space? (.byId s.id) = some s := by
  constructor
  · intro hfound
    exact ⟨name_of_spaceByName? hfound,
      (keyed_ofRows version spaceRows indexRows).get?_of_spaceByName? hfound⟩
  · rintro ⟨rfl, hs⟩
    have hmem : s ∈ (ofRows version spaceRows indexRows).spaces.values :=
      SortedMap.mem_values_iff.2 ⟨s.id, hs⟩
    cases hfound : (ofRows version spaceRows indexRows).spaceByName? s.name with
    | none => exact absurd (List.find?_eq_none.1 hfound s hmem) (by simp)
    | some t =>
        have ht : (ofRows version spaceRows indexRows).space? (.byId t.id) = some t :=
          (keyed_ofRows version spaceRows indexRows).get?_of_spaceByName? hfound
        have hname : t.name = s.name := name_of_spaceByName? hfound
        obtain ⟨bare, hbare, hsbare⟩ := ((space?_byId_ofRows_iff h).1 hs).2.row
        obtain ⟨bare', hbare', htbare⟩ := ((space?_byId_ofRows_iff h).1 ht).2.row
        -- one row bears the name, so the two have its number
        have hsame : bare' = bare := by
          refine List.inj_on_of_nodup_map h.names hbare' hbare ?_
          rw [hsbare, htbare] at hname
          exact hname
        have hid : t.id = s.id := by rw [hsbare, htbare, hsame]
        rw [hid, hs] at ht
        cases ht
        exact hfound

/-- The same rows in another order, among rows that describe nothing, make the same snapshot. -/
theorem ofRows_of_rearranged {spaceRows' indexRows' : List Value}
    (h : Distinct (spaceRows.filterMap SpaceInfo.ofRow?) (indexRows.filterMap IndexInfo.ofRow?))
    (hspaces : Rearranged SpaceInfo.ofRow? spaceRows spaceRows')
    (hindexes : Rearranged IndexInfo.ofRow? indexRows indexRows') :
    ofRows version spaceRows' indexRows' = ofRows version spaceRows indexRows := by
  have hspacesPerm := hspaces.perm_filterMap
  have hindexesPerm := hindexes.perm_filterMap
  have hshown (s : SpaceInfo) :
      IsShown (spaceRows'.filterMap SpaceInfo.ofRow?) (indexRows'.filterMap IndexInfo.ofRow?) s ↔
        IsShown (spaceRows.filterMap SpaceInfo.ofRow?) (indexRows.filterMap IndexInfo.ofRow?)
          s := by
    constructor
    · intro hs
      exact hs.of_perm hspacesPerm.symm hindexesPerm.symm
    · intro hs
      exact hs.of_perm hspacesPerm hindexesPerm
  have hget (id : UInt32) : (ofRows version spaceRows' indexRows').spaces.get? id =
      (ofRows version spaceRows indexRows).spaces.get? id := by
    apply Option.ext
    intro s
    calc (ofRows version spaceRows' indexRows').spaces.get? id = some s
        ↔ s.id = id ∧ _ := space?_byId_ofRows_iff (h.of_perm hspacesPerm hindexesPerm)
      _ ↔ s.id = id ∧ _ := and_congr_right fun _ => hshown s
      _ ↔ (ofRows version spaceRows indexRows).spaces.get? id = some s :=
          (space?_byId_ofRows_iff h).symm
  exact congrArg (SchemaCache.mk version) (SortedMap.ext_get? hget)

end OfRows

/-- If the spaces and the indexes that rows describe have numbers and names of their own, the rows
make the same snapshot in any order and among any rows that describe nothing; a name stands for a
space exactly if its number does and it bears the name; and a number stands for the space that a row
describes, with exactly the indexes that bear its number, strictly ascending by their own. -/
theorem lookups_independent_of_row_order (version : UInt64) (spaceRows indexRows : List Value)
    (h : Distinct (spaceRows.filterMap SpaceInfo.ofRow?)
      (indexRows.filterMap IndexInfo.ofRow?)) :
    (∀ spaceRows' indexRows', Rearranged SpaceInfo.ofRow? spaceRows spaceRows' →
        Rearranged IndexInfo.ofRow? indexRows indexRows' →
          ofRows version spaceRows' indexRows' = ofRows version spaceRows indexRows) ∧
      (∀ name s, (ofRows version spaceRows indexRows).space? (.byName name) = some s ↔
        s.name = name ∧ (ofRows version spaceRows indexRows).space? (.byId s.id) = some s) ∧
      ∀ id s, (ofRows version spaceRows indexRows).space? (.byId id) = some s ↔
        s.id = id ∧ IsShown (spaceRows.filterMap SpaceInfo.ofRow?)
          (indexRows.filterMap IndexInfo.ofRow?) s := by
  refine ⟨?_, ?_, ?_⟩
  · intro spaceRows' indexRows' hspaces hindexes
    exact ofRows_of_rearranged h hspaces hindexes
  · intro name s
    exact space?_byName_ofRows_iff h
  · intro id s
    exact space?_byId_ofRows_iff h

/-! ## Rows of a space that is gone -/

namespace Orphans

/-- The rows of two spaces. -/
def spaceRows : List Value := Move.rowsAfter.spaceRows

/-- The rows of their indexes, and of an index whose space is not there. -/
def indexRows : List Value :=
  Move.rowsAfter.indexRows ++ (⟨700, "gone", "memtx", ["primary"], [], []⟩ : StoredSpace).indexRows

theorem distinct : Distinct (spaceRows.filterMap SpaceInfo.ofRow?)
    (indexRows.filterMap IndexInfo.ofRow?) := by
  constructor
  · decide +kernel
  · decide +kernel
  · decide +kernel

/-- One of the spaces. -/
def users : SpaceInfo :=
  ⟨600, "users", "memtx", [],
    [⟨0, 600, "primary", "tree"⟩, ⟨1, 600, "by_name", "tree"⟩, ⟨2, 600, "by_age", "tree"⟩]⟩

theorem isShown_users : IsShown (spaceRows.filterMap SpaceInfo.ofRow?)
    (indexRows.filterMap IndexInfo.ofRow?) users where
  row := ⟨⟨600, "users", "memtx", [], []⟩, by decide +kernel, rfl⟩
  ascending := by decide
  mem_indexes_iff i := by
    have hindexes : users.indexes =
        (indexRows.filterMap IndexInfo.ofRow?).filter fun i => i.spaceId == users.id := by
      decide +kernel
    rw [hindexes, List.mem_filter, beq_iff_eq]

/-- The rows from the last one to the first, with one that describes nothing, make the same
snapshot, in which the space is found by its name with its indexes in ascending order. -/
theorem lookups_independent_of_row_order_of_orphans :
    Distinct (spaceRows.filterMap SpaceInfo.ofRow?) (indexRows.filterMap IndexInfo.ofRow?) ∧
      ofRows 4 (.nil :: spaceRows.reverse) indexRows.reverse = ofRows 4 spaceRows indexRows ∧
      (ofRows 4 (.nil :: spaceRows.reverse) indexRows.reverse).space? (.byName "users") =
        some users := by
  obtain ⟨hsame, hname, hid⟩ := lookups_independent_of_row_order 4 spaceRows indexRows distinct
  have hspaces : Rearranged SpaceInfo.ofRow? spaceRows (.nil :: spaceRows.reverse) := by
    refine ⟨[.nil], by simp [SpaceInfo.ofRow?, Value.asArray?], ?_⟩
    exact ((List.reverse_perm _).cons _).trans (List.perm_append_singleton _ _).symm
  have hindexes : Rearranged IndexInfo.ofRow? indexRows indexRows.reverse :=
    ⟨[], by simp, by simp⟩
  have hreversed := hsame _ _ hspaces hindexes
  refine ⟨distinct, hreversed, ?_⟩
  rw [hreversed]
  exact (hname "users" users).2 ⟨rfl, (hid 600 users).2 ⟨rfl, isShown_users⟩⟩

end Orphans

end SchemaCache

end TupleWire
