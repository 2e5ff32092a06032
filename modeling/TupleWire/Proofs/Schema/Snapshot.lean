/-
  What a snapshot says about names.

  Fetched snapshots keep every space under its own number (`Keyed`), so a space
  that is found by its name is found by its number as well.
-/
import TupleWire.Proofs.Map.Sorted
import TupleWire.Schema.Fetcher

set_option autoImplicit false

namespace TupleWire.SchemaCache

/-! ## Spaces under their numbers -/

/-- Whether every space is kept under its own number. -/
def Keyed (c : SchemaCache) : Prop := ∀ id space, c.spaces.get? id = some space → space.id = id

theorem keyed_empty : empty.Keyed := by
  intro id space h
  cases h

/-- Fetched snapshots keep every space under its own number, whatever the rows are. -/
theorem keyed_ofRows (version : UInt64) (spaceRows indexRows : List Value) :
    (ofRows version spaceRows indexRows).Keyed := by
  intro id space h
  refine SortedMap.forall_get?_ofList (P := fun id space => space.id = id) (fun e he => ?_) h
  obtain ⟨s, _, rfl⟩ := List.mem_map.1 he
  rfl

/-- Indexes that are sorted by their numbers are in ascending order. -/
theorem pairwise_mergeSort_id (indexes : List IndexInfo) :
    (indexes.mergeSort fun a b => decide (a.id ≤ b.id)).Pairwise fun a b => a.id ≤ b.id := by
  have htransitive (a b c : IndexInfo) (hab : decide (a.id ≤ b.id) = true)
      (hbc : decide (b.id ≤ c.id) = true) : decide (a.id ≤ c.id) = true :=
    decide_eq_true (UInt32.le_trans (of_decide_eq_true hab) (of_decide_eq_true hbc))
  have htotal (a b : IndexInfo) : (decide (a.id ≤ b.id) || decide (b.id ≤ a.id)) = true := by
    simpa using UInt32.le_total a.id b.id
  exact (List.pairwise_mergeSort htransitive htotal indexes).imp of_decide_eq_true

/-- The indexes of a space need no sorting if their rows are in order. -/
theorem indexesOf_of_ascending {indexes : List IndexInfo}
    (h : indexes.Pairwise fun a b => a.spaceId = b.spaceId → a.id ≤ b.id) (id : UInt32) :
    indexesOf indexes id = indexes.filter fun i => i.spaceId == id := by
  have hspace (i : IndexInfo) (hi : i ∈ indexes.filter fun i => i.spaceId == id) :
      i.spaceId = id := by
    rw [List.mem_filter, beq_iff_eq] at hi
    exact hi.2
  refine List.mergeSort_of_pairwise ((h.filter _).imp_of_mem fun ha hb hle => ?_)
  rw [decide_eq_true_iff]
  exact hle ((hspace _ ha).trans (hspace _ hb).symm)

/-- The snapshot of rows in order. -/
theorem ofRows_of_ascending {version : UInt64} {spaceRows indexRows : List Value}
    (h : (indexRows.filterMap IndexInfo.ofRow?).Pairwise fun a b =>
      a.spaceId = b.spaceId → a.id ≤ b.id) :
    ofRows version spaceRows indexRows =
      ⟨version, SortedMap.ofList ((spaceRows.filterMap SpaceInfo.ofRow?).map fun s =>
        (s.id,
          { s with
            indexes := (indexRows.filterMap IndexInfo.ofRow?).filter fun i =>
              i.spaceId == s.id }))⟩ := by
  simp only [ofRows, indexesOf_of_ascending h]

variable {c : SchemaCache} {name : String} {space : SpaceInfo}

theorem Keyed.get?_of_spaceByName? (hc : c.Keyed) (h : c.spaceByName? name = some space) :
    c.spaces.get? space.id = some space := by
  obtain ⟨id, hid⟩ := SortedMap.mem_values_iff.1 (List.mem_of_find?_eq_some h)
  rwa [hc id space hid]

/-! ## Numbers of names -/

/-- The numbers of a space and one of its indexes, both given by name, stamped with the version. -/
def target? (c : SchemaCache) (space index : String) : Option ResolvedTarget := do
  let s ← c.spaceByName? space
  let i ← s.indexByName? index
  return ⟨s.id, i.id, c.version⟩

/-- The number of an index given by name of the space under a number. -/
def indexUnder? (c : SchemaCache) (id : UInt32) (index : String) : Option UInt32 :=
  (c.spaces.get? id).bind fun s => (s.indexByName? index).map IndexInfo.id

theorem target?_eq_some_iff {index : String} {r : ResolvedTarget} :
    c.target? name index = some r ↔
      ∃ s, c.spaceByName? name = some s ∧
        ∃ i, s.indexByName? index = some i ∧ ⟨s.id, i.id, c.version⟩ = r := by
  simp [target?, Option.bind_eq_some_iff]

theorem indexUnder?_eq_some_iff {id n : UInt32} {index : String} :
    c.indexUnder? id index = some n ↔
      ∃ s, c.spaces.get? id = some s ∧ ∃ i, s.indexByName? index = some i ∧ i.id = n := by
  simp [indexUnder?, Option.bind_eq_some_iff]

/-- An index that was looked for under the number of a space is an index of the space of a name
exactly if that space has the number. -/
theorem Keyed.target?_iff (hc : c.Keyed) {id n : UInt32} {index : String}
    (h : c.indexUnder? id index = some n) :
    c.target? name index = some ⟨id, n, c.version⟩ ↔
      (c.spaceByName? name).map SpaceInfo.id = some id := by
  obtain ⟨s, hs, i, hi, rfl⟩ := indexUnder?_eq_some_iff.1 h
  rw [target?_eq_some_iff, Option.map_eq_some_iff]
  constructor
  · rintro ⟨found, hfound, j, _, heq⟩
    rw [ResolvedTarget.mk.injEq] at heq
    exact ⟨found, hfound, heq.1⟩
  · rintro ⟨found, hfound, rfl⟩
    have hsame : found = s := by
      have h := hc.get?_of_spaceByName? hfound
      rw [hs] at h
      exact (Option.some.inj h).symm
    subst hsame
    exact ⟨found, hfound, i, hi, rfl⟩

/-! ## The two views apart

The view of spaces alone makes a snapshot whose spaces have no indexes. -/

/-- The spaces that the rows of the view of spaces make. -/
def spacesOf (spaceRows : List Value) : SortedMap UInt32 SpaceInfo := (ofRows 0 spaceRows []).spaces

/-- A snapshot has the spaces of the one view with their indexes from the other. -/
theorem get?_ofRows (version : UInt64) (spaceRows indexRows : List Value) (id : UInt32) :
    (ofRows version spaceRows indexRows).spaces.get? id =
      ((spacesOf spaceRows).get? id).map fun s =>
        { s with indexes := indexesOf (indexRows.filterMap IndexInfo.ofRow?) id } := by
  have h := SortedMap.get?_ofList_map
    (fun id (s : SpaceInfo) =>
      { s with indexes := indexesOf (indexRows.filterMap IndexInfo.ofRow?) id })
    ((spaceRows.filterMap SpaceInfo.ofRow?).map fun s => (s.id, { s with indexes := [] })) id
  rw [List.map_map] at h
  rw [spacesOf, ofRows, ofRows]
  simp only [List.filterMap_nil, indexesOf, List.filter_nil, List.mergeSort_nil]
  exact h

/-- The spaces of the one view are those of a snapshot without their indexes. -/
theorem get?_spacesOf (version : UInt64) (spaceRows indexRows : List Value) (id : UInt32) :
    (spacesOf spaceRows).get? id =
      ((ofRows version spaceRows indexRows).spaces.get? id).map fun s =>
        { s with indexes := [] } := by
  rw [get?_ofRows, Option.map_map]
  cases hs : (spacesOf spaceRows).get? id with
  | none => rfl
  | some s =>
      have hbare : s.indexes = [] := by
        refine SortedMap.forall_get?_ofList (P := fun _ s => s.indexes = []) (fun e he => ?_) hs
        obtain ⟨space, _, rfl⟩ := List.mem_map.1 he
        simp [indexesOf]
      obtain ⟨spaceId, name, engine, format, indexes⟩ := s
      cases hbare
      rfl

/-- With the indexes of one and the same view, two snapshots are equal if and only if the views of
spaces made the same spaces. -/
theorem ofRows_eq_iff {version : UInt64} {spaceRows spaceRows' indexRows : List Value} :
    ofRows version spaceRows indexRows = ofRows version spaceRows' indexRows ↔
      spacesOf spaceRows = spacesOf spaceRows' := by
  constructor
  · intro h
    apply SortedMap.ext_get?
    intro id
    rw [get?_spacesOf version spaceRows indexRows, h, ← get?_spacesOf]
  · intro h
    have hspaces : (ofRows version spaceRows indexRows).spaces =
        (ofRows version spaceRows' indexRows).spaces :=
      SortedMap.ext_get? fun id => by rw [get?_ofRows, get?_ofRows, h]
    exact congrArg (SchemaCache.mk version) hspaces

end TupleWire.SchemaCache
