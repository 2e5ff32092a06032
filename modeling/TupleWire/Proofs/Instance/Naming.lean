/-
  Names, as a client and an instance resolve them.

  A client finds a space or an index by its name in the snapshot that it made
  from the rows of the two views; the instance searches its own spaces.
  `names_resolve_alike` says that the two find the same, whatever is asked for:
  a name that is borne by several indexes of a space stands for the first of
  them on both sides, and what the one does not find the other reports missing.
-/
import Mathlib.Data.List.Nodup
import TupleWire.Proofs.Instance.Views

set_option autoImplicit false

namespace TupleWire

namespace StoredSpace

/-! ## Indexes in the view -/

/-- The index in a position, as the view of indexes describes it. -/
def indexInfo (s : StoredSpace) (position : Nat) (name : String) : IndexInfo :=
  ⟨UInt32.ofNat position, s.id, name, "tree"⟩

/-- The indexes of a space, as the view of indexes describes them. -/
def indexInfos (s : StoredSpace) : List IndexInfo :=
  s.indexes.mapIdx fun position name => s.indexInfo position name

theorem ofRow?_indexRow (s : StoredSpace) (position : Nat) (name : String) :
    IndexInfo.ofRow? (s.indexRow position name) = some (s.indexInfo position name) := by
  have hposition : (Value.uint (UInt64.ofNat position)).asWord? = some (UInt32.ofNat position) := by
    rw [Value.asWord?, Value.asUInt?, Option.map_some, UInt64.toUInt32_ofNat']
  simp [IndexInfo.ofRow?, indexRow, indexInfo, Value.asArray?, asWord?_word, hposition]

theorem filterMap_indexRows (s : StoredSpace) :
    s.indexRows.filterMap IndexInfo.ofRow? = s.indexInfos := by
  rw [indexRows, indexInfos, List.mapIdx_eq_zipIdx_map, List.mapIdx_eq_zipIdx_map,
    List.filterMap_map, ← List.filterMap_eq_map]
  congr 1
  funext e
  exact s.ofRow?_indexRow e.2 e.1

theorem spaceId_of_mem_indexInfos {s : StoredSpace} {index : IndexInfo}
    (h : index ∈ s.indexInfos) : index.spaceId = s.id := by
  obtain ⟨position, hposition, rfl⟩ := List.mem_mapIdx.1 h
  rfl

/-- A space as a client sees it, with its indexes in the order of their numbers. -/
def shown (s : StoredSpace) : SpaceInfo :=
  { s.info with indexes := s.indexInfos.mergeSort fun a b => decide (a.id ≤ b.id) }

theorem mem_indexes_shown {s : StoredSpace} {index : IndexInfo} :
    index ∈ s.shown.indexes ↔ index ∈ s.indexInfos := List.mem_mergeSort

theorem shown_ascending (s : StoredSpace) : s.shown.indexes.Pairwise fun a b => a.id ≤ b.id :=
  SchemaCache.pairwise_mergeSort_id s.indexInfos

theorem indexByName?_shown_eq_none_iff {s : StoredSpace} {name : String} :
    s.shown.indexByName? name = none ↔ name ∉ s.indexes := by
  rw [SpaceInfo.indexByName?, List.find?_eq_none]
  constructor
  · intro h hmem
    obtain ⟨position, hposition, hname⟩ := List.getElem_of_mem hmem
    have hindex : s.indexInfo position name ∈ s.shown.indexes :=
      mem_indexes_shown.2 (List.mem_mapIdx.2 ⟨position, hposition, by rw [hname]⟩)
    exact h _ hindex (beq_self_eq_true name)
  · intro h index hindex hbears
    obtain ⟨position, hposition, rfl⟩ := List.mem_mapIdx.1 (mem_indexes_shown.1 hindex)
    exact h (eq_of_beq hbears ▸ List.getElem_mem hposition)

/-- Of the indexes that bear a name a client finds one whose number is lowest. -/
theorem id_le_of_indexByName?_shown {s : StoredSpace} {name : String} {found index : IndexInfo}
    (hfound : s.shown.indexByName? name = some found) (hindex : index ∈ s.indexInfos)
    (hname : index.name = name) : found.id ≤ index.id := by
  obtain ⟨-, before, after, hsplit, hbefore⟩ := List.find?_eq_some_iff_append.1 hfound
  have hascending := s.shown_ascending
  rw [hsplit, List.pairwise_append, List.pairwise_cons] at hascending
  rw [← mem_indexes_shown, hsplit] at hindex
  rcases List.mem_append.1 hindex with hpassed | hleft
  · have hdiffers := hbefore index hpassed
    rw [hname, beq_self_eq_true] at hdiffers
    cases hdiffers
  · rcases List.mem_cons.1 hleft with rfl | hafter
    · exact UInt32.le_refl _
    · exact hascending.2.1.1 index hafter

theorem indexId?_eq_none_iff {s : StoredSpace} {name : String} :
    s.indexId? name = none ↔ name ∉ s.indexes := by
  rw [indexId?, Option.map_eq_none_iff, List.findIdx?_eq_none_iff]
  constructor
  · intro h hmem
    have hdiffers := h name hmem
    rw [beq_self_eq_true] at hdiffers
    cases hdiffers
  · intro h other hother
    rw [beq_eq_false_iff_ne]
    rintro rfl
    exact h hother

/-- The space finds by a name the index that a client finds by it, if no index bears the name whose
position needs more than 32 bits. -/
theorem indexId?_of_indexByName?_shown {s : StoredSpace} {name : String} {found : IndexInfo}
    (hfound : s.shown.indexByName? name = some found) :
    ∃ id, s.indexId? name = some id ∧ (name ∉ s.indexes.drop (2 ^ 32) → id = found.id) := by
  have hbears : found.name = name := by simpa using List.find?_some hfound
  obtain ⟨position, hposition, rfl⟩ :=
    List.mem_mapIdx.1 (mem_indexes_shown.1 (List.mem_of_find?_eq_some hfound))
  have hname : s.indexes[position] = name := hbears
  cases hid : s.indexId? name with
  | none => exact absurd (hname ▸ List.getElem_mem hposition) (indexId?_eq_none_iff.1 hid)
  | some id =>
      obtain ⟨first, hfirst, rfl⟩ := Option.map_eq_some_iff.1 hid
      obtain ⟨hlt, hfirstBears, hpassed⟩ := List.findIdx?_eq_some_iff_getElem.1 hfirst
      refine ⟨_, rfl, fun hnumbered => ?_⟩
      have hsmall : position < 2 ^ 32 := by
        by_contra hfar
        refine hnumbered (List.mem_iff_getElem?.2 ⟨position - 2 ^ 32, ?_⟩)
        rw [List.getElem?_drop, Nat.add_sub_of_le (Nat.le_of_not_lt hfar),
          List.getElem?_eq_getElem hposition, hname]
      have hle : first ≤ position := by
        by_contra hgt
        exact hpassed position (by omega) (by rw [hname, beq_self_eq_true])
      have hlowest := id_le_of_indexByName?_shown hfound
        (List.mem_mapIdx.2 ⟨first, hlt, rfl⟩) (eq_of_beq hfirstBears)
      -- both are below 2 ^ 32, so their numbers are the positions themselves
      have hsize : UInt32.size = 2 ^ 32 := rfl
      rw [indexInfo, indexInfo, UInt32.le_iff_toNat_le, UInt32.toNat_ofNat_of_lt' (by omega),
        UInt32.toNat_ofNat_of_lt' (by omega)] at hlowest
      exact congrArg UInt32.ofNat (Nat.le_antisymm hle hlowest)

theorem hasIndex_of_indexId? {s : StoredSpace} {name : String} {id : UInt32}
    (h : s.indexId? name = some id) : s.hasIndex id = true := by
  obtain ⟨position, hposition, rfl⟩ := Option.map_eq_some_iff.1 h
  obtain ⟨hlt, -⟩ := List.findIdx?_eq_some_iff_getElem.1 hposition
  have hle : position % 2 ^ 32 ≤ position := Nat.mod_le _ _
  rw [hasIndex, UInt32.toNat_ofNat', decide_eq_true_iff]
  omega

end StoredSpace

namespace Instance

variable {i : Instance} {s : StoredSpace}

/-! ## The snapshot of a client -/

/-- Of the indexes of all spaces those under a number are those of its space. -/
theorem Keyed.filter_indexRows (h : i.Keyed) (hs : s ∈ i.spaces.values) :
    (i.indexRows.filterMap IndexInfo.ofRow?).filter (fun index => index.spaceId == s.id) =
      s.indexInfos := by
  obtain ⟨id, hid⟩ := SortedMap.mem_values_iff.1 hs
  have hkey : s.id = id := h id s hid
  have hinfos (t : StoredSpace) : t.indexInfos.filter (fun index => index.spaceId == s.id) =
      if t.id = s.id then t.indexInfos else [] := by
    split
    · rename_i heq
      refine List.filter_eq_self.2 fun index hindex => ?_
      rw [StoredSpace.spaceId_of_mem_indexInfos hindex, heq, beq_self_eq_true]
    · rename_i hne
      refine List.filter_eq_nil_iff.2 fun index hindex => ?_
      rw [StoredSpace.spaceId_of_mem_indexInfos hindex, beq_iff_eq]
      exact hne
  calc (i.indexRows.filterMap IndexInfo.ofRow?).filter (fun index => index.spaceId == s.id)
      = i.spaces.values.flatMap fun t => if t.id = s.id then t.indexInfos else [] := by
        rw [indexRows, List.filterMap_flatMap, List.filter_flatMap]
        refine List.flatMap_congr fun t _ => ?_
        rw [StoredSpace.filterMap_indexRows, hinfos]
    _ = i.spaces.entries.flatMap fun e => if e.1 = id then e.2.indexInfos else [] := by
        rw [SortedMap.values, List.flatMap_map]
        refine List.flatMap_congr fun e he => ?_
        rw [h e.1 e.2 (SortedMap.get?_eq_some_iff.2 he), hkey]
    _ = s.indexInfos := by
        rw [SortedMap.flatMap_entries, hid]
        rfl

/-- A client sees every space. -/
theorem Keyed.values_ofRows (h : i.Keyed) (version : UInt64) :
    (SchemaCache.ofRows version i.spaceRows i.indexRows).spaces.values =
      i.spaces.values.map StoredSpace.shown := by
  rw [SortedMap.values, h.entries_ofRows, SortedMap.values, List.map_map, List.map_map]
  refine List.map_congr_left fun e he => ?_
  have hs : e.2 ∈ i.spaces.values := List.mem_map.2 ⟨e, he, rfl⟩
  rw [Function.comp_apply, Function.comp_apply, SchemaCache.indexesOf, h.filter_indexRows hs]
  rfl

/-- A client finds by a name the space that the instance finds by it. -/
theorem Keyed.spaceByName?_ofRows (h : i.Keyed) (version : UInt64) (name : String) :
    (SchemaCache.ofRows version i.spaceRows i.indexRows).spaceByName? name =
      (i.spaceNamed? name).map StoredSpace.shown := by
  rw [SchemaCache.spaceByName?, h.values_ofRows, List.find?_map]
  rfl

/-- A space whose name no other one bears is the one that is found by it. -/
theorem spaceNamed?_of_mem (hnames : (i.spaces.values.map StoredSpace.name).Nodup)
    (hs : s ∈ i.spaces.values) : i.spaceNamed? s.name = some s := by
  cases hfound : i.spaceNamed? s.name with
  | none => exact absurd (beq_self_eq_true s.name) (List.find?_eq_none.1 hfound s hs)
  | some found =>
      have hname : found.name = s.name := by simpa using List.find?_some hfound
      have hmem : found ∈ i.spaces.values := List.mem_of_find?_eq_some hfound
      rw [List.inj_on_of_nodup_map hnames hmem hs hname]

/-! ## What requests name -/

/-- The space that a target stands for. -/
def locate (i : Instance) : Target → Except ServerError StoredSpace
  | .byId id =>
      match i.spaces.get? id with
      | some s => .ok s
      | none => .error (noSuchSpace id)
  | .byName name =>
      match i.spaceNamed? name with
      | some s => .ok s
      | none => .error ⟨ServerCode.noSuchSpace, s!"Space '{name}' does not exist"⟩

theorem code_of_locate {target : Target} {e : ServerError} (h : i.locate target = .error e) :
    e.code = ServerCode.noSuchSpace := by
  cases target with
  | byId id =>
      rw [locate] at h
      split at h
      · cases h
      · cases h
        rfl
  | byName name =>
      rw [locate] at h
      split at h
      · cases h
      · cases h
        rfl

theorem Keyed.get?_of_locate (h : i.Keyed) {target : Target} (hs : i.locate target = .ok s) :
    i.spaces.get? s.id = some s := by
  cases target with
  | byId id =>
      rw [locate] at hs
      split at hs
      · rename_i hget
        cases hs
        rwa [h id s hget]
      · cases hs
  | byName name =>
      rw [locate] at hs
      split at hs
      · rename_i hnamed
        cases hs
        exact h.get?_of_spaceNamed? hnamed
      · cases hs

end Instance

namespace StoredSpace

/-- The error of an index that is not there. -/
def noSuchIndex (s : StoredSpace) (id : UInt32) : ServerError :=
  ⟨ServerCode.noSuchIndex, s!"No index #{id} is defined in space '{s.name}'"⟩

/-- The index of a space that a target stands for. -/
def locate (s : StoredSpace) : Target → Except ServerError UInt32
  | .byId id => if s.hasIndex id then .ok id else .error (s.noSuchIndex id)
  | .byName name =>
      match s.indexId? name with
      | some id => .ok id
      | none => .error (s.noSuchIndex 0xffffffff)

theorem code_of_locate {s : StoredSpace} {target : Target} {e : ServerError}
    (h : s.locate target = .error e) : e.code = ServerCode.noSuchIndex := by
  cases target with
  | byId id =>
      rw [locate] at h
      split at h
      · cases h
      · cases h
        rfl
  | byName name =>
      rw [locate] at h
      split at h
      · cases h
      · cases h
        rfl

end StoredSpace

namespace Body

/-- Whether a request names its space so; a number counts before a name. -/
def NamesSpace (body : Body) : Target → Prop
  | .byId id => body.uint? Key.spaceId = some id.toUInt64
  | .byName name => body.uint? Key.spaceId = none ∧ body.text? Key.spaceName = some name

/-- Whether a request names its index so; a number counts before a name. -/
def NamesIndex (body : Body) : Target → Prop
  | .byId id => body.uint? Key.indexId = some id.toUInt64
  | .byName name => body.uint? Key.indexId = none ∧ body.text? Key.indexName = some name

end Body

namespace Instance

variable {i : Instance} {s : StoredSpace} {body : Body} {target : Target}

/-- An instance finds the space that a request names. -/
theorem Keyed.spaceOf_eq (h : i.Keyed) (hbody : body.NamesSpace target) :
    i.spaceOf body = (i.locate target).map fun s => (s.id, s) := by
  cases target with
  | byId id =>
      have hid : body.uint? Key.spaceId = some id.toUInt64 := hbody
      rw [spaceOf, spaceId, hid, locate]
      dsimp only
      rw [UInt32.toUInt32_toUInt64]
      cases hget : i.spaces.get? id with
      | none => rfl
      | some s => exact congrArg (fun n => Except.ok (n, s)) (h id s hget).symm
  | byName name =>
      obtain ⟨hid, hname⟩ := hbody
      have hfind : (i.spaces.values.find? fun s => s.name == name) = i.spaceNamed? name := rfl
      rw [spaceOf, spaceId, hid, hname, Option.getD_some, locate]
      dsimp only
      rw [hfind]
      cases hnamed : i.spaceNamed? name with
      | none => rfl
      | some s =>
          dsimp only
          rw [h.get?_of_spaceNamed? hnamed]
          rfl

/-- An instance finds the index that a request names. -/
theorem indexOf_eq (s : StoredSpace) (hbody : body.NamesIndex target) :
    indexOf s body = s.locate target := by
  cases target with
  | byId id =>
      have hid : body.uint? Key.indexId = some id.toUInt64 := hbody
      have hnamed : namedIndex? s body = some id := by
        rw [namedIndex?, hid]
        exact congrArg some (UInt32.toUInt32_toUInt64 id)
      rw [indexOf, hnamed, StoredSpace.locate]
      cases hindex : s.hasIndex id with
      | true => simp [Option.filter, hindex]
      | false => simp [Option.filter, hindex, StoredSpace.noSuchIndex]
  | byName name =>
      obtain ⟨hid, hname⟩ := hbody
      have hnamed : namedIndex? s body = s.indexId? name := by
        rw [namedIndex?, hid, hname]
      rw [indexOf, hnamed, StoredSpace.locate]
      cases hindex : s.indexId? name with
      | none => rfl
      | some id => simp [Option.filter, StoredSpace.hasIndex_of_indexId? hindex]

/-! ## Names on both sides -/

/-- For spaces with distinct numbers and names, whatever their formats and the names of their
indexes are: the snapshot that is made from the rows of the views has every space under its name,
with its format and its indexes.  A request that names a space and an index is about just the
numbers that the snapshot gives for the names, and it is refused for the space or for the index
exactly if the snapshot has none of that name.  (An index has a number of its own as long as 32 bits
hold its position: the number of a name that is borne by an index further behind is left open.) -/
theorem names_resolve_alike (i : Instance) (version : UInt64) (hkeyed : i.Keyed)
    (hnames : (i.spaces.values.map StoredSpace.name).Nodup) :
    let cache := SchemaCache.ofRows version i.spaceRows i.indexRows
    (∀ s ∈ i.spaces.values, cache.space? (.byName s.name) = some s.shown) ∧
      ∀ (body : Body) (name index : String),
        body.NamesSpace (.byName name) → body.NamesIndex (.byName index) →
          match cache.space? (.byName name) with
          | none => ∃ e, i.spaceOf body = .error e ∧ e.code = ServerCode.noSuchSpace
          | some info => ∃ s, i.spaceOf body = .ok (info.id, s) ∧ info.name = name ∧
              info.format = s.format ∧
              match info.indexByName? index with
              | none => ∃ e, indexOf s body = .error e ∧ e.code = ServerCode.noSuchIndex
              | some found => ∃ id, indexOf s body = .ok id ∧
                  (index ∉ s.indexes.drop (2 ^ 32) → id = found.id) := by
  intro cache
  have hspace (name : String) :
      cache.space? (.byName name) = (i.spaceNamed? name).map StoredSpace.shown :=
    hkeyed.spaceByName?_ofRows version name
  constructor
  · intro s hs
    rw [hspace, spaceNamed?_of_mem hnames hs]
    rfl
  · intro body name index hbody hindex
    rw [hspace, hkeyed.spaceOf_eq hbody]
    cases hnamed : i.spaceNamed? name with
    | none =>
        have hlocate : i.locate (.byName name) =
            .error ⟨ServerCode.noSuchSpace, s!"Space '{name}' does not exist"⟩ := by
          rw [locate, hnamed]
        rw [hlocate]
        exact ⟨_, rfl, rfl⟩
    | some s =>
        have hlocate : i.locate (.byName name) = .ok s := by
          rw [locate, hnamed]
        have hname : s.name = name := by simpa using List.find?_some hnamed
        rw [hlocate]
        refine ⟨s, rfl, hname, rfl, ?_⟩
        rw [indexOf_eq s hindex, StoredSpace.locate]
        cases hfound : s.shown.indexByName? index with
        | none =>
            have habsent : s.indexId? index = none := StoredSpace.indexId?_eq_none_iff.2
              (StoredSpace.indexByName?_shown_eq_none_iff.1 hfound)
            rw [habsent]
            exact ⟨_, rfl, rfl⟩
        | some found =>
            obtain ⟨id, hid, hsame⟩ := StoredSpace.indexId?_of_indexByName?_shown hfound
            rw [hid]
            exact ⟨id, rfl, hsame⟩

/-! ## Spaces with repeated and empty names of indexes -/

/-- A space with a format, two of whose indexes share a name and one has none. -/
def users : StoredSpace :=
  ⟨512, "users", "memtx", ["primary", "by_name", "", "by_name"],
    [⟨"id", "unsigned"⟩, ⟨"name", "string"⟩], []⟩

/-- An instance with that space and one without a name. -/
def crm : Instance := (({} : Instance).createSpace users).createSpace (.create 600 "")

/-- A request on the users by their name. -/
def usersByName (index : String) : Body :=
  (SortedMap.insert Body.empty Key.spaceName (.text "users")).insert Key.indexName (.text index)

theorem names_resolve_alike_of_repeats :
    indexOf users (usersByName "by_name") = .ok 1 ∧
      ∃ e, indexOf users (usersByName "by_age") = .error e ∧ e.code = ServerCode.noSuchIndex := by
  have hkeyed : crm.Keyed := (keyed_new.createSpace _).createSpace _
  obtain ⟨hshown, halike⟩ := names_resolve_alike crm 3 hkeyed (by decide)
  have hspace : (SchemaCache.ofRows 3 crm.spaceRows crm.indexRows).space? (.byName "users") =
      some users.shown := hshown users (by decide)
  have hindexes : users.shown.indexes = users.indexInfos := List.mergeSort_of_pairwise (by decide)
  have hasked (index : String) : ∃ s, crm.spaceOf (usersByName index) = .ok (512, s) ∧
      match users.indexInfos.find? (fun info => info.name == index) with
      | none => ∃ e, indexOf s (usersByName index) = .error e ∧ e.code = ServerCode.noSuchIndex
      | some found => ∃ id, indexOf s (usersByName index) = .ok id ∧
          (index ∉ s.indexes.drop (2 ^ 32) → id = found.id) := by
    have h := halike (usersByName index) "users" index ⟨rfl, rfl⟩ ⟨rfl, Value.asText?_text index⟩
    rw [hspace] at h
    obtain ⟨s, hs, -, -, hindex⟩ := h
    rw [SpaceInfo.indexByName?, hindexes] at hindex
    exact ⟨s, hs, hindex⟩
  constructor
  · obtain ⟨s, hs, id, hid, hsame⟩ := hasked "by_name"
    cases hs
    have hnumber : id = 1 := hsame fun hfar => by
      rw [List.drop_eq_nil_of_le (by decide)] at hfar
      cases hfar
    rw [hid, hnumber]
  · obtain ⟨s, hs, hmissing⟩ := hasked "by_age"
    cases hs
    exact hmissing

end Instance

end TupleWire
