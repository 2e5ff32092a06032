/-
  What a client reads in the views of an instance.

  The snapshot of both views at one moment has the spaces of the instance under
  their numbers and names (`spaceByName?_schema`), and a client that fetches it
  undisturbed gets just that (`Peer.fetch_eq`).
-/
import TupleWire.Proofs.Instance.Delivery

set_option autoImplicit false

namespace TupleWire

/-! ## Rows of the views -/

namespace StoredSpace

/-- A space as the view of spaces describes it. -/
def info (s : StoredSpace) : SpaceInfo := ⟨s.id, s.name, s.engine, s.format, []⟩

theorem asWord?_word (n : UInt32) : (Value.word n).asWord? = some n := by
  rw [Value.word, Value.asWord?, Value.asUInt?, Option.map_some, UInt32.toUInt32_toUInt64]

theorem ofValue?_fieldValue (f : FieldInfo) : FieldInfo.ofValue? (fieldValue f) = some f := by
  have hname : ((some "name" : Option String) == some "type") = false := by decide
  simp [FieldInfo.ofValue?, fieldValue, Value.asMap?, Value.textUnder?, List.find?, hname]

theorem ofRow?_spaceRow (s : StoredSpace) : SpaceInfo.ofRow? s.spaceRow = some s.info := by
  have hformat : (s.format.map fieldValue).filterMap FieldInfo.ofValue? = s.format := by
    have hread : FieldInfo.ofValue? ∘ fieldValue = some := funext ofValue?_fieldValue
    rw [List.filterMap_map, hread, List.filterMap_some]
  simp [SpaceInfo.ofRow?, spaceRow, info, Value.asArray?, asWord?_word, hformat]

/-- The rows of the views arrive as they are. -/
theorem carried_spaceRow (s : StoredSpace) : s.spaceRow.carried = s.spaceRow := by
  have hfield (f : FieldInfo) : (fieldValue f).carried = fieldValue f := by simp [fieldValue]
  simp [spaceRow, hfield]

theorem carried_indexRow (s : StoredSpace) (id : Nat) (name : String) :
    (s.indexRow id name).carried = s.indexRow id name := by
  have hbool (b : Bool) : (Value.bool b).carried = .bool b := rfl
  simp [indexRow, hbool]

theorem carried_of_mem_indexRows {s : StoredSpace} {row : Value} (h : row ∈ s.indexRows) :
    row.carried = row := by
  obtain ⟨id, hid, rfl⟩ := List.mem_mapIdx.1 h
  exact s.carried_indexRow id s.indexes[id]

/-! ## What requests leave alone -/

theorem id_replace (s : StoredSpace) (tuple : Row) : (s.replace tuple).id = s.id := by
  unfold replace
  split <;> rfl

theorem id_insert {s changed : StoredSpace} {tuple : Row} (h : s.insert tuple = .ok changed) :
    changed.id = s.id := by
  unfold insert at h
  split at h
  · cases h
  · cases h
    rfl

theorem id_delete (s : StoredSpace) (index : UInt32) (key : Row) :
    (s.delete index key).2.id = s.id := by
  unfold delete
  split <;> rfl

theorem id_modify (s : StoredSpace) (position : Nat) (operations : List Value) :
    (s.modify position operations).2.id = s.id := by
  unfold modify
  split
  · rfl
  · split <;> rfl

theorem id_update (s : StoredSpace) (index : UInt32) (key : Row) (operations : List Value) :
    (s.update index key operations).2.id = s.id := by
  unfold update
  split
  · exact s.id_modify _ operations
  · rfl

theorem id_upsert (s : StoredSpace) (tuple : Row) (operations : List Value) :
    (s.upsert tuple operations).2.id = s.id := by
  unfold upsert
  split
  · rename_i position _
    have hmodify := s.id_modify position operations
    split
    · rename_i hchanged
      rw [hchanged] at hmodify
      exact hmodify
    · rename_i hchanged
      rw [hchanged] at hmodify
      exact hmodify
  · rfl

end StoredSpace

namespace Instance

/-! ## Spaces under their numbers -/

/-- Whether every space is kept under its own number. -/
def Keyed (i : Instance) : Prop := ∀ id s, i.spaces.get? id = some s → s.id = id

variable {i : Instance} {s : StoredSpace} {name : String}

theorem keyed_new : ({} : Instance).Keyed := by
  intro id s h
  cases h

/-- A space put under its number is under its number. -/
theorem Keyed.insert (h : i.Keyed) {id : UInt32} (hid : s.id = id) :
    { i with spaces := i.spaces.insert id s }.Keyed := by
  intro other found hfound
  have hget : (i.spaces.insert id s).get? other = some found := hfound
  rw [SortedMap.get?_insert] at hget
  split at hget
  · rename_i hother
    cases hget
    exact hid.trans hother
  · exact h other found hget

theorem Keyed.createSpace (h : i.Keyed) (s : StoredSpace) : (i.createSpace s).Keyed :=
  h.insert (s := s) rfl

theorem Keyed.dropSpace (h : i.Keyed) (id : UInt32) : (i.dropSpace id).Keyed := by
  intro other found hfound
  have hget : (i.spaces.erase id).get? other = some found := hfound
  rw [SortedMap.get?_erase] at hget
  split at hget
  · cases hget
  · exact h other found hget

/-- A change that leaves the number of a space alone leaves it under its number. -/
theorem Keyed.change (h : i.Keyed) (body : Body) {f : StoredSpace → Answer × StoredSpace}
    (hf : ∀ s, (f s).2.id = s.id) : (i.change body f).2.Keyed := by
  unfold Instance.change
  split
  · exact h
  · rename_i id s hspace
    have hs : i.spaces.get? id = some s := by
      unfold spaceOf at hspace
      split at hspace
      · cases hspace
      · split at hspace
        · cases hspace
          assumption
        · cases hspace
    exact h.insert ((hf s).trans (h id s hs))

theorem id_changeBy (body : Body) (s : StoredSpace) {f : UInt32 → Answer × StoredSpace}
    (hf : ∀ index, (f index).2.id = s.id) : (changeBy body s f).2.id = s.id := by
  unfold changeBy
  split
  · rfl
  · exact hf _

/-- Carrying out a request keeps every space under its number. -/
theorem Keyed.carryOut (h : i.Keyed) (session : Session) (kind : RequestType) (sync : UInt64)
    (body : Body) : (i.carryOut session kind sync body).1.Keyed := by
  cases kind with
  | insert =>
      refine h.change body fun s => ?_
      split
      · exact StoredSpace.id_insert ‹_›
      · rfl
  | replace => exact h.change body fun s => s.id_replace _
  | delete => exact h.change body fun s => id_changeBy body s fun index => s.id_delete index _
  | update => exact h.change body fun s => id_changeBy body s fun index => s.id_update index _ _
  | upsert => exact h.change body fun s => s.id_upsert _ _
  | _ => exact h

/-- Whatever packet comes in, every space stays under its number. -/
theorem Keyed.handle (h : i.Keyed) (session : Session) (p : Packet) :
    (i.handle session p).1.Keyed := by
  have hcounted : (i.count p.header).Keyed := h
  unfold Instance.handle
  dsimp only
  split
  · exact hcounted
  · split
    · exact hcounted
    · split
      · exact hcounted
      · exact hcounted.carryOut session _ _ _

/-- The space that bears a name; of several the one with the lowest number. -/
def spaceNamed? (i : Instance) (name : String) : Option StoredSpace :=
  i.spaces.values.find? fun s => s.name == name

theorem Keyed.get?_of_spaceNamed? (h : i.Keyed) (hs : i.spaceNamed? name = some s) :
    i.spaces.get? s.id = some s := by
  obtain ⟨id, hid⟩ := SortedMap.mem_values_iff.1 (List.mem_of_find?_eq_some hs)
  rwa [h id s hid]

/-! ## The schema of an instance -/

/-- The snapshot of both views has the spaces of the instance, each with its indexes. -/
theorem Keyed.entries_ofRows (h : i.Keyed) (version : UInt64) :
    (SchemaCache.ofRows version i.spaceRows i.indexRows).spaces.entries =
      i.spaces.entries.map fun e => (e.1, { e.2.info with
        indexes := SchemaCache.indexesOf (i.indexRows.filterMap IndexInfo.ofRow?) e.2.id }) := by
  let shown : SortedMap UInt32 SpaceInfo :=
    ⟨i.spaces.entries.map fun e => (e.1, { e.2.info with
      indexes := SchemaCache.indexesOf (i.indexRows.filterMap IndexInfo.ofRow?) e.2.id }),
      i.spaces.ascending.map _ fun _ _ hlt => hlt⟩
  have hrows : i.spaceRows.filterMap SpaceInfo.ofRow? = i.spaces.values.map StoredSpace.info := by
    have hread : SpaceInfo.ofRow? ∘ StoredSpace.spaceRow = some ∘ StoredSpace.info :=
      funext StoredSpace.ofRow?_spaceRow
    rw [spaceRows, List.filterMap_map, hread, List.filterMap_eq_map]
  have hspaces : (SchemaCache.ofRows version i.spaceRows i.indexRows).spaces =
      SortedMap.ofList shown.entries := by
    rw [SchemaCache.ofRows, hrows, SortedMap.values, List.map_map, List.map_map]
    refine congrArg SortedMap.ofList (List.map_congr_left fun e he => ?_)
    have hkey : e.2.id = e.1 := h e.1 e.2 (SortedMap.get?_eq_some_iff.2 he)
    exact Prod.ext hkey rfl
  rw [hspaces, SortedMap.ofList_entries]

/-- The schema knows a space by its name exactly if the instance does, and by its number. -/
theorem Keyed.spaceByName?_schema (h : i.Keyed) (name : String) :
    (i.schema.spaceByName? name).map SpaceInfo.id =
      (i.spaceNamed? name).map StoredSpace.id := by
  rw [schema, SchemaCache.spaceByName?, spaceNamed?, SortedMap.values,
    h.entries_ofRows i.schemaVersion, SortedMap.values, List.map_map, List.find?_map,
    List.find?_map, Option.map_map, Option.map_map]
  rfl

/-! ## Requests that are counted -/

/-- The instance after one more request of a type outside any stream. -/
def counted (i : Instance) (kind : RequestType) : Instance :=
  { i with counts := i.counts.insert kind.code (i.requestCount kind + 1) }

theorem requestCount_counted (i : Instance) (kind other : RequestType) :
    (i.counted kind).requestCount other =
      i.requestCount other + if kind = other then 1 else 0 := by
  rw [requestCount, counted, SortedMap.get?_insert]
  by_cases hkind : kind = other
  · rw [hkind, if_pos rfl, if_pos rfl]
    rfl
  · rw [if_neg (mt RequestType.code_injective hkind), if_neg hkind]
    rfl

/-- A request outside any stream is counted.  Then it is refused, if its type is checked and it
rests on another version of the schema, or carried out. -/
theorem handle_request (hawake : i.isMuted = false) (session : Session) (kind : RequestType)
    (sync : UInt64) (version : Option UInt64) (body : Body) :
    i.handle session ⟨{ Header.request kind sync with schemaVersion := version }, body⟩ =
      if isSchemaChecked kind && version.any fun expected => expected != i.schemaVersion then
        (i.counted kind, session, (i.counted kind).answer sync
          (.error (wrongVersion i.schemaVersion (version.getD 0))))
      else (i.counted kind).carryOut session kind sync body := by
  have hcounted : i.count { Header.request kind sync with schemaVersion := version } =
      i.counted kind := rfl
  have hmuted : (i.counted kind).isMuted = false := hawake
  have hkind : RequestType.ofCode? (Header.request kind sync).code = some kind :=
    RequestType.ofCode?_code kind
  simp only [handle, hcounted, hmuted, hkind, Bool.false_eq_true, if_false]
  rfl

end Instance

/-! ## Fetching the views -/

/-- A version that is seen once more is not news. -/
theorem SchemaTracker.observe_observe (tracker : SchemaTracker) (version : UInt64) :
    (tracker.observe version).observe version = tracker.observe version := by
  have hle : version ≤ max tracker.current version := by
    show version ≤ if tracker.current ≤ version then version else tracker.current
    split
    · exact UInt64.le_refl version
    · rename_i h
      exact UInt64.le_of_lt (UInt64.not_le.1 h)
  refine congrArg SchemaTracker.mk ?_
  show (if max tracker.current version ≤ version then version else max tracker.current version) = _
  split
  · rename_i h
    exact UInt64.le_antisymm hle h
  · rfl

namespace Peer

/-- The peer after one more request of a type outside any stream. -/
def counted (p : Peer) (kind : RequestType) : Peer :=
  { p with inst := p.inst.counted kind, issued := p.issued + 1 }

@[simp] theorem schemaVersion_counted (p : Peer) (kind : RequestType) :
    (p.counted kind).inst.schemaVersion = p.inst.schemaVersion := rfl

variable {p : Peer}

/-- A view whose rows get through is read as it is. -/
theorem exchange_readView (timeout : Duration) (tracker : SchemaTracker) {view : UInt32}
    {rows : List Value} (hawake : p.inst.isMuted = false)
    (hfits : (Body.select (.byId view) .primary [] .wholeIndex).Fits)
    (hselect : (p.inst.counted .select).select
      (Body.select (.byId view) .primary [] .wholeIndex) = .ok (Body.ofData rows))
    (hcarried : rows.map Value.carried = rows) (hrows : (Body.ofData rows).Fits) :
    exchange timeout (Exchange.readView view) {} tracker p =
      (.ok ⟨p.nextSync, some p.inst.schemaVersion, Body.ofData rows, .data⟩,
        tracker.observe p.inst.schemaVersion, p.counted .select) := by
  have hbody : (Body.select (.byId view) .primary [] .wholeIndex).carried =
      Body.select (.byId view) .primary [] .wholeIndex := by
    simp [Body.select, Target.writeSpace, Target.writeIndex, Target.primary]
  have hdata : (Body.ofData rows).carried = Body.ofData rows := by
    rw [Body.ofData, Body.carried_insert, Value.carried_array, hcarried, Body.carried_empty]
  have hhandle : p.inst.handle p.session (p.packet (Exchange.readView view) {}).carried =
      (p.inst.counted .select, p.session,
        (p.inst.counted .select).answer p.nextSync (.ok (Body.ofData rows))) := by
    have hpacket : (p.packet (Exchange.readView view) {}).carried =
        ⟨{ Header.request .select p.nextSync with schemaVersion := none },
          Body.select (.byId view) .primary [] .wholeIndex⟩ := congrArg (Packet.mk _) hbody
    rw [hpacket, Instance.handle_request hawake, ← hselect]
    rfl
  refine (exchange_of_answer (r := Exchange.readView view) (o := {}) rfl hfits hhandle
    ⟨hrows, fun h => by cases h; exact hdata, fun h => by cases h⟩).trans ?_
  rfl

/-- A client that fetches the views undisturbed gets what both show now. -/
theorem fetch_eq (timeout : Duration) (tracker : SchemaTracker) (hawake : p.inst.isMuted = false)
    (hspaces : (Body.ofData p.inst.spaceRows).Fits)
    (hindexes : (Body.ofData p.inst.indexRows).Fits) :
    Exchange.fetch (exchange timeout) tracker p =
      (.ok ⟨p.inst.schemaVersion, p.inst.spaceRows, p.inst.indexRows⟩,
        tracker.observe p.inst.schemaVersion, (p.counted .select).counted .select) := by
  have hspaceRows : p.inst.spaceRows.map Value.carried = p.inst.spaceRows := by
    rw [Instance.spaceRows, List.map_map]
    exact List.map_congr_left fun s _ => s.carried_spaceRow
  have hindexRows : p.inst.indexRows.map Value.carried = p.inst.indexRows := by
    refine (List.map_congr_left fun row hrow => ?_).trans (List.map_id _)
    obtain ⟨s, -, hs⟩ := List.mem_flatMap.1 hrow
    exact StoredSpace.carried_of_mem_indexRows hs
  have hfirst := exchange_readView (p := p) timeout tracker hawake ⟨by decide, by decide⟩
    (Instance.select_spaceView _ []) hspaceRows hspaces
  have hsecond := exchange_readView (p := p.counted .select) timeout
    (tracker.observe p.inst.schemaVersion) hawake ⟨by decide, by decide⟩
    (Instance.select_indexView _ []) hindexRows hindexes
  have hversion : max p.inst.schemaVersion p.inst.schemaVersion = p.inst.schemaVersion := ite_self _
  rw [Exchange.fetch, hfirst]
  dsimp only
  rw [hsecond]
  simp only [FetchedRows.ofResponses, Option.getD_some, schemaVersion_counted, hversion,
    SchemaTracker.observe_observe]
  rfl

end Peer

end TupleWire
