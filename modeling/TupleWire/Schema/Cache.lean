/-
  What a client knows of the schema.

  A snapshot is made from the rows of the two system views and stamped with the
  schema version at which they were read.  Rows that are not laid out as they
  should be are skipped, of two spaces with one number the later counts, and an
  index whose space is not there is dropped.  The indexes of a space are in
  ascending order of their numbers.
-/
import TupleWire.Map.Sorted
import TupleWire.MsgPack.Value
import TupleWire.Request.Target

set_option autoImplicit false

namespace TupleWire

/-! ## Metadata -/

/-- A field of a space's tuples. -/
structure FieldInfo where
  name : String
  type : String
  deriving DecidableEq, Repr

/-- An index of a space. -/
structure IndexInfo where
  id : UInt32
  spaceId : UInt32
  name : String
  type : String
  deriving DecidableEq, Repr

/-- A space. -/
structure SpaceInfo where
  id : UInt32
  name : String
  engine : String
  format : List FieldInfo
  indexes : List IndexInfo
  deriving DecidableEq, Repr

namespace SpaceInfo

def indexByName? (s : SpaceInfo) (name : String) : Option IndexInfo :=
  s.indexes.find? fun i => i.name == name

def indexById? (s : SpaceInfo) (id : UInt32) : Option IndexInfo :=
  s.indexes.find? fun i => i.id == id

/-- The position of a field in the tuples of a space. -/
def fieldPosition? (s : SpaceInfo) (name : String) : Option Nat :=
  s.format.findIdx? fun f => f.name == name

end SpaceInfo

/-! ## Rows -/

/-- The string that a map holds under a string key; the first entry counts. -/
def Value.textUnder? (entries : List (Value × Value)) (key : String) : Option String :=
  (entries.find? fun e => e.1.asText? == some key).bind fun e => e.2.asText?

/-- A 32-bit number; of a longer one the lowest 32 bits. -/
def Value.asWord? (v : Value) : Option UInt32 := v.asUInt?.map UInt64.toUInt32

/-- A field of a format; one without a type can hold anything. -/
def FieldInfo.ofValue? (v : Value) : Option FieldInfo := do
  let entries ← v.asMap?
  let name ← Value.textUnder? entries "name"
  return ⟨name, (Value.textUnder? entries "type").getD "any"⟩

/-- The space that a row describes: its number first, its name third, its engine fourth and its
format seventh. -/
def SpaceInfo.ofRow? (row : Value) : Option SpaceInfo := do
  let fields ← row.asArray?
  let id ← (← fields[0]?).asWord?
  let name ← (← fields[2]?).asText?
  let engine := (fields[3]?.bind Value.asText?).getD ""
  let format := (fields[6]?.bind Value.asArray?).getD []
  return ⟨id, name, engine, format.filterMap FieldInfo.ofValue?, []⟩

/-- The index that a row describes: the number of its space, its own, its name and its type. -/
def IndexInfo.ofRow? (row : Value) : Option IndexInfo := do
  let fields ← row.asArray?
  let spaceId ← (← fields[0]?).asWord?
  let id ← (← fields[1]?).asWord?
  let name ← (← fields[2]?).asText?
  return ⟨id, spaceId, name, (fields[3]?.bind Value.asText?).getD ""⟩

/-! ## Snapshots -/

/-- The spaces that were there at a schema version. -/
structure SchemaCache where
  version : UInt64
  spaces : SortedMap UInt32 SpaceInfo
  deriving DecidableEq

namespace SchemaCache

/-- The snapshot before anything was fetched. -/
def empty : SchemaCache := ⟨0, SortedMap.empty⟩

instance : Inhabited SchemaCache := ⟨empty⟩

/-- The indexes of a space among all, in ascending order of their numbers; indexes of one number
keep their order. -/
def indexesOf (indexes : List IndexInfo) (space : UInt32) : List IndexInfo :=
  (indexes.filter fun i => i.spaceId == space).mergeSort fun a b => decide (a.id ≤ b.id)

/-- The snapshot that the rows of the two views make. -/
def ofRows (version : UInt64) (spaceRows indexRows : List Value) : SchemaCache :=
  let indexes := indexRows.filterMap IndexInfo.ofRow?
  let spaces := (spaceRows.filterMap SpaceInfo.ofRow?).map fun s =>
    (s.id, { s with indexes := indexesOf indexes s.id })
  ⟨version, SortedMap.ofList spaces⟩

/-- The number of spaces. -/
def size (c : SchemaCache) : Nat := c.spaces.size

def isEmpty (c : SchemaCache) : Bool := c.spaces.isEmpty

/-- The space of a name. -/
def spaceByName? (c : SchemaCache) (name : String) : Option SpaceInfo :=
  c.spaces.values.find? fun s => s.name == name

/-- The space that a target names. -/
def space? (c : SchemaCache) : Target → Option SpaceInfo
  | .byId id => c.spaces.get? id
  | .byName name => c.spaceByName? name

end SchemaCache

end TupleWire
