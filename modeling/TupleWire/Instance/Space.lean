/-
  Spaces and their rows.

  The rows of a space are kept in the order in which they came.  Index number
  `n` looks at the field in position `n`; the first index is unique and the
  others are not.  A key matches by its first element, and an empty key matches
  every row.  Fields are compared as a search compares them (`Value.agrees`).
-/
import TupleWire.Packet.Basic
import TupleWire.Schema.Cache

set_option autoImplicit false

namespace TupleWire

/-- A row, or a tuple that is to become one. -/
abbrev Row : Type := List Value

/-- A space with its rows. -/
structure StoredSpace where
  id : UInt32
  name : String
  engine : String
  /-- the names of the indexes; the position of a name is the number of the index -/
  indexes : List String
  format : List FieldInfo
  rows : List Row
  deriving DecidableEq

namespace StoredSpace

/-- An empty space whose first index is its only one. -/
def create (id : UInt32) (name : String) : StoredSpace := ⟨id, name, "memtx", ["primary"], [], []⟩

/-! ## What the system views show -/

def fieldValue (f : FieldInfo) : Value :=
  .map [(.text "name", .text f.name), (.text "type", .text f.type)]

/-- The row of a space in the view of spaces. -/
def spaceRow (s : StoredSpace) : Value :=
  .array [.word s.id, .uint 1, .text s.name, .text s.engine, .uint (UInt64.ofNat s.format.length),
    .map [], .array (s.format.map fieldValue)]

/-- The row of one index in the view of indexes. -/
def indexRow (s : StoredSpace) (id : Nat) (name : String) : Value :=
  .array [.word s.id, .uint (UInt64.ofNat id), .text name, .text "tree",
    .map [(.text "unique", .bool (id == 0))],
    .array [.array [.uint (UInt64.ofNat id), .text "scalar"]]]

/-- The rows of a space in the view of indexes. -/
def indexRows (s : StoredSpace) : List Value := s.indexes.mapIdx fun id name => s.indexRow id name

/-! ## Indexes -/

def hasIndex (s : StoredSpace) (index : UInt32) : Bool := index.toNat < s.indexes.length

/-- The number of the first index with a name. -/
def indexId? (s : StoredSpace) (name : String) : Option UInt32 :=
  (s.indexes.findIdx? fun i => i == name).map UInt32.ofNat

/-- Whether a row has a key in an index. -/
def matchesKey (index : UInt32) (key row : Row) : Bool :=
  match key with
  | [] => true
  | k :: _ => match row[index.toNat]? with
      | some field => field.agrees k
      | none => false

/-- Whether a row has a primary key; only a row with fields does. -/
def hasPrimaryKey (key : Value) : Row → Bool
  | field :: _ => field.agrees key
  | [] => false

/-- The position of the row that a tuple would replace. -/
def positionOf? (s : StoredSpace) : Row → Option Nat
  | key :: _ => s.rows.findIdx? (hasPrimaryKey key)
  | [] => none

/-- The position of the first row with a key. -/
def find? (s : StoredSpace) (index : UInt32) (key : Row) : Option Nat :=
  s.rows.findIdx? (matchesKey index key)

/-! ## Reading -/

/-- So many rows with a key, after skipping so many. -/
def select (s : StoredSpace) (index : UInt32) (key : Row) (offset limit : Nat) : List Row :=
  ((s.rows.filter (matchesKey index key)).drop offset).take limit

/-! ## Changing -/

/-- The error of a tuple whose primary key is taken. -/
def duplicateKey (s : StoredSpace) : ServerError :=
  ⟨ServerCode.tupleFound,
    s!"Duplicate key exists in unique index \"primary\" in space \"{s.name}\""⟩

/-- The error of an operation on a field that a tuple does not have. -/
def noSuchField (field : UInt64) : ServerError :=
  ⟨ServerCode.noSuchField, s!"Field {field} was not found in the tuple"⟩

/-- The space with a row at its end. -/
def append (s : StoredSpace) (tuple : Row) : StoredSpace := { s with rows := s.rows ++ [tuple] }

/-- The space with the row in a position replaced. -/
def set (s : StoredSpace) (position : Nat) (tuple : Row) : StoredSpace :=
  { s with rows := s.rows.set position tuple }

/-- Adds a row whose primary key is not taken. -/
def insert (s : StoredSpace) (tuple : Row) : Except ServerError StoredSpace :=
  match s.positionOf? tuple with
  | some _ => .error s.duplicateKey
  | none => .ok (s.append tuple)

/-- Adds a row in place of the one with its primary key, if there is one. -/
def replace (s : StoredSpace) (tuple : Row) : StoredSpace :=
  match s.positionOf? tuple with
  | some position => s.set position tuple
  | none => s.append tuple

/-- Removes the first row with a key. -/
def delete (s : StoredSpace) (index : UInt32) (key : Row) : Option Row × StoredSpace :=
  match s.find? index key with
  | some position => (s.rows[position]?, { s with rows := s.rows.eraseIdx position })
  | none => (none, s)

/-- The field that an operation assigns to and the value; an operation that is not three elements
long is none.  A field that is not a number is one that no tuple has. -/
def assignment? (operation : Value) : Option (UInt64 × Value) :=
  match operation with
  | .array [_, field, value] => some (field.asUInt?.getD 0xffffffffffffffff, value)
  | _ => none

/-- Carries out operations one after the other; the first one on a field that is not there ends
it, and what was done before stays done. -/
def applyOperations (row : Row) : List Value → Option ServerError × Row
  | [] => (none, row)
  | operation :: rest =>
      match assignment? operation with
      | none => applyOperations row rest
      | some (field, value) =>
          if field.toNat < row.length then applyOperations (row.set field.toNat value) rest
          else (some (noSuchField field), row)

/-- Carries out operations on the row in a position. -/
def modify (s : StoredSpace) (position : Nat) (operations : List Value) :
    Except ServerError (Option Row) × StoredSpace :=
  match s.rows[position]? with
  | none => (.ok none, s)
  | some row =>
      match applyOperations row operations with
      | (some error, changed) => (.error error, s.set position changed)
      | (none, changed) => (.ok (some changed), s.set position changed)

/-- Carries out operations on the first row with a key, and gives the row they make. -/
def update (s : StoredSpace) (index : UInt32) (key : Row) (operations : List Value) :
    Except ServerError (Option Row) × StoredSpace :=
  match s.find? index key with
  | some position => s.modify position operations
  | none => (.ok none, s)

/-- Adds a row, or carries out operations on the one that has its primary key. -/
def upsert (s : StoredSpace) (tuple : Row) (operations : List Value) :
    Except ServerError Unit × StoredSpace :=
  match s.positionOf? tuple with
  | some position =>
      match s.modify position operations with
      | (.error error, changed) => (.error error, changed)
      | (.ok _, changed) => (.ok (), changed)
  | none => (.ok (), s.append tuple)

end StoredSpace

end TupleWire
