/-
  The bodies of requests.

  One function for each layout.  `Body.begin` leaves the timeout out unless it
  is a positive number, so that the server's own applies.
-/
import TupleWire.Packet.RequestType
import TupleWire.Request.Target

set_option autoImplicit false

namespace TupleWire

/-- What a select asks for besides its key. -/
structure SelectParams where
  limit : UInt32 := 0xffffffff
  offset : UInt32 := 0
  iterator : IteratorType := .eq
  deriving DecidableEq, Repr, Inhabited

/-- A walk over a whole index. -/
def SelectParams.wholeIndex : SelectParams := { iterator := .all }

namespace Body

/-- A stored procedure and its arguments. -/
def call (function : String) (args : List Value) : Body :=
  (empty.insert Key.functionName (.text function)).insert Key.tuple (.array args)

/-- An expression and its arguments. -/
def eval (expression : String) (args : List Value) : Body :=
  (empty.insert Key.expression (.text expression)).insert Key.tuple (.array args)

/-- A search of an index. -/
def select (space index : Target) (key : List Value) (params : SelectParams) : Body :=
  index.writeIndex <| space.writeSpace <|
    (((empty.insert Key.key (.array key)).insert Key.limit (.word params.limit)).insert
      Key.offset (.word params.offset)).insert Key.iterator (.word params.iterator.code)

/-- A tuple to insert or replace. -/
def store (space : Target) (tuple : List Value) : Body :=
  space.writeSpace (empty.insert Key.tuple (.array tuple))

/-- Operations on the tuple under a key. -/
def update (space index : Target) (key operations : List Value) : Body :=
  index.writeIndex <| space.writeSpace <|
    (empty.insert Key.key (.array key)).insert Key.tuple (.array operations)

/-- A tuple to insert, or operations on the one that is there. -/
def upsert (space : Target) (tuple operations : List Value) : Body :=
  space.writeSpace <|
    (empty.insert Key.tuple (.array tuple)).insert Key.operations (.array operations)

/-- The key of a tuple to delete. -/
def delete (space index : Target) (key : List Value) : Body :=
  index.writeIndex <| space.writeSpace <| empty.insert Key.key (.array key)

/-- A user and the proof of the password. -/
def auth (user : String) (proof : Bytes) : Body :=
  (empty.insert Key.userName (.text user)).insert Key.tuple
    (.array [.text "chap-sha1", .bin proof])

/-- A protocol version and features. -/
def identify (version : UInt64) (features : FeatureSet) : Body :=
  (empty.insert Key.version (.uint version)).insert Key.features
    (.array (features.toList.map fun f => .byte f.id))

/-- A watched key. -/
def watch (key : String) : Body := empty.insert Key.eventKey (.text key)

/-- Whether the bits of a double-precision float are those of a number above zero. -/
def isPositive (bits : UInt64) : Bool := 0 < bits && bits ≤ 0x7ff0000000000000

/-- The start of a transaction, with the bits of its timeout in seconds. -/
def begin (timeoutBits : UInt64) : Body :=
  if isPositive timeoutBits then empty.insert Key.timeout (.f64 timeoutBits) else empty

/-- The data of a response. -/
def ofData (rows : List Value) : Body := empty.insert Key.data (.array rows)

end Body

end TupleWire
