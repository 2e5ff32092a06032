/-
  An instance: spaces, stored procedures and watched keys behind a protocol.

  An instance holds what its sessions share.  Its schema version grows with
  every change of its spaces, and every value of a watched key has a version of
  its own.
-/
import TupleWire.Duration
import TupleWire.Instance.Space
import TupleWire.Map.Dict
import TupleWire.Packet.Greeting

set_option autoImplicit false

namespace TupleWire

/-- What a stored procedure or an expression answers. -/
inductive Reply where
  | data (rows : List Value)
  | error (code : UInt32) (message : String)
  /-- another reply, after some time -/
  | delayed (delay : Duration) (reply : Reply)
  /-- none, ever -/
  | silent

/-- A stored procedure or an expression: what it answers to its arguments. -/
abbrev Handler : Type := List Value → Reply

/-- What an instance is set up with. -/
structure InstanceSettings where
  version : UInt64 := protocolVersion
  features : FeatureSet := .all
  /-- whether clients can ask for version and features -/
  identifies : Bool := true
  /-- the passwords of the users -/
  users : Dict String String := Dict.empty

/-- What the sessions of an instance share. -/
structure Instance where
  settings : InstanceSettings := {}
  schemaVersion : UInt64 := 1
  spaces : SortedMap UInt32 StoredSpace := SortedMap.empty
  procedures : Dict String Handler := Dict.empty
  expressions : Dict String Handler := Dict.empty
  /-- requests are counted but neither carried out nor answered -/
  isMuted : Bool := false
  /-- the requests that came in, by their codes -/
  counts : SortedMap UInt32 Nat := SortedMap.empty
  /-- the values of watched keys with their versions -/
  values : Dict String (Value × Nat) := Dict.empty
  /-- the newest version of any watched value -/
  valueVersion : Nat := 0
  /-- the streams that requests named -/
  streams : SortedMap UInt64 Unit := SortedMap.empty
  /-- the sessions that were ever opened -/
  accepted : Nat := 0

/-- One client's connection to an instance. -/
structure Session where
  salt : Bytes
  user : String := "guest"
  /-- the watched keys with the version of the value that was sent last -/
  watched : Dict String Nat := Dict.empty
  deriving DecidableEq

namespace Instance

/-! ## Sessions -/

/-- The salt of the session that is opened after so many others. -/
def saltOf (number : Nat) : Bytes :=
  (List.range 32).map fun i => UInt8.ofNat i * 31 + UInt8.ofNat number

/-- Opens a session and greets its client. -/
def accept (i : Instance) : Greeting × Session × Instance :=
  let salt := saltOf i.accepted
  (⟨"Tarantool 3.1.0 (Binary) mock", salt⟩, { salt }, { i with accepted := i.accepted + 1 })

/-! ## Changes from outside the protocol -/

/-- Raises the schema version. -/
def bumpSchema (i : Instance) : Instance := { i with schemaVersion := i.schemaVersion + 1 }

/-- Adds a space, in place of one with its number. -/
def createSpace (i : Instance) (s : StoredSpace) : Instance :=
  { i with spaces := i.spaces.insert s.id s }.bumpSchema

/-- Drops the space with a number. -/
def dropSpace (i : Instance) (id : UInt32) : Instance :=
  { i with spaces := i.spaces.erase id }.bumpSchema

/-- The rows of a space; none if it is not there. -/
def rowsOf (i : Instance) (id : UInt32) : List Row :=
  ((i.spaces.get? id).map StoredSpace.rows).getD []

/-- Sets what a stored procedure answers. -/
def defineProcedure (i : Instance) (name : String) (handler : Handler) : Instance :=
  { i with procedures := i.procedures.insert name handler }

/-- Sets the value of a watched key. -/
def broadcast (i : Instance) (key : String) (value : Value) : Instance :=
  { i with
    valueVersion := i.valueVersion + 1
    values := i.values.insert key (value, i.valueVersion + 1) }

/-- The number of requests of a type that came in. -/
def requestCount (i : Instance) (kind : RequestType) : Nat := (i.counts.get? kind.code).getD 0

/-- The number of streams that requests named. -/
def streamsSeen (i : Instance) : Nat := i.streams.size

end Instance

end TupleWire
