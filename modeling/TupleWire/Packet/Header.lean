/-
  Packet headers.

  On the wire a header is a map from small integers to integers.  It has to give
  a request type (in a response: a status); a missing sync reads as zero, and
  entries under other keys are skipped.  A key counts by its lowest eight bits
  and a code by its lowest 32.
-/
import TupleWire.Packet.Key
import TupleWire.Packet.RequestType
import TupleWire.Packet.Fault

set_option autoImplicit false

namespace TupleWire

/-- The header of a packet. -/
structure Header where
  /-- the request type of a request, the status of a response -/
  code : UInt32
  sync : UInt64
  schemaVersion : Option UInt64
  streamId : Option UInt64
  deriving DecidableEq, Repr, Inhabited

namespace Header

/-- The header of a request outside any stream. -/
def request (kind : RequestType) (sync : UInt64) : Header := ⟨kind.code, sync, none, none⟩

/-- The header of a response. -/
def response (code : UInt32) (sync version : UInt64) : Header := ⟨code, sync, some version, none⟩

/-! ## What the code says -/

/-- The response reports an error. -/
def isError (h : Header) : Bool := h.code &&& Status.errorBit != 0

/-- The error that the response reports. -/
def errorCode? (h : Header) : Option UInt32 :=
  if h.isError then some (h.code &&& ~~~ Status.errorBit) else none

/-- The packet is out-of-band data for a request. -/
def isChunk (h : Header) : Bool := h.code == Status.chunk

/-- The packet is a notification of a watched key. -/
def isEvent (h : Header) : Bool := h.code == RequestType.event.code

/-! ## Wire form -/

/-- The entry of an optional number. -/
def optionalEntry (key : UInt8) (value : Option UInt64) : List (Value × Value) :=
  (value.map fun n => (Value.byte key, Value.uint n)).toList

/-- The map that stands for a header. -/
def toValue (h : Header) : Value :=
  .map ([(.byte HeaderKey.code, .word h.code), (.byte HeaderKey.sync, .uint h.sync)] ++
    optionalEntry HeaderKey.schemaVersion h.schemaVersion ++
    optionalEntry HeaderKey.streamId h.streamId)

/-- What has been gathered from the entries read so far. -/
structure Draft where
  code : Option UInt64 := none
  sync : UInt64 := 0
  schemaVersion : Option UInt64 := none
  streamId : Option UInt64 := none
  deriving DecidableEq, Repr

/-- Takes one more entry into account. -/
def Draft.add (d : Draft) (entry : Value × Value) : Except HeaderFault Draft :=
  match entry.1.asUInt? with
  | none => .error .keyNotInteger
  | some key =>
      let key := key.toUInt8
      let value := entry.2.asUInt?
      if key = HeaderKey.code then .ok { d with code := value }
      else if key = HeaderKey.sync then
        match value with
        | some n => .ok { d with sync := n }
        | none => .error .syncNotInteger
      else if key = HeaderKey.schemaVersion then .ok { d with schemaVersion := value }
      else if key = HeaderKey.streamId then .ok { d with streamId := value }
      else .ok d

/-- The header that the gathered entries make. -/
def Draft.finish (d : Draft) : Except HeaderFault Header :=
  match d.code with
  | some code => .ok ⟨code.toUInt32, d.sync, d.schemaVersion, d.streamId⟩
  | none => .error .missingType

/-- The header that a list of entries stands for. -/
def ofEntries (entries : List (Value × Value)) : Except HeaderFault Header :=
  match entries.foldlM Draft.add {} with
  | .error fault => .error fault
  | .ok d => d.finish

/-- The header that a value stands for. -/
def ofValue : Value → Except HeaderFault Header
  | .map entries => ofEntries entries
  | _ => .error .notAMap

end Header

end TupleWire
