/-
  How requests name spaces and indexes, and what a connection may carry.

  A space or an index is named by number or by name.  Names go on the wire only
  if the server agreed to them, and watching, streams and one-time reads have
  requirements of their own.  `Negotiated.check` decides each of them from what
  was negotiated; `Negotiated.checkTargets` decides for a request, the space
  before the index.
-/
import TupleWire.Packet.Body
import TupleWire.Packet.Feature

set_option autoImplicit false

namespace TupleWire

/-! ## Targets -/

/-- How a request names a space or an index. -/
inductive Target where
  | byId (id : UInt32)
  | byName (name : String)
  deriving DecidableEq, Repr

namespace Target

/-- The target that is meant where none is given: number 0, the primary index. -/
def primary : Target := .byId 0

instance : Inhabited Target := ⟨primary⟩

def isName : Target → Bool
  | .byId _ => false
  | .byName _ => true

/-- The number, if the target is one. -/
def id? : Target → Option UInt32
  | .byId id => some id
  | .byName _ => none

/-- The wording of a target. -/
def describe : Target → String
  | .byId id => s!"#{id}"
  | .byName name => name

/-- Names the space of a request. -/
def writeSpace (t : Target) (body : Body) : Body :=
  match t with
  | .byId id => body.insert Key.spaceId (.word id)
  | .byName name => body.insert Key.spaceName (.text name)

/-- Names the index of a request. -/
def writeIndex (t : Target) (body : Body) : Body :=
  match t with
  | .byId id => body.insert Key.indexId (.word id)
  | .byName name => body.insert Key.indexName (.text name)

end Target

/-! ## Capabilities -/

/-- Something that a connection can do only if the server supports it. -/
inductive Capability where
  | spaceByName
  | indexByName
  | watch
  | stream
  | watchOnce
  deriving DecidableEq, Repr, Inhabited

/-- The wording of the refusal where a server takes no names for something; what to use instead. -/
def Capability.nameRefusal (named instead : String) : String :=
  named ++ " name addressing requires the server to support the SPACE_AND_INDEX_NAMES feature; " ++
    "use a numeric " ++ instead ++ " id"

/-- The wording of the refusal where a capability is missing. -/
def Capability.refusal : Capability → String
  | spaceByName => nameRefusal "Space" "space"
  | indexByName => nameRefusal "Index" "index"
  | watch => "Watchers are not supported by the server: the WATCHERS feature was not negotiated"
  | stream => "Streams are not supported by the server: the STREAMS feature was not negotiated"
  | watchOnce => "watch_once requires protocol version 6 or newer"

/-- The protocol version that this library speaks. -/
def protocolVersion : UInt64 := 6

/-- The first protocol version with one-time reads of a watched key. -/
def watchOnceVersion : UInt64 := 6

/-- What client and server agreed on when they connected. -/
structure Negotiated where
  version : UInt64
  features : FeatureSet
  deriving DecidableEq

namespace Negotiated

/-- Nothing was agreed on. -/
def nothing : Negotiated := ⟨0, FeatureSet.empty⟩

instance : Inhabited Negotiated := ⟨nothing⟩

/-- Whether a capability is there. -/
def allows (n : Negotiated) : Capability → Bool
  | .spaceByName | .indexByName => n.features.contains .spaceAndIndexNames
  | .watch => n.features.contains .watchers
  | .stream => n.features.contains .streams
  | .watchOnce => watchOnceVersion ≤ n.version

/-- Demands a capability; refuses by naming it. -/
def check (n : Negotiated) (c : Capability) : Except Capability Unit :=
  if n.allows c then .ok () else .error c

/-- Demands what the targets of a request need, the space first. -/
def checkTargets (n : Negotiated) (space : Target) (index : Option Target) :
    Except Capability Unit :=
  match if space.isName then n.check .spaceByName else .ok () with
  | .error c => .error c
  | .ok () => if index.any Target.isName then n.check .indexByName else .ok ()

end Negotiated

end TupleWire
