/-
  Responses as their caller sees them.
-/
import TupleWire.Packet.Body

set_option autoImplicit false

namespace TupleWire

/-- How the data of a response is presented. -/
inductive ResponseFormat where
  /-- all of it -/
  | data
  /-- its first element, nil if there is none -/
  | single
  deriving DecidableEq, Repr, Inhabited

/-- A successful response. -/
structure Response where
  sync : UInt64
  schemaVersion : Option UInt64
  body : Body
  format : ResponseFormat
  deriving DecidableEq

/-- The data in the format that was asked for. -/
def Response.value (r : Response) : Value :=
  match r.format with
  | .data => .array r.body.dataItems
  | .single => r.body.dataItems.head?.getD .nil

end TupleWire
