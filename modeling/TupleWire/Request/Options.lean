/-
  What a caller can say about one request.
-/
import TupleWire.Duration
import TupleWire.Request.Response

set_option autoImplicit false

namespace TupleWire

/-- The options of a request. -/
structure RequestOptions where
  /-- the time to wait for the response; the connection's own if absent -/
  timeout : Option Duration := none
  format : ResponseFormat := .data
  /-- the schema version that the request was built against -/
  schemaVersion : Option UInt64 := none
  deriving DecidableEq, Repr, Inhabited

end TupleWire
