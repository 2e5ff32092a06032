/-
  What can go wrong for the caller of a client, and the wording of it.
-/
import TupleWire.Config.Fault
import TupleWire.Duration
import TupleWire.Packet.Basic
import TupleWire.Request.Target
import TupleWire.Tls.Fault

set_option autoImplicit false

namespace TupleWire

/-- Why a request was refused before anything was sent. -/
inductive Refusal where
  /-- the server lacks a capability -/
  | unsupported (capability : Capability)
  | emptyFunctionName
  | emptyExpression
  | emptyUserName
  | noConnection (tag : String) (index : Nat)
  | metricsTaken
  /-- refused by the caller's own action -/
  | byCaller (text : String)
  deriving DecidableEq, Repr

/-- The wording of a refusal. -/
def Refusal.message : Refusal → String
  | unsupported capability => capability.refusal
  | emptyFunctionName => "function name must not be empty"
  | emptyExpression => "expression must not be empty"
  | emptyUserName => "user name must not be empty"
  | noConnection tag index => s!"no connection {tag}[{index}] in pool"
  | metricsTaken => "metrics registry is already attached to a client"
  | byCaller text => text

/-- Why the schema has no answer. -/
inductive SchemaGap where
  | noSpace (target : Target)
  | noIndex (name space : String)
  /-- worded by the caller -/
  | other (text : String)
  deriving DecidableEq, Repr

def SchemaGap.message : SchemaGap → String
  | noSpace target => s!"no such space '{target.describe}'"
  | noIndex name space => s!"no such index '{name}' in space '{space}'"
  | other text => text

/-- A failure that a caller sees. -/
inductive ClientError where
  /-- the network failed -/
  | network (text : String)
  | protocol (cause : ProtocolError)
  /-- no response came in time -/
  | timeout (sync : UInt64) (after : Duration)
  | connectionClosed
  | poolClosed
  /-- no connection could be selected in time -/
  | noAvailableConnection (waited : Duration)
  | noSchema (gap : SchemaGap)
  | server (error : ServerError)
  | contract (refusal : Refusal)
  | schemaVersionMismatch (cached received : UInt64)
  | tls (fault : TlsFault)
  | auth (text : String)
  | config (fault : ConfigFault)
  | invalidAddress (text : String)
  deriving DecidableEq, Repr

namespace ClientError

/-- The wording of a failure. -/
def message : ClientError → String
  | network text => s!"io error: {text}"
  | protocol cause => s!"protocol error: {cause.message}"
  | timeout sync after => s!"request {sync} timed out after {after.describe}"
  | connectionClosed => "connection closed"
  | poolClosed => "connection pool is closed"
  | noAvailableConnection waited => s!"no available connection after {waited.describe}"
  | noSchema gap => s!"no schema: {gap.message}"
  | server error => s!"server error {error.code}: {error.message}"
  | contract refusal => refusal.message
  | schemaVersionMismatch cached received =>
      s!"schema version mismatch: cached {cached}, received {received}"
  | tls fault => s!"tls error: {fault.message}"
  | auth text => s!"authentication failed: {text}"
  | config fault => s!"invalid configuration: {fault.message}"
  | invalidAddress text => s!"invalid address: {text}"

/-- Whether the same request may succeed later or on another connection. -/
def isRetryable : ClientError → Bool
  | network _ | timeout _ _ | connectionClosed | noAvailableConnection _ => true
  | _ => false

/-- The server's error code. -/
def serverCode? : ClientError → Option UInt32
  | server error => some error.code
  | _ => none

end ClientError

end TupleWire
