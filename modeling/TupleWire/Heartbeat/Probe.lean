/-
  Probing a connection.

  A probe is a request like any other, but with a time to wait of its own.  It is
  valid if the server answers within that time, and not with an error; one that
  cannot be sent is as bad as one that is not answered.
-/
import TupleWire.Connection.Endpoint

set_option autoImplicit false

namespace TupleWire

/-- The request that a probe sends. -/
def ProbeMode.request : ProbeMode → Request
  | ping => .ping
  | call function => .call function []
  | eval expression => .eval expression []

/-- The options of a probe. -/
def HeartbeatConfig.probeOptions (h : HeartbeatConfig) : RequestOptions :=
  { timeout := some h.probeTimeout }

/-- Whether an effect is that a request gets its response. -/
def Effect.isAnswerTo (sync : UInt64) : Effect → Bool
  | .resolved other (.ok _) _ => other == sync
  | _ => false

namespace Endpoint

/-- Sends a probe. -/
def probe (h : HeartbeatConfig) (e : Endpoint) : Except ClientError Receipt × Endpoint × Report :=
  e.act (.request h.mode.request h.probeOptions)

/-- Whether a probe is valid to which the server has an answer after so many milliseconds. -/
def isProbeValid (h : HeartbeatConfig) (ms : Nat) (answer : UInt64 → Packet) (e : Endpoint) :
    Bool :=
  match e.probe h with
  | (.ok (.sync n), e, _) =>
      match (answer n).frame with
      | .ok bytes => (feed bytes (advance ms e).1).2.effects.any (Effect.isAnswerTo n)
      | .error _ => false
  | _ => false

end Endpoint

end TupleWire
