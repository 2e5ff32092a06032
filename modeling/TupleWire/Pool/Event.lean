/-
  What a pool tells those who listen to it.
-/
import TupleWire.Client.Error
import TupleWire.Config.Basic
import TupleWire.Heartbeat.History

set_option autoImplicit false

namespace TupleWire

/-- What happened to a slot. -/
inductive SlotEvent where
  | connected
  | disconnected
  | connectFailed (cause : ClientError)
  /-- the next attempt comes after a delay -/
  | reconnecting (delay : Duration)
  /-- failing probes took the slot out of selection -/
  | invalidated
  /-- an invalidated slot passed its probes -/
  | recovered
  /-- failing probes closed the connection -/
  | evicted
  /-- an evicted slot passed a probe -/
  | reinstated
  deriving DecidableEq

/-- What happened to a pool. -/
inductive PoolEvent where
  /-- something happened to the slot of a tag and an index -/
  | slot (tag : String) (index : Nat) (event : SlotEvent)
  | closed
  deriving DecidableEq

/-- The failed attempts to connect among events. -/
def PoolEvent.failures (events : List PoolEvent) : Nat :=
  events.countP fun e =>
    match e with
    | .slot _ _ (.connectFailed _) => true
    | _ => false

/-- The settings of a pool. -/
structure PoolConfig where
  reconnectDelay : Duration
  /-- whether pending requests get time when the pool is closed -/
  isGraceful : Bool
  grace : Duration
  /-- whether a new connection watches what the others do -/
  rewatches : Bool
  rules : ProbeRules
  deriving DecidableEq, Repr

/-- The settings of a pool in the configuration of its client. -/
def ClientConfig.pool (c : ClientConfig) : PoolConfig :=
  ⟨c.reconnectDelay, c.gracefulShutdown, c.grace, c.watchers.reregisterOnReconnect,
    (c.heartbeat.getD {}).rules⟩

end TupleWire
