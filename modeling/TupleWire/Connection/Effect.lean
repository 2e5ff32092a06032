/-
  What a step of a connection does to the world around it.

  A connection is a value; its steps give a new value and a list of effects, in
  the order in which they happen.  Connections of one client share their
  metrics, the newest schema version seen and the queue of notifications:
  `Shared.apply` says what an effect does to them.
-/
import TupleWire.Client.Error
import TupleWire.Metrics.Basic
import TupleWire.Packet.Frame
import TupleWire.Request.Response
import TupleWire.Schema.Tracker
import TupleWire.Watch.Queue

set_option autoImplicit false

namespace TupleWire

/-- What a step of a connection does outside it. -/
inductive Effect where
  /-- a packet was put on the queue of what is to be written -/
  | queued (packet : Packet)
  /-- a request began to wait for its response -/
  | started (sync : UInt64)
  /-- a request got its result, so long after it began to wait -/
  | resolved (sync : UInt64) (result : Except ClientError Response) (after : Duration)
  /-- an inbound frame belongs to nobody -/
  | ignored (payload : Bytes)
  /-- a watched key changed -/
  | notified (callback : WatchCallback) (event : WatchEvent)
  /-- the server told its schema version -/
  | observed (version : UInt64)
  /-- the connection was closed -/
  | closed

/-- Whether it is the end of the connection. -/
def Effect.isClosing : Effect → Bool
  | .closed => true
  | _ => false

/-- How a request ended, as the metrics count it. -/
def RequestOutcome.ofResult : Except ClientError Response → RequestOutcome
  | .ok _ => .ok
  | .error (.timeout _ _) => .timeout
  | .error .connectionClosed => .closed
  | .error _ => .error

/-- What the connections of one client share. -/
structure Shared where
  metrics : Metrics := .empty
  tracker : SchemaTracker := {}
  queue : WatchQueue := .ofCapacity 256
  deriving DecidableEq, Inhabited

namespace Shared

/-- What an effect does to what is shared. -/
def apply (s : Shared) : Effect → Shared
  | .started _ => { s with metrics := s.metrics.start }
  | .resolved _ result after =>
      { s with metrics := s.metrics.finish (.ofResult result) after }
  | .ignored _ => { s with metrics := s.metrics.ignore }
  | .notified callback event => { s with queue := s.queue.push callback event }
  | .observed version => { s with tracker := s.tracker.observe version }
  | .queued _ | .closed => s

/-- What effects do to what is shared, one after the other. -/
def applyAll (s : Shared) (effects : List Effect) : Shared := effects.foldl apply s

end Shared

end TupleWire
