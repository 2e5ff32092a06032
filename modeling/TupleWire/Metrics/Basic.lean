/-
  The metrics of a client.

  A registry counts requests and how they ended, and is attached to one client
  at most.  All counters are 64-bit words and wrap around.
-/
import TupleWire.Metrics.Histogram

set_option autoImplicit false

namespace TupleWire

/-- How a request ended. -/
inductive RequestOutcome where
  | ok
  /-- the server reported an error -/
  | error
  /-- no response came in time -/
  | timeout
  /-- the connection was closed -/
  | closed
  deriving DecidableEq, Repr, Inhabited

/-- What is counted about the requests of one client. -/
structure Metrics where
  isAttached : Bool := false
  requests : UInt64 := 0
  errors : UInt64 := 0
  timeouts : UInt64 := 0
  /-- inbound frames that belong to no request -/
  ignored : UInt64 := 0
  /-- requests that wait for their response -/
  inflight : UInt64 := 0
  latency : Histogram
  deriving DecidableEq, Repr, Inhabited

namespace Metrics

/-- A registry in which nothing has been counted, with the given latency bounds. -/
def withBounds (bounds : List UInt64) : Metrics := { latency := .empty bounds }

/-- A registry in which nothing has been counted. -/
def empty : Metrics := withBounds Histogram.defaultBounds

/-- Attaches the registry to a client; none if it is attached already. -/
def attach? (m : Metrics) : Option Metrics :=
  if m.isAttached then none else some { m with isAttached := true }

/-- A request was handed to a connection. -/
def start (m : Metrics) : Metrics :=
  { m with requests := m.requests + 1, inflight := m.inflight + 1 }

/-- A request ended.  A latency counts only if the server answered. -/
def finish (m : Metrics) (outcome : RequestOutcome) (latency : Duration) : Metrics :=
  let m := { m with inflight := m.inflight - 1 }
  match outcome with
  | .ok => { m with latency := m.latency.record latency }
  | .error => { m with errors := m.errors + 1, latency := m.latency.record latency }
  | .timeout => { m with timeouts := m.timeouts + 1 }
  | .closed => { m with errors := m.errors + 1 }

/-- The counters: requests, errors, timeouts, ignored frames, and requests that wait. -/
def summary (m : Metrics) : List UInt64 :=
  [m.requests, m.errors, m.timeouts, m.ignored, m.inflight]

/-- An inbound frame belonged to no request. -/
def ignore (m : Metrics) : Metrics := { m with ignored := m.ignored + 1 }

end Metrics

end TupleWire
