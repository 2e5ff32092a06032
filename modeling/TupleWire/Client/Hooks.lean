/-
  What a caller hands to a client besides its configuration.
-/
import TupleWire.Metrics.Basic

set_option autoImplicit false

namespace TupleWire

/-- What a caller hands to a client. -/
structure ClientHooks where
  /-- whether somebody is told of frames that belong to nobody -/
  hasIgnored : Bool := false
  /-- whether somebody listens to the pool -/
  hasListener : Bool := false
  /-- the registry in which the client counts -/
  metrics : Option Metrics := none
  /-- whether the caller's own threads do the work -/
  hasRuntime : Bool := false
  deriving DecidableEq

/-- The wording of what was handed over. -/
def ClientHooks.describe (h : ClientHooks) : String :=
  "ClientHooks \x7b ignored_packet: " ++ toString h.hasIgnored ++ ", pool_listener: " ++
    toString h.hasListener ++ ", metrics: " ++ toString h.metrics.isSome ++ ", runtime: " ++
    toString h.hasRuntime ++ " \x7d"

end TupleWire
