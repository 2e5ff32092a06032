/-
  Connecting a client.

  A configuration has to be valid and name a known policy, the registry of
  metrics must not be taken, there have to be threads to do the work, and
  encryption must be possible; then every slot makes its first attempt.  What an attempt comes to depends on the network,
  which is a parameter: a `Dialer` says what it comes to for each slot.
-/
import TupleWire.Client.Hooks
import TupleWire.Client.Managed
import TupleWire.Pool.Supervision
import TupleWire.Schema.Fetcher
import TupleWire.Tls.Trust

set_option autoImplicit false

namespace TupleWire

/-- What the attempt to connect one slot comes to; what connections share may change on the way. -/
abbrev Dialer : Type := Group → Nat → Shared → Except ClientError Connection × Shared

namespace Dialer

/-- The wording of an address that cannot be reached. -/
def unreachable : String := "Network is unreachable (os error 101)"

/-- A network from which no address can be reached. -/
def isolated : Dialer := fun _ _ shared => (.error (.network unreachable), shared)

end Dialer

/-- A client that is connected. -/
structure Client where
  config : ClientConfig
  pool : Pool
  policy : Policy
  /-- the cached schema, if names are resolved by the client -/
  fetcher : Option Fetcher
  /-- the threads that do the work; their number, if the client has made them -/
  runtime : Managed Nat

/-- What connecting a client gives. -/
structure ConnectReport where
  result : Except ClientError Client
  /-- the registry of metrics afterwards -/
  metrics : Option Metrics
  /-- what the pool told -/
  events : List PoolEvent

namespace Client

/-- The results of the first attempts of slots, one after the other. -/
def dialAll (dial : Dialer) : List Slot → Shared → List (Except ClientError Connection) × Shared
  | [], shared => ([], shared)
  | s :: rest, shared =>
      let (result, shared) := dial s.group s.index shared
      let (results, shared) := dialAll dial rest shared
      (result :: results, shared)

/-- What has to hold before the registry is attached: the configuration is valid and names a
policy. -/
def plan (config : ClientConfig) : Except ClientError Policy :=
  match config.validate with
  | .error fault => .error (.config fault)
  | .ok () =>
      match Policy.ofConfig config with
      | .error fault => .error (.config fault)
      | .ok policy => .ok policy

/-- Attaches the registry, if there is one. -/
def attach (metrics : Option Metrics) : Except ClientError (Option Metrics) :=
  match metrics with
  | none => .ok none
  | some m =>
      match m.attach? with
      | some m => .ok (some m)
      | none => .error (.contract .metricsTaken)

/-- Demands that there are threads to do the work: the caller's own, or new ones. -/
def checkThreads (hooks : ClientHooks) (host : Host) : Except ClientError Unit :=
  if hooks.hasRuntime then .ok ()
  else
    match host.threadFault? with
    | some text => .error (.network text)
    | none => .ok ()

/-- Demands that encryption is possible, if it is asked for. -/
def checkTrust (config : ClientConfig) (host : Host) : Except ClientError Unit :=
  match config.tls with
  | none => .ok ()
  | some tls =>
      match tls.trust host with
      | .error fault => .error (.tls fault)
      | .ok _ => .ok ()

/-- What the connections of a new client share. -/
def sharedOf (config : ClientConfig) (metrics : Option Metrics) : Shared :=
  { metrics := metrics.getD .empty, queue := .ofCapacity config.watchers.queueCapacity.toNat }

/-- Starts the pool of a client. -/
def startPool (dial : Dialer) (config : ClientConfig) (hooks : ClientHooks) (policy : Policy)
    (metrics : Option Metrics) : ConnectReport :=
  let (results, shared) := dialAll dial (Pool.slotsOf config.groups) (sharedOf config metrics)
  let (started, events) := Pool.start config.pool config.groups shared 0 results
  let result := started.map fun pool =>
    { config, pool, policy
      fetcher := if config.schema.enabled then some { policy := config.schema.versionPolicy }
        else none
      runtime := if hooks.hasRuntime then .borrowed 0 else .owned config.ioThreads.toNat }
  ⟨result, metrics.map fun _ => shared.metrics, events⟩

/-- Connects a client. -/
def connect (dial : Dialer) (host : Host) (config : ClientConfig) (hooks : ClientHooks) :
    ConnectReport :=
  match plan config with
  | .error e => ⟨.error e, hooks.metrics, []⟩
  | .ok policy =>
      match attach hooks.metrics with
      | .error e => ⟨.error e, hooks.metrics, []⟩
      | .ok metrics =>
          match checkThreads hooks host with
          | .error e => ⟨.error e, metrics, []⟩
          | .ok () =>
              match checkTrust config host with
              | .error e => ⟨.error e, metrics, []⟩
              | .ok () => startPool dial config hooks policy metrics

/-- The wording of a client. -/
def describe (c : Client) : String :=
  "Client \x7b pool: ConnectionPool \x7b slots: " ++ toString c.pool.size ++ ", closed: " ++
    toString c.pool.isClosed ++ " \x7d, balancer: \"" ++ c.policy.name ++ "\", schema: " ++
    toString c.fetcher.isSome ++ " \x7d"

end Client

end TupleWire
