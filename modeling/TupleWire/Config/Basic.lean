/-
  The configuration of a client.

  `ClientConfig.validate` says whether a client can run with a configuration and
  names the first fault otherwise; the order of its checks is part of what it
  promises.
-/
import TupleWire.Config.Fault
import TupleWire.Config.Group
import TupleWire.Duration
import TupleWire.Packet.Frame

set_option autoImplicit false

namespace TupleWire

/-! ## Parts -/

/-- What a health probe sends. -/
inductive ProbeMode where
  | ping
  | call (function : String)
  | eval (expression : String)
  deriving DecidableEq, Repr, Inhabited

/-- Health probing. -/
structure HeartbeatConfig where
  pingIntervalMs : UInt64 := 1000
  /-- probes that are judged together -/
  windowSize : UInt64 := 4
  /-- failed probes that make a window bad -/
  invalidationThreshold : UInt64 := 2
  /-- bad windows in a row that give a connection up -/
  deathThreshold : UInt64 := 4
  /-- the time a probe may take; the interval if absent -/
  probeTimeoutMs : Option UInt64 := none
  mode : ProbeMode := .ping
  deriving DecidableEq, Repr, Inhabited

/-- What is done about a response that is older than the schema known. -/
inductive SchemaVersionPolicy where
  /-- fetch the schema again -/
  | ignore
  /-- report it -/
  | strict
  deriving DecidableEq, Repr, Inhabited

/-- Resolving names through a schema kept on the client. -/
structure SchemaConfig where
  enabled : Bool := true
  versionPolicy : SchemaVersionPolicy := .ignore
  deriving DecidableEq, Repr, Inhabited

/-- Watching keys. -/
structure WatcherConfig where
  /-- events that may wait for their callbacks -/
  queueCapacity : UInt64 := 256
  /-- whether a new connection watches what the others do -/
  reregisterOnReconnect : Bool := true
  deriving DecidableEq, Repr, Inhabited

/-- Encryption. -/
structure TlsConfig where
  caCertPath : Option String := none
  serverName : Option String := none
  deriving DecidableEq, Repr, Inhabited

/-- The configuration of a client. -/
structure ClientConfig where
  groups : List Group := []
  ioThreads : UInt64 := 2
  connectTimeoutMs : UInt64 := 3000
  requestTimeoutMs : UInt64 := 2000
  reconnectDelayMs : UInt64 := 500
  gracefulShutdown : Bool := true
  gracefulShutdownGraceMs : UInt64 := 1000
  balancer : String := "round_robin"
  balancerTag : Option String := none
  heartbeat : Option HeartbeatConfig := none
  schema : SchemaConfig := {}
  watchers : WatcherConfig := {}
  tls : Option TlsConfig := none
  maxFrameSize : UInt64 := UInt64.ofNat Frame.defaultLimit
  deriving DecidableEq, Repr, Inhabited

/-! ## Times -/

/-- So many milliseconds of a setting. -/
def millis (ms : UInt64) : Duration := .ofMillis ms.toNat

/-- A duration as a setting in milliseconds, in 64 bits. -/
def toMillis (d : Duration) : UInt64 := UInt64.ofNat d.millis

namespace HeartbeatConfig

def pingInterval (h : HeartbeatConfig) : Duration := millis h.pingIntervalMs

def probeTimeout (h : HeartbeatConfig) : Duration :=
  millis (h.probeTimeoutMs.getD h.pingIntervalMs)

/-- The time in which a connection that fails is to be given up: as many intervals as there are
probes in the windows that have to be bad.  The number of probes is held to 32 bits, and the
time to the longest duration. -/
def detectionTime (h : HeartbeatConfig) : Duration :=
  let probes := min (h.deathThreshold.toNat * h.windowSize.toNat) 0xffffffff
  let total := h.pingInterval.nanos * probes
  if total ≤ Duration.limit.nanos then ⟨total⟩ else Duration.limit

def validate (h : HeartbeatConfig) : Except ConfigFault Unit :=
  if h.windowSize = 0 ∨ h.pingIntervalMs = 0 then .error .emptyWindow
  else if h.invalidationThreshold = 0 ∨ h.windowSize < h.invalidationThreshold then
    .error .invalidationThreshold
  else if h.deathThreshold = 0 then .error .zeroDeathThreshold
  else .ok ()

end HeartbeatConfig

namespace ClientConfig

def connectTimeout (c : ClientConfig) : Duration := millis c.connectTimeoutMs

def requestTimeout (c : ClientConfig) : Duration := millis c.requestTimeoutMs

def reconnectDelay (c : ClientConfig) : Duration := millis c.reconnectDelayMs

def grace (c : ClientConfig) : Duration := millis c.gracefulShutdownGraceMs

/-! ## Building -/

def withGroup (c : ClientConfig) (g : Group) : ClientConfig := { c with groups := c.groups ++ [g] }

def withBalancer (c : ClientConfig) (name : String) : ClientConfig := { c with balancer := name }

def withHeartbeat (c : ClientConfig) (h : HeartbeatConfig) : ClientConfig :=
  { c with heartbeat := some h }

def withRequestTimeout (c : ClientConfig) (d : Duration) : ClientConfig :=
  { c with requestTimeoutMs := toMillis d }

def withConnectTimeout (c : ClientConfig) (d : Duration) : ClientConfig :=
  { c with connectTimeoutMs := toMillis d }

def withReconnectDelay (c : ClientConfig) (d : Duration) : ClientConfig :=
  { c with reconnectDelayMs := toMillis d }

def withGracefulShutdown (c : ClientConfig) (enabled : Bool) (grace : Duration) : ClientConfig :=
  { c with gracefulShutdown := enabled, gracefulShutdownGraceMs := toMillis grace }

def withSchema (c : ClientConfig) (s : SchemaConfig) : ClientConfig := { c with schema := s }

/-! ## Validation -/

/-- Demands that every group has connections and a tag of its own, given the tags before them. -/
def validateGroups (seen : List String) : List Group → Except ConfigFault Unit
  | [] => .ok ()
  | g :: gs =>
      if g.size = 0 then .error (.emptyGroup g.tag)
      else if seen.contains g.tag then .error (.duplicateTag g.tag)
      else validateGroups (g.tag :: seen) gs

/-- Whether a tag names a group. -/
def hasTag (c : ClientConfig) (tag : String) : Bool := c.groups.any fun g => g.tag == tag

/-- Demands that a balancer's tag names a group. -/
def validateBalancerTag (c : ClientConfig) : Except ConfigFault Unit :=
  match c.balancerTag with
  | some tag => if c.hasTag tag then .ok () else .error (.unknownBalancerTag tag)
  | none => .ok ()

/-- Demands threads, and time to connect and to answer. -/
def validateTimes (c : ClientConfig) : Except ConfigFault Unit :=
  if c.ioThreads = 0 then .error .noThreads
  else if c.requestTimeoutMs = 0 ∨ c.connectTimeoutMs = 0 then .error .zeroTimeout
  else .ok ()

/-- Demands what a client needs to run, and names the first fault. -/
def validate (c : ClientConfig) : Except ConfigFault Unit :=
  if c.groups.isEmpty then .error .noGroups
  else do
    validateGroups [] c.groups
    c.validateBalancerTag
    c.validateTimes
    match c.heartbeat with
    | some h => h.validate
    | none => .ok ()
    if c.watchers.queueCapacity = 0 then .error .noQueue else .ok ()

end ClientConfig

end TupleWire
