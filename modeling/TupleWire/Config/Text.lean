/-
  Configurations as JSON texts.

  `ClientConfig.toJson` writes every field, null for an option that is absent.
  `ClientConfig.ofText?` reads a configuration: a missing field has its default
  (only the tag, host and port of a group have none), an unknown field is
  skipped, and a known one may be given once.
-/
import TupleWire.Config.Basic
import TupleWire.Json.Reader

set_option autoImplicit false

namespace TupleWire

open JsonValue (record optional)

/-! ## Writing -/

namespace Group

def toJson (g : Group) : JsonValue :=
  record [("tag", .text g.tag), ("host", .text g.host), ("port", .natural g.port.toUInt64),
    ("size", .natural g.size), ("user", .text g.user), ("password", .text g.password)]

end Group

namespace ProbeMode

def toJson : ProbeMode → JsonValue
  | ping => record [("kind", .text "ping")]
  | call function => record [("kind", .text "call"), ("function", .text function)]
  | eval expression => record [("kind", .text "eval"), ("expr", .text expression)]

end ProbeMode

namespace HeartbeatConfig

def toJson (h : HeartbeatConfig) : JsonValue :=
  record [("ping_interval_ms", .natural h.pingIntervalMs), ("window_size", .natural h.windowSize),
    ("invalidation_threshold", .natural h.invalidationThreshold),
    ("death_threshold", .natural h.deathThreshold),
    ("probe_timeout_ms", optional .natural h.probeTimeoutMs), ("mode", h.mode.toJson)]

end HeartbeatConfig

/-- The name of a policy. -/
def SchemaVersionPolicy.name : SchemaVersionPolicy → String
  | ignore => "ignore"
  | strict => "strict"

namespace ClientConfig

def toJson (c : ClientConfig) : JsonValue :=
  record [("groups", .array (c.groups.map Group.toJson)), ("io_threads", .natural c.ioThreads),
    ("connect_timeout_ms", .natural c.connectTimeoutMs),
    ("request_timeout_ms", .natural c.requestTimeoutMs),
    ("reconnect_delay_ms", .natural c.reconnectDelayMs),
    ("graceful_shutdown", .bool c.gracefulShutdown),
    ("graceful_shutdown_grace_ms", .natural c.gracefulShutdownGraceMs),
    ("balancer", .text c.balancer), ("balancer_tag", optional .text c.balancerTag),
    ("heartbeat", optional HeartbeatConfig.toJson c.heartbeat),
    ("schema", record [("enabled", .bool c.schema.enabled),
      ("version_policy", .text c.schema.versionPolicy.name)]),
    ("watchers", record [("queue_capacity", .natural c.watchers.queueCapacity),
      ("reregister_on_reconnect", .bool c.watchers.reregisterOnReconnect)]),
    ("tls", optional (fun t : TlsConfig => record
      [("ca_cert_path", optional .text t.caCertPath), ("server_name", optional .text t.serverName)])
      c.tls),
    ("max_frame_size", .natural c.maxFrameSize)]

end ClientConfig

/-! ## Reading fields -/

/-- The members of an object whose keys are known, if every key is well-formed and no known key
comes twice. -/
def knownMembers? (known : List String) : JsonValue → Option (List (String × JsonValue))
  | .object members => do
      let named ← members.mapM fun m => m.1.map fun key => (key, m.2)
      let kept := named.filter fun m => known.contains m.1
      if (kept.map Prod.fst).Nodup then some kept else none
  | _ => none

namespace Field

/-- Reads a field that must be there. -/
def required {α : Type} (read : JsonValue → Option α) (members : List (String × JsonValue))
    (key : String) : Option α :=
  (members.lookup key).bind read

/-- Reads a field that has a default. -/
def withDefault {α : Type} (read : JsonValue → Option α) (default : α)
    (members : List (String × JsonValue)) (key : String) : Option α :=
  match members.lookup key with
  | some v => read v
  | none => some default

/-- Reads a field that may be absent or null. -/
def orNull {α : Type} (read : JsonValue → Option α) : JsonValue → Option (Option α)
  | .null => some none
  | v => (read v).map some

def text : JsonValue → Option String
  | .string s => s
  | _ => none

def bool : JsonValue → Option Bool
  | .bool b => some b
  | _ => none

def number : JsonValue → Option UInt64
  | .natural n => some n
  | _ => none

def port : JsonValue → Option UInt16
  | .natural n => if n.toNat < UInt16.size then some n.toUInt16 else none
  | _ => none

end Field

/-! ## Reading configurations -/

namespace Group

def ofJson (v : JsonValue) : Option Group := do
  let m ← knownMembers? ["tag", "host", "port", "size", "user", "password"] v
  return {
    tag := ← Field.required Field.text m "tag"
    host := ← Field.required Field.text m "host"
    port := ← Field.required Field.port m "port"
    size := ← Field.withDefault Field.number 1 m "size"
    user := ← Field.withDefault Field.text guest m "user"
    password := ← Field.withDefault Field.text "" m "password" }

end Group

namespace ProbeMode

/-- How deep a field of a probe mode may nest: such a field is read in full before it is skipped,
and the reader follows so many levels below the mode. -/
def nesting : Nat := 124

/-- The mode that an object names by its kind. -/
def ofJson (v : JsonValue) : Option ProbeMode := do
  let .object members := v | none
  if !JsonValue.arePlainMembers nesting members then none
  let kind ← Field.required Field.text (← knownMembers? ["kind"] v) "kind"
  match kind with
  | "ping" => some .ping
  | "call" => do
      some (.call (← Field.required Field.text (← knownMembers? ["function"] v) "function"))
  | "eval" => do some (.eval (← Field.required Field.text (← knownMembers? ["expr"] v) "expr"))
  | _ => none

end ProbeMode

namespace HeartbeatConfig

def ofJson (v : JsonValue) : Option HeartbeatConfig := do
  let m ← knownMembers? ["ping_interval_ms", "window_size", "invalidation_threshold",
    "death_threshold", "probe_timeout_ms", "mode"] v
  let base : HeartbeatConfig := {}
  return {
    pingIntervalMs := ← Field.withDefault Field.number base.pingIntervalMs m "ping_interval_ms"
    windowSize := ← Field.withDefault Field.number base.windowSize m "window_size"
    invalidationThreshold :=
      ← Field.withDefault Field.number base.invalidationThreshold m "invalidation_threshold"
    deathThreshold := ← Field.withDefault Field.number base.deathThreshold m "death_threshold"
    probeTimeoutMs := ← Field.withDefault (Field.orNull Field.number) none m "probe_timeout_ms"
    mode := ← Field.withDefault ProbeMode.ofJson base.mode m "mode" }

end HeartbeatConfig

/-- A policy by its name, plain or as the only member of an object with nothing in it. -/
def SchemaVersionPolicy.ofJson : JsonValue → Option SchemaVersionPolicy
  | .string (some "ignore") => some .ignore
  | .string (some "strict") => some .strict
  | .object [(some "ignore", .null)] => some .ignore
  | .object [(some "strict", .null)] => some .strict
  | _ => none

namespace SchemaConfig

def ofJson (v : JsonValue) : Option SchemaConfig := do
  let m ← knownMembers? ["enabled", "version_policy"] v
  return {
    enabled := ← Field.withDefault Field.bool true m "enabled"
    versionPolicy := ← Field.withDefault SchemaVersionPolicy.ofJson .ignore m "version_policy" }

end SchemaConfig

namespace WatcherConfig

def ofJson (v : JsonValue) : Option WatcherConfig := do
  let m ← knownMembers? ["queue_capacity", "reregister_on_reconnect"] v
  return {
    queueCapacity := ← Field.withDefault Field.number 256 m "queue_capacity"
    reregisterOnReconnect := ← Field.withDefault Field.bool true m "reregister_on_reconnect" }

end WatcherConfig

namespace TlsConfig

def ofJson (v : JsonValue) : Option TlsConfig := do
  let m ← knownMembers? ["ca_cert_path", "server_name"] v
  return {
    caCertPath := ← Field.withDefault (Field.orNull Field.text) none m "ca_cert_path"
    serverName := ← Field.withDefault (Field.orNull Field.text) none m "server_name" }

end TlsConfig

/-- The elements of an array, each read in the same way. -/
def Field.list {α : Type} (read : JsonValue → Option α) : JsonValue → Option (List α)
  | .array items => items.mapM read
  | _ => none

namespace ClientConfig

/-- The keys of a configuration. -/
def keys : List String :=
  ["groups", "io_threads", "connect_timeout_ms", "request_timeout_ms", "reconnect_delay_ms",
    "graceful_shutdown", "graceful_shutdown_grace_ms", "balancer", "balancer_tag", "heartbeat",
    "schema", "watchers", "tls", "max_frame_size"]

def ofJson (v : JsonValue) : Option ClientConfig := do
  let m ← knownMembers? keys v
  let base : ClientConfig := {}
  return {
    groups := ← Field.withDefault (Field.list Group.ofJson) [] m "groups"
    ioThreads := ← Field.withDefault Field.number base.ioThreads m "io_threads"
    connectTimeoutMs :=
      ← Field.withDefault Field.number base.connectTimeoutMs m "connect_timeout_ms"
    requestTimeoutMs :=
      ← Field.withDefault Field.number base.requestTimeoutMs m "request_timeout_ms"
    reconnectDelayMs :=
      ← Field.withDefault Field.number base.reconnectDelayMs m "reconnect_delay_ms"
    gracefulShutdown :=
      ← Field.withDefault Field.bool base.gracefulShutdown m "graceful_shutdown"
    gracefulShutdownGraceMs :=
      ← Field.withDefault Field.number base.gracefulShutdownGraceMs m "graceful_shutdown_grace_ms"
    balancer := ← Field.withDefault Field.text base.balancer m "balancer"
    balancerTag := ← Field.withDefault (Field.orNull Field.text) none m "balancer_tag"
    heartbeat := ← Field.withDefault (Field.orNull HeartbeatConfig.ofJson) none m "heartbeat"
    schema := ← Field.withDefault SchemaConfig.ofJson base.schema m "schema"
    watchers := ← Field.withDefault WatcherConfig.ofJson base.watchers m "watchers"
    tls := ← Field.withDefault (Field.orNull TlsConfig.ofJson) none m "tls"
    maxFrameSize := ← Field.withDefault Field.number base.maxFrameSize m "max_frame_size" }

/-- The configuration that a text spells, valid or not. -/
def ofText? (text : String) : Option ClientConfig := (JsonValue.parse? text).bind ofJson

/-- The valid configuration that a text spells. -/
def load (text : String) : Except ConfigFault ClientConfig :=
  match ofText? text with
  | none => .error .unreadable
  | some c =>
      match c.validate with
      | .error fault => .error fault
      | .ok () => .ok c

end ClientConfig

end TupleWire
