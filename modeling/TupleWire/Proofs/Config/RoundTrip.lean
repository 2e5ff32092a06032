/-
  A configuration survives being written as JSON.

  `Spelled` says, for each record of a configuration, which JSON values spell it:
  every field under its key with its value, in the order in which they are
  written, where a field that holds its default may be left out, and texts under
  keys of no field may stand anywhere between the others.  Whatever spells a
  record is read as that record, and what `ClientConfig.toJson` writes spells it.
-/
import TupleWire.Proofs.Config.Spelling
import TupleWire.Proofs.Json.RoundTrip

set_option autoImplicit false

namespace TupleWire

open JsonValue (record optional)

/-! ## Groups -/

namespace Group

/-- The fields of a group; the first three have no default. -/
def entries (g : Group) : List Entry :=
  [.always "tag" (.text g.tag), .always "host" (.text g.host),
    .always "port" (.natural g.port.toUInt64), .plain "size" (.natural g.size) (g.size = 1),
    .plain "user" (.text g.user) (g.user = guest),
    .plain "password" (.text g.password) (g.password = "")]

/-- The JSON values that say of a group what it is. -/
def Spelled (g : Group) (v : JsonValue) : Prop := SpelledBy g.entries v

theorem ofJson_of_spelled {g : Group} {v : JsonValue} (h : g.Spelled v) :
    ofJson v = some g := by
  have hdistinct : (g.entries.map Entry.key).Nodup := by
    simp [entries, Entry.always, Entry.plain]
  obtain ⟨kept, hkept, hheld⟩ := h.exists_knownMembers hdistinct
  simp only [entries, List.forall_mem_cons] at hheld
  obtain ⟨htag, hhost, hport, hsize, huser, hpassword, -⟩ := hheld
  have htag : Field.required Field.text kept "tag" = some g.tag := Field.required_eq htag rfl
  have hhost : Field.required Field.text kept "host" = some g.host := Field.required_eq hhost rfl
  have hport : Field.required Field.port kept "port" = some g.port :=
    Field.required_eq hport (by simp [Field.port, g.port.toNat_lt])
  have hsize : Field.withDefault Field.number 1 kept "size" = some g.size :=
    Field.withDefault_eq hsize rfl
  have huser : Field.withDefault Field.text guest kept "user" = some g.user :=
    Field.withDefault_eq huser rfl
  have hpassword : Field.withDefault Field.text "" kept "password" = some g.password :=
    Field.withDefault_eq hpassword rfl
  change knownMembers? ["tag", "host", "port", "size", "user", "password"] v = some kept at hkept
  simp [ofJson, hkept, htag, hhost, hport, hsize, huser, hpassword]

theorem spelled_toJson (g : Group) : g.Spelled g.toJson :=
  .of_isMember (by simp [entries, Entry.IsMember, Entry.always, Entry.plain])

end Group

/-! ## Parts -/

namespace ProbeMode

/-- The fields of a mode, none of which has a default. -/
def entries : ProbeMode → List Entry
  | ping => [.always "kind" (.text "ping")]
  | call function => [.always "kind" (.text "call"), .always "function" (.text function)]
  | eval expression => [.always "kind" (.text "eval"), .always "expr" (.text expression)]

def Spelled (mode : ProbeMode) (v : JsonValue) : Prop := SpelledBy mode.entries v

theorem nodup_keys_entries (mode : ProbeMode) : (mode.entries.map Entry.key).Nodup := by
  cases mode <;> simp [entries, Entry.always]

/-- A field of a mode that is read for itself. -/
theorem exists_required_of_spelled {mode : ProbeMode} {v : JsonValue} (h : mode.Spelled v)
    {key t : String} (he : Entry.always key (.text t) ∈ mode.entries) :
    ∃ kept, knownMembers? [key] v = some kept ∧ Field.required Field.text kept key = some t := by
  have hkey : [key] ⊆ mode.entries.map Entry.key :=
    List.cons_subset.mpr ⟨List.mem_map_of_mem (f := Entry.key) he, List.nil_subset _⟩
  obtain ⟨kept, hkept, hheld⟩ := h.exists_knownMembers_of_subset mode.nodup_keys_entries hkey
  exact ⟨kept, hkept, Field.required_eq (hheld _ he List.mem_cons_self) rfl⟩

theorem ofJson_of_spelled {mode : ProbeMode} {v : JsonValue} (h : mode.Spelled v) :
    ofJson v = some mode := by
  have hfield (key t : String) (he : Entry.always key (.text t) ∈ mode.entries) :=
    exists_required_of_spelled h he
  obtain ⟨members, hspells, rfl⟩ := h
  have htexts : ∀ e ∈ mode.entries, ∀ v, e.IsValue v → ∃ t, v = .text t := by
    cases mode <;> simp [entries, Entry.always]
  have hplain := hspells.arePlainMembers htexts nesting
  simp only [record] at hfield
  cases mode with
  | ping =>
    obtain ⟨kind, hkind, hping⟩ := hfield "kind" "ping" (by simp [entries])
    simp [ofJson, record, hplain, hkind, hping]
  | call function =>
    obtain ⟨kind, hkind, hcall⟩ := hfield "kind" "call" (by simp [entries])
    obtain ⟨own, hown, hfunction⟩ := hfield "function" function (by simp [entries])
    simp [ofJson, record, hplain, hkind, hcall, hown, hfunction]
  | eval expression =>
    obtain ⟨kind, hkind, heval⟩ := hfield "kind" "eval" (by simp [entries])
    obtain ⟨own, hown, hexpr⟩ := hfield "expr" expression (by simp [entries])
    simp [ofJson, record, hplain, hkind, heval, hown, hexpr]

theorem spelled_toJson (mode : ProbeMode) : mode.Spelled mode.toJson := by
  cases mode <;> exact .of_isMember (by simp [entries, Entry.IsMember, Entry.always])

end ProbeMode

namespace HeartbeatConfig

def entries (h : HeartbeatConfig) : List Entry :=
  let base : HeartbeatConfig := {}
  [.plain "ping_interval_ms" (.natural h.pingIntervalMs) (h.pingIntervalMs = base.pingIntervalMs),
    .plain "window_size" (.natural h.windowSize) (h.windowSize = base.windowSize),
    .plain "invalidation_threshold" (.natural h.invalidationThreshold)
      (h.invalidationThreshold = base.invalidationThreshold),
    .plain "death_threshold" (.natural h.deathThreshold) (h.deathThreshold = base.deathThreshold),
    .plain "probe_timeout_ms" (optional .natural h.probeTimeoutMs)
      (h.probeTimeoutMs = base.probeTimeoutMs),
    ⟨"mode", h.mode.Spelled, h.mode = base.mode⟩]

def Spelled (h : HeartbeatConfig) (v : JsonValue) : Prop := SpelledBy h.entries v

theorem ofJson_of_spelled {h : HeartbeatConfig} {v : JsonValue} (hv : h.Spelled v) :
    ofJson v = some h := by
  obtain ⟨kept, hkept, hheld⟩ := hv.exists_knownMembers (by simp [entries, Entry.plain])
  simp only [entries, List.forall_mem_cons] at hheld
  obtain ⟨hinterval, hsize, hinvalid, hdeath, htimeout, hmode, -⟩ := hheld
  have hinterval : Field.withDefault Field.number _ kept _ = _ := Field.withDefault_eq hinterval rfl
  have hsize : Field.withDefault Field.number _ kept _ = _ := Field.withDefault_eq hsize rfl
  have hinvalid : Field.withDefault Field.number _ kept _ = _ := Field.withDefault_eq hinvalid rfl
  have hdeath : Field.withDefault Field.number _ kept _ = _ := Field.withDefault_eq hdeath rfl
  have htimeout : Field.withDefault (Field.orNull Field.number) _ kept _ = _ :=
    Field.withDefault_eq htimeout (Field.orNull_optional _ (fun _ => rfl) rfl)
  have hmode : Field.withDefault ProbeMode.ofJson _ kept _ = _ :=
    Field.withDefault_eq_of_isValue hmode (fun _ => ProbeMode.ofJson_of_spelled) id
  change knownMembers? ["ping_interval_ms", "window_size", "invalidation_threshold",
    "death_threshold", "probe_timeout_ms", "mode"] v = some kept at hkept
  simp [ofJson, hkept, hinterval, hsize, hinvalid, hdeath, htimeout, hmode]

theorem spelled_toJson (h : HeartbeatConfig) : h.Spelled h.toJson :=
  .of_isMember (by simp [entries, Entry.IsMember, Entry.plain, ProbeMode.spelled_toJson])

end HeartbeatConfig

namespace SchemaConfig

def entries (s : SchemaConfig) : List Entry :=
  [.plain "enabled" (.bool s.enabled) (s.enabled = true),
    .plain "version_policy" (.text s.versionPolicy.name) (s.versionPolicy = .ignore)]

def Spelled (s : SchemaConfig) (v : JsonValue) : Prop := SpelledBy s.entries v

theorem ofJson_of_spelled {s : SchemaConfig} {v : JsonValue} (h : s.Spelled v) :
    ofJson v = some s := by
  obtain ⟨kept, hkept, hheld⟩ := h.exists_knownMembers (by simp [entries, Entry.plain])
  simp only [entries, List.forall_mem_cons] at hheld
  obtain ⟨henabled, hpolicy, -⟩ := hheld
  have henabled : Field.withDefault Field.bool _ kept _ = _ := Field.withDefault_eq henabled rfl
  have hpolicy : Field.withDefault SchemaVersionPolicy.ofJson _ kept _ = _ :=
    Field.withDefault_eq hpolicy (by cases s.versionPolicy <;> rfl)
  change knownMembers? ["enabled", "version_policy"] v = some kept at hkept
  simp [ofJson, hkept, henabled, hpolicy]

theorem spelled_record (s : SchemaConfig) :
    s.Spelled (record [("enabled", .bool s.enabled),
      ("version_policy", .text s.versionPolicy.name)]) :=
  .of_isMember (by simp [entries, Entry.IsMember, Entry.plain])

end SchemaConfig

namespace WatcherConfig

def entries (w : WatcherConfig) : List Entry :=
  [.plain "queue_capacity" (.natural w.queueCapacity) (w.queueCapacity = 256),
    .plain "reregister_on_reconnect" (.bool w.reregisterOnReconnect)
      (w.reregisterOnReconnect = true)]

def Spelled (w : WatcherConfig) (v : JsonValue) : Prop := SpelledBy w.entries v

theorem ofJson_of_spelled {w : WatcherConfig} {v : JsonValue} (h : w.Spelled v) :
    ofJson v = some w := by
  obtain ⟨kept, hkept, hheld⟩ := h.exists_knownMembers (by simp [entries, Entry.plain])
  simp only [entries, List.forall_mem_cons] at hheld
  obtain ⟨hcapacity, hagain, -⟩ := hheld
  have hcapacity : Field.withDefault Field.number _ kept _ = _ := Field.withDefault_eq hcapacity rfl
  have hagain : Field.withDefault Field.bool _ kept _ = _ := Field.withDefault_eq hagain rfl
  change knownMembers? ["queue_capacity", "reregister_on_reconnect"] v = some kept at hkept
  simp [ofJson, hkept, hcapacity, hagain]

theorem spelled_record (w : WatcherConfig) :
    w.Spelled (record [("queue_capacity", .natural w.queueCapacity),
      ("reregister_on_reconnect", .bool w.reregisterOnReconnect)]) :=
  .of_isMember (by simp [entries, Entry.IsMember, Entry.plain])

end WatcherConfig

namespace TlsConfig

def entries (t : TlsConfig) : List Entry :=
  [.plain "ca_cert_path" (optional .text t.caCertPath) (t.caCertPath = none),
    .plain "server_name" (optional .text t.serverName) (t.serverName = none)]

def Spelled (t : TlsConfig) (v : JsonValue) : Prop := SpelledBy t.entries v

theorem ofJson_of_spelled {t : TlsConfig} {v : JsonValue} (h : t.Spelled v) :
    ofJson v = some t := by
  obtain ⟨kept, hkept, hheld⟩ := h.exists_knownMembers (by simp [entries, Entry.plain])
  simp only [entries, List.forall_mem_cons] at hheld
  obtain ⟨hpath, hname, -⟩ := hheld
  have hpath : Field.withDefault (Field.orNull Field.text) _ kept _ = _ :=
    Field.withDefault_eq hpath (Field.orNull_optional _ (fun _ => rfl) rfl)
  have hname : Field.withDefault (Field.orNull Field.text) _ kept _ = _ :=
    Field.withDefault_eq hname (Field.orNull_optional _ (fun _ => rfl) rfl)
  change knownMembers? ["ca_cert_path", "server_name"] v = some kept at hkept
  simp [ofJson, hkept, hpath, hname]

theorem spelled_record (t : TlsConfig) :
    t.Spelled (record [("ca_cert_path", optional .text t.caCertPath),
      ("server_name", optional .text t.serverName)]) :=
  .of_isMember (by simp [entries, Entry.IsMember, Entry.plain])

end TlsConfig

/-! ## Whole configurations -/

namespace ClientConfig

/-- The fields of a configuration, each of which has a default. -/
def entries (c : ClientConfig) : List Entry :=
  let base : ClientConfig := {}
  [⟨"groups", SpelledEach Group.Spelled c.groups, c.groups = base.groups⟩,
    .plain "io_threads" (.natural c.ioThreads) (c.ioThreads = base.ioThreads),
    .plain "connect_timeout_ms" (.natural c.connectTimeoutMs)
      (c.connectTimeoutMs = base.connectTimeoutMs),
    .plain "request_timeout_ms" (.natural c.requestTimeoutMs)
      (c.requestTimeoutMs = base.requestTimeoutMs),
    .plain "reconnect_delay_ms" (.natural c.reconnectDelayMs)
      (c.reconnectDelayMs = base.reconnectDelayMs),
    .plain "graceful_shutdown" (.bool c.gracefulShutdown)
      (c.gracefulShutdown = base.gracefulShutdown),
    .plain "graceful_shutdown_grace_ms" (.natural c.gracefulShutdownGraceMs)
      (c.gracefulShutdownGraceMs = base.gracefulShutdownGraceMs),
    .plain "balancer" (.text c.balancer) (c.balancer = base.balancer),
    .plain "balancer_tag" (optional .text c.balancerTag) (c.balancerTag = base.balancerTag),
    ⟨"heartbeat", SpelledOrNull HeartbeatConfig.Spelled c.heartbeat,
      c.heartbeat = base.heartbeat⟩,
    ⟨"schema", c.schema.Spelled, c.schema = base.schema⟩,
    ⟨"watchers", c.watchers.Spelled, c.watchers = base.watchers⟩,
    ⟨"tls", SpelledOrNull TlsConfig.Spelled c.tls, c.tls = base.tls⟩,
    .plain "max_frame_size" (.natural c.maxFrameSize) (c.maxFrameSize = base.maxFrameSize)]

def Spelled (c : ClientConfig) (v : JsonValue) : Prop := SpelledBy c.entries v

theorem ofJson_of_spelled {c : ClientConfig} {v : JsonValue} (h : c.Spelled v) :
    ofJson v = some c := by
  obtain ⟨kept, hkept, hheld⟩ := h.exists_knownMembers (by simp [entries, Entry.plain])
  simp only [entries, List.forall_mem_cons] at hheld
  obtain ⟨hgroups, hthreads, hconnect, hrequest, hdelay, hgraceful, hgrace, hbalancer, htag,
    hheartbeat, hschema, hwatchers, htls, hframe, -⟩ := hheld
  have hgroups : Field.withDefault (Field.list Group.ofJson) _ kept _ = _ :=
    Field.withDefault_eq_of_isValue hgroups
      (fun _ hv => Field.list_eq hv fun _ _ => Group.ofJson_of_spelled) id
  have hthreads : Field.withDefault Field.number _ kept _ = _ := Field.withDefault_eq hthreads rfl
  have hconnect : Field.withDefault Field.number _ kept _ = _ := Field.withDefault_eq hconnect rfl
  have hrequest : Field.withDefault Field.number _ kept _ = _ := Field.withDefault_eq hrequest rfl
  have hdelay : Field.withDefault Field.number _ kept _ = _ := Field.withDefault_eq hdelay rfl
  have hgraceful : Field.withDefault Field.bool _ kept _ = _ := Field.withDefault_eq hgraceful rfl
  have hgrace : Field.withDefault Field.number _ kept _ = _ := Field.withDefault_eq hgrace rfl
  have hbalancer : Field.withDefault Field.text _ kept _ = _ := Field.withDefault_eq hbalancer rfl
  have htag : Field.withDefault (Field.orNull Field.text) _ kept _ = _ :=
    Field.withDefault_eq htag (Field.orNull_optional _ (fun _ => rfl) rfl)
  have hheartbeat : Field.withDefault (Field.orNull HeartbeatConfig.ofJson) _ kept _ = _ :=
    Field.withDefault_eq_of_isValue hheartbeat
      (fun _ hv => Field.orNull_eq hv (fun _ _ => HeartbeatConfig.ofJson_of_spelled) rfl) id
  have hschema : Field.withDefault SchemaConfig.ofJson _ kept _ = _ :=
    Field.withDefault_eq_of_isValue hschema (fun _ => SchemaConfig.ofJson_of_spelled) id
  have hwatchers : Field.withDefault WatcherConfig.ofJson _ kept _ = _ :=
    Field.withDefault_eq_of_isValue hwatchers (fun _ => WatcherConfig.ofJson_of_spelled) id
  have htls : Field.withDefault (Field.orNull TlsConfig.ofJson) _ kept _ = _ :=
    Field.withDefault_eq_of_isValue htls
      (fun _ hv => Field.orNull_eq hv (fun _ _ => TlsConfig.ofJson_of_spelled) rfl) id
  have hframe : Field.withDefault Field.number _ kept _ = _ := Field.withDefault_eq hframe rfl
  change knownMembers? keys v = some kept at hkept
  -- rewriting under so many binders is too much for the simplifier
  exact Field.bind_eq hkept <| Field.bind_eq hgroups <| Field.bind_eq hthreads <|
    Field.bind_eq hconnect <| Field.bind_eq hrequest <| Field.bind_eq hdelay <|
    Field.bind_eq hgraceful <| Field.bind_eq hgrace <| Field.bind_eq hbalancer <|
    Field.bind_eq htag <| Field.bind_eq hheartbeat <| Field.bind_eq hschema <|
    Field.bind_eq hwatchers <| Field.bind_eq htls <| Field.bind_eq hframe rfl

theorem spelled_toJson (c : ClientConfig) : c.Spelled c.toJson := by
  have hgroups := SpelledEach.map Group.spelled_toJson c.groups
  have hheartbeat := SpelledOrNull.optional HeartbeatConfig.spelled_toJson c.heartbeat
  have htls := SpelledOrNull.optional TlsConfig.spelled_record c.tls
  exact .of_isMember (by
    simp [entries, Entry.IsMember, Entry.plain, hgroups, hheartbeat, htls,
      c.schema.spelled_record, c.watchers.spelled_record])

/-- A valid configuration is loaded back from the JSON that is written of it, and from every other
JSON that spells it: with any fields left out that hold their defaults, and with texts under unknown
keys in any of its objects. -/
theorem survives_json (c : ClientConfig) (hvalid : c.validate = .ok ()) :
    load c.toJson.toText = .ok c ∧ ∀ v : JsonValue, c.Spelled v → load v.toText = .ok c := by
  have hload (v : JsonValue) (hv : c.Spelled v) : load v.toText = .ok c := by
    have hread : ofText? v.toText = some c := by
      rw [ofText?, JsonValue.parse?_toText, Option.bind_some, ofJson_of_spelled hv]
    rw [load, hread]
    simp only [hvalid]
  exact ⟨hload _ c.spelled_toJson, hload⟩

namespace Terse

/-- One connection, by a name with quotes and a line break in it. -/
def group : Group :=
  { tag := "main \"1\"\n", host := "localhost", port := 3301, password := "π" }

def heartbeat : HeartbeatConfig := { mode := .call "health" }

def config : ClientConfig := { groups := [group], heartbeat := some heartbeat }

/-- The least that has to be written of the group, and a note. -/
def groupJson : JsonValue :=
  record [("tag", .text "main \"1\"\n"), ("host", .text "localhost"), ("port", .natural 3301),
    ("note", .text "size"), ("password", .text "π")]

/-- Only the mode, and in it the field of another one. -/
def heartbeatJson : JsonValue :=
  record [("mode",
    record [("kind", .text "call"), ("expr", .text "health"), ("function", .text "health")])]

def json : JsonValue :=
  record [("note", .text ""), ("groups", .array [groupJson]), ("heartbeat", heartbeatJson),
    ("schema", record [("note", .text "\x01")])]

theorem spelled_groupJson : group.Spelled groupJson := by
  refine ⟨_, ?_, rfl⟩
  refine .written rfl (.written rfl (.written rfl (.lacking rfl (.lacking rfl ?_))))
  exact .more (by decide) (.written rfl .done)

theorem spelled_heartbeatJson : heartbeat.Spelled heartbeatJson := by
  have hmode : heartbeat.mode.Spelled
      (record [("kind", .text "call"), ("expr", .text "health"), ("function", .text "health")]) :=
    ⟨_, .written rfl (.more (by decide) (.written rfl .done)), rfl⟩
  refine ⟨_, ?_, rfl⟩
  refine .lacking rfl (.lacking rfl (.lacking rfl (.lacking rfl (.lacking rfl ?_))))
  exact .written hmode .done

theorem spelled_json : config.Spelled json := by
  have hgroups : SpelledEach Group.Spelled config.groups (.array [groupJson]) :=
    ⟨_, .cons spelled_groupJson .nil, rfl⟩
  have hschema : config.schema.Spelled (record [("note", .text "\x01")]) :=
    ⟨_, .more (by decide) (.lacking rfl (.lacking rfl .done)), rfl⟩
  refine ⟨_, .more (by decide) (.written hgroups ?_), rfl⟩
  -- up to the tag of the balancer
  refine .lacking rfl (.lacking rfl (.lacking rfl (.lacking rfl (.lacking rfl (.lacking rfl
    (.lacking rfl (.lacking rfl ?_)))))))
  refine .written spelled_heartbeatJson (.written hschema ?_)
  exact .lacking rfl (.lacking rfl (.lacking rfl .done))

/-- A configuration with all kinds of parts and its shortest spelling. -/
theorem survives_json_of_terse :
    config.validate = .ok () ∧ config.Spelled json ∧
      load config.toJson.toText = .ok config ∧ load json.toText = .ok config := by
  have hvalid : config.validate = .ok () := rfl
  have hsurvives := survives_json config hvalid
  exact ⟨hvalid, spelled_json, hsurvives.1, hsurvives.2 json spelled_json⟩

end Terse

end ClientConfig

end TupleWire
