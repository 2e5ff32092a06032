/-
  A pool of connections.

  A pool has a slot for every connection that its configuration asks for.  The
  connection of a slot comes and goes, the slot stays.  Connections are told
  apart by their numbers, in the order in which they were installed, and a pool
  keeps those it has lost.

  A slot that probes have found unhealthy is quarantined: its connections, also
  those to come, are kept out of selection.
-/
import TupleWire.Connection.Handshake
import TupleWire.Pool.Event

set_option autoImplicit false

namespace TupleWire

/-- What keeps a slot connected. -/
inductive Supervisor where
  /-- waits for a connection to be closed -/
  | watching (conn : Nat)
  /-- tries to connect; the handshake, once the server has greeted -/
  | attempting (handshake : Option Handshake)
  /-- waits before the next attempt -/
  | resting
  | stopped

/-- The place of one connection. -/
structure Slot where
  group : Group
  index : Nat
  /-- the connection that is installed -/
  conn : Option Nat := none
  /-- to be kept out of selection -/
  isQuarantined : Bool := false
  /-- closed for failing probes, and no probe has succeeded since -/
  isEvicted : Bool := false
  history : ProbeHistory := .fresh
  supervisor : Supervisor := .attempting none

/-- Something that happened to a slot, as the pool tells it. -/
def Slot.tell (s : Slot) (event : SlotEvent) : PoolEvent := .slot s.group.tag s.index event

/-- A pool of connections. -/
structure Pool where
  config : PoolConfig
  slots : List Slot
  /-- every connection that was ever installed -/
  conns : List Connection := []
  shared : Shared
  /-- what is watched through the pool -/
  watches : Dict String WatchCallback := Dict.empty
  isClosed : Bool := false
  /-- the connections that are being closed with the pool -/
  closing : List Nat := []
  isTornDown : Bool := false

namespace Pool

/-! ## Looking -/

/-- The connection that is installed in a slot. -/
def current? (p : Pool) (s : Slot) : Option Connection := s.conn.bind fun n => p.conns[n]?

/-- Demands that the pool is open. -/
def checkOpen (p : Pool) : Except ClientError Unit :=
  if p.isClosed then .error .poolClosed else .ok ()

/-- The number of connections that may be selected. -/
def available (p : Pool) : Except ClientError Nat := do
  p.checkOpen
  return p.slots.countP fun s => (p.current? s).any Connection.isReady

/-- The number of slots. -/
def size (p : Pool) : Nat := p.slots.length

/-- The number of the connection in the slot of a tag and an index. -/
def get (p : Pool) (tag : String) (index : Nat) : Except ClientError Nat := do
  p.checkOpen
  match p.slots.find? fun s => s.group.tag == tag && s.index == index with
  | none => throw (.contract (.noConnection tag index))
  | some s =>
      match s.conn with
      | none => throw .connectionClosed
      | some n => return n

/-- The numbers of the connections that are installed, in the order of their slots. -/
def installed (p : Pool) : List Nat := p.slots.filterMap Slot.conn

/-- The numbers of the connections that are installed, of one tag if one is given. -/
def connections (p : Pool) (tag : Option String) : Except ClientError (List Nat) := do
  p.checkOpen
  return (p.slots.filter fun s => tag.all fun tag => s.group.tag == tag).filterMap Slot.conn

/-- The connections that are installed, as a policy sees them. -/
def candidates (p : Pool) : Except ClientError (List Candidate) := do
  let numbers ← p.connections none
  return numbers.filterMap fun n => p.conns[n]?.map Connection.candidate

/-- Selects a connection that is ready, if there is one. -/
def tryNext (p : Pool) (policy : Policy) : Except ClientError (Option Candidate × Policy) := do
  return policy.select (← p.candidates)

/-- Selects a connection that is ready, having waited for so long; nothing if it is to wait on. -/
def next? (p : Pool) (policy : Policy) (waited limit : Duration) :
    Option (Except ClientError (Candidate × Policy)) :=
  match p.tryNext policy with
  | .error e => some (.error e)
  | .ok (some c, policy) => some (.ok (c, policy))
  | .ok (none, _) =>
      if limit.nanos ≤ waited.nanos then some (.error (.noAvailableConnection waited)) else none

/-! ## Acting on connections -/

/-- Acts on a connection. -/
def act (p : Pool) (now : Nat) (conn : Nat) (action : Action) : Except ClientError Receipt × Pool :=
  match p.conns[conn]? with
  | none => (.error .connectionClosed, p)
  | some c =>
      let (result, c, effects) := c.act now action
      (result, { p with conns := p.conns.set conn c, shared := p.shared.applyAll effects })

/-- Acts on a connection and leaves its result alone. -/
def perform (p : Pool) (now : Nat) (action : Action) (conn : Nat) : Pool :=
  (p.act now conn action).2

/-- Acts on connections that are not closed, one after the other, up to the first error; the
connections on which it went well. -/
def performEach (now : Nat) (action : Action) :
    Pool → List Nat → Except ClientError Unit × List Nat × Pool
  | p, [] => (.ok (), [], p)
  | p, n :: rest =>
      if (p.conns[n]?).all Connection.isClosed then performEach now action p rest
      else match p.act now n action with
        | (.error e, p) => (.error e, [], p)
        | (.ok _, p) =>
            let (result, done, p) := performEach now action p rest
            (result, n :: done, p)

/-- Visits connections that are not closed, one after the other, up to the first error. -/
def visitEach (visit : Pool → Nat → Except ClientError Unit × Pool) :
    Pool → List Nat → Except ClientError Unit × Pool
  | p, [] => (.ok (), p)
  | p, n :: rest =>
      if (p.conns[n]?).all Connection.isClosed then visitEach visit p rest
      else match visit p n with
        | (.error e, p) => (.error e, p)
        | (.ok (), p) => visitEach visit p rest

/-- Visits the connections that are installed and not closed, in the order of their slots, up to
the first error. -/
def forEach (p : Pool) (visit : Pool → Nat → Except ClientError Unit × Pool) :
    Except ClientError Unit × Pool :=
  match p.connections none with
  | .error e => (.error e, p)
  | .ok numbers => visitEach visit p numbers

/-! ## Watching through the pool -/

/-- Watches a key on every connection.  If one refuses, none watches it. -/
def watch (p : Pool) (now : Nat) (key : String) (callback : WatchCallback) :
    Except ClientError Unit × Pool :=
  match p.checkOpen with
  | .error e => (.error e, p)
  | .ok () =>
      let p := { p with watches := p.watches.insert key callback }
      match performEach now (.watch key callback) p p.installed with
      | (.ok (), _, p) => (.ok (), p)
      | (.error e, done, p) =>
          let p := { p with watches := p.watches.erase key }
          (.error e, done.foldl (fun p n => p.perform now (.unwatch key) n) p)

/-- Stops watching a key on every connection, up to the first that refuses. -/
def unwatch (p : Pool) (now : Nat) (key : String) : Except ClientError Unit × Pool :=
  match p.checkOpen with
  | .error e => (.error e, p)
  | .ok () =>
      let p := { p with watches := p.watches.erase key }
      let (result, _, p) := performEach now (.unwatch key) p p.installed
      (result, p)

/-! ## Installing -/

/-- Replaces the slot in a position. -/
def setSlot (p : Pool) (position : Nat) (s : Slot) : Pool :=
  { p with slots := p.slots.set position s }

/-- What happens to a connection before it is installed: it is degraded if its slot is
quarantined, and watches what is watched through the pool. -/
def preparations (p : Pool) (s : Slot) : List Action :=
  (if s.isQuarantined then [.setLifecycle .degraded] else []) ++
    (if p.config.rewatches then p.watches.entries.map fun w => .watch w.1 w.2 else [])

/-- Installs a connection into the slot in a position. -/
def install (p : Pool) (now : Nat) (position : Nat) (s : Slot) (c : Connection) :
    Pool × List PoolEvent :=
  let n := p.conns.length
  let prepared := (p.preparations s).foldl (fun p action => p.perform now action n)
    { p with conns := p.conns ++ [c] }
  (prepared.setSlot position { s with conn := some n, supervisor := .watching n },
    [s.tell .connected])

/-! ## Starting -/

/-- The slots that groups ask for. -/
def slotsOf (groups : List Group) : List Slot :=
  groups.flatMap fun group => (List.range group.size.toNat).map fun index => { group, index }

/-- Puts the result of a first attempt into the slot in a position. -/
def settle (p : Pool) (now : Nat) (position : Nat) (s : Slot)
    (result : Except ClientError Connection) : Pool × List PoolEvent :=
  match result with
  | .ok c => p.install now position s c
  | .error e => (p, [s.tell (.connectFailed e)])

/-- Puts the results of the first attempts into the slots from a position on. -/
def settleFrom (now : Nat) (position : Nat) :
    Pool → List (Except ClientError Connection) → Pool × List PoolEvent
  | p, [] => (p, [])
  | p, result :: rest =>
      match p.slots[position]? with
      | none => (p, [])
      | some s =>
          let (p, events) := p.settle now position s result
          let (p, more) := settleFrom now (position + 1) p rest
          (p, events ++ more)

/-- The first error among results. -/
def firstError? (results : List (Except ClientError Connection)) : Option ClientError :=
  results.findSome? fun result =>
    match result with
    | .error e => some e
    | .ok _ => none

/-- Starts a pool, given the result of the first attempt of every slot.  If none succeeded, the
first error is the pool's. -/
def start (config : PoolConfig) (groups : List Group) (shared : Shared) (now : Nat)
    (results : List (Except ClientError Connection)) : Except ClientError Pool × List PoolEvent :=
  let (p, events) := settleFrom now 0 { config, slots := slotsOf groups, shared } results
  if p.conns.isEmpty then
    match firstError? results with
    | some e => (.error e, events)
    | none => (.ok p, events)
  else (.ok p, events)

end Pool

end TupleWire
