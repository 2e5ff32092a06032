/-
  A connection that carries many requests at a time.

  A request goes out under a sync number of its own and waits in the pending
  table until an inbound packet carries that number, its time is up, or the
  connection is closed.  Whoever resolves a request removes it from the table,
  so a request has one result.  A closed connection stays closed and sends
  nothing that it is asked to send.

  Time is counted in milliseconds.  The counters are natural numbers; a number
  on the wire is the counter in 64 bits.
-/
import TupleWire.Balancer.Policy
import TupleWire.Clock
import TupleWire.Connection.Effect
import TupleWire.Map.Dict
import TupleWire.Request.Basic
import TupleWire.Text.Quoted

set_option autoImplicit false

namespace TupleWire

/-- Where a connection is in its life. -/
inductive Lifecycle where
  | connecting
  | authenticating
  | schemaSync
  | ready
  /-- alive, but not to be selected -/
  | degraded
  | closed
  deriving DecidableEq, Repr, Inhabited

/-- The name of a state in diagnostics. -/
def Lifecycle.name : Lifecycle → String
  | connecting => "Connecting"
  | authenticating => "Authenticating"
  | schemaSync => "SchemaSync"
  | ready => "Ready"
  | degraded => "Degraded"
  | closed => "Closed"

/-- A request that waits for its response. -/
structure Waiter where
  format : ResponseFormat
  timeout : Duration
  /-- when it began to wait -/
  started : Nat
  deriving DecidableEq, Repr

/-- The longest that a request waits, in milliseconds: thirty years, each of 365 days. -/
def Waiter.longestWait : Nat := 30 * 365 * 24 * 60 * 60 * 1000

/-- When the time of a waiting request is up. -/
def Waiter.deadline (w : Waiter) : Nat :=
  Clock.after w.started (min w.timeout.ticks Waiter.longestWait)

/-- The time from the moment a request began to wait. -/
def Waiter.elapsed (w : Waiter) (now : Nat) : Duration := .ofMillis (now - w.started)

/-- One connection. -/
structure Connection where
  /-- the tag of its group -/
  tag : String
  /-- its index in the group -/
  index : Nat
  /-- the salt of the server's greeting -/
  salt : Bytes
  /-- the time a request may take unless it says otherwise -/
  requestTimeout : Duration
  lifecycle : Lifecycle := .connecting
  /-- to be closed once nothing is pending; not to be selected any more -/
  isDraining : Bool := false
  /-- sync numbers given out so far -/
  issued : Nat := 0
  /-- streams opened so far -/
  opened : Nat := 0
  pending : SortedMap UInt64 Waiter := SortedMap.empty
  negotiated : Negotiated := .nothing
  watchers : Dict String WatchCallback := Dict.empty
  deriving DecidableEq

namespace Connection

/-! ## State -/

def isClosed (c : Connection) : Bool := c.lifecycle == .closed

/-- Whether the connection may be selected for a request. -/
def isReady (c : Connection) : Bool := c.lifecycle == .ready && !c.isDraining

/-- The connection as a policy sees it. -/
def candidate (c : Connection) : Candidate := ⟨c.tag, c.index, c.isReady⟩

/-- The wording of a connection. -/
def describe (c : Connection) : String :=
  "Connection \x7b tag: " ++ Quoted.quote c.tag ++ ", index: " ++ toString c.index ++
    ", state: " ++ c.lifecycle.name ++ " \x7d"

/-- The number of requests that wait. -/
def pendingCount (c : Connection) : Nat := c.pending.size

/-- Moves to another state; a closed connection stays closed. -/
def setLifecycle (c : Connection) (state : Lifecycle) : Connection :=
  if c.isClosed then c else { c with lifecycle := state }

/-- The number of the next frame. -/
def nextSync (c : Connection) : UInt64 := UInt64.ofNat (c.issued + 1)

/-- The connection after a number was given out. -/
def advance (c : Connection) : Connection := { c with issued := c.issued + 1 }

/-! ## Sending -/

/-- The header of the next request. -/
def nextHeader (c : Connection) (kind : RequestType) (schemaVersion streamId : Option UInt64) :
    Header :=
  { Header.request kind c.nextSync with schemaVersion, streamId }

/-- Sends a request, in a stream if one is given, and begins to wait for its response.  A body that
fits no frame uses its number up all the same. -/
def send (c : Connection) (now : Nat) (kind : RequestType) (body : Body) (options : RequestOptions)
    (streamId : Option UInt64) : Except ClientError UInt64 × Connection × List Effect :=
  if c.isClosed then (.error .connectionClosed, c, [])
  else
    let packet : Packet := ⟨c.nextHeader kind options.schemaVersion streamId, body⟩
    match packet.frame with
    | .error fault => (.error (.protocol fault), c.advance, [])
    | .ok _ =>
        let waiter : Waiter := ⟨options.format, options.timeout.getD c.requestTimeout, now⟩
        (.ok c.nextSync, { c.advance with pending := c.pending.insert c.nextSync waiter },
          [.started c.nextSync, .queued packet])

/-- Sends what the server never answers. -/
def sendOneway (c : Connection) (kind : RequestType) (body : Body) :
    Except ClientError Unit × Connection × List Effect :=
  if c.isClosed then (.error .connectionClosed, c, [])
  else
    let packet : Packet := ⟨c.nextHeader kind none none, body⟩
    match packet.frame with
    | .error fault => (.error (.protocol fault), c.advance, [])
    | .ok _ => (.ok (), c.advance, [.queued packet])

/-- Sends a request if it makes sense and the server supports it; a refused one changes nothing. -/
def request (c : Connection) (now : Nat) (r : Request) (options : RequestOptions) :
    Except ClientError UInt64 × Connection × List Effect :=
  match r.check c.negotiated with
  | .error refusal => (.error (.contract refusal), c, [])
  | .ok () => c.send now r.kind (r.body c.salt) options none

/-! ## Streams -/

/-- Opens a stream and gives its number. -/
def openStream (c : Connection) : Except ClientError UInt64 × Connection :=
  match c.negotiated.check .stream with
  | .error capability => (.error (.contract (.unsupported capability)), c)
  | .ok () => (.ok (UInt64.ofNat (c.opened + 1)), { c with opened := c.opened + 1 })

/-- Sends a request inside a stream. -/
def requestInStream (c : Connection) (now : Nat) (stream : UInt64) (r : StreamRequest)
    (options : RequestOptions) : Except ClientError UInt64 × Connection × List Effect :=
  c.send now r.kind r.body (r.options options) (some stream)

/-! ## Watching -/

/-- Watches a key; an earlier callback for it is replaced, also on a closed connection. -/
def watch (c : Connection) (key : String) (callback : WatchCallback) :
    Except ClientError Unit × Connection × List Effect :=
  match c.negotiated.check .watch with
  | .error capability => (.error (.contract (.unsupported capability)), c, [])
  | .ok () =>
      { c with watchers := c.watchers.insert key callback }.sendOneway .watch (Body.watch key)

/-- Stops watching a key, also on a closed connection. -/
def unwatch (c : Connection) (key : String) : Except ClientError Unit × Connection × List Effect :=
  match c.negotiated.check .watch with
  | .error capability => (.error (.contract (.unsupported capability)), c, [])
  | .ok () => { c with watchers := c.watchers.erase key }.sendOneway .unwatch (Body.watch key)

/-! ## Receiving -/

/-- What a response says: an error of the server or data. -/
def resultOf (p : Packet) (format : ResponseFormat) : Except ClientError Response :=
  match p.serverError? with
  | some error => .error (.server error)
  | none => .ok ⟨p.header.sync, p.header.schemaVersion, p.body, format⟩

/-- The key that a notification is about and the callback that watches it. -/
def watcherOf? (c : Connection) (body : Body) : Option (String × WatchCallback) := do
  let key ← body.text? Key.eventKey
  let callback ← c.watchers.get? key
  return (key, callback)

/-- Acknowledges a notification, so that the server sends the next one. -/
def acknowledge (c : Connection) (key : String) : Connection × List Effect :=
  let packet : Packet := ⟨c.nextHeader .watch none none, Body.watch key⟩
  match packet.frame with
  | .error _ => (c.advance, [])
  | .ok _ => (c.advance, [.queued packet])

/-- Hands a notification to its callback; one that nobody watches is ignored. -/
def receiveEvent (c : Connection) (p : ReceivedPacket) : Connection × List Effect :=
  match c.watcherOf? p.packet.body with
  | none => (c, [.ignored p.payload])
  | some (key, callback) =>
      let event : WatchEvent := ⟨key, p.packet.body.get? Key.eventData, c.tag, c.index⟩
      let (c, acknowledgement) := c.acknowledge key
      (c, .notified callback event :: acknowledgement)

/-- Hands a response to the request that waits for it; one that none waits for is ignored. -/
def receiveResponse (c : Connection) (now : Nat) (p : ReceivedPacket) : Connection × List Effect :=
  let sync := p.packet.header.sync
  match c.pending.get? sync with
  | none => (c, [.ignored p.payload])
  | some waiter =>
      ({ c with pending := c.pending.erase sync },
        [.resolved sync (resultOf p.packet waiter.format) (waiter.elapsed now)])

/-- Takes an inbound packet apart by what it is. -/
def route (c : Connection) (now : Nat) (p : ReceivedPacket) : Connection × List Effect :=
  if p.packet.header.isEvent then c.receiveEvent p
  else if p.packet.header.isChunk then (c, [.ignored p.payload])
  else c.receiveResponse now p

/-- Takes an inbound packet, whose schema version is noted first. -/
def receive (c : Connection) (now : Nat) (p : ReceivedPacket) : Connection × List Effect :=
  let (c, effects) := c.route now p
  (c, (p.packet.header.schemaVersion.map Effect.observed).toList ++ effects)

/-- What the hook for ignored packets is called with. -/
structure IgnoredPacket where
  /-- the tag of the connection -/
  tag : String
  /-- the index of the connection -/
  index : Nat
  payload : Bytes
  deriving DecidableEq, Repr

/-- The call of the hook for an effect of the connection. -/
def hookCall? (c : Connection) : Effect → Option IgnoredPacket
  | .ignored payload => some ⟨c.tag, c.index, payload⟩
  | _ => none

/-- The calls of the hook for effects of the connection, in order. -/
def hookCalls (c : Connection) (effects : List Effect) : List IgnoredPacket :=
  effects.filterMap c.hookCall?

/-! ## Ending -/

/-- The time of a request is up; it may have been resolved before. -/
def expire (c : Connection) (now : Nat) (sync : UInt64) : Connection × List Effect :=
  match c.pending.get? sync with
  | none => (c, [])
  | some waiter =>
      ({ c with pending := c.pending.erase sync },
        [.resolved sync (.error (.timeout sync waiter.timeout)) (waiter.elapsed now)])

/-- Takes no more selections, to be closed once nothing is pending. -/
def drain (c : Connection) : Connection := { c with isDraining := true }

/-- Closes the connection; every request that waits is resolved. -/
def shutdown (c : Connection) (now : Nat) : Connection × List Effect :=
  if c.isClosed then (c, [])
  else
    let failed := c.pending.entries.map fun (sync, waiter) =>
      Effect.resolved sync (.error .connectionClosed) (waiter.elapsed now)
    ({ c with lifecycle := .closed, pending := SortedMap.empty }, failed ++ [.closed])

end Connection

end TupleWire
