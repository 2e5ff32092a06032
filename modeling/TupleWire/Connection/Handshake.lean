/-
  Getting a connection ready.

  After the greeting, client and server agree on version and features, the user
  is authenticated if there is need, and a ping shows the schema version; then
  the connection is ready.  Any failure on the way closes it.  `Handshake.step`
  says what the result of one exchange leads to; `Handshake.run` goes through a
  whole handshake, given the results.
-/
import TupleWire.Config.Group
import TupleWire.Connection.Action

set_option autoImplicit false

namespace TupleWire

/-! ## What was agreed on -/

/-- What a server's answer to the first request amounts to: the lower of both versions, and the
features that both know. -/
def Negotiated.ofBody (body : Body) : Negotiated :=
  let version := (body.uint? Key.version).getD 0
  let ids := (body.items Key.features).filterMap Value.asUInt?
  ⟨min version protocolVersion, FeatureSet.all.intersect (.ofIds ids)⟩

/-- What is agreed on, given the result of the first request.  A server that does not know the
request is an old one, with which nothing is agreed on. -/
def Negotiated.ofResult : Except ClientError Response → Except ClientError Negotiated
  | .ok response => .ok (.ofBody response.body)
  | .error (.server e) =>
      if e.code = ServerCode.unknownRequestType then .ok .nothing else .error (.server e)
  | .error e => .error e

/-! ## Steps -/

/-- What a handshake waits for. -/
inductive HandshakeStage where
  /-- version and features -/
  | identifying
  | authenticating
  /-- the ping that shows the schema version -/
  | probing
  deriving DecidableEq, Repr

/-- A handshake on its way: the connection, and the request whose result it waits for. -/
structure Handshake where
  group : Group
  conn : Connection
  stage : HandshakeStage
  awaited : UInt64

/-- Where a step of a handshake leads. -/
inductive HandshakeProgress where
  | going (h : Handshake)
  /-- the connection is ready -/
  | ready (c : Connection)
  /-- the connection was closed -/
  | failed (c : Connection) (e : ClientError)

namespace Handshake

/-- Gives a connection up. -/
def fail (c : Connection) (now : Nat) (e : ClientError) : HandshakeProgress × List Effect :=
  let (c, effects) := c.shutdown now
  (.failed c e, effects)

/-- Sends the request of a stage and waits for its result. -/
def ask (group : Group) (now : Nat) (stage : HandshakeStage) (r : Request) (c : Connection) :
    HandshakeProgress × List Effect :=
  match c.request now r {} with
  | (.error e, c, effects) =>
      let (progress, more) := fail c now e
      (progress, effects ++ more)
  | (.ok sync, c, effects) => (.going ⟨group, c, stage, sync⟩, effects)

/-- Begins: tells the server what the client supports. -/
def start (group : Group) (now : Nat) (c : Connection) : HandshakeProgress × List Effect :=
  ask group now .identifying (.custom .id (Body.identify protocolVersion .all)) c

/-- Pings, which shows the schema version. -/
def probe (group : Group) (now : Nat) (c : Connection) : HandshakeProgress × List Effect :=
  ask group now .probing .ping (c.setLifecycle .schemaSync)

/-- Authenticates the user, unless a guest needs no authentication. -/
def authenticate (group : Group) (now : Nat) (c : Connection) :
    HandshakeProgress × List Effect :=
  let c := c.setLifecycle .authenticating
  if group.needsAuth then
    ask group now .authenticating (.authorize group.user group.password) c
  else probe group now c

/-- A server's error in answer to an authentication is a failure of its own kind. -/
def authError : ClientError → ClientError
  | .server e => .auth e.message
  | e => e

/-- Goes on with the result of the awaited request. -/
def step (h : Handshake) (now : Nat) (result : Except ClientError Response) :
    HandshakeProgress × List Effect :=
  match h.stage with
  | .identifying =>
      match Negotiated.ofResult result with
      | .error e => fail h.conn now e
      | .ok negotiated => authenticate h.group now { h.conn with negotiated }
  | .authenticating =>
      match result with
      | .error e => fail h.conn now (authError e)
      | .ok _ => probe h.group now h.conn
  | .probing =>
      match result with
      | .error e => fail h.conn now e
      | .ok response =>
          (.ready (h.conn.setLifecycle .ready),
            (response.schemaVersion.map Effect.observed).toList)

/-- The time to connect is over. -/
def timeOut (h : Handshake) (now : Nat) : HandshakeProgress × List Effect :=
  fail h.conn now (.network s!"handshake with {h.group.addr} timed out")

/-! ## Whole handshakes -/

/-- What happens while a handshake goes on. -/
inductive Event where
  /-- something happened to the connection -/
  | conn (action : Action)
  /-- the time to connect is over -/
  | timeOut

/-- The result of a request among effects. -/
def resultOf? (sync : UInt64) (effects : List Effect) : Option (Except ClientError Response) :=
  effects.findSome? fun e =>
    match e with
    | .resolved s result _ => if s = sync then some result else none
    | _ => none

/-- Takes an event into account. -/
def onEvent (h : Handshake) (now : Nat) : Event → HandshakeProgress × List Effect
  | .timeOut => h.timeOut now
  | .conn action =>
      let (_, conn, effects) := h.conn.act now action
      let h := { h with conn }
      match resultOf? h.awaited effects with
      | none => (.going h, effects)
      | some result =>
          let (progress, more) := h.step now result
          (progress, effects ++ more)

/-- Goes through events, each at its time, until the handshake is over. -/
def run : HandshakeProgress → List (Nat × Event) → HandshakeProgress × List Effect
  | .going h, (now, event) :: rest =>
      let (progress, effects) := h.onEvent now event
      let (progress, more) := run progress rest
      (progress, effects ++ more)
  | progress, _ => (progress, [])

end Handshake

/-! ## Greetings -/

/-- A connection to a server that greeted, and the start of its handshake. -/
def Connection.greeted (group : Group) (index : Nat) (requestTimeout : Duration) (now : Nat)
    (raw : Bytes) : Except ClientError (HandshakeProgress × List Effect) :=
  match Greeting.parse raw with
  | .error fault => .error (.protocol (.greeting fault))
  | .ok greeting =>
      .ok (Handshake.start group now
        { tag := group.tag, index, salt := greeting.salt, requestTimeout })

end TupleWire
