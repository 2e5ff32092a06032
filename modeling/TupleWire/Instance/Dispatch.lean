/-
  How an instance carries out requests.

  `Instance.handle` takes one packet of a session and gives what is sent back:
  packets at once and, for delayed replies, packets after some time.  A muted
  instance only counts.  A request on a space that was built against another
  schema version is refused; otherwise it is carried out, and exactly one
  packet with its sync number answers it, unless its type is never answered.

  `Instance.pushEvents` sends the changes of watched keys; however many changes
  there were since it was last done, each key is sent once, with its value now.
-/
import TupleWire.Instance.Basic
import TupleWire.Request.Body

set_option autoImplicit false

namespace TupleWire

/-- A packet on its way to a client. -/
structure Outgoing where
  packet : Packet
  /-- when it is sent, counted from now -/
  delay : Duration := .zero
  deriving DecidableEq

/-- What carrying a request out gives: the body of the response or an error. -/
abbrev Answer : Type := Except ServerError Body

namespace Instance

/-! ## Responses -/

/-- The packet of an answer. -/
def answerPacket (version sync : UInt64) : Answer → Packet
  | .ok body => ⟨Header.response Status.ok sync version, body⟩
  | .error e =>
      ⟨Header.response (Status.errorBit ||| e.code) sync version,
        Body.empty.insert Key.errorText (.text e.message)⟩

/-- Sends a packet if it fits a frame. -/
def post (packet : Packet) (delay : Duration) : List Outgoing :=
  match packet.frame with
  | .ok _ => [⟨packet, delay⟩]
  | .error _ => []

/-- Answers a request at once. -/
def answer (i : Instance) (sync : UInt64) (a : Answer) : List Outgoing :=
  post (answerPacket i.schemaVersion sync a) .zero

/-- What a reply comes to once all its delays are over. -/
def resolve? : Reply → Option Answer
  | .data rows => some (.ok (Body.ofData rows))
  | .error code message => some (.error ⟨code, message⟩)
  | .delayed _ reply => resolve? reply
  | .silent => none

/-- Answers a request with a reply.  Of delays within a delay only the outermost counts. -/
def answerReply (i : Instance) (sync : UInt64) : Reply → List Outgoing
  | .delayed delay reply =>
      match resolve? reply with
      | some a => post (answerPacket i.schemaVersion sync a) delay
      | none => []
  | reply =>
      match resolve? reply with
      | some a => i.answer sync a
      | none => []

/-! ## Naming spaces and indexes -/

/-- The number of the space that a body names. -/
def spaceId (i : Instance) (body : Body) : Except ServerError UInt32 :=
  match body.uint? Key.spaceId with
  | some id => .ok id.toUInt32
  | none =>
      let name := (body.text? Key.spaceName).getD ""
      match i.spaces.values.find? fun s => s.name == name with
      | some s => .ok s.id
      | none => .error ⟨ServerCode.noSuchSpace, s!"Space '{name}' does not exist"⟩

/-- The error of a space that is not there. -/
def noSuchSpace (id : UInt32) : ServerError :=
  ⟨ServerCode.noSuchSpace, s!"Space '#{id}' does not exist"⟩

/-- The space that a body names. -/
def spaceOf (i : Instance) (body : Body) : Except ServerError (UInt32 × StoredSpace) :=
  match i.spaceId body with
  | .error e => .error e
  | .ok id =>
      match i.spaces.get? id with
      | some s => .ok (id, s)
      | none => .error (noSuchSpace id)

/-- The number that a body gives for an index of a space, or the number of the name it gives; the
primary index if it gives neither. -/
def namedIndex? (s : StoredSpace) (body : Body) : Option UInt32 :=
  match body.uint? Key.indexId with
  | some id => some id.toUInt32
  | none =>
      match body.text? Key.indexName with
      | some name => s.indexId? name
      | none => some 0

/-- The index of a space that a body names. -/
def indexOf (s : StoredSpace) (body : Body) : Except ServerError UInt32 :=
  let named := namedIndex? s body
  match named.filter s.hasIndex with
  | some id => .ok id
  | none => .error ⟨ServerCode.noSuchIndex,
      s!"No index #{named.getD 0xffffffff} is defined in space '{s.name}'"⟩

/-! ## Data requests -/

/-- The answer of one row or none. -/
def rowAnswer (row : Option Row) : Body := Body.ofData (row.toList.map Value.array)

/-- Reads rows, or one of the views of the schema. -/
def select (i : Instance) (body : Body) : Answer := do
  let id ← i.spaceId body
  if id = spaceView then return Body.ofData (i.spaces.values.map StoredSpace.spaceRow)
  if id = indexView then return Body.ofData (i.spaces.values.flatMap StoredSpace.indexRows)
  match i.spaces.get? id with
  | none => throw (noSuchSpace id)
  | some s =>
      let index ← indexOf s body
      let offset := ((body.uint? Key.offset).map UInt64.toNat).getD 0
      let limit := ((body.uint? Key.limit).map UInt64.toNat).getD 0xffffffff
      return Body.ofData ((s.select index (body.items Key.key) offset limit).map Value.array)

/-- Changes a space; what is left of it counts also if there is an error. -/
def change (i : Instance) (body : Body) (f : StoredSpace → Answer × StoredSpace) :
    Answer × Instance :=
  match i.spaceOf body with
  | .error e => (.error e, i)
  | .ok (id, s) =>
      let (a, s) := f s
      (a, { i with spaces := i.spaces.insert id s })

/-- Changes a space through the index that a body names. -/
def changeBy (body : Body) (s : StoredSpace) (f : UInt32 → Answer × StoredSpace) :
    Answer × StoredSpace :=
  match indexOf s body with
  | .error e => (.error e, s)
  | .ok index => f index

def insert (i : Instance) (body : Body) : Answer × Instance :=
  i.change body fun s =>
    match s.insert (body.items Key.tuple) with
    | .ok changed => (.ok (rowAnswer (some (body.items Key.tuple))), changed)
    | .error e => (.error e, s)

def replace (i : Instance) (body : Body) : Answer × Instance :=
  i.change body fun s =>
    (.ok (rowAnswer (some (body.items Key.tuple))), s.replace (body.items Key.tuple))

def delete (i : Instance) (body : Body) : Answer × Instance :=
  i.change body fun s => changeBy body s fun index =>
    let (row, s) := s.delete index (body.items Key.key)
    (.ok (rowAnswer row), s)

def update (i : Instance) (body : Body) : Answer × Instance :=
  i.change body fun s => changeBy body s fun index =>
    let (row, s) := s.update index (body.items Key.key) (body.items Key.tuple)
    (row.map rowAnswer, s)

def upsert (i : Instance) (body : Body) : Answer × Instance :=
  i.change body fun s =>
    let (done, s) := s.upsert (body.items Key.tuple) (body.items Key.operations)
    (done.map fun _ => Body.ofData [], s)

/-! ## Other requests -/

/-- What clients ask first. -/
def identify (i : Instance) : Answer :=
  if i.settings.identifies then .ok (Body.identify i.settings.version i.settings.features)
  else .error ⟨ServerCode.unknownRequestType, "Unknown request type 73"⟩

/-- The proof of a password in a body. -/
def proof? (body : Body) : Option Bytes := do
  let parts ← (← body.get? Key.tuple).asArray?
  match ← parts[1]? with
  | .bin bytes | .str bytes => some bytes
  | _ => none

/-- Lets a user in who can prove the password. -/
def authenticate (i : Instance) (s : Session) (body : Body) : Answer × Session :=
  let user := (body.text? Key.userName).getD ""
  let accepted := match i.settings.users.get? user with
    | some password => proof? body == some (scramble s.salt password)
    | none => false
  if accepted then (.ok Body.empty, { s with user })
  else (.error ⟨ServerCode.credentials,
    s!"User not found or supplied credentials are invalid: {user}"⟩, s)

/-- Calls a stored procedure. -/
def call (i : Instance) (body : Body) : Reply :=
  let name := (body.text? Key.functionName).getD ""
  match i.procedures.get? name with
  | some handler => handler (body.items Key.tuple)
  | none => .error ServerCode.noSuchProcedure s!"Procedure '{name}' is not defined"

/-- Evaluates an expression; one that is not known gives its arguments. -/
def eval (i : Instance) (body : Body) : Reply :=
  match i.expressions.get? ((body.text? Key.expression).getD "") with
  | some handler => handler (body.items Key.tuple)
  | none => .data (body.items Key.tuple)

/-- The value of a watched key now. -/
def watchOnce (i : Instance) (body : Body) : Body :=
  Body.ofData (((i.values.get? ((body.text? Key.eventKey).getD "")).map Prod.fst).toList)

/-! ## Watching -/

/-- Sends a notification. -/
def notify (key : String) (value : Option Value) : List Outgoing :=
  let body := Body.empty.insert Key.eventKey (.text key)
  let body := match value with
    | some v => body.insert Key.eventData v
    | none => body
  post ⟨Header.response RequestType.event.code 0 0, body⟩ .zero

/-- Begins to watch a key and sends its value; a key that is watched already stays as it is. -/
def watch (i : Instance) (s : Session) (body : Body) : Session × List Outgoing :=
  match body.text? Key.eventKey with
  | none => (s, [])
  | some key =>
      if s.watched.contains key then (s, [])
      else
        let current := i.values.get? key
        ({ s with watched := s.watched.insert key ((current.map Prod.snd).getD 0) },
          notify key (current.map Prod.fst))

/-- Stops watching a key. -/
def unwatch (s : Session) (body : Body) : Session :=
  match body.text? Key.eventKey with
  | none => s
  | some key => { s with watched := s.watched.erase key }

/-- The value of a key if it is newer than a version. -/
def newerValue? (i : Instance) (key : String) (seen : Nat) : Option (Value × Nat) :=
  (i.values.get? key).filter fun v => decide (seen < v.2)

/-- Sends the watched values that have changed since they were sent last. -/
def pushEvents (i : Instance) (s : Session) : Session × List Outgoing :=
  let changed := s.watched.entries.filterMap fun (key, seen) =>
    (i.newerValue? key seen).map fun v => (key, v)
  ({ s with watched := changed.foldl (fun w (key, v) => w.insert key v.2) s.watched },
    changed.flatMap fun (key, v) => notify key (some v.1))

/-! ## Packets -/

/-- Whether a request is refused if it was built against another schema version. -/
def isSchemaChecked : RequestType → Bool
  | .select | .insert | .replace | .update | .delete | .upsert => true
  | _ => false

/-- Counts a request and the stream it names. -/
def count (i : Instance) (h : Header) : Instance :=
  { i with
    counts := i.counts.insert h.code ((i.counts.get? h.code).getD 0 + 1)
    streams := match h.streamId with
      | some stream => i.streams.insert stream ()
      | none => i.streams }

/-- Carries a request out. -/
def carryOut (i : Instance) (s : Session) (kind : RequestType) (sync : UInt64) (body : Body) :
    Instance × Session × List Outgoing :=
  let changing := fun (outcome : Answer × Instance) =>
    (outcome.2, s, outcome.2.answer sync outcome.1)
  match kind with
  | .id => (i, s, i.answer sync i.identify)
  | .auth =>
      let (a, s) := i.authenticate s body
      (i, s, i.answer sync a)
  | .ping | .begin | .commit | .rollback => (i, s, i.answer sync (.ok Body.empty))
  | .call => (i, s, i.answerReply sync (i.call body))
  | .eval => (i, s, i.answerReply sync (i.eval body))
  | .select => (i, s, i.answer sync (i.select body))
  | .insert => changing (i.insert body)
  | .replace => changing (i.replace body)
  | .delete => changing (i.delete body)
  | .update => changing (i.update body)
  | .upsert => changing (i.upsert body)
  | .watch =>
      let (s, sent) := i.watch s body
      (i, s, sent)
  | .unwatch => (i, unwatch s body, [])
  | .watchOnce => (i, s, i.answer sync (.ok (i.watchOnce body)))
  | .event => (i, s, [])

/-- The error of a request that was built against another schema version. -/
def wrongVersion (current expected : UInt64) : ServerError :=
  ⟨ServerCode.wrongSchemaVersion,
    s!"Wrong schema version, current: {current}, in request: {expected}"⟩

/-- Whether a request was built against another schema version and must not be. -/
def isOutdated (i : Instance) (kind : RequestType) (h : Header) : Bool :=
  isSchemaChecked kind && h.schemaVersion.any fun expected => expected != i.schemaVersion

/-- Takes a packet of a session. -/
def handle (i : Instance) (s : Session) (p : Packet) : Instance × Session × List Outgoing :=
  let h := p.header
  let i := i.count h
  if i.isMuted then (i, s, [])
  else
    match RequestType.ofCode? h.code with
    | none => (i, s, i.answer h.sync
        (.error ⟨ServerCode.unknownRequestType, s!"Unknown request type {h.code}"⟩))
    | some kind =>
        if i.isOutdated kind h then
          (i, s, i.answer h.sync (.error (wrongVersion i.schemaVersion (h.schemaVersion.getD 0))))
        else i.carryOut s kind h.sync p.body

end Instance

end TupleWire
