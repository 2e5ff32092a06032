/-
  Requests that name spaces and indexes.

  With a cached schema, names become numbers before a request is sent, and the
  request is stamped with the schema version for which they hold.  Without one,
  and where nothing is named, a request is sent as it is.

  How a request is carried out is a parameter, an `Exchange`: it chooses a
  connection, sends the request and waits for the result.
-/
import TupleWire.Request.Basic
import TupleWire.Schema.Fetcher

set_option autoImplicit false

namespace TupleWire

/-- How a request is carried out. -/
abbrev Exchange (σ : Type) : Type :=
  Request → RequestOptions → SchemaTracker → σ → Except ClientError Response × SchemaTracker × σ

namespace Request

/-- The space and the index that a request is about. -/
def query? : Request → Option Query
  | select space index _ _ | update space index _ _ | delete space index _ => some ⟨space, index⟩
  | insert space _ | replace space _ | upsert space _ _ => some { space }
  | _ => none

/-- Whether a request names its space or its index. -/
def isByName (r : Request) : Bool := r.query?.any fun q => q.space.isName || q.index.isName

/-- The request on a space and an index given by their numbers. -/
def retarget (target : ResolvedTarget) : Request → Request
  | select _ _ key params => select (.byId target.spaceId) (.byId target.indexId) key params
  | insert _ tuple => insert (.byId target.spaceId) tuple
  | replace _ tuple => replace (.byId target.spaceId) tuple
  | update _ _ key operations =>
      update (.byId target.spaceId) (.byId target.indexId) key operations
  | upsert _ tuple operations => upsert (.byId target.spaceId) tuple operations
  | delete _ _ key => delete (.byId target.spaceId) (.byId target.indexId) key
  | r => r

end Request

/-- The options of a request, stamped with the version of the schema it rests on. -/
def RequestOptions.stamped (o : RequestOptions) (target : ResolvedTarget) : RequestOptions :=
  if 0 < target.schemaVersion then { o with schemaVersion := some target.schemaVersion } else o

namespace Exchange

variable {σ : Type}

/-- Reads one of the views of the schema. -/
def readView (view : UInt32) : Request :=
  .select (.byId view) .primary [] SelectParams.wholeIndex

/-- Fetches the rows of the two views, the spaces first. -/
def fetch (exchange : Exchange σ) : Fetcher.Fetch σ := fun tracker world =>
  match exchange (readView spaceView) {} tracker world with
  | (.error e, tracker, world) => (.error e, tracker, world)
  | (.ok spaces, tracker, world) =>
      match exchange (readView indexView) {} tracker world with
      | (.error e, tracker, world) => (.error e, tracker, world)
      | (.ok indexes, tracker, world) => (.ok (.ofResponses spaces indexes), tracker, world)

/-- Resolves the names in a request and carries it out. -/
def sendResolved (exchange : Exchange σ) (r : Request) (q : Query) (o : RequestOptions)
    (env : Fetcher.Env σ) : Except ClientError Response × Fetcher.Env σ :=
  match Fetcher.resolve exchange.fetch q env with
  | (.error e, env) => (.error e, env)
  | (.ok target, env) =>
      let (result, tracker, world) :=
        exchange (r.retarget target) (o.stamped target) env.tracker env.world
      (result, { env with tracker, world })

/-- Carries out a request through the cached schema. -/
def dispatch (exchange : Exchange σ) (r : Request) (o : RequestOptions) (env : Fetcher.Env σ) :
    Except ClientError Response × Fetcher.Env σ :=
  match r.query?.filter fun _ => r.isByName with
  | some q => Fetcher.processRequest (exchange.sendResolved r q o) env
  | none =>
      let (result, tracker, world) := exchange r o env.tracker env.world
      (result, { env with tracker, world })

end Exchange

end TupleWire
