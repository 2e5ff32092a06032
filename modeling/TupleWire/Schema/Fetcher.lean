/-
  Resolving names through a cached schema.

  A lookup answers from the cached snapshot if that is fresh and has what is
  asked for.  Otherwise it waits for its turn to fetch the schema, and when its
  turn comes it fetches unless another lookup has done so in the meantime; then
  it answers, and a name that is still missing is an error.  So a lookup waits
  for its turn at most once.

  A lookup is split where it waits: `Fetcher.begin` up to the wait for its turn,
  `Fetcher.enter` when its turn comes, `Fetcher.finish` when the rows are there.
  `Fetcher.lookup` is a lookup with nobody else around.
-/
import TupleWire.Client.Error
import TupleWire.Config.Basic
import TupleWire.Request.Response
import TupleWire.Schema.Cache
import TupleWire.Schema.Tracker

set_option autoImplicit false

namespace TupleWire

/-- The snapshot after so many fetches; none has been fetched yet if their number is zero. -/
structure Snapshot where
  generation : Nat
  cache : SchemaCache
  deriving DecidableEq

/-- The rows of the two views, and the schema version at which they were read. -/
structure FetchedRows where
  version : UInt64
  spaceRows : List Value
  indexRows : List Value
  deriving DecidableEq

/-- The rows in the responses to the two requests of a fetch; the later of their versions counts. -/
def FetchedRows.ofResponses (spaces indexes : Response) : FetchedRows :=
  ⟨max (spaces.schemaVersion.getD 0) (indexes.schemaVersion.getD 0), spaces.body.dataItems,
    indexes.body.dataItems⟩

/-- The cached schema and what is known about it. -/
structure Fetcher where
  policy : SchemaVersionPolicy
  snapshot : Snapshot := ⟨0, .empty⟩
  /-- the snapshot is not to be answered from -/
  isStale : Bool := false
  /-- fetches that succeeded -/
  fetches : Nat := 0
  /-- somebody is fetching -/
  isBusy : Bool := false
  deriving DecidableEq

/-- What a lookup is for. -/
structure Query where
  space : Target
  index : Target := .primary
  deriving DecidableEq

/-- The answer of a lookup. -/
structure Resolution where
  space : SpaceInfo
  indexId : UInt32
  /-- the schema version for which the numbers hold -/
  version : UInt64
  deriving DecidableEq

/-- Why a lookup waits for a fetch. -/
inductive FetchReason where
  /-- the snapshot is not fresh -/
  | notFresh
  | missingSpace
  /-- an index is missing in a space that was found -/
  | missingIndex (space : SpaceInfo)
  deriving DecidableEq

namespace Fetcher

/-- Demands a fetch before the next answer. -/
def invalidate (f : Fetcher) : Fetcher := { f with isStale := true }

/-- The version of the snapshot. -/
def cachedVersion (f : Fetcher) : UInt64 := f.snapshot.cache.version

/-- Whether a snapshot may be answered from. -/
def isFresh (f : Fetcher) (tracker : SchemaTracker) (s : Snapshot) : Bool :=
  decide (0 < s.generation) && !f.isStale && decide (tracker.current ≤ s.cache.version)

/-! ## Answers -/

/-- The number of an index of a space, if it is there; a number stands for itself. -/
def indexOf? (space : SpaceInfo) : Target → Option UInt32
  | .byId id => some id
  | .byName name => (space.indexByName? name).map IndexInfo.id

/-- The error of an index that is not there. -/
def noIndex (space : SpaceInfo) (index : Target) : ClientError :=
  .noSchema (.noIndex index.describe space.name)

/-- What a snapshot says about a query: the answer, or what is missing. -/
def ask (s : Snapshot) (q : Query) : Except FetchReason Resolution :=
  match s.cache.space? q.space with
  | none => .error .missingSpace
  | some space =>
      match indexOf? space q.index with
      | none => .error (.missingIndex space)
      | some indexId => .ok ⟨space, indexId, s.cache.version⟩

/-- The error of what is missing for good. -/
def missing (q : Query) : FetchReason → ClientError
  | .missingIndex space => noIndex space q.index
  | .notFresh | .missingSpace => .noSchema (.noSpace q.space)

/-- The answer of a snapshot that is not fetched again.  A lookup that had found the space already
keeps it, and looks only for its index under the space's number. -/
def answer (s : Snapshot) (q : Query) : FetchReason → Except ClientError Resolution
  | .missingIndex space =>
      match ((s.cache.space? (.byId space.id)).bind fun now => indexOf? now q.index) with
      | some indexId => .ok ⟨space, indexId, s.cache.version⟩
      | none => .error (noIndex space q.index)
  | .notFresh | .missingSpace =>
      match ask s q with
      | .ok resolution => .ok resolution
      | .error reason => .error (missing q reason)

/-! ## Lookups -/

/-- Begins a lookup: its answer, or why it has to wait for its turn to fetch. -/
def begin (f : Fetcher) (tracker : SchemaTracker) (q : Query) : Except FetchReason Resolution :=
  if f.isFresh tracker f.snapshot then ask f.snapshot q else .error .notFresh

/-- Whether the snapshot is to be answered from as it is, given the generation that a lookup has
seen: somebody else has fetched it, and where freshness was the reason, it is fresh. -/
def isRefetched (f : Fetcher) (tracker : SchemaTracker) (reason : FetchReason) (seen : Nat) :
    Bool :=
  decide (f.snapshot.generation ≠ seen) &&
    (decide (reason ≠ .notFresh) || f.isFresh tracker f.snapshot)

/-- Goes on when it is a lookup's turn: its answer, or nothing if it fetches. -/
def enter (f : Fetcher) (tracker : SchemaTracker) (q : Query) (reason : FetchReason) (seen : Nat) :
    Fetcher × Option (Except ClientError Resolution) :=
  if f.isRefetched tracker reason seen then (f, some (answer f.snapshot q reason))
  else ({ f with isStale := false, isBusy := true }, none)

/-- Puts fetched rows in place of the snapshot. -/
def install (f : Fetcher) (rows : FetchedRows) : Fetcher :=
  { f with
    snapshot := ⟨f.snapshot.generation + 1, .ofRows rows.version rows.spaceRows rows.indexRows⟩
    fetches := f.fetches + 1
    isBusy := false }

/-- Goes on when the rows are there, or could not be fetched. -/
def finish (f : Fetcher) (tracker : SchemaTracker) (q : Query) (reason : FetchReason)
    (fetched : Except ClientError FetchedRows) :
    Fetcher × SchemaTracker × Except ClientError Resolution :=
  match fetched with
  | .error e => ({ f with isStale := true, isBusy := false }, tracker, .error e)
  | .ok rows =>
      let f := f.install rows
      (f, tracker.observe rows.version, answer f.snapshot q reason)

/-! ## Lookups with nobody else around -/

/-- What a lookup works with: the fetcher, the newest version seen, and whatever a fetch acts on. -/
structure Env (σ : Type) where
  fetcher : Fetcher
  tracker : SchemaTracker
  world : σ

/-- Fetches the rows of the two views. -/
abbrev Fetch (σ : Type) : Type :=
  SchemaTracker → σ → Except ClientError FetchedRows × SchemaTracker × σ

section Alone

variable {σ : Type}

/-- Fetches the schema for a lookup whose turn it is. -/
def fetchFor (fetch : Fetch σ) (q : Query) (reason : FetchReason) (env : Env σ) :
    Except ClientError Resolution × Env σ :=
  let (fetched, tracker, world) := fetch env.tracker env.world
  let (fetcher, tracker, result) := env.fetcher.finish tracker q reason fetched
  (result, ⟨fetcher, tracker, world⟩)

/-- Looks a query up, fetching if there is need. -/
def lookup (fetch : Fetch σ) (q : Query) (env : Env σ) :
    Except ClientError Resolution × Env σ :=
  match env.fetcher.begin env.tracker q with
  | .ok resolution => (.ok resolution, env)
  | .error reason =>
      match env.fetcher.enter env.tracker q reason env.fetcher.snapshot.generation with
      | (fetcher, some result) => (result, { env with fetcher })
      | (fetcher, none) => fetchFor fetch q reason { env with fetcher }

/-- The space of a target. -/
def get (fetch : Fetch σ) (space : Target) (env : Env σ) : Except ClientError SpaceInfo × Env σ :=
  let (result, env) := lookup fetch { space } env
  (result.map Resolution.space, env)

end Alone

end Fetcher

/-! ## Targets by number -/

/-- The numbers of a space and an index, and the schema version for which they hold; version zero
if they were numbers all along. -/
structure ResolvedTarget where
  spaceId : UInt32
  indexId : UInt32
  schemaVersion : UInt64
  deriving DecidableEq, Repr

/-- The numbers in an answer. -/
def Resolution.target (r : Resolution) : ResolvedTarget := ⟨r.space.id, r.indexId, r.version⟩

/-- The numbers in a query that names nothing. -/
def Query.numbers? (q : Query) : Option ResolvedTarget :=
  match q.space, q.index with
  | .byId space, .byId index => some ⟨space, index, 0⟩
  | _, _ => none

namespace Fetcher

/-- Resolves the names in a query. -/
def resolve {σ : Type} (fetch : Fetch σ) (q : Query) (env : Env σ) :
    Except ClientError ResolvedTarget × Env σ :=
  match q.numbers? with
  | some target => (.ok target, env)
  | none =>
      let (result, env) := lookup fetch q env
      (result.map Resolution.target, env)

/-! ## Requests that rest on the schema -/

/-- Whether an error of the server says that the schema has changed. -/
def isSchemaError (code : UInt32) : Bool :=
  code == ServerCode.noSuchSpace || code == ServerCode.noSuchIndex ||
    code == ServerCode.wrongSchemaVersion

/-- Takes the last result of a request: an error about the schema makes the snapshot stale, and
where versions are taken strictly a response older than the snapshot is an error. -/
def check (f : Fetcher) (result : Except ClientError Response) :
    Except ClientError Response × Fetcher :=
  match result with
  | .error (.server e) => (.error (.server e), if isSchemaError e.code then f.invalidate else f)
  | .error e => (.error e, f)
  | .ok response =>
      match f.policy, response.schemaVersion with
      | .strict, some received =>
          if received < f.cachedVersion then
            (.error (.schemaVersionMismatch f.cachedVersion received), f)
          else (.ok response, f)
      | _, _ => (.ok response, f)

/-- Whether a result is the server's refusal of an outdated schema version. -/
def isOutdated : Except ClientError Response → Bool
  | .error (.server e) => e.code == ServerCode.wrongSchemaVersion
  | _ => false

/-- Carries out a request that rests on the schema.  If the server refuses it as outdated, it is
built and sent once more, or, where versions are taken strictly, the refusal is reported. -/
def processRequest {σ : Type} (send : Env σ → Except ClientError Response × Env σ) (env : Env σ) :
    Except ClientError Response × Env σ :=
  let (first, env) := send env
  if isOutdated first then
    let cached := env.fetcher.cachedVersion
    let env := { env with fetcher := env.fetcher.invalidate }
    match env.fetcher.policy with
    | .strict => (.error (.schemaVersionMismatch cached env.tracker.current), env)
    | .ignore =>
        let (again, env) := send env
        let (result, fetcher) := env.fetcher.check again
        (result, { env with fetcher })
  else
    let (result, fetcher) := env.fetcher.check first
    (result, { env with fetcher })

end Fetcher

end TupleWire
