/-
  Operations on a space by its name, whatever the client knows of the schema.

  A client that resolves names through its snapshot stamps what it sends with
  the version of the snapshot, and the instance refuses a stamp that is not its
  own version.  So whatever the snapshot says, an operation is carried out only
  if it says so of the schema as it is now; and after a refusal the client
  fetches and asks again.  `Settled` is what that comes to for the operations
  that store a tuple: first for one attempt, then for the operation as a whole.
-/
import TupleWire.Proofs.Instance.Storing
import TupleWire.Proofs.Schema.Sending

set_option autoImplicit false

namespace TupleWire

/-! ## One lookup -/

namespace Fetcher

/-- The fetcher after a fetch that succeeded. -/
def refreshed (f : Fetcher) (c : SchemaCache) : Fetcher :=
  { f with
    snapshot := ⟨f.snapshot.generation + 1, c⟩
    isStale := false
    fetches := f.fetches + 1
    isBusy := false }

variable {name : String}

/-- A space that a lookup finds at once is the one of that name in a snapshot that was fetched. -/
theorem of_begin_eq_ok {f : Fetcher} {tracker : SchemaTracker} {found : Resolution}
    (h : f.begin tracker { space := .byName name } = .ok found) :
    0 < f.snapshot.generation ∧ ∃ space, f.snapshot.cache.spaceByName? name = some space ∧
      found.target = ⟨space.id, 0, f.cachedVersion⟩ := by
  obtain ⟨hfresh, hask⟩ := begin_eq_ok_iff.1 h
  obtain ⟨space, indexId, hspace, hindex, rfl⟩ := ask_eq_ok_iff.1 hask
  cases hindex
  exact ⟨(isFresh_iff.1 hfresh).1, space, hspace, rfl⟩

/-- A lookup of a space waits because the snapshot is not fresh or lacks the space. -/
theorem of_begin_eq_error {f : Fetcher} {tracker : SchemaTracker} {reason : FetchReason}
    (h : f.begin tracker { space := .byName name } = .error reason) :
    reason = .notFresh ∨ reason = .missingSpace := by
  rcases begin_eq_error_cases h with ⟨_, _, _, _, hindex, _⟩ | ⟨_, hreason⟩
  · cases hindex
  · cases reason with
    | notFresh => exact .inl rfl
    | missingSpace => exact .inr rfl
    | missingIndex space => exact absurd rfl (hreason space)

/-- With nobody else around, a lookup of a space that waits fetches the schema and answers from
it. -/
theorem lookup_of_wait {σ : Type} {fetch : Fetch σ} {env : Env σ} {reason : FetchReason}
    {rows : FetchedRows} {tracker : SchemaTracker} {world : σ}
    (hbegin : env.fetcher.begin env.tracker { space := .byName name } = .error reason)
    (hfetch : fetch env.tracker env.world = (.ok rows, tracker, world)) :
    let fetched : SchemaCache := .ofRows rows.version rows.spaceRows rows.indexRows
    lookup fetch { space := .byName name } env =
      (match fetched.spaceByName? name with
        | none => .error (.noSchema (.noSpace (.byName name)))
        | some space => .ok ⟨space, 0, rows.version⟩,
        ⟨env.fetcher.refreshed fetched, tracker.observe rows.version, world⟩) := by
  intro fetched
  have hanswer : answer ⟨env.fetcher.snapshot.generation + 1, fetched⟩ { space := .byName name }
      reason =
        match fetched.spaceByName? name with
        | none => .error (.noSchema (.noSpace (.byName name)))
        | some space => .ok ⟨space, 0, rows.version⟩ := by
    rcases of_begin_eq_error hbegin with rfl | rfl <;>
    · simp only [answer, ask, SchemaCache.space?]
      cases fetched.spaceByName? name with
      | none => rfl
      | some space => rfl
  rw [lookup_of_fetch_eq_ok hbegin hfetch]
  exact Prod.ext hanswer rfl

end Fetcher

/-! ## One attempt -/

/-- What a client holds of the schema of an instance: versions begin with one, and a snapshot of
the version that the instance has is its schema.  A snapshot of another version, and the newest
version seen, may be anything. -/
structure Informed (env : Fetcher.Env Peer) : Prop where
  positive : 0 < env.world.inst.schemaVersion
  stamped : 0 < env.fetcher.snapshot.generation → 0 < env.fetcher.cachedVersion
  current : 0 < env.fetcher.snapshot.generation →
    env.fetcher.cachedVersion = env.world.inst.schemaVersion →
      env.fetcher.snapshot.cache = env.world.inst.schema

/-- A client that holds the schema that the instance had in the past is informed, since what is
shown of the schema does not change without its version. -/
theorem Informed.of_schema {env : Fetcher.Env Peer} {past : Instance}
    (hpositive : 0 < env.world.inst.schemaVersion) (hpast : 0 < past.schemaVersion)
    (hcache : env.fetcher.snapshot.cache = past.schema)
    (hshown : past.schemaVersion = env.world.inst.schemaVersion →
      past.spaceRows = env.world.inst.spaceRows ∧ past.indexRows = env.world.inst.indexRows) :
    Informed env where
  positive := hpositive
  stamped _ := by
    rw [Fetcher.cachedVersion, hcache]
    exact hpast
  current _ hcurrent := by
    rw [Fetcher.cachedVersion, hcache] at hcurrent
    obtain ⟨hspaces, hindexes⟩ := hshown hcurrent
    rw [hcache, Instance.schema, Instance.schema, hspaces, hindexes]
    exact congrArg (SchemaCache.ofRows · _ _) hcurrent

/-- What an operation on a space by its name comes to, with the number of times that it is sent
and that the schema is fetched at most. -/
structure Settled (op : Storing) (name : String) (format : ResponseFormat) (sends fetches : Nat)
    (env : Fetcher.Env Peer)
    (outcome : Except ClientError Response × Fetcher.Env Peer) : Prop where
  sent : outcome.2.world.inst.requestCount op.kind ≤
    env.world.inst.requestCount op.kind + sends
  fetched : outcome.2.fetcher.fetches ≤ env.fetcher.fetches + fetches
  read : outcome.2.world.inst.requestCount .select ≤
    env.world.inst.requestCount .select + 2 * fetches
  policy : outcome.2.fetcher.policy = env.fetcher.policy
  effect :
    match env.world.inst.spaceNamed? name with
    | some s =>
        outcome.1 = Instance.received env.world.inst.schemaVersion
            (UInt64.ofNat outcome.2.world.issued) format (op.carried.apply s).1 ∧
          outcome.2.world.inst = { env.world.inst with
            spaces := env.world.inst.spaces.insert s.id (op.carried.apply s).2
            counts := outcome.2.world.inst.counts }
    | none =>
        outcome.1 = .error (.noSchema (.noSpace (.byName name))) ∧
          outcome.2.world.inst = { env.world.inst with counts := outcome.2.world.inst.counts }

section Attempt

variable {timeout : Duration} {op : Storing} {name : String} {o : RequestOptions}
  {env : Fetcher.Env Peer}

/-- The operation was carried out on the space of the name, after requests that changed nothing. -/
theorem Settled.of_stored {format : ResponseFormat} {sends fetches : Nat} {q : Peer} {f : Fetcher}
    {tracker : SchemaTracker} {s : StoredSpace} (hs : env.world.inst.spaceNamed? name = some s)
    (hq : q.inst = { env.world.inst with counts := q.inst.counts })
    (hsent : q.inst.requestCount op.kind + 1 ≤ env.world.inst.requestCount op.kind + sends)
    (hread : q.inst.requestCount .select ≤ env.world.inst.requestCount .select + 2 * fetches)
    (hfetched : f.fetches ≤ env.fetcher.fetches + fetches)
    (hpolicy : f.policy = env.fetcher.policy) :
    Settled op name format sends fetches env
      (Instance.received env.world.inst.schemaVersion q.nextSync format (op.carried.apply s).1,
        ⟨f, tracker, q.stored op s.id s⟩) where
  sent := by
    rw [Peer.requestCount_stored, if_pos rfl]
    exact hsent
  fetched := hfetched
  read := by
    rw [Peer.requestCount_stored, if_neg op.kind_ne_select]
    exact hread
  policy := hpolicy
  effect := by
    rw [hs]
    refine ⟨rfl, ?_⟩
    show { q.inst.counted op.kind with
      spaces := q.inst.spaces.insert s.id (op.carried.apply s).2 } =
        { env.world.inst with
          spaces := env.world.inst.spaces.insert s.id (op.carried.apply s).2
          counts := (q.inst.counted op.kind).counts }
    rw [hq]
    rfl

/-- A stamp above zero counts, whatever version the caller gave. -/
theorem stamped_schemaVersion (o : RequestOptions) {target : ResolvedTarget}
    (h : 0 < target.schemaVersion) :
    (o.stamped target).schemaVersion = some target.schemaVersion ∧
      (o.stamped target).format = o.format := by
  rw [RequestOptions.stamped, if_pos h]
  exact ⟨rfl, rfl⟩

/-- An attempt on a space that was found sends the operation there. -/
theorem sendResolved_of_found {found : Resolution} {env' : Fetcher.Env Peer}
    (h : Fetcher.lookup (Exchange.fetch (Peer.exchange timeout)) { space := .byName name } env =
      (.ok found, env')) :
    Exchange.sendResolved (Peer.exchange timeout) (op.request (.byName name))
        { space := .byName name } o env =
      let outcome := Peer.exchange timeout (op.request (.byId found.space.id))
        (o.stamped found.target) env'.tracker env'.world
      (outcome.1, { env' with tracker := outcome.2.1, world := outcome.2.2 }) := by
  simp only [Exchange.sendResolved, Fetcher.resolve, Query.numbers?, h, Except.map,
    Storing.retarget_request]
  rfl

/-- An attempt whose lookup fails sends nothing. -/
theorem sendResolved_of_error {e : ClientError} {env' : Fetcher.Env Peer}
    (h : Fetcher.lookup (Exchange.fetch (Peer.exchange timeout)) { space := .byName name } env =
      (.error e, env')) :
    Exchange.sendResolved (Peer.exchange timeout) (op.request (.byName name))
      { space := .byName name } o env = (.error e, env') := by
  simp only [Exchange.sendResolved, Fetcher.resolve, Query.numbers?, h, Except.map]

/-- An attempt that has to fetch the schema settles the operation. -/
theorem settled_of_wait {reason : FetchReason} (hkeyed : env.world.inst.Keyed)
    (hpositive : 0 < env.world.inst.schemaVersion) (hundisturbed : Undisturbed env.world.inst op)
    (hbegin : env.fetcher.begin env.tracker { space := .byName name } = .error reason) :
    Settled op name o.format 1 1 env
      (Exchange.sendResolved (Peer.exchange timeout) (op.request (.byName name))
        { space := .byName name } o env) := by
  have hlookup := Fetcher.lookup_of_wait hbegin (Peer.fetch_eq timeout env.tracker
    hundisturbed.awake hundisturbed.spaceRows hundisturbed.indexRows)
  have hname := hkeyed.spaceByName?_schema name
  rw [Instance.schema] at hname
  let fetched := (env.world.counted .select).counted .select
  have hread : fetched.inst.requestCount .select = env.world.inst.requestCount .select + 2 := by
    simp [fetched, Peer.counted, Instance.requestCount_counted]
  have hsent : fetched.inst.requestCount op.kind = env.world.inst.requestCount op.kind := by
    simp [fetched, Peer.counted, Instance.requestCount_counted, op.kind_ne_select.symm]
  dsimp only at hlookup
  cases hs : env.world.inst.spaceNamed? name with
  | none =>
      rw [hs, Option.map_none, Option.map_eq_none_iff] at hname
      rw [hname] at hlookup
      rw [sendResolved_of_error hlookup]
      refine ⟨hsent.trans_le (Nat.le_succ _), Nat.le_refl _, hread.le, rfl, ?_⟩
      rw [hs]
      exact ⟨rfl, rfl⟩
  | some s =>
      rw [hs, Option.map_some, Option.map_eq_some_iff] at hname
      obtain ⟨space, hspace, hid⟩ := hname
      rw [hspace] at hlookup
      obtain ⟨hstamp, hformat⟩ := @stamped_schemaVersion o
        ⟨space.id, 0, env.world.inst.schemaVersion⟩ hpositive
      have hexchange := Peer.exchange_stored (p := fetched) timeout
        ((env.tracker.observe env.world.inst.schemaVersion).observe env.world.inst.schemaVersion)
        ((hundisturbed.counted .select).counted .select) (hkeyed.get?_of_spaceNamed? hs) hstamp
      rw [← hid, hformat] at hexchange
      rw [sendResolved_of_found hlookup]
      dsimp only [Resolution.target]
      rw [hexchange, hid]
      exact Settled.of_stored hs rfl (by rw [hsent]) hread.le (Nat.le_refl _) rfl

/-- An attempt on a space that the snapshot has sends the operation there, stamped with the
version of the snapshot. -/
theorem sendResolved_of_begin (timeout : Duration) (op : Storing) (o : RequestOptions)
    {found : Resolution} (hinformed : Informed env)
    (hbegin : env.fetcher.begin env.tracker { space := .byName name } = .ok found) :
    0 < env.fetcher.snapshot.generation ∧
      ∃ space, env.fetcher.snapshot.cache.spaceByName? name = some space ∧
        ∃ o' : RequestOptions,
          o'.schemaVersion = some env.fetcher.cachedVersion ∧ o'.format = o.format ∧
          Exchange.sendResolved (Peer.exchange timeout) (op.request (.byName name))
              { space := .byName name } o env =
            let outcome := Peer.exchange timeout (op.request (.byId space.id)) o' env.tracker
              env.world
            (outcome.1, { env with tracker := outcome.2.1, world := outcome.2.2 }) := by
  obtain ⟨hgeneration, space, hspace, htarget⟩ := Fetcher.of_begin_eq_ok hbegin
  have hlookup : Fetcher.lookup (Exchange.fetch (Peer.exchange timeout)) { space := .byName name }
      env = (.ok found, env) := Fetcher.lookup_of_begin hbegin
  have hid : found.space.id = space.id := congrArg ResolvedTarget.spaceId htarget
  have hstamp : found.target.schemaVersion = env.fetcher.cachedVersion :=
    congrArg ResolvedTarget.schemaVersion htarget
  have hstamped := stamped_schemaVersion o (hstamp ▸ hinformed.stamped hgeneration)
  rw [hstamp] at hstamped
  refine ⟨hgeneration, space, hspace, o.stamped found.target, hstamped.1, hstamped.2, ?_⟩
  rw [sendResolved_of_found hlookup, hid]

/-- An attempt on a space found in the schema as it is now settles the operation. -/
theorem settled_of_current {found : Resolution} (hkeyed : env.world.inst.Keyed)
    (hinformed : Informed env) (hundisturbed : Undisturbed env.world.inst op)
    (hbegin : env.fetcher.begin env.tracker { space := .byName name } = .ok found)
    (hcurrent : env.fetcher.cachedVersion = env.world.inst.schemaVersion) :
    Settled op name o.format 1 0 env
      (Exchange.sendResolved (Peer.exchange timeout) (op.request (.byName name))
        { space := .byName name } o env) := by
  obtain ⟨hgeneration, space, hspace, o', hstamp, hformat, hsend⟩ :=
    sendResolved_of_begin timeout op o hinformed hbegin
  have hname := hkeyed.spaceByName?_schema name
  rw [← hinformed.current hgeneration hcurrent, hspace, Option.map_some] at hname
  obtain ⟨s, hs, hid⟩ := Option.map_eq_some_iff.1 hname.symm
  rw [hcurrent] at hstamp
  have hexchange := Peer.exchange_stored timeout env.tracker hundisturbed
    (hkeyed.get?_of_spaceNamed? hs) hstamp
  rw [hid, hformat] at hexchange
  rw [hsend, hexchange, ← hid]
  exact Settled.of_stored hs rfl (Nat.le_refl _) (Nat.le_refl _) (Nat.le_refl _) rfl

/-- An attempt on a space found in the schema of another version is refused. -/
theorem sendResolved_of_outdated {found : Resolution} (hinformed : Informed env)
    (hundisturbed : Undisturbed env.world.inst op)
    (hbegin : env.fetcher.begin env.tracker { space := .byName name } = .ok found)
    (houtdated : env.fetcher.cachedVersion ≠ env.world.inst.schemaVersion) :
    Exchange.sendResolved (Peer.exchange timeout) (op.request (.byName name))
        { space := .byName name } o env =
      (.error (.server (Instance.wrongVersion env.world.inst.schemaVersion
          env.fetcher.cachedVersion)),
        { env with
          tracker := env.tracker.observe env.world.inst.schemaVersion
          world := env.world.counted op.kind }) := by
  obtain ⟨_, space, _, o', hstamp, _, hsend⟩ :=
    sendResolved_of_begin timeout op o hinformed hbegin
  rw [hsend, Peer.exchange_refused timeout env.tracker hundisturbed houtdated hstamp]

end Attempt

/-! ## The operation as a whole -/

theorem Fetcher.check_of_ignore {f : Fetcher} (h : f.policy = .ignore)
    (result : Except ClientError Response) :
    (f.check result).1 = result ∧ (f.check result).2.fetches = f.fetches ∧
      (f.check result).2.policy = f.policy := by
  rcases result with e | response
  · cases e with
    | server e =>
        rw [check]
        split
        · exact ⟨rfl, rfl, rfl⟩
        · exact ⟨rfl, rfl, rfl⟩
    | _ => exact ⟨rfl, rfl, rfl⟩
  · rw [check, h]
    exact ⟨rfl, rfl, h⟩

namespace Settled

variable {op : Storing} {name : String} {format : ResponseFormat} {sends fetches : Nat}
  {env : Fetcher.Env Peer} {outcome : Except ClientError Response × Fetcher.Env Peer}

/-- What is settled was not refused as outdated. -/
theorem code_ne (h : Settled op name format sends fetches env outcome) {e : ServerError}
    (he : outcome.1 = .error (.server e)) : e.code ≠ ServerCode.wrongSchemaVersion := by
  have heffect := h.effect
  split at heffect
  · rename_i s _
    rw [heffect.1] at he
    cases hanswer : (op.carried.apply s).1 with
    | ok body =>
        rw [hanswer] at he
        cases he
    | error e' =>
        rw [hanswer] at he
        cases he
        rcases Storing.code_apply hanswer with hcode | hcode
        · rw [hcode]
          decide
        · rw [hcode]
          decide
  · rw [heffect.1] at he
    cases he

theorem not_outdated (h : Settled op name format sends fetches env outcome) :
    Fetcher.isOutdated outcome.1 = false := by
  unfold Fetcher.isOutdated
  split
  · rename_i e he
    exact beq_eq_false_iff_ne.2 (h.code_ne he)
  · rfl

/-- The last look at a result changes nothing of what is settled. -/
theorem checked (h : Settled op name format sends fetches env outcome)
    (hpolicy : env.fetcher.policy = .ignore) :
    Settled op name format sends fetches env
      ((outcome.2.fetcher.check outcome.1).1,
        { outcome.2 with fetcher := (outcome.2.fetcher.check outcome.1).2 }) := by
  obtain ⟨hresult, hfetches, hkept⟩ :=
    Fetcher.check_of_ignore (h.policy.trans hpolicy) outcome.1
  refine ⟨h.sent, hfetches.trans_le h.fetched, h.read, hkept.trans h.policy, ?_⟩
  rw [hresult]
  exact h.effect

/-- What the first attempt settles is settled. -/
theorem processRequest {send : Fetcher.Env Peer → Except ClientError Response × Fetcher.Env Peer}
    (h : Settled op name format sends fetches env (send env))
    (hpolicy : env.fetcher.policy = .ignore) :
    Settled op name format sends fetches env (Fetcher.processRequest send env) := by
  rw [Fetcher.processRequest]
  simp only [h.not_outdated, Bool.false_eq_true, if_false]
  exact h.checked hpolicy

theorem mono (h : Settled op name format sends fetches env outcome) {sends' fetches' : Nat}
    (hsends : sends ≤ sends') (hfetches : fetches ≤ fetches') :
    Settled op name format sends' fetches' env outcome where
  sent := h.sent.trans (Nat.add_le_add_left hsends _)
  fetched := h.fetched.trans (Nat.add_le_add_left hfetches _)
  read := h.read.trans (Nat.add_le_add_left (Nat.mul_le_mul_left 2 hfetches) _)
  policy := h.policy
  effect := h.effect

/-- A refusal before costs one more sending. -/
theorem of_refused {f : Fetcher} {tracker : SchemaTracker}
    (h : Settled op name format sends fetches ⟨f, tracker, env.world.counted op.kind⟩ outcome)
    (hfetches : f.fetches = env.fetcher.fetches) (hpolicy : f.policy = env.fetcher.policy) :
    Settled op name format (sends + 1) fetches env outcome where
  sent := by
    refine h.sent.trans ?_
    show (env.world.inst.counted op.kind).requestCount op.kind + sends ≤ _
    rw [Instance.requestCount_counted, if_pos rfl]
    omega
  fetched := hfetches ▸ h.fetched
  read := by
    refine h.read.trans ?_
    show (env.world.inst.counted op.kind).requestCount .select + 2 * fetches ≤ _
    rw [Instance.requestCount_counted, if_neg op.kind_ne_select]
    exact Nat.le_refl _
  policy := h.policy.trans hpolicy
  effect := h.effect

end Settled

theorem dispatch_request {σ : Type} (exchange : Exchange σ) (op : Storing) (name : String)
    (o : RequestOptions) (env : Fetcher.Env σ) :
    exchange.dispatch (op.request (.byName name)) o env =
      Fetcher.processRequest
        (exchange.sendResolved (op.request (.byName name)) { space := .byName name } o) env := by
  cases op <;> rfl

/-- A client with a cached schema that asks once more after a refusal settles every operation,
whatever its snapshot says and however old it is. -/
theorem settled_of_dispatch (timeout : Duration) (op : Storing) (name : String)
    (o : RequestOptions) (env : Fetcher.Env Peer) (hpolicy : env.fetcher.policy = .ignore)
    (hkeyed : env.world.inst.Keyed) (hinformed : Informed env)
    (hundisturbed : Undisturbed env.world.inst op) :
    Settled op name o.format 2 1 env
      (Exchange.dispatch (Peer.exchange timeout) (op.request (.byName name)) o env) := by
  rw [dispatch_request]
  cases hbegin : env.fetcher.begin env.tracker { space := .byName name } with
  | error reason =>
      exact ((settled_of_wait hkeyed hinformed.positive hundisturbed hbegin).processRequest
        hpolicy).mono (by decide) (by decide)
  | ok found =>
      by_cases hcurrent : env.fetcher.cachedVersion = env.world.inst.schemaVersion
      · exact ((settled_of_current hkeyed hinformed hundisturbed hbegin hcurrent).processRequest
          hpolicy).mono (by decide) (by decide)
      · let retried : Fetcher.Env Peer :=
          ⟨env.fetcher.invalidate, env.tracker.observe env.world.inst.schemaVersion,
            env.world.counted op.kind⟩
        -- the refusal has made the snapshot stale, so the second attempt fetches
        have hwait : retried.fetcher.begin retried.tracker { space := .byName name } =
            .error .notFresh := by
          simp [retried, Fetcher.begin, Fetcher.isFresh, Fetcher.invalidate]
        have hagain : Settled op name o.format 1 1 retried
            (Exchange.sendResolved (Peer.exchange timeout) (op.request (.byName name))
              { space := .byName name } o retried) :=
          settled_of_wait hkeyed hinformed.positive (hundisturbed.counted op.kind) hwait
        have hsend : Exchange.sendResolved (Peer.exchange timeout) (op.request (.byName name))
            { space := .byName name } o env = _ :=
          sendResolved_of_outdated hinformed hundisturbed hbegin hcurrent
        rw [Fetcher.processRequest_of_ignore _ _ (by rw [hsend]; rfl)
          (by rw [hsend]; exact hpolicy), Fetcher.refusedIn, hsend]
        exact (hagain.checked hpolicy).of_refused rfl rfl

/-- Whatever a client holds of the schema, however old it is, and whatever version it has seen: as
long as the schema stays as it is, versions are ignored and nothing is lost, an operation that
stores a tuple in a space by its name is sent twice at most, with one fetch of the two views at
most, and is never reported as outdated.  If a space bears the name now, the operation as it
arrives is applied to that space once, nothing else changes, and the caller gets what the space
answers; if none does, no row changes and the caller is told so. -/
theorem dispatch_stores_once (timeout : Duration) (op : Storing) (name : String)
    (o : RequestOptions) (env : Fetcher.Env Peer) (hpolicy : env.fetcher.policy = .ignore)
    (hkeyed : env.world.inst.Keyed) (hinformed : Informed env)
    (hundisturbed : Undisturbed env.world.inst op) :
    let outcome := Exchange.dispatch (Peer.exchange timeout) (op.request (.byName name)) o env
    let before := env.world.inst
    let after := outcome.2.world.inst
    after.requestCount op.kind ≤ before.requestCount op.kind + 2 ∧
      outcome.2.fetcher.fetches ≤ env.fetcher.fetches + 1 ∧
      after.requestCount .select ≤ before.requestCount .select + 2 ∧
      (∀ e, outcome.1 = .error (.server e) → e.code ≠ ServerCode.wrongSchemaVersion) ∧
      match before.spaceNamed? name with
      | some s =>
          outcome.1 = Instance.received before.schemaVersion
              (UInt64.ofNat outcome.2.world.issued) o.format (op.carried.apply s).1 ∧
            after = { before with
              spaces := before.spaces.insert s.id (op.carried.apply s).2
              counts := after.counts }
      | none =>
          outcome.1 = .error (.noSchema (.noSpace (.byName name))) ∧
            after = { before with counts := after.counts } := by
  intro outcome before after
  have hsettled : Settled op name o.format 2 1 env outcome :=
    settled_of_dispatch timeout op name o env hpolicy hkeyed hinformed hundisturbed
  exact ⟨hsettled.sent, hsettled.fetched, hsettled.read, fun _ => hsettled.code_ne,
    hsettled.effect⟩

/-! ## A space that has moved -/

namespace Moved

/-- The instance when the client fetched its schema. -/
def past : Instance := ({} : Instance).createSpace (.create 512 "users")

/-- The instance now: the space of the name has another number, and its number is another's. -/
def now : Instance :=
  ((past.dropSpace 512).createSpace (.create 600 "users")).createSpace (.create 512 "orders")

/-- A client that takes the schema of the past for that of now. -/
def env : Fetcher.Env Peer :=
  ⟨{ policy := .ignore, snapshot := ⟨1, past.schema⟩, fetches := 1 }, ⟨2⟩,
    { inst := now, session := ⟨[], "guest", .empty⟩, negotiated := .nothing }⟩

/-- An insertion of a tuple of one number. -/
def op : Storing := .insert [.uint 7]

theorem keyed_now : now.Keyed :=
  (((Instance.keyed_new.createSpace _).dropSpace _).createSpace _).createSpace _

theorem informed_env : Informed env :=
  .of_schema (by decide) (by decide) rfl fun h => absurd h (by decide)

theorem undisturbed_now : Undisturbed now op where
  awake := rfl
  requests space := by
    constructor
    · have hword := MsgPack.length_uintBytes_le space.toUInt64.toNat
      show Header.room + (0x82 :: 0x10 ::
        (MsgPack.uintBytes space.toUInt64.toNat ++ [0x21, 0x91, 0x07])).length ≤ _
      rw [List.length_cons, List.length_cons, List.length_append, Header.room, Packet.payloadLimit]
      simp only [List.length_cons, List.length_nil]
      omega
    · exact Nat.le_of_ble_eq_true rfl
  spaceRows := ⟨by decide +kernel, by decide +kernel⟩
  indexRows := ⟨by decide +kernel, by decide +kernel⟩
  answers {space s} h := by
    have hentries : now.spaces.entries =
        [(512, .create 512 "orders"), (600, .create 600 "users")] := rfl
    have hmem := SortedMap.get?_eq_some_iff.1 h
    rw [hentries] at hmem
    simp only [List.mem_cons, Prod.mk.injEq, List.not_mem_nil, or_false] at hmem
    rcases hmem with ⟨-, rfl⟩ | ⟨-, rfl⟩
    · exact ⟨by decide +kernel, by decide +kernel⟩
    · exact ⟨by decide +kernel, by decide +kernel⟩

/-- The tuple goes to the space that bears the name now, and to no other. -/
theorem dispatch_stores_once_of_moved :
    let outcome := Exchange.dispatch (Peer.exchange (.ofMillis 1000))
      (op.request (.byName "users")) {} env
    outcome.1 = .ok ⟨UInt64.ofNat outcome.2.world.issued, some 5,
        Body.ofData [.array [.uint 7]], .data⟩ ∧
      outcome.2.world.inst.rowsOf 600 = [[.uint 7]] ∧ outcome.2.world.inst.rowsOf 512 = [] ∧
      outcome.2.world.inst.requestCount .insert ≤ 2 ∧ outcome.2.fetcher.fetches ≤ 2 := by
  have hstores := dispatch_stores_once (.ofMillis 1000) op "users" {} env rfl keyed_now
    informed_env undisturbed_now
  have hnamed : env.world.inst.spaceNamed? "users" = some (.create 600 "users") := by
    decide +kernel
  dsimp only at hstores ⊢
  rw [hnamed] at hstores
  generalize Exchange.dispatch (Peer.exchange (.ofMillis 1000)) (op.request (.byName "users")) {}
    env = outcome at hstores ⊢
  obtain ⟨hsent, hfetched, -, -, hresult, hafter⟩ := hstores
  have hspaces : outcome.2.world.inst.spaces =
      now.spaces.insert 600 { StoredSpace.create 600 "users" with rows := [[.uint 7]] } :=
    congrArg Instance.spaces hafter
  refine ⟨hresult, ?_, ?_, hsent, Nat.le_trans hfetched (by decide)⟩
  · rw [Instance.rowsOf, hspaces]
    rfl
  · rw [Instance.rowsOf, hspaces]
    rfl

end Moved

end TupleWire
