/-
  A fetch while the schema changes.

  The two views are read one after the other, and the schema may change between
  the two reads.  A `Timeline` is an instance through time: its schema version
  never falls, and what its views show depends on the version alone.  The
  snapshot of a fetch takes the spaces of the first moment, the indexes of the
  second and the later of the two versions.  So a change of the spaces between
  the two reads goes into a snapshot that no version had, and nothing shows it
  unless the version has changed once more.
-/
import TupleWire.Instance.Exchange
import TupleWire.Proofs.Schema.Snapshot

set_option autoImplicit false

namespace TupleWire

/-! ## What an instance shows of its schema -/

namespace Instance

/-- The rows of the view of spaces. -/
def spaceRows (i : Instance) : List Value := i.spaces.values.map StoredSpace.spaceRow

/-- The rows of the view of indexes. -/
def indexRows (i : Instance) : List Value := i.spaces.values.flatMap StoredSpace.indexRows

/-- The schema of an instance: the snapshot of both views at one moment. -/
def schema (i : Instance) : SchemaCache := .ofRows i.schemaVersion i.spaceRows i.indexRows

/-- The spaces that the view of spaces shows. -/
def spacesShown (i : Instance) : SortedMap UInt32 SpaceInfo := SchemaCache.spacesOf i.spaceRows

/-- The packet that answers a request of a session, if one is sent at once. -/
def respond? (i : Instance) (s : Session) (sync : UInt64) (r : Request) (o : RequestOptions) :
    Option Packet :=
  Peer.responseIn sync
    (i.handle s ⟨{ Header.request r.kind sync with schemaVersion := o.schemaVersion },
      r.body s.salt⟩).2.2

variable {i : Instance} {s : Session} {sync : UInt64}

theorem select_spaceView (i : Instance) (salt : Bytes) :
    i.select ((Exchange.readView spaceView).body salt) = .ok (Body.ofData i.spaceRows) := rfl

theorem select_indexView (i : Instance) (salt : Bytes) :
    i.select ((Exchange.readView indexView).body salt) = .ok (Body.ofData i.indexRows) := rfl

/-- An instance that sends an answer at once sends its packet. -/
theorem responseIn_answer {body : Body} {p : Packet}
    (h : Peer.responseIn sync (i.answer sync (.ok body)) = some p) :
    p = answerPacket i.schemaVersion sync (.ok body) := by
  unfold answer post at h
  split at h
  · obtain ⟨sent, hsent, rfl⟩ := Option.map_eq_some_iff.1 h
    rw [List.mem_singleton.1 (List.mem_of_find?_eq_some hsent)]
  · cases h

/-- The client reads an answer without an error as it is. -/
theorem resultOf_answerPacket (version sync : UInt64) (body : Body) (format : ResponseFormat) :
    Connection.resultOf (answerPacket version sync (.ok body)) format =
      .ok ⟨sync, some version, body, format⟩ := by
  have hcode : (Status.ok &&& Status.errorBit != 0) = false := by decide
  simp [Connection.resultOf, Packet.serverError?, Header.errorCode?, Header.isError, answerPacket,
    Header.response, hcode]

/-- A reading of a view is answered by what the instance selects, unless it is muted. -/
theorem handle_readView (view : UInt32) :
    (i.handle s ⟨Header.request .select sync, (Exchange.readView view).body s.salt⟩).2.2 =
      if i.isMuted then []
      else i.answer sync (i.select ((Exchange.readView view).body s.salt)) := by
  cases hmuted : i.isMuted with
  | true =>
      have hcounted : (i.count (Header.request .select sync)).isMuted = true := hmuted
      simp only [handle, hcounted, if_true]
  | false =>
      have hcounted : (i.count (Header.request .select sync)).isMuted = false := hmuted
      simp only [handle, hcounted, Bool.false_eq_true, if_false]
      rfl

/-- A view is answered with its rows and the version of the schema. -/
theorem respond?_readView {view : UInt32} {rows : List Value} {p : Packet}
    (hselect : i.select ((Exchange.readView view).body s.salt) = .ok (Body.ofData rows))
    (h : i.respond? s sync (Exchange.readView view) {} = some p) :
    p = answerPacket i.schemaVersion sync (.ok (Body.ofData rows)) := by
  have hsent : Peer.responseIn sync (if i.isMuted then []
      else i.answer sync (i.select ((Exchange.readView view).body s.salt))) = some p := by
    rw [← handle_readView]
    exact h
  split at hsent
  · cases hsent
  · rw [hselect] at hsent
    exact responseIn_answer hsent

end Instance

/-! ## An instance through time -/

/-- An instance through time. -/
structure Timeline where
  /-- the instance at a moment -/
  state : Nat → Instance
  monotone {t t' : Nat} : t ≤ t' → (state t).schemaVersion ≤ (state t').schemaVersion
  /-- what is shown of the schema depends on its version alone -/
  shown {t t' : Nat} : (state t).schemaVersion = (state t').schemaVersion →
    (state t).spaceRows = (state t').spaceRows ∧ (state t).indexRows = (state t').indexRows

namespace Timeline

/-- The schema version at a moment. -/
def version (timeline : Timeline) (t : Nat) : UInt64 := (timeline.state t).schemaVersion

/-- Requests of a session that the instance handles one after the other, each at its moment and
under its number.  Every response shows the client the schema version. -/
def exchange (timeline : Timeline) (s : Session) : Exchange (List (Nat × UInt64))
  | _, _, tracker, [] => (.error .connectionClosed, tracker, [])
  | r, o, tracker, (t, sync) :: rest =>
      match (timeline.state t).respond? s sync r o with
      | none => (.error .connectionClosed, tracker, rest)
      | some p =>
          (Connection.resultOf p o.format,
            (p.header.schemaVersion.map tracker.observe).getD tracker, rest)

variable {timeline : Timeline} {s : Session} {tracker : SchemaTracker} {t : Nat} {sync : UInt64}
  {rest : List (Nat × UInt64)}

/-- A view that is read at a moment is answered with its rows at that moment. -/
theorem exchange_readView {view : UInt32} {rows : List Value} {response : Response}
    {tracker' : SchemaTracker} {rest' : List (Nat × UInt64)}
    (hselect : (timeline.state t).select ((Exchange.readView view).body s.salt) =
      .ok (Body.ofData rows))
    (h : timeline.exchange s (Exchange.readView view) {} tracker ((t, sync) :: rest) =
      (.ok response, tracker', rest')) :
    response = ⟨sync, some (timeline.version t), Body.ofData rows, .data⟩ ∧
      tracker' = tracker.observe (timeline.version t) ∧ rest' = rest := by
  rw [exchange] at h
  split at h
  · cases h
  · rename_i p hp
    rw [Instance.respond?_readView hselect hp] at h
    rw [Instance.resultOf_answerPacket] at h
    cases h
    exact ⟨rfl, rfl, rfl⟩

/-- A fetch takes the spaces of the first moment, the indexes of the second and the later of the
two versions. -/
theorem fetch_eq_ok {t₁ t₂ : Nat} {n₁ n₂ : UInt64} {rows : FetchedRows}
    {tracker' : SchemaTracker} {rest' : List (Nat × UInt64)}
    (h : (timeline.exchange s).fetch tracker ((t₁, n₁) :: (t₂, n₂) :: rest) =
      (.ok rows, tracker', rest')) :
    rows = ⟨max (timeline.version t₁) (timeline.version t₂), (timeline.state t₁).spaceRows,
        (timeline.state t₂).indexRows⟩ ∧
      tracker' = (tracker.observe (timeline.version t₁)).observe (timeline.version t₂) := by
  unfold Exchange.fetch at h
  split at h
  · cases h
  · rename_i spaces tracker₁ rest₁ hspaces
    obtain ⟨rfl, rfl, rfl⟩ := exchange_readView (Instance.select_spaceView _ _) hspaces
    split at h
    · cases h
    · rename_i indexes tracker₂ rest₂ hindexes
      obtain ⟨rfl, rfl, rfl⟩ := exchange_readView (Instance.select_indexView _ _) hindexes
      cases h
      exact ⟨rfl, rfl⟩

/-! ## Stamps -/

theorem max_version (timeline : Timeline) {t₁ t₂ : Nat} (h : t₁ ≤ t₂) :
    max (timeline.version t₁) (timeline.version t₂) = timeline.version t₂ :=
  if_pos (timeline.monotone h)

/-- Spaces and indexes of two moments are the schema of some moment if and only if the spaces were
the same at both. -/
theorem exists_schema_eq_iff (timeline : Timeline) (t₁ t₂ : Nat) :
    (∃ t, SchemaCache.ofRows (timeline.version t₂) (timeline.state t₁).spaceRows
        (timeline.state t₂).indexRows = (timeline.state t).schema) ↔
      (timeline.state t₁).spacesShown = (timeline.state t₂).spacesShown := by
  constructor
  · rintro ⟨t, h⟩
    have hversion : timeline.version t₂ = timeline.version t := congrArg SchemaCache.version h
    obtain ⟨hspaces, hindexes⟩ := timeline.shown hversion
    have hsame : (timeline.state t).schema = (timeline.state t₂).schema := by
      rw [Instance.schema, Instance.schema, hspaces, hindexes]
      exact congrArg (SchemaCache.ofRows · _ _) hversion.symm
    exact SchemaCache.ofRows_eq_iff.1 (h.trans hsame)
  · intro h
    exact ⟨t₂, SchemaCache.ofRows_eq_iff.2 h⟩

/-- A tracker is ahead of a version if it was, or if it has seen one that is. -/
theorem lt_observe_iff {tracker : SchemaTracker} {seen version : UInt64} :
    version < (tracker.observe seen).current ↔ version < tracker.current ∨ version < seen := by
  show version < (if tracker.current ≤ seen then seen else tracker.current) ↔ _
  simp only [UInt64.le_iff_toNat_le, UInt64.lt_iff_toNat_lt]
  split
  · omega
  · omega

/-- A snapshot that was just installed is not fresh if and only if somebody has demanded a fetch
in the meantime, or a later version is known. -/
theorem isFresh_install_iff (f : Fetcher) (rows : FetchedRows) (tracker : SchemaTracker) :
    (f.install rows).isFresh tracker (f.install rows).snapshot = false ↔
      f.isStale = true ∨ rows.version < tracker.current := by
  have hversion : (f.install rows).snapshot.cache.version = rows.version := rfl
  have hstale : (f.install rows).isStale = f.isStale := rfl
  have hgeneration : 0 < (f.install rows).snapshot.generation := Nat.succ_pos _
  rw [Fetcher.isFresh, hversion, hstale]
  simp only [hgeneration, decide_true, Bool.true_and, Bool.and_eq_false_iff, Bool.not_eq_false',
    decide_eq_false_iff_not, UInt64.not_le]

/-- Whatever happens to the schema before, between and after the two reads of a fetch: its
snapshot is stamped with the version of the second read.  It is the schema that the instance had
at that version, or it is fetched again once the version of a later moment is known, exactly if
the spaces did not change between the two reads, or a fetch was demanded meanwhile, or a later
version was known already or is the one of that moment. -/
theorem snapshot_consistent_or_refetched_iff (timeline : Timeline) (s : Session)
    (tracker tracker' : SchemaTracker) (t₁ t₂ t₃ : Nat) (n₁ n₂ : UInt64) (rows : FetchedRows)
    (rest : List (Nat × UInt64)) (f : Fetcher) (q : Query) (reason : FetchReason)
    (h₁₂ : t₁ ≤ t₂)
    (hfetch : (timeline.exchange s).fetch tracker [(t₁, n₁), (t₂, n₂)] =
      (.ok rows, tracker', rest)) :
    let after := f.finish tracker' q reason (.ok rows)
    after.1.snapshot.cache.version = timeline.version t₂ ∧
      ((∃ t, after.1.snapshot.cache = (timeline.state t).schema) ∨
          after.1.isFresh (after.2.1.observe (timeline.version t₃)) after.1.snapshot = false ↔
        (timeline.state t₁).spacesShown = (timeline.state t₂).spacesShown ∨ f.isStale = true ∨
          timeline.version t₂ < tracker.current ∨ timeline.version t₂ < timeline.version t₃) := by
  obtain ⟨rfl, rfl⟩ := fetch_eq_ok hfetch
  rw [max_version timeline h₁₂]
  refine ⟨rfl, or_congr (exists_schema_eq_iff timeline t₁ t₂) ?_⟩
  refine (isFresh_install_iff _ _ _).trans (or_congr Iff.rfl ?_)
  have hfirst : ¬ timeline.version t₂ < timeline.version t₁ :=
    UInt64.not_lt.2 (timeline.monotone h₁₂)
  have hsecond : ¬ timeline.version t₂ < timeline.version t₂ := UInt64.lt_irrefl _
  simp only [Fetcher.finish, lt_observe_iff, hfirst, hsecond, or_false]

/-! ## A space that is created -/

/-- An instance on which a space is created after the first moment. -/
def growing : Timeline where
  state t := if t = 0 then {} else ({} : Instance).createSpace (.create 512 "users")
  monotone {t t'} h := by
    by_cases ht : t = 0
    · by_cases ht' : t' = 0
      · simp [ht, ht']
      · rw [if_pos ht, if_neg ht']
        decide
    · have ht' : t' ≠ 0 := by omega
      simp [ht, ht']
  shown {t t'} h := by
    by_cases ht : t = 0
    · by_cases ht' : t' = 0
      · simp [ht, ht']
      · rw [if_pos ht, if_neg ht'] at h
        exact absurd h (by decide)
    · by_cases ht' : t' = 0
      · rw [if_neg ht, if_pos ht'] at h
        exact absurd h (by decide)
      · simp [ht, ht']

/-- A fetch whose two reads fall on two moments of the instance. -/
theorem fetch_growing {t₁ t₂ : Nat}
    (hspaces : (growing.state t₁).respond? ⟨[], "guest", .empty⟩ 1 (Exchange.readView spaceView)
      {} = some (Instance.answerPacket (growing.version t₁) 1
        (.ok (Body.ofData (growing.state t₁).spaceRows))))
    (hindexes : (growing.state t₂).respond? ⟨[], "guest", .empty⟩ 2 (Exchange.readView indexView)
      {} = some (Instance.answerPacket (growing.version t₂) 2
        (.ok (Body.ofData (growing.state t₂).indexRows)))) :
    (growing.exchange ⟨[], "guest", .empty⟩).fetch {} [(t₁, 1), (t₂, 2)] =
      (.ok ⟨max (growing.version t₁) (growing.version t₂), (growing.state t₁).spaceRows,
        (growing.state t₂).indexRows⟩, (({} : SchemaTracker).observe (growing.version t₁)).observe
          (growing.version t₂), []) := by
  simp only [Exchange.fetch, exchange, hspaces, hindexes, Instance.resultOf_answerPacket]
  rfl

/-- The space is created between the two reads of a fetch.  Its snapshot has the index of the new
space for an index of nothing, is not the schema of any moment, and is taken for fresh. -/
theorem snapshot_of_growing :
    ∃ rows tracker', (growing.exchange ⟨[], "guest", .empty⟩).fetch {} [(0, 1), (1, 2)] =
        (.ok rows, tracker', []) ∧
      let after := ({ policy := .ignore } : Fetcher).finish tracker' { space := .byName "users" }
        .notFresh (.ok rows)
      (¬ ∃ t, after.1.snapshot.cache = (growing.state t).schema) ∧
        after.1.isFresh (after.2.1.observe (growing.version 1)) after.1.snapshot = true := by
  refine ⟨_, _, fetch_growing (by decide +kernel) (by decide +kernel), ?_, by decide +kernel⟩
  intro hconsistent
  have hspaces := (exists_schema_eq_iff growing 0 1).1 hconsistent
  exact absurd hspaces (by decide +kernel)

/-- Both reads after the space was created. -/
theorem snapshot_of_grown :
    ∃ rows tracker', (growing.exchange ⟨[], "guest", .empty⟩).fetch {} [(1, 1), (1, 2)] =
        (.ok rows, tracker', []) ∧
      ((∃ t, (({ policy := .ignore } : Fetcher).install rows).snapshot.cache =
          (growing.state t).schema) ∨
        (({ policy := .ignore } : Fetcher).install rows).isFresh
          ((tracker'.observe rows.version).observe (growing.version 1))
          (({ policy := .ignore } : Fetcher).install rows).snapshot = false) := by
  have hfetch := @fetch_growing 1 1 (by decide +kernel) (by decide +kernel)
  refine ⟨_, _, hfetch, ?_⟩
  exact (snapshot_consistent_or_refetched_iff growing ⟨[], "guest", .empty⟩ {} _ 1 1 1 1 2 _ []
    { policy := .ignore } { space := .byName "users" } .notFresh (Nat.le_refl 1) hfetch).2.2
      (.inl rfl)

end Timeline

end TupleWire
