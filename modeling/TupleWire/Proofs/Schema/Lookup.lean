/-
  What a lookup with nobody else around comes to.

  Nobody else can have fetched since it began, so when its turn comes it
  fetches.  There are two ways for it, then: it answers from the snapshot and
  changes nothing (`lookup_of_begin`), or it fetches once (`lookup_of_fetch_eq_ok`,
  `lookup_of_fetch_eq_error`), which it does exactly if something is `Wanting` in
  the snapshot.
-/
import TupleWire.Schema.Fetcher

set_option autoImplicit false

namespace TupleWire.Fetcher

/-! ## What is wanting in a snapshot -/

/-- What a fetcher can lack for a query, given the newest schema version seen. -/
inductive Wanting (f : Fetcher) (tracker : SchemaTracker) (q : Query) : Prop where
  /-- nothing has been fetched yet -/
  | unfetched (h : f.snapshot.generation = 0)
  /-- a fetch has been demanded -/
  | stale (h : f.isStale = true)
  /-- the snapshot is stamped below the newest version seen -/
  | outdated (h : f.cachedVersion < tracker.current)
  | noSpace (h : f.snapshot.cache.space? q.space = none)
  /-- the space has no index of the name; a number needs none -/
  | noIndex (space : SpaceInfo) (name : String)
      (hspace : f.snapshot.cache.space? q.space = some space) (hindex : q.index = .byName name)
      (h : space.indexByName? name = none)

section Begin

variable {f : Fetcher} {tracker : SchemaTracker} {q : Query} {s : Snapshot} {a : Resolution}
  {reason : FetchReason}

theorem isFresh_iff : f.isFresh tracker s = true ↔
    0 < s.generation ∧ f.isStale = false ∧ tracker.current ≤ s.cache.version := by
  simp only [isFresh, Bool.and_eq_true, decide_eq_true_eq, Bool.not_eq_true', and_assoc]

theorem indexOf?_eq_none_iff {space : SpaceInfo} {index : Target} :
    indexOf? space index = none ↔
      ∃ name, index = .byName name ∧ space.indexByName? name = none := by
  cases index with
  | byId id => simp [indexOf?]
  | byName name => simp [indexOf?]

/-- A snapshot answers if it has the space and, where it is named, the index. -/
theorem ask_eq_ok_iff : ask s q = .ok a ↔ ∃ space indexId,
    s.cache.space? q.space = some space ∧ indexOf? space q.index = some indexId ∧
      a = ⟨space, indexId, s.cache.version⟩ := by
  unfold ask
  constructor
  · intro h
    split at h
    · cases h
    · rename_i space hspace
      split at h
      · cases h
      · rename_i indexId hindex
        cases h
        exact ⟨space, indexId, hspace, hindex, rfl⟩
  · rintro ⟨space, indexId, hspace, hindex, rfl⟩
    simp only [hspace, hindex]

theorem begin_eq_ok_iff : f.begin tracker q = .ok a ↔
    f.isFresh tracker f.snapshot = true ∧ ask f.snapshot q = .ok a := by
  unfold begin
  split
  · rename_i hfresh
    exact (and_iff_right hfresh).symm
  · rename_i hfresh
    exact iff_of_false (by simp) fun h => hfresh h.1

/-- A lookup that has found nothing before answers from a snapshot by itself. -/
theorem answer_eq_ok_iff (hreason : ∀ space, reason ≠ .missingIndex space) :
    answer s q reason = .ok a ↔ ask s q = .ok a := by
  cases reason with
  | missingIndex space => exact absurd rfl (hreason space)
  | notFresh | missingSpace =>
      simp only [answer]
      split
      · rename_i resolution hask
        rw [hask, Except.ok.injEq, Except.ok.injEq]
      · rename_i missed hask
        rw [hask]
        exact iff_of_false (by simp) (by simp)

/-- A lookup that has found the space keeps it, and looks for its index under its number. -/
theorem answer_missingIndex_eq_ok_iff {space : SpaceInfo} :
    answer s q (.missingIndex space) = .ok a ↔ ∃ now indexId,
      s.cache.space? (.byId space.id) = some now ∧ indexOf? now q.index = some indexId ∧
        a = ⟨space, indexId, s.cache.version⟩ := by
  simp only [answer]
  constructor
  · intro h
    split at h
    · rename_i indexId hindex
      obtain ⟨now, hnow, hindex⟩ := Option.bind_eq_some_iff.1 hindex
      cases h
      exact ⟨now, indexId, hnow, hindex, rfl⟩
    · cases h
  · rintro ⟨now, indexId, hnow, hindex, rfl⟩
    simp only [hnow, Option.bind_some, hindex]

/-- A lookup that does not find what it is for says so. -/
theorem noSchema_of_answer {e : ClientError} (h : answer s q reason = .error e) :
    ∃ gap, e = .noSchema gap := by
  cases reason with
  | missingIndex space =>
      simp only [answer] at h
      split at h
      · cases h
      · cases h
        exact ⟨_, rfl⟩
  | notFresh | missingSpace =>
      simp only [answer] at h
      split at h
      · cases h
      · rename_i missed _
        cases h
        cases missed <;> exact ⟨_, rfl⟩

/-- What a lookup has found when it waits: the space, on a fresh snapshot, or nothing. -/
theorem begin_eq_error_cases (h : f.begin tracker q = .error reason) :
    (f.isFresh tracker f.snapshot = true ∧ ∃ space name,
        f.snapshot.cache.space? q.space = some space ∧ q.index = .byName name ∧
          reason = .missingIndex space) ∨
      (f.isFresh tracker f.snapshot = false ∨ f.snapshot.cache.space? q.space = none) ∧
        ∀ space, reason ≠ .missingIndex space := by
  unfold begin at h
  split at h
  · rename_i hfresh
    unfold ask at h
    split at h
    · rename_i hnone
      cases h
      exact .inr ⟨.inr hnone, by simp⟩
    · rename_i space hspace
      split at h
      · rename_i hindex
        obtain ⟨name, hname, _⟩ := indexOf?_eq_none_iff.1 hindex
        cases h
        exact .inl ⟨hfresh, space, name, hspace, hname, rfl⟩
      · cases h
  · rename_i hfresh
    cases h
    exact .inr ⟨.inl (Bool.eq_false_iff.2 hfresh), by simp⟩

/-- A lookup answers at once exactly if nothing is wanting. -/
theorem exists_begin_eq_ok_iff : (∃ a, f.begin tracker q = .ok a) ↔ ¬ Wanting f tracker q := by
  constructor
  · rintro ⟨a, hbegin⟩
    obtain ⟨hfresh, hask⟩ := begin_eq_ok_iff.1 hbegin
    obtain ⟨hfetched, hcurrent, hversion⟩ := isFresh_iff.1 hfresh
    obtain ⟨space, indexId, hspace, hindex, _⟩ := ask_eq_ok_iff.1 hask
    intro hwanting
    cases hwanting with
    | unfetched h => exact absurd h (Nat.ne_of_gt hfetched)
    | stale h => exact Bool.false_ne_true (hcurrent.symm.trans h)
    | outdated h => exact absurd h (UInt64.not_lt.2 hversion)
    | noSpace h => cases hspace.symm.trans h
    | noIndex found name hfound hname h =>
        cases hspace.symm.trans hfound
        cases hindex.symm.trans (indexOf?_eq_none_iff.2 ⟨name, hname, h⟩)
  · intro hwanting
    have hfresh : f.isFresh tracker f.snapshot = true := by
      refine isFresh_iff.2 ⟨?_, ?_, ?_⟩
      · exact Nat.pos_of_ne_zero fun h => hwanting (.unfetched h)
      · exact Bool.eq_false_iff.2 fun h => hwanting (.stale h)
      · exact UInt64.not_lt.1 fun h => hwanting (.outdated h)
    obtain ⟨space, hspace⟩ := Option.ne_none_iff_exists'.1 fun h => hwanting (.noSpace h)
    have hnamed : indexOf? space q.index ≠ none := by
      intro h
      obtain ⟨name, hname, hnone⟩ := indexOf?_eq_none_iff.1 h
      exact hwanting (.noIndex space name hspace hname hnone)
    obtain ⟨indexId, hindex⟩ := Option.ne_none_iff_exists'.1 hnamed
    exact ⟨_, begin_eq_ok_iff.2 ⟨hfresh, ask_eq_ok_iff.2 ⟨space, indexId, hspace, hindex, rfl⟩⟩⟩

/-- A lookup waits for a fetch exactly if something is wanting. -/
theorem exists_begin_eq_error_iff :
    (∃ reason, f.begin tracker q = .error reason) ↔ Wanting f tracker q := by
  have hiff : (∃ reason, f.begin tracker q = .error reason) ↔ ¬ ∃ a, f.begin tracker q = .ok a := by
    cases f.begin tracker q with
    | ok a => simp
    | error reason => simp
  rw [hiff, exists_begin_eq_ok_iff, Classical.not_not]

end Begin

/-! ## The two ways of a lookup -/

section Alone

variable {σ : Type} {fetch : Fetch σ} {env : Env σ} {q : Query} {a : Resolution}
  {reason : FetchReason} {tracker : SchemaTracker} {world : σ}

/-- A lookup that need not wait answers and changes nothing. -/
theorem lookup_of_begin (h : env.fetcher.begin env.tracker q = .ok a) :
    lookup fetch q env = (.ok a, env) := by
  simp only [lookup, h]

/-- The snapshot that a lookup has seen is the one that is there when its turn comes, so it
fetches. -/
theorem lookup_eq_fetchFor (h : env.fetcher.begin env.tracker q = .error reason) :
    lookup fetch q env = fetchFor fetch q reason
      { env with fetcher := { env.fetcher with isStale := false, isBusy := true } } := by
  have hsame : env.fetcher.isRefetched env.tracker reason env.fetcher.snapshot.generation =
      false := by simp [isRefetched]
  simp only [lookup, h, enter, hsame, Bool.false_eq_true, if_false]

/-- A lookup that waits answers from what it fetches. -/
theorem lookup_of_fetch_eq_ok {rows : FetchedRows}
    (hbegin : env.fetcher.begin env.tracker q = .error reason)
    (hfetch : fetch env.tracker env.world = (.ok rows, tracker, world)) :
    lookup fetch q env =
      (answer (env.fetcher.install rows).snapshot q reason,
        ⟨{ env.fetcher with isStale := false }.install rows, tracker.observe rows.version,
          world⟩) := by
  rw [lookup_eq_fetchFor hbegin]
  simp only [fetchFor, hfetch, finish, install]

/-- A lookup whose fetch fails reports why and leaves the snapshot as it was, but stale. -/
theorem lookup_of_fetch_eq_error {e : ClientError}
    (hbegin : env.fetcher.begin env.tracker q = .error reason)
    (hfetch : fetch env.tracker env.world = (.error e, tracker, world)) :
    lookup fetch q env =
      (.error e, ⟨{ env.fetcher with isStale := true, isBusy := false }, tracker, world⟩) := by
  rw [lookup_eq_fetchFor hbegin]
  simp only [fetchFor, hfetch, finish]

/-- A lookup leaves the policy alone. -/
theorem policy_lookup (fetch : Fetch σ) (q : Query) (env : Env σ) :
    (lookup fetch q env).2.fetcher.policy = env.fetcher.policy := by
  cases hbegin : env.fetcher.begin env.tracker q with
  | ok a => rw [lookup_of_begin hbegin]
  | error reason =>
      rcases hfetch : fetch env.tracker env.world with ⟨result, tracker, world⟩
      cases result with
      | error e => rw [lookup_of_fetch_eq_error hbegin hfetch]
      | ok rows =>
          rw [lookup_of_fetch_eq_ok hbegin hfetch]
          rfl

end Alone

/-! ## Notes -/

/-- The same environment, with notes beside its world. -/
def Env.noting {σ α : Type} (env : Env σ) (notes : List α) : Env (σ × List α) :=
  ⟨env.fetcher, env.tracker, (env.world, notes)⟩

end TupleWire.Fetcher
