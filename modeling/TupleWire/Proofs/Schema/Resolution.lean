/-
  From which snapshots a resolution is taken.

  A resolution of two names is meant to come from one snapshot.  It does unless
  a lookup begins on a fresh snapshot that has the space but not its index: then
  the index is looked for in the next snapshot under the number that the space
  had in the first one, and the answer carries the version of the second one,
  in which that number may by now be another space's.  The statements say that
  this is the only way in which two snapshots get mixed, for a lookup by itself
  and for any number of lookups side by side.
-/
import TupleWire.Instance.Space
import TupleWire.Proofs.Schema.Lookup
import TupleWire.Proofs.Schema.Snapshot
import TupleWire.Schema.Concurrent

set_option autoImplicit false

namespace TupleWire

/-! ## One snapshot or two -/

/-- A query for a space and an index by their names. -/
abbrev Query.named (space index : String) : Query := ⟨.byName space, .byName index⟩

/-- A resolution of two names is taken from one snapshot of those that were held. -/
def TakenFromOne (held : List Snapshot) (space index : String) (r : ResolvedTarget) : Prop :=
  ∃ s ∈ held, s.cache.target? space index = some r

/-- A resolution of two names is taken from two of the snapshots that were held: the number of the
space from one that lacks the index, the version and the number of the index from another one, in
which the space of that name does not have that number. -/
def TakenFromTwo (held : List Snapshot) (space index : String) (r : ResolvedTarget) : Prop :=
  ∃ first ∈ held, ∃ second ∈ held,
    (∃ found, first.cache.spaceByName? space = some found ∧ found.id = r.spaceId ∧
      found.indexByName? index = none) ∧
    second.cache.version = r.schemaVersion ∧
    second.cache.indexUnder? r.spaceId index = some r.indexId ∧
    (second.cache.spaceByName? space).map SpaceInfo.id ≠ some r.spaceId

namespace Fetcher

variable {s : Snapshot} {space index : String} {a : Resolution}

/-! ## What a snapshot answers -/

theorem ask_named : ask s (.named space index) =
    match s.cache.spaceByName? space with
    | none => .error .missingSpace
    | some found =>
        match (found.indexByName? index).map IndexInfo.id with
        | none => .error (.missingIndex found)
        | some n => .ok ⟨found, n, s.cache.version⟩ := rfl

/-- What a snapshot answers by itself is what it says about the names. -/
theorem target?_of_ask (h : ask s (.named space index) = .ok a) :
    s.cache.target? space index = some a.target := by
  rw [ask_named] at h
  split at h
  · cases h
  · rename_i found hfound
    split at h
    · cases h
    · rename_i n hn
      obtain ⟨i, hi, rfl⟩ := Option.map_eq_some_iff.1 hn
      cases h
      exact SchemaCache.target?_eq_some_iff.2 ⟨found, hfound, i, hi, rfl⟩

/-- An index is missed in the space of the name. -/
theorem ask_eq_missingIndex_iff {found : SpaceInfo} :
    ask s (.named space index) = .error (.missingIndex found) ↔
      s.cache.spaceByName? space = some found ∧ found.indexByName? index = none := by
  rw [ask_named]
  constructor
  · intro h
    split at h
    · cases h
    · rename_i actual hactual
      split at h
      · rename_i hnone
        cases h
        exact ⟨hactual, Option.map_eq_none_iff.1 hnone⟩
      · cases h
  · rintro ⟨hfound, hnone⟩
    simp [hfound, hnone]

/-- A lookup that lacked the whole space answers from the later snapshot alone. -/
theorem target?_of_answer {reason : FetchReason} (hreason : ∀ found, reason ≠ .missingIndex found)
    (h : answer s (.named space index) reason = .ok a) :
    s.cache.target? space index = some a.target :=
  target?_of_ask ((answer_eq_ok_iff hreason).1 h)

/-- A lookup that lacked only the index keeps the number of the space. -/
theorem answer_missingIndex {found : SpaceInfo} :
    answer s (.named space index) (.missingIndex found) =
      match s.cache.indexUnder? found.id index with
      | some n => .ok ⟨found, n, s.cache.version⟩
      | none => .error (noIndex found (.byName index)) := rfl

theorem of_answer_missingIndex {found : SpaceInfo}
    (h : answer s (.named space index) (.missingIndex found) = .ok a) :
    a.space = found ∧ a.version = s.cache.version ∧
      s.cache.indexUnder? found.id index = some a.indexId := by
  rw [answer_missingIndex] at h
  split at h
  · rename_i n hn
    cases h
    exact ⟨rfl, rfl, hn⟩
  · cases h

/-- An answer to a lookup that lacked only the index is what the later snapshot says about the
names if and only if the space still has its number there. -/
theorem target?_iff_of_missingIndex (hs : s.cache.Keyed) {found : SpaceInfo}
    (h : answer s (.named space index) (.missingIndex found) = .ok a) :
    s.cache.target? space index = some a.target ↔
      (s.cache.spaceByName? space).map SpaceInfo.id = some found.id := by
  obtain ⟨rfl, hversion, hindex⟩ := of_answer_missingIndex h
  rw [Resolution.target, hversion]
  exact hs.target?_iff hindex

/-! ## Why a lookup waits -/

/-- A reason to fetch that refers to a held snapshot. -/
def Grounded (held : List Snapshot) (q : Query) : FetchReason → Prop
  | .missingIndex found => ∃ s ∈ held, ask s q = .error (.missingIndex found)
  | .notFresh | .missingSpace => True

theorem Grounded.mono {held more : List Snapshot} {q : Query} {reason : FetchReason}
    (h : Grounded held q reason) (hmore : held ⊆ more) : Grounded more q reason := by
  cases reason with
  | missingIndex found =>
      obtain ⟨s, hs, hask⟩ := h
      exact ⟨s, hmore hs, hask⟩
  | notFresh | missingSpace => trivial

section Begin

variable {f : Fetcher} {tracker : SchemaTracker} {q : Query}

theorem ask_of_begin_missingIndex {found : SpaceInfo}
    (h : f.begin tracker q = .error (.missingIndex found)) :
    ask f.snapshot q = .error (.missingIndex found) := by
  unfold begin at h
  split at h
  · exact h
  · cases h

/-- A lookup that waits has begun on the snapshot that is held now. -/
theorem grounded_of_begin {reason : FetchReason} {held : List Snapshot}
    (hheld : f.snapshot ∈ held) (h : f.begin tracker q = .error reason) :
    Grounded held q reason := by
  cases reason with
  | missingIndex found => exact ⟨f.snapshot, hheld, ask_of_begin_missingIndex h⟩
  | notFresh | missingSpace => trivial

end Begin

/-- Whatever a lookup has waited for, its answer is taken from one held snapshot or from two. -/
theorem taken_of_answer {held : List Snapshot} {reason : FetchReason} (hs : s.cache.Keyed)
    (hheld : s ∈ held) (hreason : Grounded held (.named space index) reason)
    (h : answer s (.named space index) reason = .ok a) :
    TakenFromOne held space index a.target ∨ TakenFromTwo held space index a.target := by
  cases reason with
  | notFresh | missingSpace =>
      exact .inl ⟨s, hheld, target?_of_answer (by simp) h⟩
  | missingIndex found =>
      by_cases hsame : (s.cache.spaceByName? space).map SpaceInfo.id = some found.id
      · exact .inl ⟨s, hheld, (target?_iff_of_missingIndex hs h).2 hsame⟩
      · obtain ⟨first, hfirst, hask⟩ := hreason
        obtain ⟨hfound, hnone⟩ := ask_eq_missingIndex_iff.1 hask
        obtain ⟨rfl, hversion, hindex⟩ := of_answer_missingIndex h
        exact .inr ⟨first, hfirst, s, hheld, ⟨a.space, hfound, rfl, hnone⟩, hversion.symm, hindex,
          hsame⟩

/-! ## A lookup by itself -/

section Alone

variable {σ : Type} {fetch : Fetch σ} {env env' : Env σ} {q : Query}

/-- A lookup by itself answers at once, or from what it has fetched. -/
theorem lookup_eq_ok (h : lookup fetch q env = (.ok a, env')) :
    (env.fetcher.begin env.tracker q = .ok a ∧ env' = env) ∨
      ∃ reason, env.fetcher.begin env.tracker q = .error reason ∧
        env'.fetcher.snapshot.cache.Keyed ∧ answer env'.fetcher.snapshot q reason = .ok a := by
  cases hbegin : env.fetcher.begin env.tracker q with
  | ok resolution =>
      rw [lookup_of_begin hbegin] at h
      cases h
      exact .inl ⟨rfl, rfl⟩
  | error reason =>
      rcases hfetch : fetch env.tracker env.world with ⟨result, tracker, world⟩
      cases result with
      | error e =>
          rw [lookup_of_fetch_eq_error hbegin hfetch] at h
          cases h
      | ok rows =>
          rw [lookup_of_fetch_eq_ok hbegin hfetch] at h
          obtain ⟨hanswer, henv⟩ := Prod.mk.inj h
          subst henv
          exact .inr ⟨reason, rfl, SchemaCache.keyed_ofRows _ _ _, hanswer⟩

/-- A lookup mixes two snapshots if it begins on a fresh one that has the space but not its index
and if, in the snapshot that is held afterwards, the space of the name does not have the number
that it had. -/
def Mixes (env env' : Env σ) (space index : String) : Prop :=
  ∃ found, env.fetcher.begin env.tracker (.named space index) = .error (.missingIndex found) ∧
    (env'.fetcher.snapshot.cache.spaceByName? space).map SpaceInfo.id ≠ some found.id

/-- A lookup by itself answers from one of the snapshots before and after it, unless it mixes
them. -/
theorem takenFromOne_iff_of_lookup (h : lookup fetch (.named space index) env = (.ok a, env')) :
    TakenFromOne [env.fetcher.snapshot, env'.fetcher.snapshot] space index a.target ↔
      ¬ Mixes env env' space index := by
  have hafter : env'.fetcher.snapshot ∈ [env.fetcher.snapshot, env'.fetcher.snapshot] :=
    List.mem_cons_of_mem _ List.mem_cons_self
  rcases lookup_eq_ok h with ⟨hbegin, rfl⟩ | ⟨reason, hbegin, hkeyed, hanswer⟩
  · refine iff_of_true ⟨_, hafter, target?_of_ask (begin_eq_ok_iff.1 hbegin).2⟩ ?_
    rintro ⟨found, hfound, _⟩
    rw [hbegin] at hfound
    cases hfound
  · cases reason with
    | notFresh | missingSpace =>
        refine iff_of_true ⟨_, hafter, target?_of_answer (by simp) hanswer⟩ ?_
        rintro ⟨found, hfound, _⟩
        rw [hbegin] at hfound
        cases hfound
    | missingIndex found =>
        obtain ⟨hfound, hnone⟩ := ask_eq_missingIndex_iff.1 (ask_of_begin_missingIndex hbegin)
        have hiff := target?_iff_of_missingIndex hkeyed hanswer
        constructor
        · rintro ⟨s, hs, htarget⟩ ⟨found', hbegin', hmoved⟩
          rw [hbegin] at hbegin'
          cases hbegin'
          rcases List.mem_cons.1 hs with rfl | hs
          · -- the first snapshot cannot vouch for an index that it lacks
            obtain ⟨actual, hactual, i, hi, _⟩ := SchemaCache.target?_eq_some_iff.1 htarget
            rw [hfound] at hactual
            cases hactual
            rw [hnone] at hi
            cases hi
          · rw [List.mem_singleton.1 hs] at htarget
            exact hmoved (hiff.1 htarget)
        · intro hmixes
          refine ⟨_, hafter, hiff.2 ?_⟩
          refine Classical.byContradiction fun hmoved => hmixes ⟨found, hbegin, hmoved⟩

theorem taken_of_lookup (h : lookup fetch (.named space index) env = (.ok a, env')) :
    TakenFromOne [env.fetcher.snapshot, env'.fetcher.snapshot] space index a.target ∨
      TakenFromTwo [env.fetcher.snapshot, env'.fetcher.snapshot] space index a.target := by
  rcases lookup_eq_ok h with ⟨hbegin, rfl⟩ | ⟨reason, hbegin, hkeyed, hanswer⟩
  · exact .inl ⟨_, List.mem_cons_self, target?_of_ask (begin_eq_ok_iff.1 hbegin).2⟩
  · exact taken_of_answer hkeyed (List.mem_cons_of_mem _ List.mem_cons_self)
      (grounded_of_begin List.mem_cons_self hbegin) hanswer

/-- The numbers of names are those of the answer to a lookup. -/
theorem resolve_eq_ok_iff {r : ResolvedTarget} :
    resolve fetch (.named space index) env = (.ok r, env') ↔
      ∃ a, a.target = r ∧ lookup fetch (.named space index) env = (.ok a, env') := by
  simp only [resolve, Query.numbers?]
  generalize lookup fetch (.named space index) env = outcome
  obtain ⟨result, after⟩ := outcome
  cases result with
  | error e => simp [Except.map]
  | ok a =>
      constructor
      · intro h
        cases h
        exact ⟨a, rfl, rfl⟩
      · rintro ⟨_, rfl, h⟩
        cases h
        rfl

end Alone

end Fetcher

/-! ## Lookups side by side -/

namespace Lookups

open Fetcher

/-- The snapshots that are held at the beginning of a run and after each of its events. -/
def held (ls : Lookups) : List Event → List Snapshot
  | [] => [ls.fetcher.snapshot]
  | event :: rest => ls.fetcher.snapshot :: held (ls.step event) rest

/-- Lookups that have not begun and share a fetcher that has fetched nothing. -/
def start (policy : SchemaVersionPolicy) (tracker : SchemaTracker) (queries : List Query) :
    Lookups :=
  { fetcher := { policy }, tracker, lookups := queries.map fun query => { query } }

/-- What a lookup for a query knows goes back to snapshots that were held. -/
def Known (past : List Snapshot) (q : Query) : LookupPhase → Prop
  | .waiting reason _ | .fetching reason => Grounded past q reason
  | .done (.ok a) => ∀ space index, q = .named space index →
      TakenFromOne past space index a.target ∨ TakenFromTwo past space index a.target
  | .idle | .done (.error _) => True

theorem Known.mono {past more : List Snapshot} {q : Query} {phase : LookupPhase}
    (h : Known past q phase) (hmore : past ⊆ more) : Known more q phase := by
  cases phase with
  | idle => trivial
  | waiting reason seen => exact Grounded.mono h hmore
  | fetching reason => exact Grounded.mono h hmore
  | done result =>
      cases result with
      | error e => trivial
      | ok a =>
          intro space index hquery
          rcases h space index hquery with ⟨s, hs, htarget⟩ | ⟨first, hfirst, second, hsecond, hmix⟩
          · exact .inl ⟨s, hmore hs, htarget⟩
          · exact .inr ⟨first, hmore hfirst, second, hmore hsecond, hmix⟩

/-- The answer of a snapshot is known to be taken from held ones. -/
theorem known_of_answer {past : List Snapshot} {q : Query} {reason : FetchReason} {s : Snapshot}
    (hs : s.cache.Keyed) (hheld : s ∈ past) (hreason : Grounded past q reason) :
    Known past q (.done (answer s q reason)) := by
  cases hanswer : answer s q reason with
  | error e => trivial
  | ok a =>
      intro space index hquery
      subst hquery
      exact taken_of_answer hs hheld hreason hanswer

/-- What is known about lookups side by side, given the snapshots that were held. -/
structure Traced (past : List Snapshot) (ls : Lookups) : Prop where
  current : ls.fetcher.snapshot ∈ past
  keyed : ls.fetcher.snapshot.cache.Keyed
  known : ∀ l ∈ ls.lookups, Known past l.query l.phase

theorem traced_start (policy : SchemaVersionPolicy) (tracker : SchemaTracker)
    (queries : List Query) : Traced [⟨0, .empty⟩] (start policy tracker queries) where
  current := List.mem_singleton.2 rfl
  keyed := SchemaCache.keyed_empty
  known l hl := by
    obtain ⟨q, _, rfl⟩ := List.mem_map.1 hl
    trivial

namespace Traced

variable {past : List Snapshot} {ls : Lookups}

theorem mono {more : List Snapshot} (h : Traced past ls) (hmore : past ⊆ more) :
    Traced more ls where
  current := hmore h.current
  keyed := h.keyed
  known l hl := (h.known l hl).mono hmore

/-- A fetcher with the same snapshot can take the place of the one that is shared. -/
theorem replace (h : Traced past ls) {ls' : Lookups} (hlookups : ls'.lookups = ls.lookups)
    (hsnapshot : ls'.fetcher.snapshot = ls.fetcher.snapshot) : Traced past ls' where
  current := hsnapshot ▸ h.current
  keyed := hsnapshot ▸ h.keyed
  known l hl := h.known l (hlookups ▸ hl)

theorem setPhase (h : Traced past ls) {position : Nat} {l : Lookup}
    (hl : ls.lookups[position]? = some l) {phase : LookupPhase}
    (hphase : Known past l.query phase) : Traced past (ls.setPhase position phase) where
  current := h.current
  keyed := h.keyed
  known l' hl' := by
    obtain ⟨i, hi⟩ := List.mem_iff_getElem?.1 hl'
    rw [Lookups.setPhase, List.getElem?_modify] at hi
    obtain ⟨before, hbefore, rfl⟩ := Option.map_eq_some_iff.1 hi
    by_cases hposition : position = i
    · rw [if_pos hposition]
      rw [← hposition, hl] at hbefore
      cases hbefore
      exact hphase
    · rw [if_neg hposition]
      exact h.known before (List.mem_of_getElem? hbefore)

/-- A lookup that goes on knows what it has to. -/
theorem advance (h : Traced past ls) {position : Nat} {l : Lookup}
    (hl : ls.lookups[position]? = some l) : Traced past (ls.advance position l) := by
  have hknown := h.known l (List.mem_of_getElem? hl)
  unfold Lookups.advance
  split
  · split
    · rename_i a hbegin
      refine h.setPhase hl fun space index hquery => .inl ⟨_, h.current, ?_⟩
      rw [hquery] at hbegin
      exact target?_of_ask (begin_eq_ok_iff.1 hbegin).2
    · rename_i reason hbegin
      exact h.setPhase hl (grounded_of_begin h.current hbegin)
  · rename_i reason seen hphase
    rw [hphase] at hknown
    split
    · exact h
    · simp only [enter]
      split
      · rename_i hrefetched
        split at hrefetched
        · cases hrefetched
          exact h.setPhase hl (known_of_answer h.keyed h.current hknown)
        · cases hrefetched
      · rename_i hfetch
        split at hfetch
        · cases hfetch
        · cases hfetch
          have hreplaced : Traced past { ls with
              fetcher := { ls.fetcher with isStale := false, isBusy := true }
              begun := ls.begun + 1 } := h.replace rfl rfl
          exact hreplaced.setPhase hl hknown
  · exact h
  · exact h

/-- A lookup whose rows are there answers from them, and they are held from then on. -/
theorem complete (h : Traced past ls) {position : Nat} {l : Lookup}
    (hl : ls.lookups[position]? = some l) (rows : Except ClientError FetchedRows) :
    Traced (past ++ [(ls.complete position l rows).fetcher.snapshot])
      (ls.complete position l rows) := by
  have hknown := h.known l (List.mem_of_getElem? hl)
  unfold Lookups.complete
  split
  · rename_i reason hphase
    rw [hphase] at hknown
    cases rows with
    | error e =>
        have hreplaced : Traced past { ls with
            fetcher := { ls.fetcher with isStale := true, isBusy := false } } :=
          h.replace rfl rfl
        have hfailed : Known past l.query (.done (.error e)) := trivial
        exact (hreplaced.setPhase hl hfailed).mono (List.subset_append_left _ _)
    | ok rows =>
        simp only [finish, Lookups.setPhase]
        have hheld : (ls.fetcher.install rows).snapshot ∈
            past ++ [(ls.fetcher.install rows).snapshot] :=
          List.mem_append_right _ (List.mem_singleton.2 rfl)
        have hmore : past ⊆ past ++ [(ls.fetcher.install rows).snapshot] :=
          List.subset_append_left _ _
        have hkeyed : (ls.fetcher.install rows).snapshot.cache.Keyed :=
          SchemaCache.keyed_ofRows _ _ _
        have hinstalled : Traced (past ++ [(ls.fetcher.install rows).snapshot]) { ls with
            fetcher := ls.fetcher.install rows
            tracker := ls.tracker.observe rows.version } :=
          ⟨hheld, hkeyed, fun l hl => (h.known l hl).mono hmore⟩
        exact hinstalled.setPhase hl (known_of_answer hkeyed hheld (hknown.mono hmore))
  · exact h.mono (List.subset_append_left _ _)

/-- Whatever happens, what is known goes back to snapshots that were held. -/
theorem step (h : Traced past ls) (event : Event) :
    Traced (past ++ [(ls.step event).fetcher.snapshot]) (ls.step event) := by
  have hmore {snapshot : Snapshot} : past ⊆ past ++ [snapshot] := List.subset_append_left _ _
  cases event with
  | advance position =>
      cases hl : ls.lookups[position]? with
      | none =>
          simp only [Lookups.step, hl]
          exact h.mono hmore
      | some l =>
          simp only [Lookups.step, hl]
          exact (h.advance hl).mono hmore
  | fetched position rows =>
      cases hl : ls.lookups[position]? with
      | none =>
          simp only [Lookups.step, hl]
          exact h.mono hmore
      | some l =>
          simp only [Lookups.step, hl]
          exact h.complete hl rows
  | invalidate =>
      have hnext : Traced past (ls.step .invalidate) := h.replace rfl rfl
      exact hnext.mono hmore
  | observe version =>
      have hnext : Traced past (ls.step (.observe version)) := h.replace rfl rfl
      exact hnext.mono hmore

theorem run {before : List Snapshot} (h : Traced (before ++ [ls.fetcher.snapshot]) ls)
    (events : List Event) : Traced (before ++ ls.held events) (ls.run events) := by
  induction events generalizing ls before with
  | nil => exact h
  | cons event rest ih =>
      have hrest := ih (h.step event)
      rw [List.append_assoc] at hrest
      exact hrest

end Traced

/-- Every answer of lookups side by side is taken from one snapshot that was held, or from two. -/
theorem taken_of_run (policy : SchemaVersionPolicy) (tracker : SchemaTracker)
    (queries : List Query) (events : List Event) {l : Lookup}
    (hl : l ∈ ((start policy tracker queries).run events).lookups) {space index : String}
    (hquery : l.query = .named space index) {a : Resolution} (hdone : l.phase = .done (.ok a)) :
    TakenFromOne ((start policy tracker queries).held events) space index a.target ∨
      TakenFromTwo ((start policy tracker queries).held events) space index a.target := by
  have hstart : Traced ([] ++ [(start policy tracker queries).fetcher.snapshot])
      (start policy tracker queries) := traced_start policy tracker queries
  have htraced := hstart.run events
  have hknown := htraced.known l hl
  rw [hdone] at hknown
  exact hknown space index hquery

end Lookups

/-! ## Every resolution -/

/-- A resolution of two names is taken from one of the snapshots that were held or from two of
them, whatever the fetcher holds and whatever the server sends.  If it is made by itself, those
are the snapshots before and after it, and it is taken from one of them exactly if it does not mix
them; if it is made among others, they are those of a run on a fetcher from its beginning. -/
theorem resolution_taken_from_one_iff (space index : String) :
    (∀ {σ : Type} (fetch : Fetcher.Fetch σ) (env env' : Fetcher.Env σ) (r : ResolvedTarget),
      Fetcher.resolve fetch (.named space index) env = (.ok r, env') →
        (TakenFromOne [env.fetcher.snapshot, env'.fetcher.snapshot] space index r ↔
          ¬ Fetcher.Mixes env env' space index) ∧
        (TakenFromOne [env.fetcher.snapshot, env'.fetcher.snapshot] space index r ∨
          TakenFromTwo [env.fetcher.snapshot, env'.fetcher.snapshot] space index r)) ∧
    ∀ (policy : SchemaVersionPolicy) (tracker : SchemaTracker) (queries : List Query)
      (events : List Lookups.Event) (l : Lookup) (a : Resolution),
      l ∈ ((Lookups.start policy tracker queries).run events).lookups →
        l.query = .named space index → l.phase = .done (.ok a) →
          TakenFromOne ((Lookups.start policy tracker queries).held events) space index a.target ∨
            TakenFromTwo ((Lookups.start policy tracker queries).held events) space index
              a.target := by
  constructor
  · intro σ fetch env env' r h
    obtain ⟨a, rfl, hlookup⟩ := Fetcher.resolve_eq_ok_iff.1 h
    exact ⟨Fetcher.takenFromOne_iff_of_lookup hlookup, Fetcher.taken_of_lookup hlookup⟩
  · intro policy tracker queries events l a hl hquery hdone
    exact Lookups.taken_of_run policy tracker queries events hl hquery hdone

/-! ## A space that moves

A space is dropped, a space of its name is created under another number and a space of another
name under the number that has become free. -/

/-- What the views show of spaces at a schema version. -/
def FetchedRows.ofSpaces (version : UInt64) (spaces : List StoredSpace) : FetchedRows :=
  ⟨version, spaces.map StoredSpace.spaceRow, spaces.flatMap StoredSpace.indexRows⟩

namespace Move

/-- The rows before the space moves. -/
def rowsBefore : FetchedRows :=
  .ofSpaces 1 [⟨512, "users", "memtx", ["primary", "by_name"], [], []⟩]

/-- The rows after the space has moved. -/
def rowsAfter : FetchedRows :=
  .ofSpaces 4 [⟨512, "orders", "memtx", ["primary", "by_age"], [], []⟩,
    ⟨600, "users", "memtx", ["primary", "by_name", "by_age"], [], []⟩]

/-- The space before it moves. -/
def usersBefore : SpaceInfo :=
  ⟨512, "users", "memtx", [], [⟨0, 512, "primary", "tree"⟩, ⟨1, 512, "by_name", "tree"⟩]⟩

/-- A fetcher that has fetched before the space moves. -/
def before : Fetcher.Env Unit :=
  ⟨({ policy := .ignore } : Fetcher).install rowsBefore, { current := 1 }, ()⟩

/-- The same fetcher when it has fetched once more, after the space has moved. -/
def after : Fetcher.Env Unit := ⟨before.fetcher.install rowsAfter, { current := 4 }, ()⟩

/-- A fetch after the space has moved. -/
def fetch : Fetcher.Fetch Unit :=
  fun tracker world => (.ok rowsAfter, tracker.observe 4, world)

theorem spaceByName?_before :
    (SchemaCache.ofRows 1 rowsBefore.spaceRows rowsBefore.indexRows).spaceByName? "users" =
      some usersBefore := by
  rw [SchemaCache.ofRows_of_ascending (by decide +kernel)]
  decide +kernel

theorem target?_after :
    (SchemaCache.ofRows 4 rowsAfter.spaceRows rowsAfter.indexRows).target? "users" "by_age" =
      some ⟨600, 2, 4⟩ := by
  rw [SchemaCache.ofRows_of_ascending (by decide +kernel)]
  decide +kernel

theorem indexUnder?_after :
    (SchemaCache.ofRows 4 rowsAfter.spaceRows rowsAfter.indexRows).indexUnder? 512 "by_age" =
      some 1 := by
  rw [SchemaCache.ofRows_of_ascending (by decide +kernel)]
  decide +kernel

theorem indexByName?_before : usersBefore.indexByName? "by_age" = none := by decide +kernel

theorem begin_before : before.fetcher.begin before.tracker (.named "users" "by_age") =
    .error (.missingIndex usersBefore) := by
  rw [Fetcher.begin, if_pos (by decide +kernel)]
  exact Fetcher.ask_eq_missingIndex_iff.2 ⟨spaceByName?_before, indexByName?_before⟩

theorem answer_after : Fetcher.answer after.fetcher.snapshot (.named "users" "by_age")
    (.missingIndex usersBefore) = .ok ⟨usersBefore, 1, 4⟩ := by
  rw [Fetcher.answer_missingIndex]
  show (match (SchemaCache.ofRows 4 rowsAfter.spaceRows rowsAfter.indexRows).indexUnder? 512
    "by_age" with | some n => Except.ok _ | none => _) = _
  rw [indexUnder?_after]
  rfl

theorem resolve_eq : Fetcher.resolve fetch (.named "users" "by_age") before =
    (.ok ⟨512, 1, 4⟩, after) := by
  have hfetch : fetch before.tracker before.world =
      (.ok rowsAfter, before.tracker.observe 4, ()) := rfl
  have hlookup : Fetcher.lookup fetch (.named "users" "by_age") before =
      (Fetcher.answer after.fetcher.snapshot (.named "users" "by_age") (.missingIndex usersBefore),
        after) := Fetcher.lookup_of_fetch_eq_ok begin_before hfetch
  rw [answer_after] at hlookup
  exact Fetcher.resolve_eq_ok_iff.2 ⟨_, rfl, hlookup⟩

theorem not_takenFromOne : ¬ TakenFromOne [before.fetcher.snapshot, after.fetcher.snapshot]
    "users" "by_age" ⟨512, 1, 4⟩ := by
  rintro ⟨s, hs, htarget⟩
  rcases List.mem_cons.1 hs with rfl | hs
  · -- the snapshot before lacks the index
    obtain ⟨found, hname, i, hi, _⟩ := SchemaCache.target?_eq_some_iff.1 htarget
    cases spaceByName?_before.symm.trans hname
    rw [indexByName?_before] at hi
    cases hi
  · -- the snapshot after has the space elsewhere
    rw [List.mem_singleton.1 hs] at htarget
    cases target?_after.symm.trans htarget

/-- The number of the space is the one that it had, and the version is the one after it has moved:
no snapshot says so, and the one with that version says something else. -/
theorem resolution_of_moved_space :
    Fetcher.resolve fetch (.named "users" "by_age") before = (.ok ⟨512, 1, 4⟩, after) ∧
      after.fetcher.snapshot.cache.target? "users" "by_age" = some ⟨600, 2, 4⟩ ∧
      ¬ TakenFromOne [before.fetcher.snapshot, after.fetcher.snapshot] "users" "by_age"
        ⟨512, 1, 4⟩ :=
  ⟨resolve_eq, target?_after, not_takenFromOne⟩

/-- A lookup by name on a fetcher from its beginning, which fetches before the space moves. -/
theorem phase_of_run : (((Lookups.start .ignore {} [.named "users" "by_name"]).run
    [.advance 0, .advance 0, .fetched 0 (.ok rowsBefore)]).lookups) =
      [⟨.named "users" "by_name", .done (.ok ⟨usersBefore, 1, 1⟩)⟩] := by
  have hask : Fetcher.ask ⟨1, .ofRows 1 rowsBefore.spaceRows rowsBefore.indexRows⟩
      (.named "users" "by_name") = .ok ⟨usersBefore, 1, 1⟩ := by
    rw [Fetcher.ask_named, spaceByName?_before]
    rfl
  show [Lookup.mk (.named "users" "by_name") (.done (Fetcher.answer
    ⟨1, .ofRows 1 rowsBefore.spaceRows rowsBefore.indexRows⟩ (.named "users" "by_name")
      .notFresh))] = _
  rw [Fetcher.answer, hask]

/-- The two statements, of the space that moves and of a run in which none does. -/
theorem resolution_taken_from_one_iff_of_move :
    Fetcher.Mixes before after "users" "by_age" ∧
      TakenFromTwo [before.fetcher.snapshot, after.fetcher.snapshot] "users" "by_age"
        ⟨512, 1, 4⟩ ∧
      (TakenFromOne ((Lookups.start .ignore {} [.named "users" "by_name"]).held
          [.advance 0, .advance 0, .fetched 0 (.ok rowsBefore)]) "users" "by_name" ⟨512, 1, 1⟩ ∨
        TakenFromTwo ((Lookups.start .ignore {} [.named "users" "by_name"]).held
          [.advance 0, .advance 0, .fetched 0 (.ok rowsBefore)]) "users" "by_name"
            ⟨512, 1, 1⟩) := by
  obtain ⟨hiff, hor⟩ :=
    (resolution_taken_from_one_iff "users" "by_age").1 fetch before after _ resolve_eq
  refine ⟨?_, hor.resolve_left not_takenFromOne, ?_⟩
  · exact Classical.not_not.1 fun hmixes => not_takenFromOne (hiff.2 hmixes)
  · refine (resolution_taken_from_one_iff "users" "by_name").2 .ignore {} _ _
      ⟨.named "users" "by_name", .done (.ok ⟨usersBefore, 1, 1⟩)⟩ ⟨usersBefore, 1, 1⟩ ?_ rfl rfl
    rw [phase_of_run]
    exact List.mem_cons_self

end Move

end TupleWire
