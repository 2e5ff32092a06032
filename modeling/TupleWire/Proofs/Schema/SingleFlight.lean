/-
  One fetch for all who wait.

  Lookups that have seen one snapshot and cannot answer from it all wait for
  their turn to fetch.  The first whose turn comes fetches, and the others find
  its snapshot when theirs comes: those that found the snapshot not fresh because
  the new one is, and those that missed a name because there is a new one.

  A run has three stages: nobody fetches yet, one lookup fetches, and its rows
  have landed.  `Flight` says what holds in each of them, `Flight.step` that an
  event leads to the same stage or to the next, and `flies_once` what follows for
  every run.
-/
import TupleWire.Proofs.Schema.Resolution

set_option autoImplicit false

namespace TupleWire

/-- What has been seen stays within a bound as long as what comes in does. -/
theorem SchemaTracker.current_observe_le {t : SchemaTracker} {version bound : UInt64}
    (ht : t.current ≤ bound) (hversion : version ≤ bound) :
    (t.observe version).current ≤ bound := by
  show max t.current version ≤ bound
  rw [show max t.current version = if t.current ≤ version then version else t.current from rfl]
  split
  · exact hversion
  · exact ht

/-- Why a lookup may come to need a fetch that has seen a snapshot, or is about to see it. -/
def Lookup.Needs (l : Lookup) (s : Snapshot) (reason : FetchReason) : Prop :=
  match l.phase with
  | .waiting known _ => reason = known
  | .idle | .fetching _ | .done _ => reason = .notFresh ∨ Fetcher.ask s l.query = .error reason

namespace Lookups

/-! ## Lookups that have seen one snapshot -/

/-- Nobody is fetching, and every lookup has either not begun or waits having seen the snapshot
that is held.  A lookup that has seen it counts as one that waits, for whatever reason the checks
that are left before it queues will come to: they change nothing that another lookup can see. -/
structure Gathered (ls : Lookups) : Prop where
  free : ls.fetcher.isBusy = false
  phases : ∀ l ∈ ls.lookups,
    l.phase = .idle ∨ ∃ reason, l.phase = .waiting reason ls.fetcher.snapshot.generation

/-- The snapshot that a fetch makes of some rows. -/
def landing (start : Lookups) (rows : FetchedRows) : Snapshot :=
  ⟨start.fetcher.snapshot.generation + 1, .ofRows rows.version rows.spaceRows rows.indexRows⟩

/-- Whether an event keeps to the course of events in which the first fetch brings some rows: a
lookup that begins does so on the snapshot from before and needs a fetch, what is fetched on that
snapshot are the rows, and nothing is invalidated and no later version observed. -/
def Allows (start : Lookups) (rows : FetchedRows) (now : Lookups) : Event → Prop
  | .advance position => ∀ l, now.lookups[position]? = some l → l.phase = .idle →
      now.fetcher.snapshot.generation = start.fetcher.snapshot.generation ∧
        ∃ reason, now.fetcher.begin now.tracker l.query = .error reason
  | .fetched position fetched => ∀ l reason, now.lookups[position]? = some l →
      l.phase = .fetching reason →
        now.fetcher.snapshot.generation = start.fetcher.snapshot.generation → fetched = .ok rows
  | .invalidate => False
  | .observe version => version ≤ rows.version

/-- Whether all events of a run keep to that course. -/
def Calm (start : Lookups) (rows : FetchedRows) : Lookups → List Event → Prop
  | _, [] => True
  | now, event :: rest => start.Allows rows now event ∧ Calm start rows (now.step event) rest

/-! ## The stages of a run -/

/-- How far lookups that have seen one snapshot have got. -/
inductive Stage where
  | gathering
  /-- the lookup at a position fetches -/
  | flying (position : Nat)
  | landed
  deriving DecidableEq

namespace Stage

/-- The fetches that were begun. -/
def begun : Stage → Nat
  | .gathering => 0
  | .flying _ | .landed => 1

/-- The fetches that succeeded. -/
def fetches : Stage → Nat
  | .gathering | .flying _ => 0
  | .landed => 1

/-- Whether somebody is fetching. -/
def isFlying : Stage → Bool
  | .flying _ => true
  | .gathering | .landed => false

end Stage

/-- The snapshot that is held at a stage. -/
def snapshotAt (start : Lookups) (rows : FetchedRows) : Stage → Snapshot
  | .gathering | .flying _ => start.fetcher.snapshot
  | .landed => start.landing rows

/-- Whether a lookup that has come from another one at a position may be in a phase at a stage. -/
def Stands (start : Lookups) (rows : FetchedRows) (stage : Stage) (position : Nat)
    (origin : Lookup) : LookupPhase → Prop
  | .idle => origin.phase = .idle
  | .waiting reason seen =>
      seen = start.fetcher.snapshot.generation ∧ origin.Needs start.fetcher.snapshot reason
  | .fetching reason =>
      stage = .flying position ∧ origin.Needs start.fetcher.snapshot reason
  | .done result => stage = .landed ∧ ∃ reason, origin.Needs start.fetcher.snapshot reason ∧
      result = Fetcher.answer (start.landing rows) origin.query reason

/-- Whether a lookup at a position is one of those at the start, as far as it may be at a stage. -/
def Comes (start : Lookups) (rows : FetchedRows) (stage : Stage) (position : Nat)
    (l : Lookup) : Prop :=
  ∃ origin, start.lookups[position]? = some origin ∧ l.query = origin.query ∧
    start.Stands rows stage position origin l.phase

/-- What holds of lookups at a stage. -/
structure Flight (start : Lookups) (rows : FetchedRows) (stage : Stage) (now : Lookups) :
    Prop where
  begun : now.begun = start.begun + stage.begun
  fetches : now.fetcher.fetches = start.fetcher.fetches + stage.fetches
  snapshot : now.fetcher.snapshot = start.snapshotAt rows stage
  busy : now.fetcher.isBusy = stage.isFlying
  fresh : stage ≠ .gathering → now.fetcher.isStale = false
  tracked : now.tracker.current ≤ rows.version
  comes : ∀ position l, now.lookups[position]? = some l → start.Comes rows stage position l
  flier : ∀ position, stage = .flying position → ∃ l reason,
    now.lookups[position]? = some l ∧ l.phase = .fetching reason

theorem getElem?_setPhase (ls : Lookups) (position i : Nat) (phase : LookupPhase) :
    (ls.setPhase position phase).lookups[i]? =
      (ls.lookups[i]?).map fun l => if position = i then { l with phase } else l := by
  rw [setPhase, List.getElem?_modify]
  by_cases h : position = i
  · simp [h]
  · simp [h]

theorem getElem?_setPhase_self {ls : Lookups} {position : Nat} {l : Lookup}
    (hl : ls.lookups[position]? = some l) (phase : LookupPhase) :
    (ls.setPhase position phase).lookups[position]? = some { l with phase } := by
  rw [getElem?_setPhase, hl, Option.map_some, if_pos rfl]

namespace Flight

variable {start now : Lookups} {rows : FetchedRows} {stage next : Stage} {position : Nat}
  {l : Lookup}

/-- Lookups that have seen one snapshot are at the first stage. -/
theorem ofGathered (h : start.Gathered) (hversion : start.tracker.current ≤ rows.version) :
    Flight start rows .gathering start where
  begun := rfl
  fetches := rfl
  snapshot := rfl
  busy := h.free
  fresh hstage := absurd rfl hstage
  tracked := hversion
  comes position l hl := by
    refine ⟨l, hl, rfl, ?_⟩
    rcases h.phases l (List.mem_of_getElem? hl) with hidle | ⟨reason, hwaiting⟩
    · rw [hidle]
      exact hidle
    · rw [hwaiting]
      refine ⟨rfl, ?_⟩
      simp [Lookup.Needs, hwaiting]
  flier position hstage := by cases hstage

/-! ## What an event leads to -/

/-- A lookup gets into another phase and the others stay in theirs. -/
theorem comes_setPhase (h : Flight start rows stage now) (hl : now.lookups[position]? = some l)
    {phase : LookupPhase} (hphase : ∀ origin, start.lookups[position]? = some origin →
      l.query = origin.query → start.Stands rows stage position origin l.phase →
        start.Stands rows next position origin phase)
    (hothers : ∀ i origin other, i ≠ position → start.Stands rows stage i origin other →
      start.Stands rows next i origin other) {i : Nat} {after : Lookup}
    (hafter : (now.setPhase position phase).lookups[i]? = some after) :
    start.Comes rows next i after := by
  rw [getElem?_setPhase] at hafter
  obtain ⟨before, hbefore, rfl⟩ := Option.map_eq_some_iff.1 hafter
  obtain ⟨origin, horigin, hquery, hstands⟩ := h.comes i before hbefore
  refine ⟨origin, horigin, ?_, ?_⟩
  · split
    · exact hquery
    · exact hquery
  · split
    · rename_i hposition
      subst hposition
      rw [hl] at hbefore
      cases hbefore
      exact hphase origin horigin hquery hstands
    · rename_i hposition
      exact hothers i origin before.phase (Ne.symm hposition) hstands

/-- Nobody but the one lookup fetches. -/
theorem stage_of_fetching (h : Flight start rows stage now)
    (hl : now.lookups[position]? = some l) {reason : FetchReason}
    (hphase : l.phase = .fetching reason) : stage = .flying position := by
  obtain ⟨origin, _, _, hstands⟩ := h.comes position l hl
  rw [hphase] at hstands
  exact hstands.1

/-- A lookup that begins and needs a fetch waits, having seen the snapshot from before. -/
theorem begins (h : Flight start rows stage now) (hl : now.lookups[position]? = some l)
    (hidle : l.phase = .idle)
    (hseen : now.fetcher.snapshot.generation = start.fetcher.snapshot.generation)
    {reason : FetchReason} (hbegin : now.fetcher.begin now.tracker l.query = .error reason) :
    Flight start rows stage
      (now.setPhase position (.waiting reason now.fetcher.snapshot.generation)) where
  begun := h.begun
  fetches := h.fetches
  snapshot := h.snapshot
  busy := h.busy
  fresh := h.fresh
  tracked := h.tracked
  comes i after hafter := by
    refine h.comes_setPhase hl ?_ (fun _ _ _ _ hstands => hstands) hafter
    intro origin horigin hquery hstands
    rw [hidle] at hstands
    have horiginIdle : origin.phase = .idle := hstands
    refine ⟨hseen, ?_⟩
    simp only [Lookup.Needs, horiginIdle]
    have hsnapshot : now.fetcher.snapshot = start.fetcher.snapshot := by
      rw [h.snapshot] at hseen ⊢
      cases stage with
      | gathering => rfl
      | flying p => rfl
      | landed => exact absurd hseen (Nat.succ_ne_self _)
    rw [← hsnapshot, ← hquery]
    unfold Fetcher.begin at hbegin
    split at hbegin
    · exact .inr hbegin
    · cases hbegin
      exact .inl rfl
  flier p hstage := by
    obtain ⟨flier, r, hflier, hfetching⟩ := h.flier p hstage
    refine ⟨flier, r, ?_, hfetching⟩
    have hne : position ≠ p := by
      rintro rfl
      rw [hl] at hflier
      cases hflier
      rw [hidle] at hfetching
      cases hfetching
    rw [getElem?_setPhase, hflier, Option.map_some, if_neg hne]

/-- The first lookup whose turn comes fetches. -/
theorem takesOff (h : Flight start rows .gathering now)
    (hl : now.lookups[position]? = some l) {reason : FetchReason} {seen : Nat}
    (hwaiting : l.phase = .waiting reason seen) :
    now.advance position l =
        { now with
          fetcher := { now.fetcher with isStale := false, isBusy := true }
          begun := now.begun + 1 }.setPhase position (.fetching reason) ∧
      Flight start rows (.flying position) (now.advance position l) := by
  obtain ⟨origin, _, _, hstands⟩ := h.comes position l hl
  rw [hwaiting] at hstands
  have hseen : now.fetcher.snapshot.generation = seen := by
    rw [h.snapshot]
    exact hstands.1.symm
  have hfree : now.fetcher.isBusy = false := h.busy
  have hadvance : now.advance position l = { now with
      fetcher := { now.fetcher with isStale := false, isBusy := true }
      begun := now.begun + 1 }.setPhase position (.fetching reason) := by
    simp [Lookups.advance, hwaiting, hfree, Fetcher.enter, Fetcher.isRefetched, hseen]
  refine ⟨hadvance, ?_⟩
  rw [hadvance]
  constructor
  · show now.begun + 1 = start.begun + 1
    rw [h.begun]
    rfl
  · exact h.fetches
  · exact h.snapshot
  · rfl
  · intro _
    rfl
  · exact h.tracked
  · intro i after hafter
    refine h.comes_setPhase hl ?_ ?_ hafter
    · intro origin _ _ hstands
      rw [hwaiting] at hstands
      exact ⟨rfl, hstands.2⟩
    · intro i origin other _ hother
      cases other with
      | idle => exact hother
      | waiting r n => exact hother
      | fetching r => cases hother.1
      | done result => cases hother.1
  · intro p hp
    cases hp
    exact ⟨{ l with phase := .fetching reason }, reason, getElem?_setPhase_self hl _, rfl⟩

/-- The rows of the lookup that fetches land. -/
theorem lands (h : Flight start rows stage now) (hl : now.lookups[position]? = some l)
    {reason : FetchReason} (hfetching : l.phase = .fetching reason) :
    now.complete position l (.ok rows) =
        { now with
          fetcher := now.fetcher.install rows
          tracker := now.tracker.observe rows.version }.setPhase position
            (.done (Fetcher.answer (start.landing rows) l.query reason)) ∧
      Flight start rows .landed (now.complete position l (.ok rows)) := by
  obtain rfl := h.stage_of_fetching hl hfetching
  have hinstalled : (now.fetcher.install rows).snapshot = start.landing rows := by
    rw [Fetcher.install, h.snapshot]
    rfl
  have hcomplete : now.complete position l (.ok rows) = { now with
      fetcher := now.fetcher.install rows
      tracker := now.tracker.observe rows.version }.setPhase position
        (.done (Fetcher.answer (start.landing rows) l.query reason)) := by
    simp only [Lookups.complete, hfetching, Fetcher.finish, hinstalled]
  refine ⟨hcomplete, ?_⟩
  rw [hcomplete]
  constructor
  · exact h.begun
  · show now.fetcher.fetches + 1 = start.fetcher.fetches + 1
    rw [h.fetches]
    rfl
  · exact hinstalled
  · rfl
  · intro _
    exact h.fresh (by simp)
  · exact SchemaTracker.current_observe_le h.tracked (UInt64.le_refl _)
  · intro i after hafter
    refine h.comes_setPhase hl ?_ ?_ hafter
    · intro origin _ hquery hstands
      rw [hfetching] at hstands
      rw [hquery]
      exact ⟨rfl, reason, hstands.2, rfl⟩
    · intro i origin other hne hother
      cases other with
      | idle => exact hother
      | waiting r n => exact hother
      | fetching r =>
          -- the lookup that has landed was the only one to fetch
          cases hother.1
          exact absurd rfl hne
      | done result => cases hother.1
  · intro p hp
    cases hp

/-- A lookup whose turn comes when the rows have landed answers from them, whatever it has waited
for. -/
theorem joins (h : Flight start rows .landed now) (hl : now.lookups[position]? = some l)
    {reason : FetchReason} {seen : Nat} (hwaiting : l.phase = .waiting reason seen) :
    now.advance position l = now.setPhase position
        (.done (Fetcher.answer (start.landing rows) l.query reason)) ∧
      Flight start rows .landed (now.advance position l) := by
  obtain ⟨origin, _, _, hstands⟩ := h.comes position l hl
  rw [hwaiting] at hstands
  have hsnapshot : now.fetcher.snapshot = start.landing rows := h.snapshot
  have hnew : now.fetcher.snapshot.generation ≠ seen := by
    rw [hsnapshot, hstands.1]
    exact Nat.succ_ne_self _
  have hfresh : now.fetcher.isFresh now.tracker now.fetcher.snapshot = true := by
    have hstale : now.fetcher.isStale = false := h.fresh (by simp)
    have htracked : now.tracker.current ≤ now.fetcher.snapshot.cache.version := by
      rw [hsnapshot]
      exact h.tracked
    have hpositive : 0 < now.fetcher.snapshot.generation := by
      rw [hsnapshot]
      exact Nat.succ_pos _
    simp [Fetcher.isFresh, hstale, htracked, hpositive]
  have hfree : now.fetcher.isBusy = false := h.busy
  have hadvance : now.advance position l = now.setPhase position
      (.done (Fetcher.answer (start.landing rows) l.query reason)) := by
    have hrefetched : now.fetcher.isRefetched now.tracker reason seen = true := by
      simp [Fetcher.isRefetched, hnew, hfresh]
    simp only [Lookups.advance, hwaiting, hfree, Bool.false_eq_true, if_false, Fetcher.enter,
      hrefetched, if_true, hsnapshot]
  refine ⟨hadvance, ?_⟩
  rw [hadvance]
  constructor
  · exact h.begun
  · exact h.fetches
  · exact h.snapshot
  · exact h.busy
  · exact h.fresh
  · exact h.tracked
  · intro i after hafter
    refine h.comes_setPhase hl ?_ (fun _ _ _ _ hother => hother) hafter
    intro origin _ hquery hstands
    rw [hwaiting] at hstands
    rw [hquery]
    exact ⟨rfl, reason, hstands.2, rfl⟩
  · intro p hp
    cases hp

/-- A lookup whose turn has not come goes on waiting. -/
theorem waits {flier : Nat} (h : Flight start rows (.flying flier) now) {reason : FetchReason}
    {seen : Nat} (hwaiting : l.phase = .waiting reason seen) : now.advance position l = now := by
  have hbusy : now.fetcher.isBusy = true := h.busy
  simp [Lookups.advance, hwaiting, hbusy]

/-- A lookup that goes on leads to the same stage or to the next. -/
theorem advance (h : Flight start rows stage now) (hl : now.lookups[position]? = some l)
    (hallows : start.Allows rows now (.advance position)) :
    ∃ next, Flight start rows next (now.advance position l) := by
  cases hphase : l.phase with
  | idle =>
      obtain ⟨hseen, reason, hbegin⟩ := hallows l hl hphase
      have hadvance : now.advance position l =
          now.setPhase position (.waiting reason now.fetcher.snapshot.generation) := by
        simp [Lookups.advance, hphase, hbegin]
      rw [hadvance]
      exact ⟨stage, h.begins hl hphase hseen hbegin⟩
  | waiting reason seen =>
      cases stage with
      | gathering => exact ⟨_, (h.takesOff hl hphase).2⟩
      | flying flier =>
          rw [h.waits hphase]
          exact ⟨_, h⟩
      | landed => exact ⟨_, (h.joins hl hphase).2⟩
  | fetching reason =>
      have hadvance : now.advance position l = now := by simp [Lookups.advance, hphase]
      rw [hadvance]
      exact ⟨stage, h⟩
  | done result =>
      have hadvance : now.advance position l = now := by simp [Lookups.advance, hphase]
      rw [hadvance]
      exact ⟨stage, h⟩

/-- Rows that are there lead to the same stage or to the next. -/
theorem complete (h : Flight start rows stage now) (hl : now.lookups[position]? = some l)
    {fetched : Except ClientError FetchedRows}
    (hallows : start.Allows rows now (.fetched position fetched)) :
    ∃ next, Flight start rows next (now.complete position l fetched) := by
  cases hphase : l.phase with
  | fetching reason =>
      have hstage := h.stage_of_fetching hl hphase
      have hseen : now.fetcher.snapshot.generation = start.fetcher.snapshot.generation := by
        rw [h.snapshot, hstage]
        rfl
      rw [hallows l reason hl hphase hseen]
      exact ⟨_, (h.lands hl hphase).2⟩
  | idle | waiting reason seen | done result =>
      have hcomplete : now.complete position l fetched = now := by
        simp [Lookups.complete, hphase]
      rw [hcomplete]
      exact ⟨stage, h⟩

/-- An event leads to the same stage or to the next. -/
theorem step (h : Flight start rows stage now) {event : Event}
    (hallows : start.Allows rows now event) :
    ∃ next, Flight start rows next (now.step event) := by
  cases event with
  | advance position =>
      cases hl : now.lookups[position]? with
      | none =>
          simp only [Lookups.step, hl]
          exact ⟨stage, h⟩
      | some l =>
          simp only [Lookups.step, hl]
          exact h.advance hl hallows
  | fetched position fetched =>
      cases hl : now.lookups[position]? with
      | none =>
          simp only [Lookups.step, hl]
          exact ⟨stage, h⟩
      | some l =>
          simp only [Lookups.step, hl]
          exact h.complete hl hallows
  | invalidate => exact absurd hallows id
  | observe version =>
      exact ⟨stage, { h with tracked := SchemaTracker.current_observe_le h.tracked hallows }⟩

/-- Whatever happens on the course, some stage has been reached. -/
theorem run (h : Flight start rows stage now) {events : List Event}
    (hcalm : start.Calm rows now events) : ∃ next, Flight start rows next (now.run events) := by
  induction events generalizing now stage with
  | nil => exact ⟨stage, h⟩
  | cons event rest ih =>
      obtain ⟨hallows, hrest⟩ := hcalm
      obtain ⟨next, hnext⟩ := h.step hallows
      exact ih hnext hrest

end Flight

/-! ## Every run -/

/-- What single flight comes to: one fetch at most is begun, and its rows make the next snapshot;
whoever has come to an end has done so after that one fetch, with the answer of that snapshot; and
nobody waits in vain. -/
structure FliesOnce (start : Lookups) (rows : FetchedRows) (now : Lookups) : Prop where
  callers : now.lookups.map Lookup.query = start.lookups.map Lookup.query
  begun : now.begun ≤ start.begun + 1
  snapshot :
    (now.fetcher.snapshot = start.fetcher.snapshot ∧
      now.fetcher.fetches = start.fetcher.fetches) ∨
    (now.fetcher.snapshot = start.landing rows ∧
      now.fetcher.fetches = start.fetcher.fetches + 1)
  ended : ∀ (position : Nat) (l : Lookup) (result : Except ClientError Resolution),
    now.lookups[position]? = some l → l.phase = .done result →
      now.begun = start.begun + 1 ∧ now.fetcher.fetches = start.fetcher.fetches + 1 ∧
        now.fetcher.snapshot = start.landing rows ∧
        ∃ (origin : Lookup) (reason : FetchReason), start.lookups[position]? = some origin ∧
          origin.Needs start.fetcher.snapshot reason ∧
          result = Fetcher.answer (start.landing rows) origin.query reason
  /-- a lookup that waits fetches or answers with its next step, unless another one fetches -/
  goesOn : ∀ (position : Nat) (l : Lookup) (reason : FetchReason) (seen : Nat),
    now.lookups[position]? = some l → l.phase = .waiting reason seen →
      (now.step (.advance position)).lookups[position]? =
          some { l with phase := .fetching reason } ∨
        (now.step (.advance position)).lookups[position]? =
          some { l with
            phase := .done (Fetcher.answer (start.landing rows) l.query reason) } ∨
        ∃ (other : Nat) (flier : Lookup) (reason : FetchReason),
          now.lookups[other]? = some flier ∧ flier.phase = .fetching reason
  /-- a lookup that fetches answers when its rows are there -/
  arrives : ∀ (position : Nat) (l : Lookup) (reason : FetchReason),
    now.lookups[position]? = some l → l.phase = .fetching reason →
      (now.step (.fetched position (.ok rows))).lookups[position]? =
        some { l with phase := .done (Fetcher.answer (start.landing rows) l.query reason) }

/-- No event makes a lookup another's. -/
theorem map_query_step (ls : Lookups) (event : Event) :
    (ls.step event).lookups.map Lookup.query = ls.lookups.map Lookup.query := by
  have hset (ls : Lookups) (position : Nat) (phase : LookupPhase) :
      (ls.setPhase position phase).lookups.map Lookup.query =
        ls.lookups.map Lookup.query := by
    refine List.ext_getElem? fun i => ?_
    rw [List.getElem?_map, List.getElem?_map, getElem?_setPhase]
    cases ls.lookups[i]? with
    | none => rfl
    | some l =>
        simp only [Option.map_some]
        split
        · rfl
        · rfl
  cases event with
  | advance position =>
      simp only [step]
      split
      · unfold advance
        split
        · split
          · exact hset _ _ _
          · exact hset _ _ _
        · split
          · rfl
          · split
            · exact hset _ _ _
            · exact hset _ _ _
        · rfl
        · rfl
      · rfl
  | fetched position fetched =>
      simp only [step]
      split
      · unfold complete
        split
        · exact hset _ _ _
        · rfl
      · rfl
  | invalidate => rfl
  | observe version => rfl

theorem map_query_run (ls : Lookups) (events : List Event) :
    (ls.run events).lookups.map Lookup.query = ls.lookups.map Lookup.query := by
  induction events generalizing ls with
  | nil => rfl
  | cons event rest ih =>
      show ((ls.step event).run rest).lookups.map Lookup.query = _
      rw [ih, map_query_step]

/-- What holds at a stage is what single flight comes to. -/
theorem Flight.fliesOnce {start now : Lookups} {rows : FetchedRows} {stage : Stage}
    (h : Flight start rows stage now)
    (hcallers : now.lookups.map Lookup.query = start.lookups.map Lookup.query) :
    FliesOnce start rows now where
  callers := hcallers
  begun := by
    rw [h.begun]
    cases stage with
    | gathering => exact Nat.le_succ _
    | flying flier => exact Nat.le_refl _
    | landed => exact Nat.le_refl _
  snapshot := by
    rw [h.snapshot, h.fetches]
    cases stage with
    | gathering => exact .inl ⟨rfl, rfl⟩
    | flying flier => exact .inl ⟨rfl, rfl⟩
    | landed => exact .inr ⟨rfl, rfl⟩
  ended position l result hl hdone := by
    obtain ⟨origin, horigin, _, hstands⟩ := h.comes position l hl
    rw [hdone] at hstands
    obtain ⟨rfl, reason, hneeds, hresult⟩ := hstands
    exact ⟨h.begun, h.fetches, h.snapshot, origin, reason, horigin, hneeds, hresult⟩
  goesOn position l reason seen hl hwaiting := by
    have hstep : now.step (.advance position) = now.advance position l := by
      simp only [Lookups.step, hl]
    rw [hstep]
    cases stage with
    | gathering =>
        left
        rw [(h.takesOff hl hwaiting).1]
        exact getElem?_setPhase_self hl _
    | flying flier =>
        right
        right
        obtain ⟨other, r, hother, hfetching⟩ := h.flier flier rfl
        exact ⟨flier, other, r, hother, hfetching⟩
    | landed =>
        right
        left
        rw [(h.joins hl hwaiting).1]
        exact getElem?_setPhase_self hl _
  arrives position l reason hl hfetching := by
    have hstep : now.step (.fetched position (.ok rows)) = now.complete position l (.ok rows) := by
      simp only [Lookups.step, hl]
    rw [hstep, (h.lands hl hfetching).1]
    exact getElem?_setPhase_self hl _

/-- Single flight: however lookups that have seen one snapshot and need a fetch get their turns, if
the first fetch brings rows of a version that is not below what has been seen, and nothing is
invalidated or observed beyond it meanwhile, that fetch is the only one, it makes the next
snapshot, and every lookup goes on with that. -/
theorem flies_once {start : Lookups} {rows : FetchedRows} {events : List Event}
    (hgathered : start.Gathered) (hversion : start.tracker.current ≤ rows.version)
    (hcalm : start.Calm rows start events) : FliesOnce start rows (start.run events) := by
  obtain ⟨stage, hflight⟩ := (Flight.ofGathered hgathered hversion).run hcalm
  exact hflight.fliesOnce (map_query_run start events)

/-! ## Who comes while somebody fetches -/

/-- Who fetches has taken the invalidation back before the rows are there.  A lookup that begins
meanwhile takes the snapshot from before for fresh, unless there was none or a later version was
observed. -/
theorem Flight.begin_eq {start now : Lookups} {rows : FetchedRows} {flier : Nat}
    (h : Flight start rows (.flying flier) now) (q : Query) :
    now.fetcher.begin now.tracker q =
      if 0 < start.fetcher.snapshot.generation ∧
          now.tracker.current ≤ start.fetcher.snapshot.cache.version then
        Fetcher.ask start.fetcher.snapshot q
      else .error .notFresh := by
  have hsnapshot : now.fetcher.snapshot = start.fetcher.snapshot := h.snapshot
  have hstale : now.fetcher.isStale = false := h.fresh (by simp)
  simp [Fetcher.begin, Fetcher.isFresh, hsnapshot, hstale]

/-- So while the first fetch is under way that an invalidation has led to, a lookup that begins
does not wait for it: it is answered from the invalidated snapshot if and only if that one was
fetched, is not of an earlier version than the last one observed, and has the names. -/
theorem answered_from_invalidated_iff {start : Lookups} {rows : FetchedRows} {events : List Event}
    (hgathered : start.Gathered) (hversion : start.tracker.current ≤ rows.version)
    (hcalm : start.Calm rows start events) {flier position : Nat} {flying l : Lookup}
    {reason : FetchReason} (hflier : (start.run events).lookups[flier]? = some flying)
    (hflying : flying.phase = .fetching reason)
    (hl : (start.run events).lookups[position]? = some l) (hidle : l.phase = .idle)
    (resolution : Resolution) :
    ((start.run events).step (.advance position)).lookups[position]? =
        some { l with phase := .done (.ok resolution) } ↔
      (0 < start.fetcher.snapshot.generation ∧
          (start.run events).tracker.current ≤ start.fetcher.snapshot.cache.version) ∧
        Fetcher.ask start.fetcher.snapshot l.query = .ok resolution := by
  obtain ⟨stage, hflight⟩ := (Flight.ofGathered hgathered hversion).run hcalm
  obtain rfl := hflight.stage_of_fetching hflier hflying
  have hstep : (start.run events).step (.advance position) =
      (start.run events).advance position l := by
    simp only [Lookups.step, hl]
  rw [hstep, Lookups.advance, hidle]
  dsimp only
  rw [hflight.begin_eq]
  by_cases hfresh : 0 < start.fetcher.snapshot.generation ∧
      (start.run events).tracker.current ≤ start.fetcher.snapshot.cache.version
  · rw [if_pos hfresh]
    cases hask : Fetcher.ask start.fetcher.snapshot l.query with
    | ok answer => simp [getElem?_setPhase_self hl, hfresh]
    | error reason => simp [getElem?_setPhase_self hl]
  · rw [if_neg hfresh]
    simp [getElem?_setPhase_self hl, hfresh]

/-! ## Three lookups and one fetch -/

namespace Gathering

/-- A fetcher whose snapshot has just been invalidated.  One lookup is about to begin, one has
missed its space before, and one its index. -/
def three : Lookups where
  fetcher := Move.before.fetcher.invalidate
  tracker := Move.before.tracker
  lookups := [
    ⟨.named "users" "by_name", .idle⟩,
    ⟨.named "orders" "by_age", .waiting .missingSpace 1⟩,
    ⟨.named "users" "by_age", .waiting (.missingIndex Move.usersBefore) 1⟩]

/-- The second lookup fetches while the others come and wait, then all go on. -/
def events : List Event :=
  [.advance 0, .advance 1, .advance 0, .advance 2, .observe 4, .fetched 1 (.ok Move.rowsAfter),
    .advance 2, .advance 0]

theorem gathered_three : three.Gathered := by
  refine ⟨rfl, ?_⟩
  intro l hl
  rcases List.mem_cons.1 hl with rfl | hl
  · exact .inl rfl
  rcases List.mem_cons.1 hl with rfl | hl
  · exact .inr ⟨_, rfl⟩
  · obtain rfl := List.mem_singleton.1 hl
    exact .inr ⟨_, rfl⟩

theorem calm_three : three.Calm Move.rowsAfter three events := by
  refine ⟨?_, ?_, ?_, ?_, ?_, ?_, ?_, ?_, trivial⟩
  · intro l hl _
    cases hl
    exact ⟨rfl, _, rfl⟩
  · intro l hl hidle
    cases hl
    cases hidle
  · intro l hl hidle
    cases hl
    cases hidle
  · intro l hl hidle
    cases hl
    cases hidle
  · show (4 : UInt64) ≤ 4
    decide
  · intro l reason _ _ _
    rfl
  · intro l hl hidle
    cases hl
    cases hidle
  · intro l hl hidle
    cases hl
    cases hidle

/-- Two of the three wait while the second fetches; all three end with the snapshot after that one
fetch. -/
theorem flies_once_of_three :
    FliesOnce three Move.rowsAfter (three.run events) ∧
      (three.run events).begun = 1 ∧ (three.run events).fetcher.snapshot.generation = 2 ∧
      (three.run events).lookups.map Lookup.phase =
        [.done (Fetcher.answer (three.landing Move.rowsAfter) (.named "users" "by_name") .notFresh),
          .done (Fetcher.answer (three.landing Move.rowsAfter) (.named "orders" "by_age")
            .missingSpace),
          .done (Fetcher.answer (three.landing Move.rowsAfter) (.named "users" "by_age")
            (.missingIndex Move.usersBefore))] :=
  ⟨flies_once gathered_three (by decide) calm_three, rfl, rfl, rfl⟩

end Gathering

end Lookups

end TupleWire
