/-
  When a call of the fetcher fetches the schema, and what a fetch that fails leaves behind.

  The fetches of a call are written down beside the world (`noted`), which
  changes nothing in its course.  `Served` is what they come to: none if the
  call is for numbers or nothing is `Wanting` in the snapshot, and one otherwise.
  A fetch that fails leaves the snapshot stale, and stale it stays, whatever
  happens, until a fetch succeeds (`isStale_afterAll`).
-/
import TupleWire.Proofs.Schema.Lookup
import TupleWire.Proofs.Schema.Resolution

set_option autoImplicit false

namespace TupleWire.Fetcher

variable {σ : Type}

/-! ## Calls -/

/-- One call of the fetcher. -/
inductive Call where
  /-- for a space -/
  | get (space : Target)
  /-- for the numbers of a space and an index -/
  | resolve (q : Query)

/-- What a call is answered with. -/
inductive Answer where
  | space (space : SpaceInfo)
  | target (target : ResolvedTarget)

/-- What came of the fetches that were made, in their order. -/
abbrev Fetched : Type := List (Except ClientError FetchedRows)

/-- A way of fetching, with what comes of every fetch written down. -/
def noted (fetch : Fetch σ) : Fetch (σ × Fetched) := fun tracker world =>
  let (result, tracker, after) := fetch tracker world.1
  (result, tracker, (after, world.2 ++ [result]))

namespace Call

/-- What a call looks up. -/
def query : Call → Query
  | get space => { space }
  | resolve q => q

/-- What a call makes of the answer to its lookup. -/
def answer : Call → Resolution → Answer
  | get _, a => .space a.space
  | resolve _, a => .target a.target

/-- Carries out a call with nobody else around. -/
def run (fetch : Fetch σ) (call : Call) (env : Env σ) : Except ClientError Answer × Env σ :=
  match call with
  | get space =>
      let (result, env) := Fetcher.get fetch space env
      (result.map .space, env)
  | resolve q =>
      let (result, env) := Fetcher.resolve fetch q env
      (result.map .target, env)

/-- The fetches that a call makes. -/
def made (fetch : Fetch σ) (call : Call) (env : Env σ) : Fetched :=
  (call.run (noted fetch) (env.noting [])).2.world.2

/-- Whether a call is for a space and an index that are both given by number. -/
def IsNumbers (call : Call) : Prop := ∃ space index, call = resolve ⟨.byId space, .byId index⟩

/-- Whether an answer is what a snapshot says: the space of the target, or its number with the one
of the index and the version of the snapshot. -/
def AnsweredBy (cache : SchemaCache) : Call → Answer → Prop
  | get target, .space space => cache.space? target = some space
  | resolve q, .target r => ∃ space, cache.space? q.space = some space ∧ space.id = r.spaceId ∧
      indexOf? space q.index = some r.indexId ∧ cache.version = r.schemaVersion
  | _, _ => False

/-- What a call asks the snapshot that it has fetched: what it was for, or, if it had found the
space in a fresh snapshot, its index under the number of that space. -/
def again (f : Fetcher) (tracker : SchemaTracker) (call : Call) : Call :=
  match f.isFresh tracker f.snapshot, f.snapshot.cache.space? call.query.space with
  | true, some space => .resolve ⟨.byId space.id, call.query.index⟩
  | _, _ => call

end Call

/-- What the fetches of a call come to. -/
structure Served (call : Call) (env : Env σ) (made : Fetched)
    (outcome : Except ClientError Answer × Env σ) : Prop where
  /-- two numbers come back as they are, for version zero -/
  numbers : ∀ space index, call = .resolve ⟨.byId space, .byId index⟩ →
    made = [] ∧ outcome = (.ok (.target ⟨space, index, 0⟩), env)
  once : made.length ≤ 1
  /-- whatever names something is fetched for exactly if something is wanting -/
  fetches_iff : ¬ call.IsNumbers →
    (made.length = 1 ↔ Wanting env.fetcher env.tracker call.query)
  /-- what is missing has been fetched for -/
  missing : ∀ gap, outcome.1 = .error (.noSchema gap) → made.length = 1
  /-- without a fetch the snapshot answers, and nothing changes -/
  unfetched : ¬ call.IsNumbers → made = [] →
    outcome.2 = env ∧ ∃ answer, outcome.1 = .ok answer ∧
      call.AnsweredBy env.fetcher.snapshot.cache answer
  /-- a fetch that fails is reported, and the snapshot stays as it is, but stale -/
  failed : ∀ e, .error e ∈ made →
    outcome.1 = .error e ∧ outcome.2.fetcher.snapshot = env.fetcher.snapshot ∧
      outcome.2.fetcher.fetches = env.fetcher.fetches ∧ outcome.2.fetcher.isStale = true
  /-- a fetch that succeeds makes the next snapshot, which is not stale -/
  succeeded : ∀ rows, .ok rows ∈ made →
    outcome.2.fetcher.snapshot = ⟨env.fetcher.snapshot.generation + 1,
        .ofRows rows.version rows.spaceRows rows.indexRows⟩ ∧
      outcome.2.fetcher.fetches = env.fetcher.fetches + 1 ∧ outcome.2.fetcher.isStale = false
  /-- and that snapshot answers, or what is asked is missing -/
  answered : ∀ rows, .ok rows ∈ made →
    (∀ answer, outcome.1 = .ok answer ↔ (call.again env.fetcher env.tracker).AnsweredBy
        (.ofRows rows.version rows.spaceRows rows.indexRows) answer) ∧
      ((∃ answer, outcome.1 = .ok answer) ∨ ∃ gap, outcome.1 = .error (.noSchema gap))

/-! ## The fetches of one call -/

section Alone

variable {fetch : Fetch σ} {env : Env σ} {notes : Fetched} {q : Query} {reason : FetchReason}
  {a : Resolution}

/-- A lookup that need not wait writes no fetch down. -/
theorem lookup_noting_of_begin (h : env.fetcher.begin env.tracker q = .ok a) :
    lookup (noted fetch) q (env.noting notes) =
      ((lookup fetch q env).1, (lookup fetch q env).2.noting notes) := by
  have hnoting : lookup (noted fetch) q (env.noting notes) = (.ok a, env.noting notes) :=
    lookup_of_begin h
  rw [hnoting, lookup_of_begin h]

/-- A lookup that waits writes one down. -/
theorem lookup_noting_of_wait (h : env.fetcher.begin env.tracker q = .error reason) :
    lookup (noted fetch) q (env.noting notes) =
      ((lookup fetch q env).1,
        (lookup fetch q env).2.noting (notes ++ [(fetch env.tracker env.world).1])) := by
  have hnoting : lookup (noted fetch) q (env.noting notes) =
      fetchFor (noted fetch) q reason
        { env.noting notes with
          fetcher := { env.fetcher with isStale := false, isBusy := true } } :=
    lookup_eq_fetchFor h
  rw [hnoting, lookup_eq_fetchFor h]
  rfl

namespace Call

variable {call : Call}

theorem run_numbers (space index : UInt32) :
    (resolve ⟨.byId space, .byId index⟩).run fetch env =
      (.ok (.target ⟨space, index, 0⟩), env) := rfl

theorem made_numbers (space index : UInt32) :
    (resolve ⟨.byId space, .byId index⟩).made fetch env = [] := rfl

/-- A call that is not for numbers is a lookup. -/
theorem run_of_not_isNumbers (h : ¬ call.IsNumbers) : call.run fetch env =
    ((lookup fetch call.query env).1.map call.answer, (lookup fetch call.query env).2) := by
  have hmap {β γ : Type} (result : Except ClientError Resolution) (f : Resolution → β)
      (g : β → γ) : (result.map f).map g = result.map (g ∘ f) := by cases result <;> rfl
  cases call with
  | get space => exact Prod.ext (hmap _ _ _) rfl
  | resolve q =>
      have hnumbers : q.numbers? = none := by
        unfold Query.numbers?
        split
        · rename_i space index hspace hindex
          obtain ⟨_, _⟩ := q
          cases hspace
          cases hindex
          exact absurd ⟨space, index, rfl⟩ h
        · rfl
      simp only [run, Fetcher.resolve, hnumbers, hmap]
      rfl

/-- A call whose lookup need not wait makes no fetch. -/
theorem made_of_begin (h : ¬ call.IsNumbers)
    (hbegin : env.fetcher.begin env.tracker call.query = .ok a) : call.made fetch env = [] := by
  rw [made, run_of_not_isNumbers h, lookup_noting_of_begin hbegin]
  rfl

/-- A call whose lookup waits makes one. -/
theorem made_of_wait (h : ¬ call.IsNumbers)
    (hbegin : env.fetcher.begin env.tracker call.query = .error reason) :
    call.made fetch env = [(fetch env.tracker env.world).1] := by
  rw [made, run_of_not_isNumbers h, lookup_noting_of_wait hbegin]
  rfl

/-- Writing the fetches down changes nothing in the course of a call. -/
theorem run_noting (fetch : Fetch σ) (call : Call) (env : Env σ) :
    call.run (noted fetch) (env.noting []) =
      ((call.run fetch env).1, (call.run fetch env).2.noting (call.made fetch env)) := by
  by_cases h : call.IsNumbers
  · obtain ⟨space, index, rfl⟩ := h
    rfl
  · rw [run_of_not_isNumbers h, run_of_not_isNumbers h]
    cases hbegin : env.fetcher.begin env.tracker call.query with
    | ok a => rw [made_of_begin h hbegin, lookup_noting_of_begin hbegin]
    | error reason =>
        rw [made_of_wait h hbegin, lookup_noting_of_wait hbegin]
        rfl

/-- The answer of a snapshot is what it says. -/
theorem answeredBy_iff {s : Snapshot} {answer : Answer} :
    call.AnsweredBy s.cache answer ↔ ∃ a, ask s call.query = .ok a ∧ call.answer a = answer := by
  constructor
  · intro h
    cases call with
    | get target =>
        cases answer with
        | target r => cases h
        | space space =>
            exact ⟨⟨space, 0, s.cache.version⟩, ask_eq_ok_iff.2 ⟨space, 0, h, rfl, rfl⟩, rfl⟩
    | resolve q =>
        cases answer with
        | space space => cases h
        | target r =>
            obtain ⟨space, hspace, hid, hindex, hversion⟩ := h
            refine ⟨⟨space, r.indexId, s.cache.version⟩,
              ask_eq_ok_iff.2 ⟨space, r.indexId, hspace, hindex, rfl⟩, ?_⟩
            simp only [Call.answer, Resolution.target, hid, hversion]
  · rintro ⟨a, hask, rfl⟩
    obtain ⟨space, indexId, hspace, hindex, rfl⟩ := ask_eq_ok_iff.1 hask
    cases call with
    | get target => exact hspace
    | resolve q => exact ⟨space, hspace, rfl, hindex, rfl⟩

/-- A lookup that waits answers from the snapshot that it fetches, which it asks again. -/
theorem answer_eq_ok_iff_answeredBy {s : Snapshot} {answer : Answer} (hs : s.cache.Keyed)
    (hbegin : env.fetcher.begin env.tracker call.query = .error reason) :
    (Fetcher.answer s call.query reason).map call.answer = .ok answer ↔
      (call.again env.fetcher env.tracker).AnsweredBy s.cache answer := by
  have hmap (result : Except ClientError Resolution) :
      result.map call.answer = .ok answer ↔ ∃ a, result = .ok a ∧ call.answer a = answer := by
    cases result with
    | error e => simp [Except.map]
    | ok a => simp [Except.map]
  rw [hmap]
  rcases begin_eq_error_cases hbegin with ⟨hfresh, space, name, hspace, hindex, rfl⟩ |
    ⟨hstale, hreason⟩
  · have hagain : call.again env.fetcher env.tracker =
        .resolve ⟨.byId space.id, call.query.index⟩ := by
      simp only [again, hfresh, hspace]
    rw [hagain]
    cases call with
    | get target => cases hindex
    | resolve q =>
        constructor
        · rintro ⟨a, ha, rfl⟩
          obtain ⟨now, indexId, hnow, hfound, rfl⟩ := answer_missingIndex_eq_ok_iff.1 ha
          exact ⟨now, hnow, hs space.id now hnow, hfound, rfl⟩
        · intro h
          cases answer with
          | space other => cases h
          | target r =>
              obtain ⟨now, hnow, hid, hfound, hversion⟩ := h
              have hkept : space.id = r.spaceId := (hs space.id now hnow).symm.trans hid
              refine ⟨⟨space, r.indexId, s.cache.version⟩,
                answer_missingIndex_eq_ok_iff.2 ⟨now, r.indexId, hnow, hfound, rfl⟩, ?_⟩
              simp only [Call.answer, Resolution.target, hkept, hversion]
  · have hagain : call.again env.fetcher env.tracker = call := by
      unfold again
      split
      · rename_i hfresh hspace
        rcases hstale with hstale | hnone
        · cases hstale.symm.trans hfresh
        · cases hnone.symm.trans hspace
      · rfl
    rw [hagain, answeredBy_iff]
    simp only [answer_eq_ok_iff hreason]

/-! ### The ways of a call -/

theorem served_of_isNumbers (h : call.IsNumbers) :
    Served call env (call.made fetch env) (call.run fetch env) := by
  obtain ⟨space, index, rfl⟩ := h
  rw [made_numbers, run_numbers]
  constructor
  · rintro _ _ ⟨⟩
    exact ⟨rfl, rfl⟩
  · exact Nat.zero_le 1
  · intro hnot
    exact absurd ⟨space, index, rfl⟩ hnot
  · intro gap hgap
    cases hgap
  · intro hnot
    exact absurd ⟨space, index, rfl⟩ hnot
  · intro e he
    cases he
  · intro rows hrows
    cases hrows
  · intro rows hrows
    cases hrows

theorem served_of_begin (h : ¬ call.IsNumbers)
    (hbegin : env.fetcher.begin env.tracker call.query = .ok a) :
    Served call env (call.made fetch env) (call.run fetch env) := by
  rw [made_of_begin h hbegin, run_of_not_isNumbers h, lookup_of_begin hbegin]
  constructor
  · intro space index hcall
    exact absurd ⟨space, index, hcall⟩ h
  · exact Nat.zero_le 1
  · intro _
    exact iff_of_false (by simp) (exists_begin_eq_ok_iff.1 ⟨a, hbegin⟩)
  · intro gap hgap
    cases hgap
  · intro _ _
    exact ⟨rfl, call.answer a, rfl, answeredBy_iff.2 ⟨a, (begin_eq_ok_iff.1 hbegin).2, rfl⟩⟩
  · intro e he
    cases he
  · intro rows hrows
    cases hrows
  · intro rows hrows
    cases hrows

theorem served_of_wait (h : ¬ call.IsNumbers)
    (hbegin : env.fetcher.begin env.tracker call.query = .error reason) :
    Served call env (call.made fetch env) (call.run fetch env) := by
  have hwanting : Wanting env.fetcher env.tracker call.query :=
    exists_begin_eq_error_iff.1 ⟨reason, hbegin⟩
  have hresult {result : Except ClientError FetchedRows}
      (hmade : result ∈ [(fetch env.tracker env.world).1]) :
      fetch env.tracker env.world = (result, (fetch env.tracker env.world).2) :=
    Prod.ext (List.mem_singleton.1 hmade).symm rfl
  rw [made_of_wait h hbegin, run_of_not_isNumbers h]
  constructor
  · intro space index hcall
    exact absurd ⟨space, index, hcall⟩ h
  · exact Nat.le_refl 1
  · intro _
    exact iff_of_true rfl hwanting
  · intro _ _
    rfl
  · intro _ hmade
    cases hmade
  · intro e he
    rw [lookup_of_fetch_eq_error hbegin (hresult he)]
    exact ⟨rfl, rfl, rfl, rfl⟩
  · intro rows hrows
    rw [lookup_of_fetch_eq_ok hbegin (hresult hrows)]
    exact ⟨rfl, rfl, rfl⟩
  · intro rows hrows
    rw [lookup_of_fetch_eq_ok hbegin (hresult hrows)]
    refine ⟨?_, ?_⟩
    · intro answer
      exact answer_eq_ok_iff_answeredBy (SchemaCache.keyed_ofRows _ _ _) hbegin
    · cases hanswer : Fetcher.answer (env.fetcher.install rows).snapshot call.query reason with
      | ok a => exact .inl ⟨call.answer a, rfl⟩
      | error e =>
          obtain ⟨gap, rfl⟩ := noSchema_of_answer hanswer
          exact .inr ⟨gap, rfl⟩

theorem served (fetch : Fetch σ) (call : Call) (env : Env σ) :
    Served call env (call.made fetch env) (call.run fetch env) := by
  by_cases h : call.IsNumbers
  · exact served_of_isNumbers h
  · cases hbegin : env.fetcher.begin env.tracker call.query with
    | ok a => exact served_of_begin h hbegin
    | error reason => exact served_of_wait h hbegin

end Call

end Alone

/-! ## A stale snapshot -/

/-- Something that happens to a fetcher, one thing at a time. -/
inductive Action (σ : Type) where
  | call (call : Call)
  /-- a fetch is demanded -/
  | invalidate
  /-- a version is seen -/
  | observe (version : UInt64)
  /-- something happens that has nothing to do with the fetcher -/
  | change (act : σ → σ)

namespace Action

/-- How things stand after an action. -/
def after (fetch : Fetch σ) (env : Env σ) : Action σ → Env σ
  | call c => (c.run fetch env).2
  | invalidate => { env with fetcher := env.fetcher.invalidate }
  | observe version => { env with tracker := env.tracker.observe version }
  | change act => { env with world := act env.world }

/-- The fetches that an action makes. -/
def made (fetch : Fetch σ) (env : Env σ) : Action σ → Fetched
  | call c => c.made fetch env
  | invalidate | observe _ | change _ => []

/-- How things stand after a run of actions. -/
def afterAll (fetch : Fetch σ) (env : Env σ) (actions : List (Action σ)) : Env σ :=
  actions.foldl (after fetch) env

/-- The fetches that a run of actions makes. -/
def madeByAll (fetch : Fetch σ) (env : Env σ) : List (Action σ) → Fetched
  | [] => []
  | action :: rest => action.made fetch env ++ madeByAll fetch (action.after fetch env) rest

variable {fetch : Fetch σ} {env : Env σ}

theorem madeByAll_concat (actions : List (Action σ)) (last : Action σ) :
    madeByAll fetch env (actions ++ [last]) =
      madeByAll fetch env actions ++ last.made fetch (afterAll fetch env actions) := by
  induction actions generalizing env with
  | nil => exact List.append_nil _
  | cons action rest ih =>
      rw [List.cons_append, madeByAll, madeByAll, ih, List.append_assoc]
      rfl

/-- A stale snapshot is not answered from: a call that is answered has fetched. -/
theorem exists_ok_mem_made_of_answered {call : Call} {answer : Answer}
    (hstale : env.fetcher.isStale = true) (h : ¬ call.IsNumbers)
    (hanswer : (call.run fetch env).1 = .ok answer) : ∃ rows, .ok rows ∈ call.made fetch env := by
  have hserved : Served call env (call.made fetch env) (call.run fetch env) :=
    call.served fetch env
  obtain ⟨result, hresult⟩ :=
    List.length_eq_one_iff.1 ((hserved.fetches_iff h).2 (.stale hstale))
  cases result with
  | ok rows => exact ⟨rows, hresult ▸ List.mem_singleton.2 rfl⟩
  | error e =>
      have hfailed : (call.run fetch env).1 = .error e :=
        (hserved.failed e (hresult ▸ List.mem_singleton.2 rfl)).1
      cases hanswer.symm.trans hfailed

/-- A stale snapshot stays stale, unless a fetch succeeds. -/
theorem isStale_after (hstale : env.fetcher.isStale = true) (action : Action σ) :
    (action.after fetch env).fetcher.isStale = true ∨
      ∃ rows, .ok rows ∈ action.made fetch env := by
  cases action with
  | invalidate => exact .inl rfl
  | observe version => exact .inl hstale
  | change act => exact .inl hstale
  | call c =>
      have hserved : Served c env (c.made fetch env) (c.run fetch env) := c.served fetch env
      by_cases h : c.IsNumbers
      · obtain ⟨space, index, rfl⟩ := h
        exact .inl hstale
      · obtain ⟨result, hresult⟩ :=
          List.length_eq_one_iff.1 ((hserved.fetches_iff h).2 (.stale hstale))
        have hmem : result ∈ c.made fetch env := hresult ▸ List.mem_singleton.2 rfl
        cases result with
        | ok rows => exact .inr ⟨rows, hmem⟩
        | error e => exact .inl (hserved.failed e hmem).2.2.2

theorem isStale_afterAll (hstale : env.fetcher.isStale = true) (actions : List (Action σ)) :
    (afterAll fetch env actions).fetcher.isStale = true ∨
      ∃ rows, .ok rows ∈ madeByAll fetch env actions := by
  induction actions generalizing env with
  | nil => exact .inl hstale
  | cons action rest ih =>
      rcases isStale_after hstale action with hafter | ⟨rows, hrows⟩
      · rcases ih hafter with hend | ⟨rows, hrows⟩
        · exact .inl hend
        · exact .inr ⟨rows, List.mem_append_right _ hrows⟩
      · exact .inr ⟨rows, List.mem_append_left _ hrows⟩

end Action

/-- A call for two numbers makes no fetch and gives them back.  Any other call makes one exactly if
something is wanting in the snapshot; it is answered from the snapshot, unchanged, if nothing is,
and otherwise from the one that it fetches, so that something is missing is said only behind a
fetch.  A fetch that fails leaves the snapshot and the count of fetches as they are, and the
snapshot stale: whatever happens then, a call that is answered, other than for two numbers, has a
fetch that succeeded before its answer. -/
theorem calls_fetch_once_iff_wanting (fetch : Fetch σ) (call : Call) (env : Env σ) :
    call.run (noted fetch) (env.noting []) =
        ((call.run fetch env).1, (call.run fetch env).2.noting (call.made fetch env)) ∧
      Served call env (call.made fetch env) (call.run fetch env) ∧
      ∀ e, .error e ∈ call.made fetch env →
        ∀ (between : List (Action σ)) (later : Call) (answer : Answer), ¬ later.IsNumbers →
          (later.run fetch (Action.afterAll fetch (call.run fetch env).2 between)).1 =
              .ok answer →
            ∃ rows, .ok rows ∈
              Action.madeByAll fetch (call.run fetch env).2 (between ++ [.call later]) := by
  refine ⟨Call.run_noting fetch call env, call.served fetch env, ?_⟩
  intro e he between later answer hlater hanswer
  have hstale : (call.run fetch env).2.fetcher.isStale = true :=
    ((call.served fetch env).failed e he).2.2.2
  rw [Action.madeByAll_concat]
  rcases Action.isStale_afterAll hstale between with hstill | ⟨rows, hrows⟩
  · obtain ⟨rows, hrows⟩ := Action.exists_ok_mem_made_of_answered hstill hlater hanswer
    exact ⟨rows, List.mem_append_right _ hrows⟩
  · exact ⟨rows, List.mem_append_left _ hrows⟩

/-! ## A fetch that fails

The first fetch is cut off, and the second one succeeds. -/

namespace Outage

/-- Fetching that takes its results from a script, and is cut off behind its end. -/
def fetch : Fetch Fetched := fun tracker world =>
  match world with
  | [] => (.error .connectionClosed, tracker, [])
  | result :: rest => (result, tracker, rest)

/-- A fetcher that has fetched nothing, before two fetches. -/
def start : Env Fetched :=
  ⟨{ policy := .ignore }, {}, [.error .connectionClosed, .ok Move.rowsBefore]⟩

/-- A call for a space by its name. -/
def users : Call := .get (.byName "users")

theorem not_isNumbers_users : ¬ users.IsNumbers := by
  rintro ⟨_, _, h⟩
  cases h

/-- The call is cut off. -/
theorem run_start : users.run fetch start =
    (.error .connectionClosed,
      ⟨{ policy := .ignore, isStale := true }, {}, [.ok Move.rowsBefore]⟩) := rfl

/-- The next one is answered from what is fetched then. -/
theorem run_again (tracker : SchemaTracker) :
    (users.run fetch ⟨{ policy := .ignore, isStale := true }, tracker, [.ok Move.rowsBefore]⟩).1 =
      .ok (.space Move.usersBefore) := by
  let env : Env Fetched :=
    ⟨{ policy := .ignore, isStale := true }, tracker, [.ok Move.rowsBefore]⟩
  have hbegin : env.fetcher.begin env.tracker users.query = .error .notFresh := rfl
  have hfetch : fetch env.tracker env.world = (.ok Move.rowsBefore, tracker, []) := rfl
  have hask : ask (env.fetcher.install Move.rowsBefore).snapshot users.query =
      .ok ⟨Move.usersBefore, 0, 1⟩ :=
    ask_eq_ok_iff.2 ⟨_, 0, Move.spaceByName?_before, rfl, rfl⟩
  show (users.run fetch env).1 = _
  rw [Call.run_of_not_isNumbers not_isNumbers_users, lookup_of_fetch_eq_ok hbegin hfetch,
    (answer_eq_ok_iff (by simp)).2 hask]
  rfl

/-- The call that is cut off makes the one fetch, and the one behind it is answered since another
fetch has succeeded. -/
theorem calls_fetch_once_iff_wanting_of_outage :
    .error .connectionClosed ∈ users.made fetch start ∧ ¬ users.IsNumbers ∧
      Served users start [.error .connectionClosed] (users.run fetch start) ∧
      (users.run fetch (Action.afterAll fetch (users.run fetch start).2 [.observe 1])).1 =
        .ok (.space Move.usersBefore) ∧
      ∃ rows, .ok rows ∈
        Action.madeByAll fetch (users.run fetch start).2 [.observe 1, .call users] := by
  have hmade : users.made fetch start = [.error .connectionClosed] := rfl
  have hfailed : .error .connectionClosed ∈ users.made fetch start := by
    rw [hmade]
    exact List.mem_cons_self
  have hagain : (users.run fetch (Action.afterAll fetch (users.run fetch start).2
      [.observe 1])).1 = .ok (.space Move.usersBefore) := by
    rw [run_start]
    exact run_again _
  obtain ⟨_, hserved, hlater⟩ := calls_fetch_once_iff_wanting fetch users start
  rw [hmade] at hserved
  exact ⟨hfailed, not_isNumbers_users, hserved, hagain,
    hlater _ hfailed [.observe 1] users _ not_isNumbers_users hagain⟩

end Outage

end TupleWire.Fetcher
