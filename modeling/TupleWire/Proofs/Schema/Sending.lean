/-
  How often a request that rests on the schema is sent, and what is made of its results.

  The sendings of a request are written down beside the world (`recorded`), which
  changes nothing in its course.  `Conduct` is what they come to: one sending, or
  a second one behind a refusal as outdated where versions are not taken strictly;
  a stale snapshot behind each result that speaks of the schema, before anything
  else is sent, and no other change; and the last result as the answer, unless
  versions are taken strictly and the schema has moved.
-/
import TupleWire.Client.Dispatch
import TupleWire.Proofs.Schema.Lookup

set_option autoImplicit false

namespace TupleWire.Fetcher

variable {σ : Type}

/-! ## Results that speak of the schema -/

/-- Whether a result is the server's error of a code. -/
def IsServerError (code : UInt32) (result : Except ClientError Response) : Prop :=
  ∃ message, result = .error (.server ⟨code, message⟩)

/-- Whether a result says that the schema has changed: there is no such index, no such space, or
the version is wrong. -/
def SpeaksOfSchema (result : Except ClientError Response) : Prop :=
  IsServerError 35 result ∨ IsServerError 36 result ∨ IsServerError 109 result

theorem isServerError_server_iff {code : UInt32} {e : ServerError} :
    IsServerError code (.error (.server e)) ↔ e.code = code := by
  constructor
  · rintro ⟨message, h⟩
    cases h
    rfl
  · rintro rfl
    exact ⟨e.message, rfl⟩

theorem isOutdated_iff {result : Except ClientError Response} :
    isOutdated result = true ↔ IsServerError 109 result := by
  constructor
  · intro h
    unfold isOutdated at h
    split at h
    · exact isServerError_server_iff.2 (beq_iff_eq.1 h)
    · cases h
  · rintro ⟨message, rfl⟩
    rfl

theorem isSchemaError_iff {e : ServerError} :
    isSchemaError e.code = true ↔ SpeaksOfSchema (.error (.server e)) := by
  simp only [isSchemaError, SpeaksOfSchema, isServerError_server_iff, Bool.or_eq_true, beq_iff_eq,
    ServerCode.noSuchSpace, ServerCode.noSuchIndex, ServerCode.wrongSchemaVersion]
  rw [or_comm (a := e.code = 36), or_assoc]

/-! ## Sendings -/

/-- One sending: what it began with, its result, and what it left. -/
structure Sending (σ : Type) where
  before : Env σ
  result : Except ClientError Response
  after : Env σ

/-- A way of sending, with every sending written down. -/
def recorded (send : Env σ → Except ClientError Response × Env σ)
    (env : Env (σ × List (Sending σ))) :
    Except ClientError Response × Env (σ × List (Sending σ)) :=
  let before : Env σ := ⟨env.fetcher, env.tracker, env.world.1⟩
  let (result, after) := send before
  (result, after.noting (env.world.2 ++ [⟨before, result, after⟩]))

namespace Sending

/-- How things stand behind a sending when its result has been seen: the snapshot is stale if the
result speaks of the schema, and nothing else has changed. -/
structure Leaves (s : Sending σ) (next : Env σ) : Prop where
  stale : SpeaksOfSchema s.result → next = { s.after with fetcher := s.after.fetcher.invalidate }
  untouched : ¬ SpeaksOfSchema s.result → next = s.after

/-- Whether the result is a response older than the snapshot, of a version. -/
def IsBehind (s : Sending σ) (received : UInt64) : Prop :=
  ∃ response, s.result = .ok response ∧ response.schemaVersion = some received ∧
    received < s.after.fetcher.cachedVersion

end Sending

/-- Whether sendings follow each other from one environment to another: each one begins with what
the one before it left. -/
def Follow (send : Env σ → Except ClientError Response × Env σ) :
    Env σ → List (Sending σ) → Env σ → Prop
  | env, [], last => last = env
  | env, s :: rest, last =>
      s.before = env ∧ send env = (s.result, s.after) ∧
        ∃ next, s.Leaves next ∧ Follow send next rest last

/-- Whether sending leaves the policy alone, which is settled when a fetcher is made. -/
def KeepsPolicy (send : Env σ → Except ClientError Response × Env σ) : Prop :=
  ∀ env, (send env).2.fetcher.policy = env.fetcher.policy

/-- What the sendings of a request come to. -/
structure Conduct (send : Env σ → Except ClientError Response × Env σ) (env : Env σ)
    (sendings : List (Sending σ)) (outcome : Except ClientError Response × Env σ) : Prop where
  /-- there is one sending at least and two at most -/
  count : sendings.length = 1 ∨ sendings.length = 2
  /-- it is sent again exactly if it was refused as outdated and that is not taken strictly -/
  again : sendings.length = 2 ↔
    (∃ first ∈ sendings.head?, IsServerError 109 first.result) ∧ env.fetcher.policy = .ignore
  /-- nothing changes but by the sendings and the results that speak of the schema -/
  follow : Follow send env sendings outcome.2
  /-- a refusal as outdated that is taken strictly is reported with the version of the snapshot and
  the newest one seen -/
  refused : env.fetcher.policy = .strict → ∀ s ∈ sendings.getLast?, IsServerError 109 s.result →
    outcome.1 = .error
      (.schemaVersionMismatch s.after.fetcher.cachedVersion s.after.tracker.current)
  /-- so is a response older than the snapshot -/
  behind : env.fetcher.policy = .strict → ∀ s ∈ sendings.getLast?, ∀ received,
    s.IsBehind received →
      outcome.1 = .error (.schemaVersionMismatch s.after.fetcher.cachedVersion received)
  /-- every other last result is the answer -/
  passed : ∀ s ∈ sendings.getLast?,
    (env.fetcher.policy = .strict →
      ¬ IsServerError 109 s.result ∧ ∀ received, ¬ s.IsBehind received) →
    outcome.1 = s.result

/-! ## One check -/

section Check

variable {f : Fetcher} {result : Except ClientError Response}

theorem check_snd_of_speaksOfSchema (h : SpeaksOfSchema result) :
    (f.check result).2 = f.invalidate := by
  have hserver : ∃ e, result = .error (.server e) := by
    rcases h with ⟨message, rfl⟩ | ⟨message, rfl⟩ | ⟨message, rfl⟩ <;> exact ⟨_, rfl⟩
  obtain ⟨e, rfl⟩ := hserver
  exact if_pos (isSchemaError_iff.2 h)

theorem check_snd_of_not_speaksOfSchema (h : ¬ SpeaksOfSchema result) :
    (f.check result).2 = f := by
  unfold check
  split
  · exact if_neg fun hschema => h (isSchemaError_iff.1 hschema)
  · rfl
  · split
    · split <;> rfl
    · rfl

end Check

namespace Sending

variable {s : Sending σ}

/-- A check leaves the snapshot as the result demands. -/
theorem leaves_check (s : Sending σ) :
    s.Leaves { s.after with fetcher := (s.after.fetcher.check s.result).2 } where
  stale h := by rw [check_snd_of_speaksOfSchema h]
  untouched h := by rw [check_snd_of_not_speaksOfSchema h]

/-- A response older than the snapshot fails the check where versions are taken strictly. -/
theorem check_of_isBehind {received : UInt64} (hpolicy : s.after.fetcher.policy = .strict)
    (h : s.IsBehind received) : (s.after.fetcher.check s.result).1 =
      .error (.schemaVersionMismatch s.after.fetcher.cachedVersion received) := by
  obtain ⟨response, hresult, hversion, hlt⟩ := h
  simp only [hresult, check, hpolicy, hversion, if_pos hlt]

/-- Every other result passes it. -/
theorem check_of_not_isBehind (s : Sending σ)
    (h : s.after.fetcher.policy = .strict → ∀ received, ¬ s.IsBehind received) :
    (s.after.fetcher.check s.result).1 = s.result := by
  unfold check
  split
  · rename_i hresult
    exact hresult.symm
  · rename_i hresult
    exact hresult.symm
  · rename_i response hresult
    split
    · rename_i received hpolicy hversion
      rw [if_neg fun hlt => h hpolicy received ⟨response, hresult, hversion, hlt⟩, hresult]
    · exact hresult.symm

end Sending

/-! ## The course of a request -/

/-- The sending that is made in an environment. -/
def sendingIn (send : Env σ → Except ClientError Response × Env σ) (env : Env σ) : Sending σ :=
  ⟨env, (send env).1, (send env).2⟩

/-- How things stand behind a sending that was refused as outdated. -/
def refusedIn (send : Env σ → Except ClientError Response × Env σ) (env : Env σ) : Env σ :=
  { (send env).2 with fetcher := (send env).2.fetcher.invalidate }

section Course

variable {send : Env σ → Except ClientError Response × Env σ} {env : Env σ}

/-- A result that is no refusal as outdated is checked. -/
theorem processRequest_of_not_isOutdated (send : Env σ → Except ClientError Response × Env σ)
    (env : Env σ) (h : isOutdated (send env).1 = false) :
    processRequest send env =
      (((send env).2.fetcher.check (send env).1).1,
        { (send env).2 with fetcher := ((send env).2.fetcher.check (send env).1).2 }) := by
  simp only [processRequest, h, Bool.false_eq_true, if_false]

/-- A refusal as outdated that is taken strictly is reported. -/
theorem processRequest_of_strict (send : Env σ → Except ClientError Response × Env σ)
    (env : Env σ) (h : isOutdated (send env).1 = true)
    (hpolicy : (send env).2.fetcher.policy = .strict) :
    processRequest send env =
      (.error (.schemaVersionMismatch (send env).2.fetcher.cachedVersion
        (send env).2.tracker.current), refusedIn send env) := by
  have hinvalid : (send env).2.fetcher.invalidate.policy = .strict := hpolicy
  simp only [processRequest, h, if_true, hinvalid, refusedIn]

/-- After a refusal as outdated that is not taken strictly the request is sent once more, on a stale
snapshot, and that result is checked. -/
theorem processRequest_of_ignore (send : Env σ → Except ClientError Response × Env σ)
    (env : Env σ) (h : isOutdated (send env).1 = true)
    (hpolicy : (send env).2.fetcher.policy = .ignore) :
    processRequest send env =
      let again := send (refusedIn send env)
      ((again.2.fetcher.check again.1).1,
        { again.2 with fetcher := (again.2.fetcher.check again.1).2 }) := by
  have hinvalid : (send env).2.fetcher.invalidate.policy = .ignore := hpolicy
  simp only [processRequest, h, if_true, hinvalid, refusedIn]

/-- A refusal that is taken strictly leaves the snapshot stale. -/
theorem Sending.leaves_invalidate {s : Sending σ} (h : IsServerError 109 s.result) :
    s.Leaves { s.after with fetcher := s.after.fetcher.invalidate } where
  stale _ := rfl
  untouched hnot := absurd (.inr (.inr h)) hnot

/-- A request is sent once, and its result is checked. -/
theorem conduct_of_not_isOutdated (hkeeps : KeepsPolicy send)
    (h : ¬ IsServerError 109 (send env).1) :
    Conduct send env [sendingIn send env] (processRequest send env) := by
  have hcurrent : isOutdated (send env).1 = false :=
    Bool.eq_false_iff.2 fun houtdated => h (isOutdated_iff.1 houtdated)
  have hpolicy : (send env).2.fetcher.policy = env.fetcher.policy := hkeeps env
  rw [processRequest_of_not_isOutdated _ _ hcurrent]
  constructor
  · exact .inl rfl
  · refine iff_of_false (by simp) ?_
    rintro ⟨⟨first, hfirst, hrefused⟩, _⟩
    cases hfirst
    exact h hrefused
  · exact ⟨rfl, rfl, _, (sendingIn send env).leaves_check, rfl⟩
  · intro _ s hs hrefused
    cases hs
    exact absurd hrefused h
  · intro hstrict s hs received hbehind
    cases hs
    exact Sending.check_of_isBehind (hpolicy.trans hstrict) hbehind
  · intro s hs hpassed
    cases hs
    exact (sendingIn send env).check_of_not_isBehind fun hstrict =>
      (hpassed (hpolicy.symm.trans hstrict)).2

/-- A refusal as outdated that is taken strictly ends the request. -/
theorem conduct_of_strict (hkeeps : KeepsPolicy send) (h : IsServerError 109 (send env).1)
    (hstrict : env.fetcher.policy = .strict) :
    Conduct send env [sendingIn send env] (processRequest send env) := by
  have hpolicy : (send env).2.fetcher.policy = .strict := (hkeeps env).trans hstrict
  rw [processRequest_of_strict _ _ (isOutdated_iff.2 h) hpolicy]
  constructor
  · exact .inl rfl
  · refine iff_of_false (by simp) ?_
    rintro ⟨_, hignore⟩
    rw [hstrict] at hignore
    cases hignore
  · exact ⟨rfl, rfl, _, Sending.leaves_invalidate h, rfl⟩
  · intro _ s hs _
    cases hs
    rfl
  · intro _ s hs received hbehind
    cases hs
    obtain ⟨message, hrefused⟩ := h
    obtain ⟨response, hresponse, _⟩ := hbehind
    rw [sendingIn, hrefused] at hresponse
    cases hresponse
  · intro s hs hpassed
    cases hs
    exact absurd h (hpassed hstrict).1

/-- A refusal as outdated that is not taken strictly is followed by one more sending, whose result
is the answer. -/
theorem conduct_of_ignore (hkeeps : KeepsPolicy send) (h : IsServerError 109 (send env).1)
    (hignore : env.fetcher.policy = .ignore) :
    Conduct send env [sendingIn send env, sendingIn send (refusedIn send env)]
      (processRequest send env) := by
  have hfirst : (send env).2.fetcher.policy = .ignore := (hkeeps env).trans hignore
  have hsecond : (send (refusedIn send env)).2.fetcher.policy = .ignore :=
    (hkeeps (refusedIn send env)).trans hfirst
  have hnever {policy : SchemaVersionPolicy} (hpolicy : policy = .ignore)
      (hstrict : policy = .strict) : False := by
    rw [hpolicy] at hstrict
    cases hstrict
  rw [processRequest_of_ignore _ _ (isOutdated_iff.2 h) hfirst]
  constructor
  · exact .inr rfl
  · exact iff_of_true rfl ⟨⟨_, rfl, h⟩, hignore⟩
  · exact ⟨rfl, rfl, _, Sending.leaves_invalidate h, rfl, rfl, _, Sending.leaves_check _, rfl⟩
  · intro hstrict
    exact (hnever hignore hstrict).elim
  · intro hstrict
    exact (hnever hignore hstrict).elim
  · intro s hs _
    cases hs
    exact (sendingIn send (refusedIn send env)).check_of_not_isBehind fun hstrict =>
      (hnever hsecond hstrict).elim

/-- A request that rests on the schema is sent once, or twice exactly if the first result is a
refusal as outdated and versions are not taken strictly.  Behind each sending the snapshot is stale
if the result speaks of the schema, before anything else is sent, and otherwise everything is as the
sending has left it.  The last result is the answer, unless versions are taken strictly and it is a
refusal as outdated or older than the snapshot. -/
theorem requests_are_sent_again_iff_outdated (send : Env σ → Except ClientError Response × Env σ)
    (env : Env σ) (hkeeps : KeepsPolicy send) :
    ∃ sendings,
      processRequest (recorded send) (env.noting []) =
        ((processRequest send env).1, (processRequest send env).2.noting sendings) ∧
      Conduct send env sendings (processRequest send env) := by
  by_cases houtdated : IsServerError 109 (send env).1
  · have hrefused : isOutdated (send env).1 = true := isOutdated_iff.2 houtdated
    cases hpolicy : env.fetcher.policy with
    | strict =>
        have hafter : (send env).2.fetcher.policy = .strict := (hkeeps env).trans hpolicy
        refine ⟨_, ?_, conduct_of_strict hkeeps houtdated hpolicy⟩
        rw [processRequest_of_strict _ _ hrefused hafter,
          processRequest_of_strict (recorded send) (env.noting []) hrefused hafter]
        rfl
    | ignore =>
        have hafter : (send env).2.fetcher.policy = .ignore := (hkeeps env).trans hpolicy
        refine ⟨_, ?_, conduct_of_ignore hkeeps houtdated hpolicy⟩
        rw [processRequest_of_ignore _ _ hrefused hafter,
          processRequest_of_ignore (recorded send) (env.noting []) hrefused hafter]
        rfl
  · have hcurrent : isOutdated (send env).1 = false :=
      Bool.eq_false_iff.2 fun hrefused => houtdated (isOutdated_iff.1 hrefused)
    refine ⟨_, ?_, conduct_of_not_isOutdated hkeeps houtdated⟩
    rw [processRequest_of_not_isOutdated _ _ hcurrent,
      processRequest_of_not_isOutdated (recorded send) (env.noting []) hcurrent]
    rfl

end Course

/-- Resolving the names in a request and sending it leaves the policy alone. -/
theorem keepsPolicy_sendResolved (exchange : Exchange σ) (r : Request) (q : Query)
    (o : RequestOptions) : KeepsPolicy (exchange.sendResolved r q o) := by
  intro env
  have hresolve : (resolve exchange.fetch q env).2.fetcher.policy = env.fetcher.policy := by
    unfold resolve
    split
    · rfl
    · exact policy_lookup exchange.fetch q env
  unfold Exchange.sendResolved
  split
  · rename_i h
    rw [h] at hresolve
    exact hresolve
  · rename_i h
    rw [h] at hresolve
    exact hresolve

/-! ## Results from a script -/

namespace Script

/-- Sending that takes its results from a script, and is cut off behind its end. -/
def send (env : Env (List (Except ClientError Response))) :
    Except ClientError Response × Env (List (Except ClientError Response)) :=
  match env.world with
  | [] => (.error .connectionClosed, env)
  | result :: rest => (result, { env with world := rest })

theorem keepsPolicy_send : KeepsPolicy send := by
  intro env
  unfold send
  split <;> rfl

/-- The refusal of a request with an outdated version. -/
def outdated : Except ClientError Response := .error (.server ⟨109, "wrong schema version"⟩)

/-- The answer that there is no such space. -/
def noSpace : Except ClientError Response := .error (.server ⟨36, "no such space"⟩)

/-- A fetcher that asks again, before a refusal as outdated and an answer that the space is not
there. -/
def start : Env (List (Except ClientError Response)) :=
  ⟨{ policy := .ignore }, { current := 3 }, [outdated, noSpace, outdated]⟩

/-- The request is sent a second time and not a third time, and the second result is the answer. -/
theorem requests_are_sent_again_iff_outdated_of_script :
    KeepsPolicy send ∧ ∃ sendings, sendings.map Sending.result = [outdated, noSpace] ∧
      Conduct send start sendings
        (noSpace, ⟨start.fetcher.invalidate, start.tracker, [outdated]⟩) := by
  refine ⟨keepsPolicy_send, ?_⟩
  obtain ⟨sendings, hrecorded, hconduct⟩ :=
    requests_are_sent_again_iff_outdated send start keepsPolicy_send
  refine ⟨sendings, ?_, hconduct⟩
  have hsendings : (processRequest (recorded send) (start.noting [])).2.world.2 = sendings := by
    rw [hrecorded]
    rfl
  rw [← hsendings]
  rfl

end Script

end TupleWire.Fetcher
