/-
  The stages of an attempt to connect.

  An attempt asks for one thing after the other and goes on only if it was given.
  `Underway` is what is known while it waits, by the stage that it is in;
  `Between` what is known before it asks for the next thing.  Each leads to the
  other or to an end, of which `Connected` and `Failed` say what is known then:
  `Between.course` for what asking leads to, `Underway.step` for what a result
  leads to.
-/
import TupleWire.Proofs.Connection.Asking

set_option autoImplicit false

namespace TupleWire

open Effect

/-! ## What is agreed on -/

/-- The lower of both versions, and just the features whose numbers the server lists, whatever
else is in the list. -/
theorem Negotiated.ofBody_spec (body : Body) :
    (ofBody body).version = min ((body.uint? Key.version).getD 0) 6 ∧
      ∀ f, (ofBody body).features.contains f = true ↔
        ∃ v ∈ body.items Key.features, v.asUInt? = some f.id.toUInt64 := by
  refine ⟨rfl, fun f => ?_⟩
  have hcontains : (ofBody body).features.contains f =
      ((body.items Key.features).filterMap Value.asUInt?).contains f.id.toUInt64 := rfl
  rw [hcontains, List.contains_iff_mem, List.mem_filterMap]

namespace Attempt

/-! ## Stages -/

/-- The number of the ping, which is the last request. -/
def pingSync (group : Group) : UInt64 := if group.needsAuth then 3 else 2

/-- The frame of a stage. -/
def frameOf (group : Group) (salt : Bytes) : HandshakeStage → Packet
  | .identifying => ⟨Header.request .id 1, Body.identify 6 .all⟩
  | .authenticating =>
      ⟨Header.request .auth 2, Body.auth group.user (scramble salt group.password)⟩
  | .probing => ⟨Header.request .ping (pingSync group), Body.empty⟩

/-- The frames that a handshake sends, in order. -/
def frames (group : Group) (salt : Bytes) : List Packet :=
  (if group.needsAuth then [.identifying, .authenticating, .probing]
    else [.identifying, .probing]).map (frameOf group salt)

/-- The request of a stage. -/
def requestOf (group : Group) : HandshakeStage → Request
  | .identifying => .custom .id (Body.identify protocolVersion .all)
  | .authenticating => .authorize group.user group.password
  | .probing => .ping

/-- The place of a stage's frame among all. -/
def position (group : Group) : HandshakeStage → Nat
  | .identifying => 1
  | .authenticating => 2
  | .probing => if group.needsAuth then 3 else 2

theorem position_le (group : Group) (stage : HandshakeStage) : position group stage ≤ 3 := by
  cases stage with
  | identifying | authenticating => simp [position]
  | probing =>
      rw [position]
      split <;> simp

/-- The server has answered the first request, or said that it does not know it, and this is agreed
on with it. -/
def Identified (past : List Effect) (negotiated : Negotiated) : Prop :=
  (∃ response, resultsOf 1 past = [.ok response] ∧ negotiated = .ofBody response.body) ∨
    ∃ error, resultsOf 1 past = [.error (.server error)] ∧ error.code = 48 ∧
      negotiated = .nothing

/-- The user is authenticated, if there is need. -/
def Authenticated (group : Group) (past : List Effect) : Prop :=
  group.needsAuth = true → ∃ response, resultsOf 2 past = [.ok response]

/-- The ping was answered. -/
def Probed (group : Group) (past : List Effect) : Prop :=
  ∃ response, resultsOf (pingSync group) past = [.ok response]

/-- The server agrees to everything. -/
structure Agreed (group : Group) (past : List Effect) : Prop where
  identified : ∃ negotiated, Identified past negotiated
  authenticated : Authenticated group past
  probed : Probed group past

/-- What was given before a stage. -/
def Passed (group : Group) (past : List Effect) (negotiated : Negotiated) :
    HandshakeStage → Prop
  | .identifying => True
  | .authenticating => group.needsAuth = true ∧ Identified past negotiated
  | .probing => Identified past negotiated ∧ Authenticated group past

variable {all : List (Nat × Event)} {group : Group} {salt : Bytes} {past later : List Effect}
  {negotiated : Negotiated} {stage : HandshakeStage} {c : Connection} {e : ClientError}
  {now : Nat}

theorem identified_iff : Identified past negotiated ↔
    ∃ result, resultsOf 1 past = [result] ∧ Negotiated.ofResult result = .ok negotiated := by
  constructor
  · rintro (⟨response, hresponse, rfl⟩ | ⟨error, herror, hcode, rfl⟩)
    · exact ⟨_, hresponse, rfl⟩
    · exact ⟨_, herror, if_pos hcode⟩
  · rintro ⟨result, hresult, hnegotiated⟩
    cases result with
    | ok response =>
        cases hnegotiated
        exact .inl ⟨response, hresult, rfl⟩
    | error e =>
        cases e with
        | server error =>
            rw [Negotiated.ofResult] at hnegotiated
            split at hnegotiated
            · rename_i hcode
              cases hnegotiated
              exact .inr ⟨error, hresult, hcode, rfl⟩
            · cases hnegotiated
        | _ => cases hnegotiated

theorem exists_identified_iff : (∃ negotiated, Identified past negotiated) ↔
    ∃ negotiated, (resultsOf 1 past).map Negotiated.ofResult = [.ok negotiated] := by
  simp only [identified_iff, List.map_eq_singleton_iff]

theorem agreed_iff : Agreed group past ↔
    (∃ negotiated, Identified past negotiated) ∧ Authenticated group past ∧ Probed group past :=
  ⟨fun h => ⟨h.identified, h.authenticated, h.probed⟩, fun h => ⟨h.1, h.2.1, h.2.2⟩⟩

/-- Whether there is just one result, and a good one. -/
instance {ε α : Type} (results : List (Except ε α)) : Decidable (∃ x, results = [.ok x]) :=
  match results with
  | [.ok x] => isTrue ⟨x, rfl⟩
  | [] | [.error _] | _ :: _ :: _ => isFalse (by rintro ⟨_, h⟩; cases h)

instance : Decidable (∃ negotiated, Identified past negotiated) :=
  decidable_of_iff' _ exists_identified_iff

instance : Decidable (Authenticated group past) :=
  inferInstanceAs
    (Decidable (group.needsAuth = true → ∃ response, resultsOf 2 past = [.ok response]))

instance : Decidable (Probed group past) :=
  inferInstanceAs (Decidable (∃ response, resultsOf (pingSync group) past = [.ok response]))

instance : Decidable (Agreed group past) := decidable_of_iff' _ agreed_iff

theorem Identified.keeps (h : Identified past negotiated) (hkeeps : Keeps past later) :
    Identified later negotiated := by
  obtain ⟨result, hresult, hnegotiated⟩ := identified_iff.1 h
  exact identified_iff.2 ⟨result, hkeeps _ _ hresult, hnegotiated⟩

theorem Authenticated.keeps (h : Authenticated group past) (hkeeps : Keeps past later) :
    Authenticated group later := by
  intro hneeds
  obtain ⟨response, hresponse⟩ := h hneeds
  exact ⟨response, hkeeps _ _ hresponse⟩

theorem Passed.keeps (h : Passed group past negotiated stage) (hkeeps : Keeps past later) :
    Passed group later negotiated stage := by
  cases stage with
  | identifying => exact trivial
  | authenticating => exact ⟨h.1, h.2.keeps hkeeps⟩
  | probing => exact ⟨h.1.keeps hkeeps, h.2.keeps hkeeps⟩

theorem Passed.position_lt (h : Passed group past negotiated stage) (hstage : stage ≠ .probing) :
    position group stage < position group .probing := by
  cases stage with
  | identifying =>
      rw [position, position]
      split <;> simp
  | authenticating =>
      rw [position, position, if_pos h.1]
      simp
  | probing => exact absurd rfl hstage

/-- No stage is behind the last one. -/
theorem Passed.position_le (h : Passed group past negotiated stage) :
    position group stage ≤ position group .probing := by
  by_cases hstage : stage = .probing
  · exact Nat.le_of_eq (congrArg _ hstage)
  · exact Nat.le_of_lt (h.position_lt hstage)

/-! ## What is known -/

/-- Whether there is nothing in the way of the user's authentication. -/
structure MayAuthenticate (group : Group) (salt : Bytes) (past : List Effect) : Prop where
  needed : group.needsAuth = true
  identified : ∃ negotiated, Identified past negotiated
  named : group.user ≠ ""
  fits : ∃ bytes, (frameOf group salt .authenticating).frame = .ok bytes

/-- What has to be there before the frame of a stage goes out. -/
def MaySend (group : Group) (salt : Bytes) (past : List Effect) : HandshakeStage → Prop
  | .identifying => True
  | .authenticating => MayAuthenticate group salt past
  | .probing => (∃ negotiated, Identified past negotiated) ∧ Authenticated group past

/-- No frame has gone out before its time. -/
def Orderly (group : Group) (salt : Bytes) (past : List Effect) : Prop :=
  ∀ stage, frameOf group salt stage ∈ packetsOf past → MaySend group salt past stage

/-- Why an attempt that got as far as a handshake fails. -/
inductive Reason (all : List (Nat × Event)) (group : Group) (salt : Bytes) (past : List Effect) :
    ClientError → Prop
  /-- the first request got another answer than that it is not known -/
  | identification {result : Except ClientError Response} {e : ClientError}
      (answer : resultsOf 1 past = [result]) (refused : Negotiated.ofResult result = .error e) :
      Reason all group salt past e
  /-- the user was not accepted -/
  | authentication {e : ClientError} (needed : group.needsAuth = true)
      (answer : resultsOf 2 past = [.error e]) :
      Reason all group salt past (Handshake.authError e)
  | probe {e : ClientError} (answer : resultsOf (pingSync group) past = [.error e]) :
      Reason all group salt past e
  /-- nobody can authenticate without a name -/
  | nameless (needed : group.needsAuth = true) (nameless : group.user = "") :
      Reason all group salt past (.contract .emptyUserName)
  /-- the user's name is too long for a frame -/
  | tooLong {fault : ProtocolError} (needed : group.needsAuth = true)
      (long : (frameOf group salt .authenticating).frame = .error fault) :
      Reason all group salt past (.protocol fault)
  /-- the connection came to its end before the next request -/
  | lost (h : Occurs all .lost) : Reason all group salt past .connectionClosed
  | timedOut (h : Occurs all .timeOut) :
      Reason all group salt past (.network s!"handshake with {group.addr} timed out")

/-- What is known before the request of a stage. -/
structure Between (all : List (Nat × Event)) (group : Group) (salt : Bytes)
    (stage : HandshakeStage) (c : Connection) (past : List Effect) : Prop where
  tracked : Tracked all salt c past
  issued : c.issued + 1 = position group stage
  sent : packetsOf past = (frames group salt).take c.issued
  orderly : Orderly group salt past
  passed : Passed group past c.negotiated stage

/-- What is known while the result of a request is awaited, or was not used yet. -/
structure Underway (all : List (Nat × Event)) (group : Group) (salt : Bytes) (h : Handshake)
    (answer : Option (Except ClientError Response)) (past : List Effect) : Prop where
  same : h.group = group
  tracked : Tracked all salt h.conn past
  issued : h.conn.issued = position group h.stage
  awaited : h.awaited = UInt64.ofNat h.conn.issued
  sent : packetsOf past = (frames group salt).take h.conn.issued
  orderly : Orderly group salt past
  passed : Passed group past h.conn.negotiated h.stage
  answered : resultsOf h.awaited past = answer.toList
  asked : 0 < startsOf h.awaited past

/-- What is known of a connection that is handed over. -/
structure Connected (all : List (Nat × Event)) (group : Group) (salt : Bytes) (c : Connection)
    (past : List Effect) : Prop where
  agreed : Agreed group past
  negotiated : Identified past c.negotiated
  sent : packetsOf past = frames group salt
  orderly : Orderly group salt past
  /-- it may have come to its end since the ping was answered -/
  state : c.lifecycle = .ready ∨ c.isClosed = true ∧ Occurs all .lost
  once : Once past
  explained : Explained all past

/-- What is known once it is clear that an attempt fails. -/
structure Failing (all : List (Nat × Event)) (group : Group) (salt : Bytes) (e : ClientError)
    (past : List Effect) : Prop where
  sent : packetsOf past <+: frames group salt
  orderly : Orderly group salt past
  due : MayAuthenticate group salt past → ¬ Occurs all .lost →
    frameOf group salt .authenticating ∈ packetsOf past
  unprobed : ¬ Probed group past
  rejected : group.needsAuth = true → ∀ error,
    resultsOf 2 past = [.error (.server error)] → e = .auth error.message
  reason : Reason all group salt past e

/-- What is known of a connection that was given up. -/
structure Failed (all : List (Nat × Event)) (group : Group) (salt : Bytes) (c : Connection)
    (e : ClientError) (past : List Effect) : Prop where
  closed : c.isClosed = true
  failing : Failing all group salt e past
  once : Once past
  explained : Explained all past

/-- What is known of an attempt that got as far as a handshake. -/
inductive Course (all : List (Nat × Event)) (group : Group) (salt : Bytes) :
    Attempt → List Effect → Prop
  | going {h : Handshake} {answer : Option (Except ClientError Response)} {past : List Effect}
      (known : Underway all group salt h answer past) : Course all group salt (.going h answer) past
  | connected {c : Connection} {past : List Effect} (known : Connected all group salt c past) :
      Course all group salt (.connected c) past
  | failed {c : Connection} {e : ClientError} {past : List Effect}
      (known : Failed all group salt c e past) : Course all group salt (.failed c e) past

/-! ## Failures -/

theorem Reason.keeps (h : Reason all group salt past e) (hkeeps : Keeps past later) :
    Reason all group salt later e := by
  cases h with
  | identification hanswer hrefused => exact .identification (hkeeps _ _ hanswer) hrefused
  | authentication hneeded hanswer => exact .authentication hneeded (hkeeps _ _ hanswer)
  | probe hanswer => exact .probe (hkeeps _ _ hanswer)
  | nameless hneeded hnameless => exact .nameless hneeded hnameless
  | tooLong hneeded hlong => exact .tooLong hneeded hlong
  | lost h => exact .lost h
  | timedOut h => exact .timedOut h

theorem MayAuthenticate.keeps (h : MayAuthenticate group salt past)
    (hkeeps : Keeps past later) : MayAuthenticate group salt later where
  needed := h.needed
  identified := by
    obtain ⟨negotiated, hidentified⟩ := h.identified
    exact ⟨negotiated, hidentified.keeps hkeeps⟩
  named := h.named
  fits := h.fits

theorem MaySend.keeps (h : MaySend group salt past stage) (hkeeps : Keeps past later) :
    MaySend group salt later stage := by
  cases stage with
  | identifying => exact trivial
  | authenticating => exact MayAuthenticate.keeps h hkeeps
  | probing =>
      obtain ⟨⟨negotiated, hidentified⟩, hauthenticated⟩ := h
      exact ⟨⟨negotiated, hidentified.keeps hkeeps⟩, hauthenticated.keeps hkeeps⟩

/-- Order stays while nothing is sent. -/
theorem Orderly.keeps (h : Orderly group salt past) (hkeeps : Keeps past later)
    (hsame : packetsOf later = packetsOf past) : Orderly group salt later := by
  intro stage hstage
  rw [hsame] at hstage
  exact (h stage hstage).keeps hkeeps

/-- What a request got other than that the connection was given up, it got before that. -/
theorem GivenUp.resultsOf_eq {effects : List Effect} (h : GivenUp all past c effects)
    {n : UInt64} {result : Except ClientError Response}
    (hresult : resultsOf n (past ++ effects) = [result])
    (hne : result ≠ .error .connectionClosed) : resultsOf n past = [result] := by
  have hmem : result ∈ resultsOf n (past ++ effects) := hresult ▸ List.mem_singleton_self _
  rw [resultsOf_append, List.mem_append] at hmem
  exact h.once.of_append.eq_singleton
    (hmem.resolve_right fun hcut => hne (h.cut n result hcut))

theorem GivenUp.packetsOf_eq {effects : List Effect} (h : GivenUp all past c effects) :
    packetsOf (past ++ effects) = packetsOf past := by
  rw [packetsOf_append, h.silent, List.append_nil]

/-- Giving up makes nothing of a failure that it was not before. -/
theorem Failing.givenUp (h : Failing all group salt e past) {effects : List Effect}
    (hgiven : GivenUp all past c effects) : Failing all group salt e (past ++ effects) where
  sent := by
    rw [hgiven.packetsOf_eq]
    exact h.sent
  orderly := h.orderly.keeps hgiven.once.keeps hgiven.packetsOf_eq
  due hmay := by
    rw [hgiven.packetsOf_eq]
    obtain ⟨negotiated, hidentified⟩ := hmay.identified
    obtain ⟨result, hresult, hnegotiated⟩ := identified_iff.1 hidentified
    refine h.due ⟨hmay.needed, ⟨negotiated, identified_iff.2 ⟨result, ?_, hnegotiated⟩⟩,
      hmay.named, hmay.fits⟩
    refine hgiven.resultsOf_eq hresult ?_
    rintro rfl
    cases hnegotiated
  unprobed := by
    rintro ⟨response, hresponse⟩
    exact h.unprobed ⟨response, hgiven.resultsOf_eq hresponse (nomatch ·)⟩
  rejected hneeded error herror :=
    h.rejected hneeded error (hgiven.resultsOf_eq herror (nomatch ·))
  reason := h.reason.keeps hgiven.once.keeps

/-- An attempt that fails ends with a closed connection. -/
theorem Failing.course (h : Failing all group salt e past) (htracked : Tracked all salt c past)
    (now : Nat) :
    Course all group salt (ofProgress (Handshake.fail c now e).1)
      (past ++ (Handshake.fail c now e).2) := by
  have hgiven := htracked.givenUp now
  exact .failed ⟨hgiven.closed, h.givenUp hgiven, hgiven.once, hgiven.explained⟩

theorem toNat_pingSync (group : Group) : (pingSync group).toNat = position group .probing := by
  rw [pingSync, position]
  split
  · rfl
  · rfl

theorem ofNat_position_probing (group : Group) :
    UInt64.ofNat (position group .probing) = pingSync group := by
  rw [← toNat_pingSync, UInt64.ofNat_toNat]

/-- The frame of the user is among those of the stages behind the first one. -/
theorem authenticating_mem_take (hneeded : group.needsAuth = true) {n : Nat} (hn : 2 ≤ n) :
    frameOf group salt .authenticating ∈ (frames group salt).take n := by
  obtain ⟨n, rfl⟩ := Nat.exists_eq_add_of_le hn
  rw [frames, if_pos hneeded, Nat.add_comm]
  exact List.mem_cons_of_mem _ List.mem_cons_self

/-- A handshake that cannot go on to its next request. -/
theorem Between.failing (h : Between all group salt stage c past)
    (hreason : Reason all group salt past e)
    (hdue : stage = .authenticating → MayAuthenticate group salt past → Occurs all .lost) :
    Failing all group salt e past where
  sent := by
    rw [h.sent]
    exact List.take_prefix _ _
  orderly := h.orderly
  due hmay halive := by
    have hissued := h.issued
    cases stage with
    | identifying =>
        obtain ⟨_, hidentified⟩ := hmay.identified
        obtain ⟨result, hresult, _⟩ := identified_iff.1 hidentified
        have hahead : c.issued < (1 : UInt64).toNat := Nat.lt_of_succ_le (Nat.le_of_eq hissued)
        exact absurd hresult (unanswered_ahead h.tracked.books hahead)
    | authenticating => exact absurd (hdue rfl hmay) halive
    | probing =>
        rw [position, if_pos hmay.needed] at hissued
        rw [h.sent]
        exact authenticating_mem_take hmay.needed (by omega)
  unprobed := by
    rintro ⟨response, hresponse⟩
    have hahead : c.issued < (pingSync group).toNat := by
      rw [toNat_pingSync]
      exact Nat.lt_of_lt_of_le (Nat.lt_of_succ_le (Nat.le_of_eq h.issued)) h.passed.position_le
    exact unanswered_ahead h.tracked.books hahead hresponse
  rejected hneeded error herror := by
    have hissued := h.issued
    have hbooks := h.tracked.books
    cases stage with
    | identifying | authenticating =>
        have hahead : c.issued < (2 : UInt64).toNat := by
          rw [position] at hissued
          simp only [UInt64.reduceToNat]
          omega
        exact absurd herror (unanswered_ahead hbooks hahead)
    | probing =>
        obtain ⟨response, hresponse⟩ := h.passed.2 hneeded
        rw [hresponse] at herror
        cases herror
  reason := hreason

theorem eq_some_of_toList_eq {α : Type} {o : Option α} {a : α} (h : o.toList = [a]) :
    o = some a := by
  cases o with
  | none => cases h
  | some b => exact congrArg some (List.singleton_inj.1 h)

/-- A handshake that waits in vain, or for something else than it gets. -/
theorem Underway.failing {h : Handshake} {answer : Option (Except ClientError Response)}
    (known : Underway all group salt h answer past) (hreason : Reason all group salt past e)
    (hunidentified : h.stage = .identifying → ∀ negotiated, ¬ Identified past negotiated)
    (hunprobed : h.stage = .probing → ∀ response, answer ≠ some (.ok response))
    (hrejected : h.stage = .authenticating → ∀ error,
      answer = some (.error (.server error)) → e = .auth error.message) :
    Failing all group salt e past := by
  obtain ⟨own, conn, stage, awaited⟩ := h
  obtain ⟨-, htracked, hissued, hawaited, hsent, horderly, hpassed, hanswered, -⟩ := known
  dsimp only at htracked hissued hawaited hsent horderly hpassed hanswered
  rw [hissued] at hawaited hsent
  have hbooks := htracked.books
  refine ⟨hsent ▸ List.take_prefix _ _, horderly, fun hmay _ => ?_, ?_,
    fun hneeded error herror => ?_, hreason⟩
  · rw [hsent]
    cases stage with
    | identifying =>
        obtain ⟨negotiated, hidentified⟩ := hmay.identified
        exact absurd hidentified (hunidentified rfl negotiated)
    | authenticating => exact authenticating_mem_take hmay.needed (Nat.le_refl 2)
    | probing =>
        rw [position, if_pos hmay.needed]
        exact authenticating_mem_take hmay.needed (Nat.le_succ 2)
  · rintro ⟨response, hresponse⟩
    by_cases hstage : stage = .probing
    · rw [hawaited, hstage, ofNat_position_probing, hresponse] at hanswered
      exact hunprobed hstage response (eq_some_of_toList_eq hanswered.symm)
    · have hahead : conn.issued < (pingSync group).toNat := by
        rw [toNat_pingSync, hissued]
        exact hpassed.position_lt hstage
      exact unanswered_ahead hbooks hahead hresponse
  · cases stage with
    | identifying =>
        have hahead : conn.issued < (2 : UInt64).toNat := by
          rw [hissued, position]
          decide
        exact absurd herror (unanswered_ahead hbooks hahead)
    | authenticating =>
        have htwo : awaited = 2 := hawaited
        rw [htwo, herror] at hanswered
        exact hrejected rfl error (eq_some_of_toList_eq hanswered.symm)
    | probing =>
        obtain ⟨response, hresponse⟩ := hpassed.2 hneeded
        rw [hresponse] at herror
        cases herror

/-! ## Asking -/

theorem frame_eq_error {packet : Packet} {fault : ProtocolError} (h : packet.frame = .error fault) :
    Packet.payloadLimit < packet.payload.length := by
  unfold Packet.frame at h
  dsimp only at h
  split at h
  · cases h
  · rename_i hlong
    exact Nat.lt_of_not_le hlong

/-- The frame of a stage has its place. -/
theorem frames_getElem? (hpassed : Passed group past negotiated stage) :
    (frames group salt)[position group stage - 1]? = some (frameOf group salt stage) := by
  cases stage with
  | identifying =>
      rw [frames]
      split
      · rfl
      · rfl
  | authenticating =>
      rw [frames, if_pos hpassed.1]
      rfl
  | probing =>
      by_cases hneeds : group.needsAuth = true
      · rw [frames, position, if_pos hneeds, if_pos hneeds]
        rfl
      · rw [frames, position, if_neg hneeds, if_neg hneeds]
        rfl

/-- Frames of two stages differ in what they ask for. -/
theorem frameOf_injective {stage other : HandshakeStage}
    (h : frameOf group salt stage = frameOf group salt other) : stage = other := by
  have hcode := congrArg (fun packet => packet.header.code) h
  cases stage <;> cases other <;> first | rfl | cases hcode

/-- What a handshake asks for next goes out in the frame of the stage. -/
theorem Between.frame_eq (h : Between all group salt stage c past) :
    (⟨c.nextHeader (requestOf group stage).kind none none, (requestOf group stage).body c.salt⟩ :
      Packet) = frameOf group salt stage := by
  have hsync : c.nextSync = UInt64.ofNat (position group stage) := congrArg UInt64.ofNat h.issued
  rw [Connection.nextHeader, h.tracked.salt, hsync]
  cases stage with
  | identifying | authenticating => rfl
  | probing =>
      rw [ofNat_position_probing]
      rfl

/-- What goes out has what it takes. -/
theorem Between.maySend (h : Between all group salt stage c past)
    (hchecked : (requestOf group stage).check c.negotiated = .ok ())
    (hfits : ∃ bytes, (frameOf group salt stage).frame = .ok bytes) :
    MaySend group salt past stage := by
  cases stage with
  | identifying => exact trivial
  | authenticating =>
      refine ⟨h.passed.1, ⟨_, h.passed.2⟩, fun hnameless => ?_, hfits⟩
      rw [requestOf, hnameless] at hchecked
      cases hchecked
  | probing => exact ⟨⟨_, h.passed.1⟩, h.passed.2⟩

/-- Order stays when a frame goes out at its time. -/
theorem Orderly.send (h : Orderly group salt past) (hmay : MaySend group salt past stage)
    (hkeeps : Keeps past later)
    (hsent : packetsOf later = packetsOf past ++ [frameOf group salt stage]) :
    Orderly group salt later := by
  intro other hother
  rw [hsent, List.mem_append] at hother
  rcases hother with hbefore | hnow
  · exact (h other hbefore).keeps hkeeps
  · obtain rfl := frameOf_injective (List.mem_singleton.1 hnow)
    exact hmay.keeps hkeeps

/-- Only the frame of the user may be too long. -/
theorem eq_authenticating {fault : ProtocolError}
    (h : (frameOf group salt stage).frame = .error fault) : stage = .authenticating := by
  have hlong := frame_eq_error h
  cases stage with
  | authenticating => rfl
  | identifying =>
      have hshort : (⟨Header.request .id 1, Body.identify protocolVersion .all⟩ :
          Packet).payload.length ≤ Packet.payloadLimit := by
        decide +kernel
      exact absurd hshort (Nat.not_le_of_lt hlong)
  | probing =>
      have hshort (n : UInt64) (hn : n = 2 ∨ n = 3) :
          (⟨Header.request .ping n, Body.empty⟩ : Packet).payload.length ≤ Packet.payloadLimit := by
        rcases hn with rfl | rfl
        · decide +kernel
        · decide +kernel
      refine absurd (hshort _ ?_) (Nat.not_le_of_lt hlong)
      rw [pingSync]
      split
      · exact .inr rfl
      · exact .inl rfl

/-- Asking leads on, or to a failure. -/
theorem Between.course (h : Between all group salt stage c past) (now : Nat) :
    Course all group salt
      (ofProgress (Handshake.ask group now stage (requestOf group stage) c).1)
      (past ++ (Handshake.ask group now stage (requestOf group stage) c).2) := by
  have hasked := Handshake.ask_asked group now stage (requestOf group stage) c
  generalize Handshake.ask group now stage (requestOf group stage) c = outcome at hasked ⊢
  have hfew : c.issued + 1 ≤ 3 := h.issued ▸ position_le group stage
  cases hasked with
  | sent w hchecked hfits =>
      rw [h.frame_eq] at hfits ⊢
      have htracked := h.tracked.begun hfew w (frameOf group salt stage)
      have hkeeps := (once_of_balanced htracked.books).keeps
      refine .going ⟨rfl, htracked, h.issued, rfl, ?_,
        h.orderly.send (h.maySend hchecked hfits) hkeeps
          (packetsOf_append past _), h.passed.keeps hkeeps, ?_, ?_⟩
      · have hplace : (frames group salt)[c.issued]? = some (frameOf group salt stage) := by
          rw [← frames_getElem? h.passed, ← h.issued]
          rfl
        show packetsOf _ = (frames group salt).take (c.issued + 1)
        rw [packetsOf_append, h.sent, List.take_add_one, hplace]
        rfl
      · have hahead : c.issued < c.nextSync.toNat := by
          rw [Connection.nextSync, UInt64.toNat_ofNat_of_lt']
          · exact Nat.lt_succ_self _
          · exact Nat.lt_of_le_of_lt hfew (by decide)
        show resultsOf c.nextSync _ = []
        rw [resultsOf_append, resultsOf_ahead h.tracked.books hahead]
        rfl
      · exact startsOf_pos_iff.2 (List.mem_append_right _ List.mem_cons_self)
  | @refused refusal hrefused =>
      -- of the three requests only one can be refused
      cases stage with
      | identifying | probing => cases hrefused
      | authenticating =>
          rw [requestOf, Request.check] at hrefused
          split at hrefused
          · rename_i hname
            cases hrefused
            have hnameless : group.user = "" := String.isEmpty_iff.1 hname
            exact (h.failing (.nameless h.passed.1 hnameless)
              fun _ hmay => absurd hnameless hmay.named).course h.tracked now
          · cases hrefused
  | closed hclosed =>
      have hlost := h.tracked.ended hclosed
      exact (h.failing (.lost hlost) fun _ _ => hlost).course h.tracked now
  | @tooLong fault hlong =>
      rw [h.frame_eq] at hlong
      obtain rfl := eq_authenticating hlong
      refine (h.failing (.tooLong h.passed.1 hlong) fun _ hmay => ?_).course
        (h.tracked.advance hfew) now
      obtain ⟨bytes, hfits⟩ := hmay.fits
      cases hlong.symm.trans hfits

/-! ## One stage after the other -/

theorem conn_setLifecycle (c : Connection) (state : Lifecycle) :
    ∃ lifecycle, c.setLifecycle state = { c with lifecycle } := by
  unfold Connection.setLifecycle
  split
  · exact ⟨c.lifecycle, rfl⟩
  · exact ⟨state, rfl⟩

theorem Between.setLifecycle (h : Between all group salt stage c past) (state : Lifecycle)
    (hstate : state ≠ .closed) : Between all group salt stage (c.setLifecycle state) past := by
  have htracked := h.tracked.setLifecycle hstate
  obtain ⟨lifecycle, hconn⟩ := conn_setLifecycle c state
  rw [hconn] at htracked ⊢
  exact ⟨htracked, h.issued, h.sent, h.orderly, h.passed⟩

theorem Between.probe (h : Between all group salt .probing c past) (now : Nat) :
    Course all group salt (ofProgress (Handshake.probe group now c).1)
      (past ++ (Handshake.probe group now c).2) :=
  (h.setLifecycle .schemaSync (by decide)).course now

/-- Once it is agreed on how to talk the user authenticates, or the server is pinged. -/
theorem course_authenticate (htracked : Tracked all salt c past) (hissued : c.issued = 1)
    (hsent : packetsOf past = (frames group salt).take 1) (horderly : Orderly group salt past)
    (hidentified : Identified past c.negotiated) (now : Nat) :
    Course all group salt (ofProgress (Handshake.authenticate group now c).1)
      (past ++ (Handshake.authenticate group now c).2) := by
  unfold Handshake.authenticate
  dsimp only
  by_cases hneeds : group.needsAuth = true
  · have hbetween : Between all group salt .authenticating c past :=
      ⟨htracked, congrArg (· + 1) hissued, hissued ▸ hsent, horderly, hneeds, hidentified⟩
    rw [if_pos hneeds]
    exact (hbetween.setLifecycle .authenticating (by decide)).course now
  · have hbetween : Between all group salt .probing c past := by
      refine ⟨htracked, ?_, hissued ▸ hsent, horderly, hidentified, fun h => absurd h hneeds⟩
      rw [hissued, position, if_neg hneeds]
    rw [if_neg hneeds]
    exact (hbetween.setLifecycle .authenticating (by decide)).probe now

theorem length_frames (group : Group) (salt : Bytes) :
    (frames group salt).length = position group .probing := by
  rw [frames, position]
  split
  · rfl
  · rfl

/-- The answer to the ping makes the connection ready, unless it has come to its end. -/
theorem Connected.of_pong (htracked : Tracked all salt c past)
    (hsent : packetsOf past = (frames group salt).take (position group .probing))
    (horderly : Orderly group salt past) (hpassed : Passed group past c.negotiated .probing)
    (hprobed : Probed group past)
    (version : Option UInt64) :
    Connected all group salt (c.setLifecycle .ready)
      (past ++ (version.map Effect.observed).toList) := by
  have hsilent : ∀ e ∈ (version.map Effect.observed).toList, e.request? = none := by
    cases version <;> simp [Effect.request?]
  have honce := (once_of_balanced htracked.books).append_of_silent hsilent
  have hkeeps := honce.keeps
  have hidentified := hpassed.1.keeps hkeeps
  have hstate : (c.setLifecycle .ready).lifecycle = .ready ∨
      (c.setLifecycle .ready).isClosed = true ∧ Occurs all .lost := by
    unfold Connection.setLifecycle
    split
    · rename_i hclosed
      exact .inr ⟨hclosed, htracked.ended hclosed⟩
    · exact .inl rfl
  obtain ⟨lifecycle, hconn⟩ := conn_setLifecycle c .ready
  rw [hconn] at hstate ⊢
  have hsame : packetsOf (past ++ (version.map Effect.observed).toList) = packetsOf past := by
    rw [packetsOf_append]
    cases version with
    | none => exact List.append_nil _
    | some version => exact List.append_nil _
  refine ⟨⟨⟨_, hidentified⟩, hpassed.2.keeps hkeeps, ?_⟩, hidentified, ?_,
    horderly.keeps hkeeps hsame, hstate, honce,
    htracked.explained.append (explained_of_silent hsilent)⟩
  · obtain ⟨response, hresponse⟩ := hprobed
    exact ⟨response, hkeeps _ _ hresponse⟩
  · rw [hsame, hsent, ← length_frames group salt, List.take_length]

/-- Going on with a result leads on, to a connection or to a failure. -/
theorem Underway.step {h : Handshake} {result : Except ClientError Response}
    (known : Underway all group salt h (some result) past) (now : Nat) :
    Course all group salt (ofProgress (h.step now result).1) (past ++ (h.step now result).2) := by
  have hfailing (e : ClientError) := known.failing (e := e)
  obtain ⟨own, conn, stage, awaited⟩ := h
  obtain ⟨rfl, htracked, hissued, hawaited, hsent, horderly, hpassed, hanswered, -⟩ := known
  dsimp only at htracked hissued hawaited hsent horderly hpassed hanswered hfailing ⊢
  rw [hissued] at hawaited hsent
  cases stage with
  | identifying =>
      obtain rfl : awaited = 1 := hawaited
      have hone : resultsOf 1 past = [result] := hanswered
      simp only [Handshake.step]
      cases hresult : Negotiated.ofResult result with
      | error e =>
          refine (hfailing e (.identification hone hresult) ?_ (nomatch ·) (nomatch ·)).course
            htracked now
          intro _ negotiated hidentified
          obtain ⟨other, hother, hnegotiated⟩ := identified_iff.1 hidentified
          rw [hone] at hother
          cases hother
          cases hresult.symm.trans hnegotiated
      | ok negotiated =>
          exact course_authenticate (htracked.agree negotiated) hissued hsent horderly
            (identified_iff.2 ⟨result, hone, hresult⟩) now
  | authenticating =>
      obtain rfl : awaited = 2 := hawaited
      have htwo : resultsOf 2 past = [result] := hanswered
      simp only [Handshake.step]
      cases result with
      | error e =>
          refine (hfailing _ (.authentication hpassed.1 htwo) (nomatch ·) (nomatch ·) ?_).course
            htracked now
          rintro - error herror
          cases herror
          rfl
      | ok response =>
          refine Between.probe ⟨htracked, ?_, hissued ▸ hsent, horderly, hpassed.2,
            fun _ => ⟨response, htwo⟩⟩ now
          rw [hissued, position, position, if_pos hpassed.1]
  | probing =>
      obtain rfl : awaited = pingSync own := hawaited.trans (ofNat_position_probing own)
      have hlast : resultsOf (pingSync own) past = [result] := hanswered
      simp only [Handshake.step]
      cases result with
      | error e =>
          refine (hfailing e (.probe hlast) (nomatch ·) ?_ (nomatch ·)).course htracked now
          rintro - response hresponse
          cases hresponse
      | ok response =>
          exact .connected (.of_pong htracked hsent horderly hpassed ⟨response, hlast⟩ _)

end Attempt

end TupleWire
