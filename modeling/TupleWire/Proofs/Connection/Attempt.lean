/-
  How an attempt to connect ends.

  Whatever happens on the way leads from what is known at one stage to what is
  known at the next or at an end (`Course.step`), and so does a whole run.
  `Concluded` puts together what that means for whoever connects, `Responsive`
  that nothing that comes in on the way is missed.
-/
import TupleWire.Proofs.Connection.Stages

set_option autoImplicit false

namespace TupleWire

open Effect

namespace Attempt

variable {all : List (Nat × Event)} {group : Group} {salt : Bytes} {past : List Effect}
  {c : Connection} {e : ClientError}

/-! ## Events -/

theorem resultOf?_eq_head? (n : UInt64) (effects : List Effect) :
    Handshake.resultOf? n effects = (resultsOf n effects).head? := by
  rw [resultsOf, List.head?_filterMap, Handshake.resultOf?]
  congr 1

/-- What was kept, or else what has just come, is all that there is. -/
theorem toList_orElse {n : UInt64} {answer : Option (Except ClientError Response)}
    {effects : List Effect} (hanswered : resultsOf n past = answer.toList)
    (honce : Once (past ++ effects)) :
    resultsOf n (past ++ effects) = (answer <|> Handshake.resultOf? n effects).toList := by
  have hone := honce n
  rw [resultOf?_eq_head?]
  rw [resultsOf_append, hanswered] at hone ⊢
  generalize resultsOf n effects = more at hone ⊢
  cases answer with
  | some result =>
      cases more with
      | nil => rfl
      | cons other rest =>
          simp only [Option.toList_some, List.length_append, List.length_cons] at hone
          omega
  | none =>
      cases more with
      | nil => rfl
      | cons result rest =>
          cases rest with
          | nil => rfl
          | cons other rest =>
              simp only [Option.toList_none, List.nil_append, List.length_cons] at hone
              omega

/-- While a handshake waits the connection lives on. -/
theorem Underway.observe {h : Handshake} {answer : Option (Except ClientError Response)}
    (known : Underway all group salt h answer past) {action : Action}
    (haction : Inbound all action) (now : Nat) :
    Course all group salt (observe h answer now action).1
      (past ++ (observe h answer now action).2) := by
  have htracked := known.tracked.inbound haction now
  have hsilent := haction.packetsOf_eq_nil known.tracked.unwatched now
  obtain ⟨hissued, _⟩ := haction.conn_act known.tracked.unwatched now
  obtain ⟨hnegotiated, _⟩ := h.conn.watches_act now haction.leavesWatches
  have hobserve : Attempt.observe h answer now action =
      (.going { h with conn := (h.conn.act now action).2.1 }
        (answer <|> Handshake.resultOf? h.awaited (h.conn.act now action).2.2),
        (h.conn.act now action).2.2) := rfl
  rw [hobserve]
  dsimp only
  generalize (h.conn.act now action).2 = outcome at *
  obtain ⟨conn, effects⟩ := outcome
  dsimp only at *
  have honce := once_of_balanced htracked.books
  have hsame : packetsOf (past ++ effects) = packetsOf past := by
    rw [packetsOf_append, hsilent, List.append_nil]
  refine .going ⟨known.same, htracked, hissued.trans known.issued, ?_, ?_,
    known.orderly.keeps honce.keeps hsame, ?_, toList_orElse known.answered honce, ?_⟩
  · dsimp only
    rw [hissued]
    exact known.awaited
  · dsimp only
    rw [hsame, hissued]
    exact known.sent
  · dsimp only
    rw [hnegotiated]
    exact known.passed.keeps honce.keeps
  · dsimp only
    rw [startsOf_append]
    exact Nat.lt_of_lt_of_le known.asked (Nat.le_add_right _ _)

/-- Going on with what is there. -/
theorem Underway.proceed {h : Handshake} {answer : Option (Except ClientError Response)}
    (known : Underway all group salt h answer past) (now : Nat) :
    Course all group salt (ofProgress (proceed h now answer).1)
      (past ++ (proceed h now answer).2) := by
  cases answer with
  | none =>
      rw [Attempt.proceed, List.append_nil]
      exact .going known
  | some result => exact known.step now

/-- What still waits when the time to connect is over fails. -/
theorem Course.giveUp {progress : HandshakeProgress}
    (known : Course all group salt (ofProgress progress) past) (htime : Occurs all .timeOut)
    (now : Nat) :
    Course all group salt (ofProgress (giveUp now progress).1)
      (past ++ (giveUp now progress).2) := by
  cases progress with
  | ready c =>
      simp only [Attempt.giveUp, List.append_nil]
      exact known
  | failed c e =>
      simp only [Attempt.giveUp, List.append_nil]
      exact known
  | going h =>
      cases known with
      | going known =>
          have hreason : Reason all group salt past
              (.network s!"handshake with {h.group.addr} timed out") := by
            rw [known.same]
            exact .timedOut htime
          refine (known.failing hreason ?_ ?_ ?_).course known.tracked now
          · intro hstage negotiated hidentified
            obtain ⟨result, hresult, _⟩ := identified_iff.1 hidentified
            have hnone := known.answered
            rw [known.awaited, known.issued, hstage] at hnone
            cases hresult.symm.trans hnone
          · rintro - response hresponse
            cases hresponse
          · rintro - error herror
            cases herror

theorem Course.step {a : Attempt} (known : Course all group salt a past) {event : Event}
    (hevent : Occurs all event) (now : Nat) :
    Course all group salt (a.step now event).1 (past ++ (a.step now event).2) := by
  cases known with
  | connected known =>
      rw [Attempt.step, List.append_nil]
      · exact .connected known
      · simp
  | failed known =>
      rw [Attempt.step, List.append_nil]
      · exact .failed known
      · simp
  | @going h answer _ known =>
      cases event with
      | received p => exact known.observe (.received hevent) now
      | expired sync => exact known.observe (.expired sync) now
      | lost => exact known.observe (.lost hevent) now
      | wake => exact known.proceed now
      | timeOut =>
          have hgiven := (known.proceed now).giveUp hevent now
          rw [List.append_assoc] at hgiven
          exact hgiven

theorem Course.run {a : Attempt} (known : Course all group salt a past)
    {steps : List (Nat × Event)} (hsteps : ∀ step ∈ steps, step ∈ all) :
    Course all group salt (a.run steps).1 (past ++ (a.run steps).2) := by
  induction steps generalizing a past with
  | nil =>
      rw [Attempt.run, List.append_nil]
      exact known
  | cons step rest ih =>
      obtain ⟨now, event⟩ := step
      have hnow := known.step ⟨now, hsteps _ List.mem_cons_self⟩ now
      have hrest := ih hnow fun step hstep => hsteps step (List.mem_cons_of_mem _ hstep)
      rw [List.append_assoc] at hrest
      exact hrest

/-- A handshake begins with a connection of its own. -/
theorem course_begin (all : List (Nat × Event)) (group : Group) (index : Nat)
    (requestTimeout : Duration) (now : Nat) {raw : Bytes} {greeting : Greeting}
    (hparse : Greeting.parse raw = .ok greeting) :
    Course all group greeting.salt (begin group index requestTimeout now (.greeted raw)).1
      (begin group index requestTimeout now (.greeted raw)).2 := by
  have htracked : Tracked all greeting.salt
      (Connection.spawned group.tag index greeting.salt requestTimeout) [] :=
    ⟨rfl, Connection.balanced_spawned _ _ _ _, Nat.zero_le 3, rfl, (fun _ _ h => nomatch h),
      (fun h => nomatch h)⟩
  have hbetween : Between all group greeting.salt .identifying
      (Connection.spawned group.tag index greeting.salt requestTimeout) [] :=
    ⟨htracked, rfl, rfl, (fun _ h => nomatch h), trivial⟩
  have hcourse := hbetween.course now
  rw [List.nil_append] at hcourse
  simp only [begin, Connection.greeted, hparse]
  exact hcourse

/-- The coarser view of a handshake is the one in which the task goes on at once. -/
theorem onEvent_eq (h : Handshake) (now : Nat) (action : Action) :
    (ofProgress (h.onEvent now (.conn action)).1, (h.onEvent now (.conn action)).2) =
      (((observe h none now action).1.step now .wake).1,
        (observe h none now action).2 ++ ((observe h none now action).1.step now .wake).2) := by
  simp only [Handshake.onEvent, observe, Attempt.step]
  cases Handshake.resultOf? h.awaited (h.conn.act now action).2.2 with
  | none => exact congrArg (Prod.mk _) (List.append_nil _).symm
  | some result => rfl

/-! ## The end -/

theorem isOver_giveUp (now : Nat) (progress : HandshakeProgress) :
    (ofProgress (giveUp now progress).1).isOver = true := by
  cases progress <;> rfl

theorem step_of_isOver {a : Attempt} (h : a.isOver = true) (now : Nat) (event : Event) :
    a.step now event = (a, []) := by
  cases a with
  | going => cases h
  | refused | connected | failed => rfl

/-- An attempt is over when the time to connect is over, if it was not before, and stays so. -/
theorem isOver_run {steps : List (Nat × Event)} {a : Attempt}
    (h : a.isOver = true ∨ Occurs steps .timeOut) : (a.run steps).1.isOver = true := by
  induction steps generalizing a with
  | nil =>
      rcases h with hover | ⟨_, hnothing⟩
      · exact hover
      · cases hnothing
  | cons step rest ih =>
      obtain ⟨now, event⟩ := step
      refine ih (a := (a.step now event).1) ?_
      rcases h with hover | ⟨time, hmem⟩
      · rw [step_of_isOver hover]
        exact .inl hover
      · rcases List.mem_cons.1 hmem with heq | hmem
        · cases heq
          left
          cases a with
          | going h answer => exact isOver_giveUp _ _
          | refused | connected | failed => rfl
        · exact .inr ⟨time, hmem⟩

theorem isOver_make {steps : List (Nat × Event)} (htime : Occurs steps .timeOut) (group : Group)
    (index : Nat) (requestTimeout : Duration) (now : Nat) (opening : Opening) :
    (make group index requestTimeout now opening steps).1.isOver = true :=
  isOver_run (.inr htime)

theorem run_of_isOver {a : Attempt} (h : a.isOver = true) (steps : List (Nat × Event)) :
    a.run steps = (a, []) := by
  induction steps with
  | nil => rfl
  | cons step rest ih =>
      rw [Attempt.run, step_of_isOver h]
      dsimp only
      rw [ih, List.append_nil]

theorem run_append (a : Attempt) (steps more : List (Nat × Event)) :
    a.run (steps ++ more) =
      (((a.run steps).1.run more).1, (a.run steps).2 ++ ((a.run steps).1.run more).2) := by
  induction steps generalizing a with
  | nil => rfl
  | cons step rest ih =>
      obtain ⟨now, event⟩ := step
      simp only [List.cons_append, Attempt.run, ih, List.append_assoc]

/-! ## Hearing and going on -/

/-- What there is to hear is heard: an answer to the request that is waited for is its result. -/
theorem Underway.hears {h : Handshake} (known : Underway all group salt h none past)
    {p : ReceivedPacket} (hanswers : Connection.answers p h.awaited) (now : Nat) :
    ∃ format, Connection.resultOf p.packet format ∈
      resultsOf h.awaited (h.conn.act now (.receive p)).2.2 := by
  obtain ⟨hnoEvent, hnoChunk, hsync⟩ := hanswers
  have hwaits : (h.conn.pending.get? h.awaited).isSome = true := by
    by_contra hnone
    have hbalance := known.tracked.books.balance h.awaited
    have hasked := known.asked
    rw [known.answered, Connection.waits, if_neg hnone] at hbalance
    rw [hbalance] at hasked
    cases hasked
  obtain ⟨w, hw⟩ := Option.isSome_iff_exists.1 hwaits
  obtain ⟨fate, hreceived⟩ := Connection.receive_received h.conn now p
  have hact : (h.conn.act now (.receive p)).2 = h.conn.receive now p := rfl
  rw [hact]
  generalize h.conn.receive now p = outcome at hreceived ⊢
  cases hreceived with
  | notified hevent =>
      rw [hnoEvent] at hevent
      cases hevent
  | @answered w' =>
      refine ⟨w'.format, mem_resultsOf_iff.2 ⟨w'.elapsed now, ?_⟩⟩
      rw [← hsync]
      exact List.mem_append_right _ List.mem_cons_self
  | ignored _ hunawaited => exact absurd ⟨hnoEvent, hnoChunk, w, hsync ▸ hw⟩ hunawaited

/-- What a handshake asks for next is asked for under the next number. -/
theorem awaited_of_ask {group : Group} {now : Nat} {stage : HandshakeStage} {r : Request}
    {c : Connection} {h : Handshake} (hask : (Handshake.ask group now stage r c).1 = .going h) :
    h.awaited = c.nextSync := by
  have hasked := Handshake.ask_asked group now stage r c
  generalize Handshake.ask group now stage r c = outcome at hask hasked
  cases hasked with
  | sent =>
      cases hask
      rfl
  | refused | closed | tooLong => cases hask

theorem nextSync_setLifecycle (c : Connection) (state : Lifecycle) :
    (c.setLifecycle state).nextSync = c.nextSync := by
  obtain ⟨lifecycle, hconn⟩ := conn_setLifecycle c state
  rw [hconn]
  rfl

theorem awaited_of_probe {group : Group} {now : Nat} {c : Connection} {h : Handshake}
    (hprobe : (Handshake.probe group now c).1 = .going h) : h.awaited = c.nextSync :=
  (awaited_of_ask hprobe).trans (nextSync_setLifecycle c .schemaSync)

theorem awaited_of_step {h h' : Handshake} {now : Nat} {result : Except ClientError Response}
    (hstep : (h.step now result).1 = .going h') : h'.awaited = h.conn.nextSync := by
  unfold Handshake.step at hstep
  cases hstage : h.stage with
  | identifying =>
      simp only [hstage] at hstep
      cases hresult : Negotiated.ofResult result with
      | error e =>
          rw [hresult] at hstep
          cases hstep
      | ok negotiated =>
          simp only [hresult, Handshake.authenticate] at hstep
          split at hstep
          · exact (awaited_of_ask hstep).trans (nextSync_setLifecycle _ .authenticating)
          · exact (awaited_of_probe hstep).trans (nextSync_setLifecycle _ .authenticating)
  | authenticating =>
      simp only [hstage] at hstep
      cases result with
      | error e => cases hstep
      | ok response => exact awaited_of_probe hstep
  | probing =>
      simp only [hstage] at hstep
      cases result with
      | error e => cases hstep
      | ok response => cases hstep

/-- Going on with a result never leads back. -/
theorem Underway.proceeds {h h' : Handshake} {result : Except ClientError Response}
    {answer : Option (Except ClientError Response)}
    (known : Underway all group salt h (some result) past) {now : Nat}
    (hwake : ((Attempt.going h (some result)).step now .wake).1 = .going h' answer) :
    h.awaited < h'.awaited := by
  have hwake : ofProgress (h.step now result).1 = .going h' answer := hwake
  have hfew := known.tracked.few
  cases hprogress : (h.step now result).1 with
  | going next =>
      rw [hprogress] at hwake
      cases hwake
      rw [awaited_of_step hprogress, known.awaited, UInt64.lt_iff_toNat_lt, Connection.nextSync,
        UInt64.toNat_ofNat_of_lt', UInt64.toNat_ofNat_of_lt']
      · exact Nat.lt_succ_self _
      all_goals
        unfold UInt64.size
        omega
  | ready | failed =>
      rw [hprogress] at hwake
      cases hwake

/-! ## What whoever connects can rely on -/

/-- Why there is no connection at all. -/
inductive Unreached (group : Group) : Opening → ClientError → Prop
  | failed (e : ClientError) : Unreached group (.failed e) e
  | timedOut : Unreached group .timedOut (.network s!"connect to {group.addr} timed out")
  | noGreeting {raw : Bytes} {fault : GreetingFault} (h : Greeting.parse raw = .error fault) :
      Unreached group (.greeted raw) (.protocol (.greeting fault))

/-- How an attempt ends. -/
structure Concluded (group : Group) (opening : Opening) (all : List (Nat × Event)) (a : Attempt)
    (past : List Effect) : Prop where
  /-- the time to connect ends the attempt in any case -/
  ends : Occurs all .timeOut → a.isOver = true
  /-- there is a connection in the end if and only if the server greets and agrees to everything -/
  connects : a.isOver = true → ((∃ c, a = .connected c) ↔
    ∃ raw greeting, opening = .greeted raw ∧ Greeting.parse raw = .ok greeting ∧
      Agreed group past)
  /-- it is ready, with what is agreed on, unless it has come to its end in the meantime -/
  ready : ∀ c, a = .connected c →
    Identified past c.negotiated ∧ (c.lifecycle = .ready ∨ c.isClosed = true ∧ Occurs all .lost)
  /-- if there is none in the end, the one that there was is closed, and there is a reason -/
  fails : ∀ c e, a = .failed c e → c.isClosed = true ∧
    ∃ raw greeting, opening = .greeted raw ∧ Greeting.parse raw = .ok greeting ∧
      Reason all group greeting.salt past e
  /-- if there never was one nothing has happened, and there is a reason for that -/
  refuses : ∀ e, a = .refused e → past = [] ∧ Unreached group opening e
  /-- an error of the server in answer to the authentication is one of its own kind -/
  rejects : group.needsAuth = true → a.isOver = true → ∀ error,
    resultsOf 2 past = [.error (.server error)] → ∃ c, a = .failed c (.auth error.message)
  /-- the frames go out in their order and each at its time, all of them for a connection, and the
  one by which the user authenticates unless something is in the way -/
  sends : ∀ raw greeting, opening = .greeted raw → Greeting.parse raw = .ok greeting →
    packetsOf past <+: frames group greeting.salt ∧ Orderly group greeting.salt past ∧
      ((∃ c, a = .connected c) → packetsOf past = frames group greeting.salt) ∧
      (a.isOver = true → MayAuthenticate group greeting.salt past → ¬ Occurs all .lost →
        frameOf group greeting.salt .authenticating ∈ packetsOf past)

/-- How an attempt, from its beginning, takes what happens to it. -/
structure Responsive (first : Attempt) (all : List (Nat × Event)) (past : List Effect) :
    Prop where
  once : Once past
  explained : Explained all past
  /-- what the server answers to the request that is waited for is its result -/
  hears : ∀ before time p after h, all = before ++ (time, .received p) :: after →
    (first.run before).1 = .going h none → Connection.answers p h.awaited →
      ∃ format, resultsOf h.awaited past = [Connection.resultOf p.packet format]
  /-- with a result the task comes to its end or goes on to a later request -/
  proceeds : ∀ before time after h result, all = before ++ (time, .wake) :: after →
    (first.run before).1 = .going h (some result) →
      ∀ h' answer, (first.run (before ++ [(time, .wake)])).1 = .going h' answer →
        h.awaited < h'.awaited

theorem Course.once {a : Attempt} (known : Course all group salt a past) : Once past := by
  cases known with
  | going known => exact once_of_balanced known.tracked.books
  | connected known => exact known.once
  | failed known => exact known.once

theorem Course.explained {a : Attempt} (known : Course all group salt a past) :
    Explained all past := by
  cases known with
  | going known => exact known.tracked.explained
  | connected known => exact known.explained
  | failed known => exact known.explained

theorem Course.responsive {first : Attempt} (known : Course all group salt first past) :
    Responsive first all (past ++ (first.run all).2) := by
  have hcourse := known.run fun _ hstep => hstep
  refine ⟨hcourse.once, hcourse.explained, ?_, ?_⟩
  · rintro before time p after h rfl hgoing hanswers
    have hbefore := known.run fun _ => List.mem_append_left _
    have hrun := run_append first before ((time, .received p) :: after)
    rw [hgoing] at hbefore hrun
    cases hbefore with
    | going known =>
        obtain ⟨format, hheard⟩ := known.hears hanswers time
        refine ⟨format, hcourse.once.eq_singleton ?_⟩
        rw [hrun, resultsOf_append, resultsOf_append]
        refine List.mem_append_right _ (List.mem_append_right _ ?_)
        show _ ∈ resultsOf h.awaited ((h.conn.act time (.receive p)).2.2 ++ _)
        rw [resultsOf_append]
        exact List.mem_append_left _ hheard
  · rintro before time after h result rfl hgoing h' answer hwake
    have hbefore := known.run fun _ => List.mem_append_left _
    rw [run_append, hgoing] at hwake
    rw [hgoing] at hbefore
    cases hbefore with
    | going known => exact known.proceeds hwake

theorem responsive_of_isOver {first : Attempt} (hover : first.isOver = true)
    (all : List (Nat × Event)) : Responsive first all [] := by
  have hgoing {before : List (Nat × Event)} {h : Handshake}
      {answer : Option (Except ClientError Response)} : (first.run before).1 ≠ .going h answer := by
    intro heq
    rw [run_of_isOver hover] at heq
    subst heq
    cases hover
  exact ⟨fun _ => Nat.zero_le _, (fun _ _ hresult => nomatch hresult),
    (fun _ _ _ _ _ _ heq => absurd heq hgoing), (fun _ _ _ _ _ _ heq => absurd heq hgoing)⟩

theorem Unreached.concluded {opening : Opening} (h : Unreached group opening e)
    (all : List (Nat × Event)) : Concluded group opening all (.refused e) [] := by
  have hnone {raw : Bytes} {greeting : Greeting} (hopening : opening = .greeted raw) :
      Greeting.parse raw ≠ .ok greeting := by
    intro hparse
    subst hopening
    cases h with
    | noGreeting hfault => cases hfault.symm.trans hparse
  exact {
    ends := fun _ => rfl
    connects := fun _ => by
      constructor
      · rintro ⟨c, hc⟩
        cases hc
      · rintro ⟨raw, greeting, hopening, hparse, _⟩
        exact absurd hparse (hnone hopening)
    ready := fun c hc => nomatch hc
    fails := fun c e hc => nomatch hc
    refuses := by
      rintro e' ⟨⟩
      exact ⟨rfl, h⟩
    rejects := fun _ _ error herror => nomatch herror
    sends := fun raw greeting hopening hparse => absurd hparse (hnone hopening) }

section Course

variable {raw : Bytes} {greeting : Greeting}

/-- Of a greeting that parses there is one reading. -/
theorem eq_of_parse (hparse : Greeting.parse raw = .ok greeting) {raw' : Bytes}
    {greeting' : Greeting} (hopening : Opening.greeted raw = .greeted raw')
    (hparse' : Greeting.parse raw' = .ok greeting') : greeting' = greeting := by
  cases hopening
  exact Except.ok.inj (hparse'.symm.trans hparse)

theorem Underway.concluded {h : Handshake} {answer : Option (Except ClientError Response)}
    (known : Underway all group greeting.salt h answer past)
    (hparse : Greeting.parse raw = .ok greeting) (hends : ¬ Occurs all .timeOut) :
    Concluded group (.greeted raw) all (.going h answer) past where
  ends htime := absurd htime hends
  connects hover := nomatch hover
  ready c hc := nomatch hc
  fails c e hc := nomatch hc
  refuses e he := nomatch he
  rejects _ hover := nomatch hover
  sends raw' greeting' hopening hparse' := by
    obtain rfl := eq_of_parse hparse hopening hparse'
    refine ⟨known.sent ▸ List.take_prefix _ _, known.orderly, ?_, (fun hover => nomatch hover)⟩
    rintro ⟨c, hc⟩
    cases hc

theorem Connected.concluded (known : Connected all group greeting.salt c past)
    (hparse : Greeting.parse raw = .ok greeting) :
    Concluded group (.greeted raw) all (.connected c) past where
  ends _ := rfl
  connects _ := ⟨fun _ => ⟨raw, greeting, rfl, hparse, known.agreed⟩, fun _ => ⟨c, rfl⟩⟩
  ready := by
    rintro c' ⟨⟩
    exact ⟨known.negotiated, known.state⟩
  fails c e hc := nomatch hc
  refuses e he := nomatch he
  rejects hneeded _ error herror := by
    obtain ⟨response, hresponse⟩ := known.agreed.authenticated hneeded
    rw [hresponse] at herror
    cases herror
  sends raw' greeting' hopening hparse' := by
    obtain rfl := eq_of_parse hparse hopening hparse'
    refine ⟨known.sent ▸ List.prefix_refl _, known.orderly, fun _ => known.sent,
      fun _ hmay _ => ?_⟩
    rw [known.sent]
    exact List.mem_of_mem_take (authenticating_mem_take hmay.needed (Nat.le_refl 2))

theorem Failed.concluded (known : Failed all group greeting.salt c e past)
    (hparse : Greeting.parse raw = .ok greeting) :
    Concluded group (.greeted raw) all (.failed c e) past where
  ends _ := rfl
  connects _ := by
    constructor
    · rintro ⟨c', hc⟩
      cases hc
    · rintro ⟨_, _, _, _, hagreed⟩
      exact absurd hagreed.probed known.failing.unprobed
  ready c hc := nomatch hc
  fails := by
    rintro c' e' ⟨⟩
    exact ⟨known.closed, raw, greeting, rfl, hparse, known.failing.reason⟩
  refuses e he := nomatch he
  rejects hneeded _ error herror :=
    ⟨c, congrArg _ (known.failing.rejected hneeded error herror)⟩
  sends raw' greeting' hopening hparse' := by
    obtain rfl := eq_of_parse hparse hopening hparse'
    refine ⟨known.failing.sent, known.failing.orderly, ?_, fun _ => known.failing.due⟩
    rintro ⟨c', hc⟩
    cases hc

end Course

/-- For every group, whatever comes of reaching the server, whatever comes in and in whatever order
time and tasks go on: the time to connect brings the attempt to its end; in the end there is a
connection if and only if the server has greeted, has answered the first request or does not know
it, has accepted the user where there is need, and has answered the ping; it is ready unless its
peer has ended it by then.  Otherwise there is an error, and the connection, if there was one, is
closed.  On the way each request gets what the server answers to it while it is waited for, and the
task goes on with that.  For every answer of the server what is agreed on is the lower of both
versions and just the known features whose numbers it lists. -/
theorem concludes (group : Group) (index : Nat) (requestTimeout : Duration) (now : Nat)
    (opening : Opening) (steps : List (Nat × Event)) (a : Attempt) (past : List Effect)
    (hmake : make group index requestTimeout now opening steps = (a, past)) :
    Concluded group opening steps a past ∧
      Responsive (begin group index requestTimeout now opening).1 steps past ∧
      ∀ body, (Negotiated.ofBody body).version = min ((body.uint? Key.version).getD 0) 6 ∧
        ∀ f, (Negotiated.ofBody body).features.contains f = true ↔
          ∃ v ∈ body.items Key.features, v.asUInt? = some f.id.toUInt64 := by
  rw [← and_assoc]
  refine ⟨?_, Negotiated.ofBody_spec⟩
  have hunreached {e : ClientError} (h : Unreached group opening e)
      (hbegin : begin group index requestTimeout now opening = (.refused e, [])) :
      Concluded group opening steps a past ∧
        Responsive (begin group index requestTimeout now opening).1 steps past := by
    rw [make, hbegin] at hmake
    dsimp only at hmake
    rw [run_of_isOver rfl] at hmake
    cases hmake
    rw [hbegin]
    exact ⟨h.concluded steps, responsive_of_isOver rfl steps⟩
  cases opening with
  | failed e => exact hunreached (.failed e) rfl
  | timedOut => exact hunreached .timedOut rfl
  | greeted raw =>
      cases hparse : Greeting.parse raw with
      | error fault =>
          refine hunreached (.noGreeting hparse) ?_
          simp only [begin, Connection.greeted, hparse]
      | ok greeting =>
          have hends : Occurs steps .timeOut → a.isOver = true := by
            intro htime
            have hlast : (make group index requestTimeout now (.greeted raw) steps).1 = a :=
              congrArg Prod.fst hmake
            rw [← hlast]
            exact isOver_make htime group index requestTimeout now _
          have hbegun := course_begin steps group index requestTimeout now hparse
          have hcourse := hbegun.run fun _ hstep => hstep
          have hresponsive := hbegun.responsive
          rw [make] at hmake
          dsimp only at hmake
          cases hmake
          refine ⟨?_, hresponsive⟩
          generalize (run _ steps).1 = a at hcourse hends ⊢
          cases hcourse with
          | going known =>
              exact known.concluded hparse fun htime => nomatch hends htime
          | connected known => exact known.concluded hparse
          | failed known => exact known.concluded hparse

/-! ## Three visits to one server -/

namespace Visit

/-- What the server sends first. -/
def hello : Bytes := Greeting.encode ⟨"Tarantool 3.1.0", List.replicate 20 7⟩

/-- Whoever connects has a password. -/
def groupOf (user : String) : Group :=
  { tag := "default", host := "localhost", port := 3301, user, password := "secret" }

/-- The server answers a request. -/
def answered (sync : UInt64) (body : Body) : Event :=
  .received (Connection.response Status.ok sync body)

/-- The server knows the first request, and the task goes on. -/
def introduced : List (Nat × Event) := [(1, answered 1 (Body.identify 3 .all)), (2, .wake)]

/-- The user is accepted and the ping answered. -/
def probed : List (Nat × Event) :=
  introduced ++ [(3, answered 2 Body.empty), (4, .wake), (5, answered 3 Body.empty)]

/-- The task goes on after each answer. -/
def welcomed : List (Nat × Event) := probed ++ [(7, .wake)]

/-- The server leaves before the task goes on for the last time. -/
def abandoned : List (Nat × Event) := probed ++ [(6, .lost), (7, .wake)]

/-- The attempt of a user. -/
def attempt (user : String) (steps : List (Nat × Event)) : Attempt × List Effect :=
  make (groupOf user) 0 (.ofMillis 1000) 0 (.greeted hello) steps

theorem concludes_when_welcomed :
    ∃ c, (attempt "app" welcomed).1 = .connected c ∧ c.lifecycle = .ready ∧
      Identified (attempt "app" welcomed).2 c.negotiated ∧
      packetsOf (attempt "app" welcomed).2 = frames (groupOf "app") (List.replicate 20 7) := by
  have h := (concludes (groupOf "app") 0 (.ofMillis 1000) 0 (.greeted hello) welcomed
    (attempt "app" welcomed).1 (attempt "app" welcomed).2 (Prod.eta _).symm).1
  have hparse : Greeting.parse hello = .ok ⟨"Tarantool 3.1.0", List.replicate 20 7⟩ := by
    decide +kernel
  have hagreed : Agreed (groupOf "app") (attempt "app" welcomed).2 := by decide +kernel
  have hover : (attempt "app" welcomed).1.isOver = true := by decide +kernel
  obtain ⟨c, hc⟩ := (h.connects hover).2 ⟨hello, _, rfl, hparse, hagreed⟩
  obtain ⟨hnegotiated, hready | ⟨-, now, hlost⟩⟩ := h.ready c hc
  · exact ⟨c, hc, hready, hnegotiated, (h.sends hello _ rfl hparse).2.2.1 ⟨c, hc⟩⟩
  · simp [welcomed, probed, introduced, answered] at hlost

/-- Someone without a name would have to authenticate and is known to the server, but the only
frame is the first one; and where the server leaves after it agreed to everything, whoever connects
gets a connection that is closed. -/
theorem unauthenticated_and_unready :
    ((groupOf "").needsAuth = true ∧
      (∃ negotiated, Identified (attempt "" introduced).2 negotiated) ∧
      (attempt "" introduced).1.result?.map (·.map Connection.lifecycle) =
        some (.error (.contract .emptyUserName)) ∧
      (packetsOf (attempt "" introduced).2).map (·.header.code) = [RequestType.id.code]) ∧
    (Agreed (groupOf "app") (attempt "app" abandoned).2 ∧
      (attempt "app" abandoned).1.result?.map (·.map Connection.lifecycle) =
        some (.ok .closed)) := by
  decide +kernel

end Visit

end Attempt

end TupleWire
