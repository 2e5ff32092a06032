/-
  Asking one thing after the other on a connection that nobody else uses.

  Whoever connects has the connection to himself: what happens to it besides is
  that frames come in, times run out and it comes to its end.  `Tracked` is what
  is known of it all along, given everything that happens on the way; it is kept
  by what happens to it, by asking (`Handshake.Asked`) and up to giving it up
  (`GivenUp`).
-/
import TupleWire.Connection.Attempt
import TupleWire.Proofs.Connection.Queue

set_option autoImplicit false

namespace TupleWire

open Effect

/-! ## Results -/

/-- Whether the server says a result. -/
def IsFromServer : Except ClientError Response → Prop
  | .ok _ | .error (.server _) => True
  | _ => False

theorem mem_resultsOf_iff {n : UInt64} {result : Except ClientError Response}
    {effects : List Effect} :
    result ∈ resultsOf n effects ↔ ∃ after, .resolved n result after ∈ effects := by
  rw [resultsOf, List.mem_filterMap]
  constructor
  · rintro ⟨e, he, hresult⟩
    cases e with
    | resolved sync result after =>
        rw [resultOf?] at hresult
        split at hresult
        · rename_i hsync
          cases hresult
          exact ⟨after, hsync ▸ he⟩
        · cases hresult
    | queued | started | ignored | notified | observed | closed => cases hresult
  · rintro ⟨after, he⟩
    exact ⟨_, he, if_pos rfl⟩

namespace Attempt

variable {all : List (Nat × Event)} {past effects : List Effect}

/-- Whether something happens during an attempt, given everything that does. -/
def Occurs (all : List (Nat × Event)) (event : Event) : Prop := ∃ now, (now, event) ∈ all

/-- Every result that the server says it says in a frame that came in. -/
def Explained (all : List (Nat × Event)) (past : List Effect) : Prop :=
  ∀ n, ∀ result ∈ resultsOf n past, IsFromServer result →
    ∃ p format, Occurs all (.received p) ∧ Connection.answers p n ∧
      Connection.resultOf p.packet format = result

theorem Explained.append (h : Explained all past) (hmore : Explained all effects) :
    Explained all (past ++ effects) := by
  intro n result hresult
  rw [resultsOf_append, List.mem_append] at hresult
  exact hresult.elim (h n result) (hmore n result)

theorem explained_of_silent (h : ∀ e ∈ effects, e.request? = none) : Explained all effects := by
  intro n result hresult
  rw [resultsOf_of_silent h] at hresult
  cases hresult

/-- What an action gives to requests is explained by it. -/
theorem explained_act {action : Action}
    (haction : ∀ p, action = .receive p → Occurs all (.received p)) (c : Connection) (now : Nat) :
    Explained all (c.act now action).2.2 := by
  intro n result hresult hserver
  obtain ⟨after, hresolved⟩ := mem_resultsOf_iff.1 hresult
  obtain ⟨w, _, hcause⟩ := (c.act_turn now action).caused hresolved
  cases result with
  | ok response =>
      obtain ⟨p, hp, hanswers, hsays⟩ := hcause
      exact ⟨p, w.format, haction p hp, hanswers, hsays⟩
  | error error =>
      cases error with
      | server error =>
          obtain ⟨p, hp, hanswers, hsays⟩ := hcause
          exact ⟨p, w.format, haction p hp, hanswers, hsays⟩
      | _ => exact absurd hserver id

/-- Whether requests that had their result before have the same one, and no other, later on. -/
def Keeps (past later : List Effect) : Prop :=
  ∀ n result, resultsOf n past = [result] → resultsOf n later = [result]

/-- Whether no request has more than one result. -/
def Once (past : List Effect) : Prop := ∀ n, (resultsOf n past).length ≤ 1

theorem once_of_balanced {c : Connection} (h : Connection.Balanced c past) : Once past := by
  intro n
  have hbalance := h.balance n
  have honce := h.once n
  omega

theorem Once.append_of_silent (h : Once past) (hsilent : ∀ e ∈ effects, e.request? = none) :
    Once (past ++ effects) := by
  intro n
  rw [resultsOf_append, resultsOf_of_silent hsilent, List.append_nil]
  exact h n

theorem Once.of_append (h : Once (past ++ effects)) : Once past := by
  intro n
  refine Nat.le_trans ?_ (h n)
  rw [resultsOf_append, List.length_append]
  exact Nat.le_add_right _ _

theorem Once.eq_singleton (h : Once past) {n : UInt64} {result : Except ClientError Response}
    (hresult : result ∈ resultsOf n past) : resultsOf n past = [result] := by
  have hlength := h n
  cases hpast : resultsOf n past with
  | nil =>
      rw [hpast] at hresult
      cases hresult
  | cons first rest =>
      rw [hpast] at hlength hresult
      obtain rfl : rest = [] := List.length_eq_zero_iff.1 (by simpa using hlength)
      rw [List.mem_singleton.1 hresult]

/-- Nothing that has a result gets another one. -/
theorem Once.keeps (h : Once (past ++ effects)) : Keeps past (past ++ effects) := by
  intro n result hresult
  refine h.eq_singleton ?_
  rw [resultsOf_append, hresult]
  exact List.mem_cons_self

/-- A number that was not given out yet has no result. -/
theorem resultsOf_ahead {c : Connection} (h : Connection.Balanced c past) {n : UInt64}
    (hn : c.issued < n.toNat) : resultsOf n past = [] := by
  have hbalance := h.balance n
  have hunused : startsOf n past = 0 := by
    apply Nat.eq_zero_of_not_pos
    intro hpos
    have hgiven := (h.given n hpos).2
    omega
  rw [← List.length_eq_zero_iff]
  omega

theorem unanswered_ahead {c : Connection} (h : Connection.Balanced c past) {n : UInt64}
    (hn : c.issued < n.toNat) {result : Except ClientError Response} :
    resultsOf n past ≠ [result] := by
  rw [resultsOf_ahead h hn]
  exact nofun

/-! ## A connection of one's own -/

/-- What is known of the connection of an attempt all along. -/
structure Tracked (all : List (Nat × Event)) (salt : Bytes) (c : Connection)
    (past : List Effect) : Prop where
  salt : c.salt = salt
  books : Connection.Balanced c past
  few : c.issued ≤ 3
  unwatched : c.watchers = Dict.empty
  explained : Explained all past
  /-- only its peer brings it to its end -/
  ended : c.isClosed = true → Occurs all .lost

/-- What happens to a connection by itself. -/
inductive Inbound (all : List (Nat × Event)) : Action → Prop
  | received {p : ReceivedPacket} (h : Occurs all (.received p)) : Inbound all (.receive p)
  | expired (sync : UInt64) : Inbound all (.expire sync)
  | lost (h : Occurs all .lost) : Inbound all .shutdown

variable {salt : Bytes} {c : Connection} {action : Action}

theorem Inbound.leavesWatches (h : Inbound all action) : action.leavesWatches := by
  cases h <;> trivial

theorem Inbound.occurs (h : Inbound all action) (p : ReceivedPacket) (hp : action = .receive p) :
    Occurs all (.received p) := by
  cases h with
  | received hp' =>
      cases hp
      exact hp'
  | expired | lost => cases hp

/-- What happens to a connection by itself asks for nothing, unless somebody watches. -/
theorem Inbound.packetsOf_eq_nil (h : Inbound all action) (hwatchers : c.watchers = Dict.empty)
    (now : Nat) : packetsOf (c.act now action).2.2 = [] := by
  have hqueues := c.act_queues now action
  generalize (c.act now action).2 = outcome at hqueues ⊢
  cases hqueues with
  | nothing _ _ hnone => exact hnone
  | frame hsends _ _ =>
      cases h with
      | received =>
          cases hsends with
          | acknowledgement hwatched =>
              rw [hwatchers] at hwatched
              cases hwatched
      | expired | lost => cases hsends

theorem Inbound.conn_act (h : Inbound all action) (hwatchers : c.watchers = Dict.empty)
    (now : Nat) :
    (c.act now action).2.1.issued = c.issued ∧ (c.act now action).2.1.salt = c.salt := by
  cases h with
  | @received p _ =>
      obtain ⟨fate, hreceived⟩ := Connection.receive_received c now p
      have hact : (c.act now (.receive p)).2 = c.receive now p := rfl
      rw [hact]
      generalize c.receive now p = outcome at hreceived ⊢
      cases hreceived with
      | notified _ _ hwatched _ =>
          rw [hwatchers] at hwatched
          cases hwatched
      | answered | ignored => exact ⟨rfl, rfl⟩
  | expired sync =>
      simp only [Connection.act, Connection.expire]
      split
      · exact ⟨rfl, rfl⟩
      · exact ⟨rfl, rfl⟩
  | lost =>
      simp only [Connection.act, Connection.shutdown]
      split
      · exact ⟨rfl, rfl⟩
      · exact ⟨rfl, rfl⟩

/-- A connection comes to its end only by its peer. -/
theorem Inbound.occurs_lost (h : Inbound all action) (now : Nat) (hopen : c.isClosed = false)
    (hclosed : (c.act now action).2.1.isClosed = true) : Occurs all .lost := by
  have hturn := c.act_turn now action
  generalize c.act now action = outcome at hturn hclosed
  cases hturn with
  | quiet _ _ hlifecycle _ _ =>
      rcases hlifecycle with hsame | ⟨_, hstate⟩
      · rw [Connection.isClosed, hsame] at hclosed
        rw [Connection.isClosed, hclosed] at hopen
        cases hopen
      · subst hstate
        cases h
  | begun | answered | expired =>
      have hclosed : c.isClosed = true := hclosed
      rw [hopen] at hclosed
      cases hclosed
  | ended _ =>
      cases h with
      | lost hlost => exact hlost

namespace Tracked

/-- What happens to a connection by itself. -/
theorem inbound (h : Tracked all salt c past) (haction : Inbound all action) (now : Nat) :
    Tracked all salt (c.act now action).2.1 (past ++ (c.act now action).2.2) := by
  obtain ⟨hissued, hsalt⟩ := haction.conn_act h.unwatched now
  have hfew := h.few
  refine ⟨hsalt.trans h.salt, h.books.act now action ?_, ?_, ?_, ?_, fun hclosed => ?_⟩
  · rw [hissued]
    exact Nat.lt_of_le_of_lt hfew (by decide)
  · rw [hissued]
    exact hfew
  · rw [(c.watches_act now haction.leavesWatches).2]
    exact h.unwatched
  · exact h.explained.append (explained_act haction.occurs c now)
  · cases hopen : c.isClosed with
    | true => exact h.ended hopen
    | false => exact haction.occurs_lost now hopen hclosed

/-- What the connection goes through between two requests. -/
theorem quiet (h : Tracked all salt c past) {c' : Connection} (hsalt : c'.salt = c.salt)
    (hpending : c'.pending = c.pending) (hissued : c.issued ≤ c'.issued) (hfew : c'.issued ≤ 3)
    (hwatchers : c'.watchers = c.watchers) (hclosed : c'.isClosed = true → c.isClosed = true) :
    Tracked all salt c' past where
  salt := hsalt.trans h.salt
  books := by
    have hbooks : Connection.Balanced c' (past ++ []) :=
      h.books.quiet hpending hissued (by simp)
    rwa [List.append_nil] at hbooks
  few := hfew
  unwatched := hwatchers.trans h.unwatched
  explained := h.explained
  ended hclosed' := h.ended (hclosed hclosed')

theorem setLifecycle (h : Tracked all salt c past) {state : Lifecycle} (hstate : state ≠ .closed) :
    Tracked all salt (c.setLifecycle state) past := by
  unfold Connection.setLifecycle
  split
  · exact h
  · refine h.quiet rfl rfl (Nat.le_refl _) h.few rfl fun hclosed => ?_
    exact absurd (beq_iff_eq.1 hclosed) hstate

theorem agree (h : Tracked all salt c past) (negotiated : Negotiated) :
    Tracked all salt { c with negotiated } past :=
  h.quiet rfl rfl (Nat.le_refl _) h.few rfl id

/-- A frame that was too long uses a number up. -/
theorem advance (h : Tracked all salt c past) (hfew : c.issued + 1 ≤ 3) :
    Tracked all salt c.advance past :=
  h.quiet rfl rfl (Nat.le_succ _) hfew rfl id

/-- A request begins. -/
theorem begun (h : Tracked all salt c past) (hfew : c.issued + 1 ≤ 3) (w : Waiter)
    (packet : Packet) :
    Tracked all salt { c.advance with pending := c.pending.insert c.nextSync w }
      (past ++ [.started c.nextSync, .queued packet]) where
  salt := h.salt
  books := h.books.begun (Nat.lt_of_le_of_lt hfew (by decide)) w packet
  few := hfew
  unwatched := h.unwatched
  explained := h.explained.append fun n result hresult => by cases hresult
  ended := h.ended

end Tracked

/-! ## Giving up -/

/-- What is known of a connection that was given up, with the effects of that. -/
structure GivenUp (all : List (Nat × Event)) (past : List Effect) (c : Connection)
    (effects : List Effect) : Prop where
  closed : c.isClosed = true
  silent : packetsOf effects = []
  /-- whatever still waited was cut off -/
  cut : ∀ n, ∀ result ∈ resultsOf n effects, result = .error .connectionClosed
  once : Once (past ++ effects)
  explained : Explained all (past ++ effects)

theorem Tracked.givenUp (h : Tracked all salt c past) (now : Nat) :
    GivenUp all past (c.act now .shutdown).2.1 (c.act now .shutdown).2.2 where
  closed := by
    rw [Connection.isClosed, beq_iff_eq]
    exact c.lifecycle_shutdown now
  silent := by
    have hqueues := c.act_queues now .shutdown
    generalize (c.act now .shutdown).2 = outcome at hqueues ⊢
    cases hqueues with
    | nothing _ _ hnone => exact hnone
    | frame hsends _ _ => cases hsends
  cut n result hresult := by
    obtain ⟨after, hresolved⟩ := mem_resultsOf_iff.1 hresult
    obtain ⟨w, _, hcause⟩ := (c.act_turn now .shutdown).caused hresolved
    cases result with
    | ok response =>
        obtain ⟨p, hp, _⟩ := hcause
        cases hp
    | error error =>
        cases error with
        | connectionClosed => rfl
        | server error =>
            obtain ⟨p, hp, _⟩ := hcause
            cases hp
        | timeout sync timeout => cases hcause.1
        | _ => exact absurd hcause id
  once := by
    refine once_of_balanced (h.books.act now .shutdown ?_)
    have hissued := c.issued_act_le now .shutdown
    have hfew := h.few
    unfold UInt64.size
    omega
  explained := h.explained.append (explained_act (fun p hp => by cases hp) c now)

end Attempt

namespace Handshake

open Attempt

variable {group : Group} {now : Nat} {stage : HandshakeStage} {r : Request} {c : Connection}

/-! ## Asking -/

/-- What can come of asking. -/
inductive Asked (group : Group) (now : Nat) (stage : HandshakeStage) (r : Request)
    (c : Connection) : HandshakeProgress × List Effect → Prop
  | sent (w : Waiter) (checked : r.check c.negotiated = .ok ())
      (fits : ∃ bytes,
        (⟨c.nextHeader r.kind none none, r.body c.salt⟩ : Packet).frame = .ok bytes) :
      Asked group now stage r c
        (.going ⟨group, { c.advance with pending := c.pending.insert c.nextSync w }, stage,
            c.nextSync⟩,
          [.started c.nextSync, .queued ⟨c.nextHeader r.kind none none, r.body c.salt⟩])
  /-- the request makes no sense -/
  | refused {refusal : Refusal} (refused : r.check c.negotiated = .error refusal) :
      Asked group now stage r c (fail c now (.contract refusal))
  /-- the connection has come to its end -/
  | closed (isClosed : c.isClosed = true) :
      Asked group now stage r c (fail c now .connectionClosed)
  | tooLong {fault : ProtocolError}
      (long : (⟨c.nextHeader r.kind none none, r.body c.salt⟩ : Packet).frame = .error fault) :
      Asked group now stage r c (fail c.advance now (.protocol fault))

theorem ask_asked (group : Group) (now : Nat) (stage : HandshakeStage) (r : Request)
    (c : Connection) : Asked group now stage r c (ask group now stage r c) := by
  unfold ask Connection.request
  cases hchecked : r.check c.negotiated with
  | error refusal => exact .refused hchecked
  | ok _ =>
      unfold Connection.send
      cases hclosed : c.isClosed with
      | true => exact .closed hclosed
      | false =>
          simp only [Bool.false_eq_true, if_false]
          cases hframe : (⟨c.nextHeader r.kind none none, r.body c.salt⟩ : Packet).frame with
          | error fault => exact .tooLong hframe
          | ok bytes => exact .sent _ hchecked ⟨bytes, hframe⟩

end Handshake

end TupleWire
