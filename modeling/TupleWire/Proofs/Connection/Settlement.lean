/-
  How the requests of a connection end.

  A request that a connection takes ends once: by the response that carries its
  number, by its own time, or by the end of the connection.  `Balanced` is the
  invariant that carries this over a run.  It compares what has happened so far
  with the pending table: a number that was given to a request either waits or
  has its one result.  `Accounted` says of a single action which effects it may
  have on the requests and why.
-/
import TupleWire.Proofs.Connection.Turn
import TupleWire.Proofs.Map.Sorted

set_option autoImplicit false

namespace TupleWire

/-! ## The requests in a row of effects -/

namespace Effect

/-- Whether an effect is the begin of the request of a number. -/
def isStartOf (n : UInt64) : Effect → Bool
  | .started sync => sync == n
  | _ => false

/-- The result that an effect gives the request of a number. -/
def resultOf? (n : UInt64) : Effect → Option (Except ClientError Response)
  | .resolved sync result _ => if sync = n then some result else none
  | _ => none

/-- How often a request of a number begins. -/
def startsOf (n : UInt64) (effects : List Effect) : Nat := effects.countP (isStartOf n)

/-- The results that a request of a number gets. -/
def resultsOf (n : UInt64) (effects : List Effect) : List (Except ClientError Response) :=
  effects.filterMap (resultOf? n)

variable {n : UInt64} {effects more : List Effect}

@[simp] theorem startsOf_append :
    startsOf n (effects ++ more) = startsOf n effects + startsOf n more :=
  List.countP_append

@[simp] theorem resultsOf_append :
    resultsOf n (effects ++ more) = resultsOf n effects ++ resultsOf n more :=
  List.filterMap_append

theorem startsOf_pos_iff : 0 < startsOf n effects ↔ .started n ∈ effects := by
  rw [startsOf, List.countP_pos_iff]
  constructor
  · rintro ⟨e, he, hstart⟩
    cases e with
    | started sync =>
        have hsync : sync = n := by simpa [isStartOf] using hstart
        rwa [← hsync]
    | queued | resolved | ignored | notified | observed | closed => cases hstart
  · intro h
    exact ⟨_, h, by simp [isStartOf]⟩

/-- Effects that concern no request begin none. -/
theorem startsOf_of_silent (h : ∀ e ∈ effects, e.request? = none) : startsOf n effects = 0 := by
  apply Nat.eq_zero_of_not_pos
  intro hpos
  have hnone := h _ (startsOf_pos_iff.1 hpos)
  cases hnone

/-- Effects that concern no request end none. -/
theorem resultsOf_of_silent (h : ∀ e ∈ effects, e.request? = none) : resultsOf n effects = [] := by
  rw [resultsOf, List.filterMap_eq_nil_iff]
  intro e he
  have hnone := h e he
  cases e with
  | resolved => cases hnone
  | started | queued | ignored | notified | observed | closed => rfl

/-- The effect by which the closing of a connection ends one wait. -/
def failure (now : Nat) (waiting : UInt64 × Waiter) : Effect :=
  .resolved waiting.1 (.error .connectionClosed) (waiting.2.elapsed now)

theorem startsOf_failures (now : Nat) (entries : List (UInt64 × Waiter)) :
    startsOf n (entries.map (failure now)) = 0 := by
  rw [startsOf, List.countP_map, List.countP_eq_zero]
  intro entry _ hstart
  cases hstart

/-- Closing gives a request that waits one result and any other none. -/
theorem resultsOf_failures (now : Nat) (pending : SortedMap UInt64 Waiter) :
    resultsOf n (pending.entries.map (failure now)) =
      ((pending.get? n).map fun _ => Except.error ClientError.connectionClosed).toList := by
  rw [resultsOf, List.filterMap_map]
  exact pending.filterMap_entries n fun _ => Except.error ClientError.connectionClosed

end Effect

namespace Connection

open Effect

/-! ## The invariant -/

/-- How often a number waits for its response. -/
def waits (c : Connection) (n : UInt64) : Nat := if (c.pending.get? n).isSome then 1 else 0

theorem waits_of_get? {c : Connection} {n : UInt64} {w : Waiter} (h : c.pending.get? n = some w) :
    c.waits n = 1 := by
  rw [waits, h]
  rfl

theorem waits_of_none {c : Connection} {n : UInt64} (h : c.pending.get? n = none) :
    c.waits n = 0 := by
  rw [waits, h]
  rfl

/-- The books of a connection agree with everything that has happened to it. -/
structure Balanced (c : Connection) (past : List Effect) : Prop where
  /-- a request that has begun waits or has a result -/
  balance (n : UInt64) : startsOf n past = (resultsOf n past).length + c.waits n
  /-- a number is given to one request -/
  once (n : UInt64) : startsOf n past ≤ 1
  /-- a number that was given out is no longer ahead of the counter -/
  given (n : UInt64) : 0 < startsOf n past → 0 < n.toNat ∧ n.toNat ≤ c.issued

/-- A new connection: whoever makes one gives only these. -/
def spawned (tag : String) (index : Nat) (salt : Bytes) (requestTimeout : Duration) :
    Connection :=
  { tag, index, salt, requestTimeout }

theorem balanced_spawned (tag : String) (index : Nat) (salt : Bytes) (requestTimeout : Duration) :
    Balanced (spawned tag index salt requestTimeout) [] where
  balance _ := rfl
  once _ := Nat.zero_le _
  given _ h := absurd h (Nat.lt_irrefl 0)

section Step

variable {c : Connection} {past : List Effect}

namespace Balanced

/-- What waits has begun. -/
theorem startsOf_of_waiting (h : Balanced c past) {n : UInt64} {w : Waiter}
    (hw : c.pending.get? n = some w) : 0 < startsOf n past := by
  have hbalance := h.balance n
  rw [waits_of_get? hw] at hbalance
  omega

/-- The number of the next request has not been given to another one. -/
theorem nextSync_unused (h : Balanced c past) : startsOf c.nextSync past = 0 ∨
    UInt64.size ≤ c.issued + 1 := by
  refine Nat.eq_zero_or_pos (startsOf c.nextSync past) |>.imp_right ?_
  intro hpos
  obtain ⟨_, hle⟩ := h.given _ hpos
  apply Nat.le_of_not_lt
  intro hlt
  rw [nextSync, UInt64.toNat_ofNat', Nat.mod_eq_of_lt hlt] at hle
  omega

/-- The number of the next request does not wait, even if the counter has just run out. -/
theorem get?_nextSync (h : Balanced c past) (hissued : c.issued < UInt64.size) :
    c.pending.get? c.nextSync = none := by
  rcases hw : c.pending.get? c.nextSync with _ | w
  · rfl
  · obtain ⟨hpos, hle⟩ := h.given _ (h.startsOf_of_waiting hw)
    rw [nextSync, UInt64.toNat_ofNat'] at hpos hle
    unfold UInt64.size at hissued
    omega

/-- What concerns no request keeps the books. -/
theorem quiet (h : Balanced c past) {c' : Connection} {effects : List Effect}
    (hpending : c'.pending = c.pending) (hissued : c.issued ≤ c'.issued)
    (hsilent : ∀ e ∈ effects, e.request? = none) : Balanced c' (past ++ effects) where
  balance n := by
    rw [startsOf_append, resultsOf_append, startsOf_of_silent hsilent,
      resultsOf_of_silent hsilent, List.append_nil, waits, hpending]
    exact h.balance n
  once n := by
    rw [startsOf_append, startsOf_of_silent hsilent]
    exact h.once n
  given n hpos := by
    rw [startsOf_append, startsOf_of_silent hsilent] at hpos
    obtain ⟨hpos, hle⟩ := h.given n hpos
    exact ⟨hpos, Nat.le_trans hle hissued⟩

/-- The begin of a request keeps the books as long as there are numbers left. -/
theorem begun (h : Balanced c past) (hfew : c.issued + 1 < UInt64.size) (w : Waiter)
    (packet : Packet) :
    Balanced { c.advance with pending := c.pending.insert c.nextSync w }
      (past ++ [.started c.nextSync, .queued packet]) := by
  have hunused : startsOf c.nextSync past = 0 := h.nextSync_unused.resolve_right (by omega)
  have hnumber : c.nextSync.toNat = c.issued + 1 := by
    rw [nextSync, UInt64.toNat_ofNat', Nat.mod_eq_of_lt hfew]
  have hstarts (n : UInt64) : startsOf n [.started c.nextSync, .queued packet] =
      if n = c.nextSync then 1 else 0 := by
    by_cases hn : n = c.nextSync
    · simp [startsOf, isStartOf, hn]
    · simp [startsOf, isStartOf, hn, Ne.symm hn]
  have hresults (n : UInt64) : resultsOf n [.started c.nextSync, .queued packet] = [] := rfl
  refine ⟨?_, ?_, ?_⟩
  · intro n
    rw [startsOf_append, resultsOf_append, hstarts, hresults, List.append_nil, waits]
    by_cases hn : n = c.nextSync
    · have hbalance := h.balance n
      subst hn
      rw [hunused] at hbalance
      rw [SortedMap.get?_insert, if_pos rfl, if_pos rfl, hunused]
      simp only [Option.isSome_some, if_true]
      omega
    · have hbalance := h.balance n
      rw [SortedMap.get?_insert, if_neg (Ne.symm hn), if_neg hn]
      exact hbalance
  · intro n
    rw [startsOf_append, hstarts]
    by_cases hn : n = c.nextSync
    · have hnone : startsOf n past = 0 := hn ▸ hunused
      rw [if_pos hn]
      omega
    · rw [if_neg hn]
      exact h.once n
  · intro n hpos
    rw [startsOf_append, hstarts] at hpos
    by_cases hn : n = c.nextSync
    · rw [hn, hnumber]
      exact ⟨Nat.succ_pos _, Nat.le_refl _⟩
    · rw [if_neg hn] at hpos
      obtain ⟨hpos, hle⟩ := h.given n hpos
      exact ⟨hpos, Nat.le_succ_of_le hle⟩

/-- One result for what waits, which then waits no more, keeps the books. -/
theorem resolved (h : Balanced c past) {sync : UInt64} {w : Waiter}
    (hw : c.pending.get? sync = some w) {before : List Effect}
    (hbefore : ∀ e ∈ before, e.request? = none) (result : Except ClientError Response)
    (after : Duration) :
    Balanced { c with pending := c.pending.erase sync }
      (past ++ (before ++ [.resolved sync result after])) := by
  have hstarts (n : UInt64) : startsOf n [.resolved sync result after] = 0 := rfl
  have hstart (n : UInt64) :
      startsOf n (past ++ (before ++ [.resolved sync result after])) = startsOf n past := by
    rw [startsOf_append, startsOf_append, startsOf_of_silent hbefore, hstarts]
    rfl
  refine ⟨?_, ?_, ?_⟩
  · intro n
    have hbalance := h.balance n
    rw [hstart, hbalance, resultsOf_append, resultsOf_append, resultsOf_of_silent hbefore,
      List.nil_append, List.length_append]
    by_cases hn : n = sync
    · subst hn
      have hgone : (c.pending.erase n).get? n = none := by
        rw [SortedMap.get?_erase, if_pos rfl]
      rw [waits_of_get? hw, waits_of_none hgone]
      simp [resultsOf, resultOf?]
    · have hwaits : waits { c with pending := c.pending.erase sync } n = c.waits n := by
        rw [waits, waits, SortedMap.get?_erase, if_neg (Ne.symm hn)]
      simp [hwaits, resultsOf, resultOf?, Ne.symm hn]
  · intro n
    rw [hstart]
    exact h.once n
  · intro n hpos
    rw [hstart] at hpos
    exact h.given n hpos

/-- The end of a connection, which gives every request that waits a result, keeps the books. -/
theorem ended (h : Balanced c past) (now : Nat) :
    Balanced { c with lifecycle := .closed, pending := .empty }
      (past ++ (c.pending.entries.map (failure now) ++ [.closed])) := by
  have hstart (n : UInt64) :
      startsOf n (past ++ (c.pending.entries.map (failure now) ++ [.closed])) =
        startsOf n past := by
    rw [startsOf_append, startsOf_append, startsOf_failures]
    rfl
  refine ⟨?_, ?_, ?_⟩
  · intro n
    have hbalance := h.balance n
    have hwaits : waits { c with lifecycle := .closed, pending := .empty } n = 0 := rfl
    rw [hstart, hbalance, resultsOf_append, resultsOf_append, resultsOf_failures, hwaits]
    rcases hw : c.pending.get? n with _ | w
    · rw [waits_of_none hw]
      simp [resultsOf, resultOf?]
    · rw [waits_of_get? hw]
      simp [resultsOf, resultOf?]
  · intro n
    rw [hstart]
    exact h.once n
  · intro n hpos
    rw [hstart] at hpos
    exact h.given n hpos

/-- Whatever is done keeps the books as long as there are numbers left. -/
theorem act (h : Balanced c past) (now : Nat) (action : Action)
    (hfew : (c.act now action).2.1.issued < UInt64.size) :
    Balanced (c.act now action).2.1 (past ++ (c.act now action).2.2) := by
  have hturn := c.act_turn now action
  generalize c.act now action = outcome at hturn hfew ⊢
  cases hturn with
  | quiet hpending hissued _ hsilent _ => exact h.quiet hpending hissued hsilent
  | begun w packet _ => exact h.begun hfew w packet
  | answered _ _ hw => exact h.resolved hw (observation_silent _) _ _
  | expired hw =>
      have hnothing : ∀ e ∈ ([] : List Effect), e.request? = none := by simp
      exact h.resolved hw hnothing _ _
  | ended _ => exact h.ended now

end Balanced

end Step

/-! ## Single actions -/

/-- Whether a packet is the whole response to the request of a number. -/
def answers (p : ReceivedPacket) (n : UInt64) : Prop :=
  p.packet.header.isEvent = false ∧ p.packet.header.isChunk = false ∧ p.packet.header.sync = n

/-- What may give a result to the request of a number, which waits. -/
def Cause (c : Connection) (action : Action) (n : UInt64) (w : Waiter) :
    Except ClientError Response → Prop
  | .ok response =>
      ∃ p, action = .receive p ∧ answers p n ∧ resultOf p.packet w.format = .ok response
  | .error (.server error) =>
      ∃ p, action = .receive p ∧ answers p n ∧
        resultOf p.packet w.format = .error (.server error)
  | .error (.timeout sync timeout) => action = .expire n ∧ sync = n ∧ timeout = w.timeout
  | .error .connectionClosed => action = .shutdown ∧ c.isClosed = false
  | .error _ => False

/-- A response is a cause of what it says. -/
theorem cause_resultOf {c : Connection} {p : ReceivedPacket} {n : UInt64} {w : Waiter}
    (h : answers p n) : Cause c (.receive p) n w (resultOf p.packet w.format) := by
  cases hresult : resultOf p.packet w.format with
  | ok response => exact ⟨p, rfl, h, hresult⟩
  | error error =>
      have hserver := hresult
      unfold resultOf at hserver
      split at hserver
      · cases hserver
        exact ⟨p, rfl, h, hresult⟩
      · cases hserver

/-- What one action, done next, may do to the requests of a connection. -/
structure Accounted (c : Connection) (now : Nat) (action : Action) : Prop where
  /-- whoever gets a number for a response has a request that waits under it, and nobody else -/
  accepted (n : UInt64) :
    (c.act now action).1 = .ok (.sync n) ↔ .started n ∈ (c.act now action).2.2
  /-- the number was not waiting before -/
  fresh (n : UInt64) : (c.act now action).1 = .ok (.sync n) → c.pending.get? n = none
  /-- a result goes to a request that waits, and something has caused it -/
  caused (n : UInt64) (result : Except ClientError Response) (after : Duration) :
    .resolved n result after ∈ (c.act now action).2.2 →
      ∃ w, c.pending.get? n = some w ∧ Cause c action n w result

section Accounts

variable {c c' : Connection} {now : Nat} {action : Action} {result : Except ClientError Receipt}
  {effects : List Effect}

theorem Turn.accepted (h : Turn c now action (result, c', effects)) (n : UInt64) :
    result = .ok (.sync n) ↔ .started n ∈ effects := by
  cases h with
  | quiet _ _ _ hsilent hunnumbered =>
      refine ⟨fun hn => absurd hn (hunnumbered n), ?_⟩
      intro hstart
      have hnone := hsilent _ hstart
      cases hnone
  | begun w packet _ =>
      constructor
      · intro hn
        cases hn
        exact List.mem_cons_self
      · intro hstart
        rcases List.mem_cons.1 hstart with hn | hqueued
        · cases hn
          rfl
        · cases List.mem_singleton.1 hqueued
  | @answered p w _ _ _ =>
      refine ⟨(nomatch ·), ?_⟩
      intro hstart
      rcases List.mem_append.1 hstart with hobserved | hresolved
      · cases observation_silent p _ hobserved
      · cases List.mem_singleton.1 hresolved
  | expired _ =>
      refine ⟨(nomatch ·), ?_⟩
      intro hstart
      cases List.mem_singleton.1 hstart
  | ended _ =>
      refine ⟨(nomatch ·), ?_⟩
      intro hstart
      rcases List.mem_append.1 hstart with hfailed | hclosed
      · obtain ⟨_, _, hentry⟩ := List.mem_map.1 hfailed
        cases hentry
      · cases List.mem_singleton.1 hclosed

theorem Turn.caused (h : Turn c now action (result, c', effects)) {n : UInt64}
    {outcome : Except ClientError Response} {after : Duration}
    (hresolved : .resolved n outcome after ∈ effects) :
    ∃ w, c.pending.get? n = some w ∧ Cause c action n w outcome := by
  cases h with
  | quiet _ _ _ hsilent _ =>
      have hnone := hsilent _ hresolved
      cases hnone
  | begun w packet _ =>
      rcases List.mem_cons.1 hresolved with hstart | hqueued
      · cases hstart
      · cases List.mem_singleton.1 hqueued
  | @answered p w hevent hchunk hw =>
      rcases List.mem_append.1 hresolved with hobserved | hresolved
      · cases observation_silent p _ hobserved
      · cases List.mem_singleton.1 hresolved
        exact ⟨w, hw, cause_resultOf ⟨hevent, hchunk, rfl⟩⟩
  | @expired _ w hw =>
      cases List.mem_singleton.1 hresolved
      exact ⟨w, hw, rfl, rfl, rfl⟩
  | ended hopen =>
      rcases List.mem_append.1 hresolved with hfailed | hclosed
      · obtain ⟨⟨sync, w⟩, hmem, hentry⟩ := List.mem_map.1 hfailed
        cases hentry
        exact ⟨w, SortedMap.get?_eq_some_iff.2 hmem, rfl, hopen⟩
      · cases List.mem_singleton.1 hclosed

/-- Whoever gets a number for a response gets the number of the next frame. -/
theorem Turn.sync_eq (h : Turn c now action (result, c', effects)) {n : UInt64}
    (hn : result = .ok (.sync n)) : n = c.nextSync := by
  cases h with
  | quiet _ _ _ _ hunnumbered => exact absurd hn (hunnumbered n)
  | begun w packet _ =>
      cases hn
      rfl
  | answered | expired | ended => cases hn

/-- On a connection whose books agree every action is accounted for. -/
theorem Balanced.accounted {past : List Effect} (h : Balanced c past)
    (hissued : c.issued < UInt64.size) (now : Nat) (action : Action) : Accounted c now action where
  accepted n := (c.act_turn now action).accepted n
  fresh n hn := by
    rw [(c.act_turn now action).sync_eq hn]
    exact h.get?_nextSync hissued
  caused _ _ _ hresolved := (c.act_turn now action).caused hresolved

end Accounts

/-! ## The end of a connection -/

/-- A connection is at its end if it is closed and nothing waits. -/
def Ended (c : Connection) : Prop := c.isClosed = true ∧ c.pending = .empty

/-- Nothing is sent at the end of a connection. -/
theorem Ended.send {c : Connection} (h : Ended c) (now : Nat) (kind : RequestType) (body : Body)
    (options : RequestOptions) (streamId : Option UInt64) :
    c.send now kind body options streamId = (.error .connectionClosed, c, []) := by
  rw [Connection.send, if_pos h.1]

/-- The end of a connection is final, and no request begins or ends after it. -/
theorem Turn.of_ended {c c' : Connection} {now : Nat} {action : Action}
    {result : Except ClientError Receipt} {effects : List Effect}
    (h : Turn c now action (result, c', effects)) (hended : Ended c) :
    Ended c' ∧ ∀ e ∈ effects, e.request? = none := by
  obtain ⟨hclosed, hempty⟩ := hended
  cases h with
  | quiet hpending _ hlifecycle hsilent _ =>
      refine ⟨⟨?_, hpending.trans hempty⟩, hsilent⟩
      rcases hlifecycle with hsame | ⟨hopen, _⟩
      · rw [isClosed, hsame]
        exact hclosed
      · rw [hclosed] at hopen
        cases hopen
  | begun _ _ hopen | ended hopen =>
      rw [hclosed] at hopen
      cases hopen
  | answered _ _ hw | expired hw =>
      rw [hempty] at hw
      cases hw

/-- Closing leaves nothing that waits, except for a change of state to closed. -/
theorem Turn.pending_of_closed {c c' : Connection} {now : Nat} {action : Action}
    {result : Except ClientError Receipt} {effects : List Effect}
    (h : Turn c now action (result, c', effects)) (hc : c.isClosed = true → c.pending = .empty)
    (haction : action ≠ .setLifecycle .closed) (hclosed : c'.isClosed = true) :
    c'.pending = .empty := by
  cases h with
  | quiet hpending _ hlifecycle _ _ =>
      rcases hlifecycle with hsame | ⟨_, hstate⟩
      · rw [isClosed, hsame] at hclosed
        rw [hpending, hc hclosed]
      · rw [isClosed, beq_iff_eq] at hclosed
        rw [hclosed] at hstate
        exact absurd hstate haction
  | begun w packet hopen =>
      have hclosed : c.isClosed = true := hclosed
      rw [hclosed] at hopen
      cases hopen
  | answered _ _ hw | expired hw =>
      rw [hc hclosed] at hw
      cases hw
  | ended _ => rfl

/-! ## Runs -/

theorem issued_le_act (c : Connection) (now : Nat) (action : Action) :
    c.issued ≤ (c.act now action).2.1.issued := by
  have hturn := c.act_turn now action
  generalize c.act now action = outcome at hturn ⊢
  cases hturn with
  | quiet _ hissued _ _ _ => exact hissued
  | begun => exact Nat.le_succ _
  | answered | expired | ended => exact Nat.le_refl _

theorem issued_le_run (c : Connection) (steps : List (Nat × Action)) :
    c.issued ≤ (c.run steps).1.issued := by
  induction steps generalizing c with
  | nil => exact Nat.le_refl _
  | cons step rest ih => exact Nat.le_trans (issued_le_act c step.1 step.2) (ih _)

theorem Balanced.run {c : Connection} {past : List Effect} (h : Balanced c past)
    (steps : List (Nat × Action)) (hfew : (c.run steps).1.issued < UInt64.size) :
    Balanced (c.run steps).1 (past ++ (c.run steps).2) := by
  induction steps generalizing c past with
  | nil =>
      rw [Connection.run, List.append_nil]
      exact h
  | cons step rest ih =>
      have hnow := h.act step.1 step.2 (Nat.lt_of_le_of_lt (issued_le_run _ rest) hfew)
      have hrest := ih hnow hfew
      rw [List.append_assoc] at hrest
      exact hrest

theorem Ended.run {c : Connection} (h : Ended c) (steps : List (Nat × Action)) :
    Ended (c.run steps).1 ∧ ∀ e ∈ (c.run steps).2, e.request? = none := by
  induction steps generalizing c with
  | nil => exact ⟨h, by simp [Connection.run]⟩
  | cons step rest ih =>
      obtain ⟨hended, hnow⟩ := (c.act_turn step.1 step.2).of_ended h
      obtain ⟨hfinal, hrest⟩ := ih hended
      exact ⟨hfinal, fun e he => (List.mem_append.1 he).elim (hnow e) (hrest e)⟩

theorem pending_run_of_closed {c : Connection} {steps : List (Nat × Action)}
    (hc : c.isClosed = true → c.pending = .empty)
    (hsteps : ∀ step ∈ steps, step.2 ≠ .setLifecycle .closed)
    (hclosed : (c.run steps).1.isClosed = true) : (c.run steps).1.pending = .empty := by
  induction steps generalizing c with
  | nil => exact hc hclosed
  | cons step rest ih =>
      have hstep := hsteps step List.mem_cons_self
      refine ih ?_ (fun next hnext => hsteps next (List.mem_cons_of_mem _ hnext)) hclosed
      exact (c.act_turn step.1 step.2).pending_of_closed hc hstep

/-- Whatever happens to a new connection, in any order, and as long as there are numbers for
frames left: a request that was taken begins once and has one result unless it still waits; what
is done next takes a request only under a number that does not wait, and gives a result only to
one that waits and only for a cause of that result; and once the connection is closed by its
shutdown, which is how it is closed by its owner, after draining or at once, and by its peer, every
request has its result and nothing changes that. -/
theorem requests_settle_once (tag : String) (index : Nat) (salt : Bytes)
    (requestTimeout : Duration) (steps : List (Nat × Action)) (c : Connection)
    (past : List Effect) (hrun : (spawned tag index salt requestTimeout).run steps = (c, past))
    (hfew : c.issued < UInt64.size) :
    (∀ n, startsOf n past ≤ 1 ∧ startsOf n past = (resultsOf n past).length + c.waits n) ∧
    (∀ now action, Accounted c now action) ∧
    ((∀ step ∈ steps, step.2 ≠ .setLifecycle .closed) → c.isClosed = true →
      (∀ n, (resultsOf n past).length = startsOf n past) ∧
      ∀ later, ((c.run later).1.isClosed = true ∧ (c.run later).1.pending = .empty) ∧
        (∀ n, startsOf n (c.run later).2 = 0 ∧ resultsOf n (c.run later).2 = []) ∧
        ∀ now kind body options streamId,
          (c.run later).1.send now kind body options streamId =
            (.error .connectionClosed, (c.run later).1, [])) := by
  have hbalanced : Balanced c past := by
    have h := (balanced_spawned tag index salt requestTimeout).run steps (by rwa [hrun])
    rwa [hrun] at h
  refine ⟨fun n => ⟨hbalanced.once n, hbalanced.balance n⟩,
    fun now action => hbalanced.accounted hfew now action, ?_⟩
  intro hsteps hclosed
  have hempty : c.pending = .empty := by
    have h := pending_run_of_closed (c := spawned tag index salt requestTimeout)
      (fun _ => rfl) hsteps
    rw [hrun] at h
    exact h hclosed
  refine ⟨?_, ?_⟩
  · intro n
    have hwaits : c.waits n = 0 := waits_of_none (by rw [hempty]; rfl)
    have hbalance := hbalanced.balance n
    omega
  · intro later
    have hended : Ended c := ⟨hclosed, hempty⟩
    obtain ⟨hfinal, hsilent⟩ := hended.run later
    exact ⟨hfinal, fun n => ⟨startsOf_of_silent hsilent, resultsOf_of_silent hsilent⟩,
      hfinal.send⟩

/-- Two requests, of which one ends by its time and one by the shutdown. -/
theorem two_requests_settle_once :
    let run := (spawned "default" 0 [] (.ofMillis 1000)).run
      [(0, .request .ping {}), (5, .request .ping {}), (1000, .expire 1), (1001, .drain),
        (1002, .expire 1), (1003, .shutdown)]
    (run.1.issued < UInt64.size ∧ run.1.isClosed = true) ∧
      (resultsOf 1 run.2).length = 1 ∧ (resultsOf 2 run.2).length = 1 ∧
      ∀ n, (resultsOf n run.2).length = startsOf n run.2 := by
  intro run
  have hfew : run.1.issued < UInt64.size := by decide +kernel
  have hclosed : run.1.isClosed = true := by decide +kernel
  have h := requests_settle_once "default" 0 [] (.ofMillis 1000) _ run.1 run.2 rfl hfew
  have hresults := (h.2.2 (by simp) hclosed).1
  refine ⟨⟨hfew, hclosed⟩, ?_, ?_, hresults⟩
  · rw [hresults 1]
    decide +kernel
  · rw [hresults 2]
    decide +kernel

end Connection

end TupleWire
