/-
  What waits on the connection of an attempt.

  Whoever connects has a connection of his own and asks for one thing at a time.
  So the request whose result is awaited is the only one that waits there, and
  once its result is known, or the connection was given up, there is none
  (`Sole`).  Every event of an attempt settles what it begins, up to the request
  that waits then (`Settles`), and an attempt that is over has settled all of it.
-/
import TupleWire.Proofs.Connection.Attempt
import TupleWire.Proofs.Connection.Fleet

set_option autoImplicit false

namespace TupleWire

open Effect

/-- Whether something happens to a connection that nobody asks for anything. -/
def Action.isInbound : Action → Bool
  | receive _ | expire _ | shutdown => true
  | request _ _ | inStream _ _ _ | oneway _ _ | watch _ _ | unwatch _ | openStream | drain
  | setLifecycle _ | agree _ => false

theorem Connection.act_ne_sync {action : Action} (haction : action.isInbound = true)
    (c : Connection) (now : Nat) (n : UInt64) : (c.act now action).1 ≠ .ok (.sync n) := by
  cases action with
  | receive p | expire sync | shutdown => simp [act]
  | request | inStream | oneway | watch | unwatch | openStream | drain | setLifecycle
  | agree => cases haction

theorem Connection.pendingCount_of_empty {c : Connection} (hempty : c.pending = .empty) :
    c.pendingCount = 0 := by
  rw [pendingCount, hempty]
  rfl

namespace Attempt

/-- How many requests wait on the connection of an attempt. -/
def waiting : Attempt → Nat
  | refused _ => 0
  | going h _ => h.conn.pendingCount
  | connected c | failed c _ => c.pendingCount

/-- Whether nothing waits but the request whose result is awaited. -/
inductive Sole : Attempt → Prop
  | refused (e : ClientError) : Sole (.refused e)
  | asking {h : Handshake} {w : Waiter}
      (pending : h.conn.pending = SortedMap.empty.insert h.awaited w)
      (isOpen : h.conn.isClosed = false) : Sole (.going h none)
  | answered {h : Handshake} {result : Except ClientError Response}
      (pending : h.conn.pending = .empty) : Sole (.going h (some result))
  | connected {c : Connection} (pending : c.pending = .empty) : Sole (.connected c)
  | failed {c : Connection} {e : ClientError} (pending : c.pending = .empty) : Sole (.failed c e)

/-- What requests that begin, or waited before, come to: they end, or wait afterwards. -/
structure Settles (before : Nat) (after : Attempt) (effects : List Effect) : Prop where
  sole : Sole after
  balance : before + beginnings effects = (outcomesOf effects).length + after.waiting

variable {a : Attempt} {h : Handshake} {c : Connection} {effects more : List Effect} {n : Nat}

/-- An attempt that is over leaves nothing that waits. -/
theorem Sole.waiting_of_isOver (hsole : Sole a) (hover : a.isOver = true) : a.waiting = 0 := by
  cases hsole with
  | refused e => rfl
  | asking hpending hopen => cases hover
  | answered hpending => cases hover
  | connected hpending => exact Connection.pendingCount_of_empty hpending
  | failed hpending => exact Connection.pendingCount_of_empty hpending

/-- A handshake whose next result is awaited has one request that waits. -/
theorem Sole.pendingCount_of_going (hsole : Sole (.going h none)) : h.conn.pendingCount = 1 := by
  cases hsole with
  | asking hpending hopen =>
      rw [Connection.pendingCount, hpending]
      rfl

namespace Settles

theorem still (hsole : Sole a) : Settles a.waiting a [] :=
  ⟨hsole, (Nat.zero_add _).symm⟩

theorem trans {b : Attempt} (hfirst : Settles n a effects) (hsecond : Settles a.waiting b more) :
    Settles n b (effects ++ more) where
  sole := hsecond.sole
  balance := by
    have hbefore := hfirst.balance
    have hafter := hsecond.balance
    rw [beginnings_append, outcomesOf_append, List.length_append]
    omega

/-- What neither begins nor ends a request. -/
theorem silent (hsole : Sole a) (hsilent : ∀ e ∈ effects, e.request? = none) :
    Settles a.waiting a effects where
  sole := hsole
  balance := by
    rw [beginnings_of_silent hsilent, outcomesOf_of_silent hsilent]
    exact Nat.add_comm _ _

end Settles

/-! ## Giving up -/

/-- Giving a connection up ends whatever waits on it. -/
theorem settles_fail (hclosed : c.isClosed = true → c.pending = .empty) (now : Nat)
    (e : ClientError) : Settles c.pendingCount (ofProgress (Handshake.fail c now e).1)
      (Handshake.fail c now e).2 := by
  have hturn := c.act_turn now .shutdown
  have hempty : (c.act now .shutdown).2.1.pending = .empty := by
    refine hturn.pending_of_closed hclosed (by simp) ?_
    rw [Connection.isClosed, beq_iff_eq]
    exact c.lifecycle_shutdown now
  exact ⟨.failed hempty, (hturn.balance fun hnumber => by cases hnumber).2⟩

/-- Giving up a connection on which nothing waits. -/
theorem settles_fail_of_empty (hempty : c.pending = .empty) (now : Nat) (e : ClientError) :
    Settles 0 (ofProgress (Handshake.fail c now e).1) (Handshake.fail c now e).2 := by
  rw [← Connection.pendingCount_of_empty hempty]
  exact settles_fail (fun _ => hempty) now e

/-! ## Asking -/

/-- A connection on which nothing waits is asked for one thing. -/
theorem settles_ask (hempty : c.pending = .empty) (group : Group) (now : Nat)
    (stage : HandshakeStage) (r : Request) :
    Settles 0 (ofProgress (Handshake.ask group now stage r c).1)
      (Handshake.ask group now stage r c).2 := by
  have hturn : Connection.Turn c now (.request r {})
      (Connection.withReceipt .sync (c.request now r {})) := Connection.request_turn r {}
  unfold Handshake.ask
  generalize c.request now r {} = outcome at hturn ⊢
  obtain ⟨result, c', effects⟩ := outcome
  cases result with
  | error e =>
      cases hturn with
      | quiet hpending _ _ hsilent _ =>
          have hstill : c'.pending = .empty := hpending.trans hempty
          have hnone : waiting (.connected c') = 0 := Connection.pendingCount_of_empty hstill
          have hquiet : Settles 0 (.connected c') effects := by
            rw [← hnone]
            exact Settles.silent (.connected hstill) hsilent
          have hfailed := settles_fail_of_empty hstill now e
          rw [← hnone] at hfailed
          exact hquiet.trans hfailed
  | ok sync =>
      cases hturn with
      | quiet _ _ _ _ hunnumbered => exact absurd rfl (hunnumbered sync)
      | begun w packet hopen =>
          refine ⟨.asking (w := w) ?_ hopen, ?_⟩
          · dsimp only
            rw [hempty]
          · rw [ofProgress, waiting, Connection.pendingCount, hempty]
            rfl

theorem pending_setLifecycle (c : Connection) (state : Lifecycle) :
    (c.setLifecycle state).pending = c.pending := by
  unfold Connection.setLifecycle
  split
  · rfl
  · rfl

theorem settles_probe (hempty : c.pending = .empty) (group : Group) (now : Nat) :
    Settles 0 (ofProgress (Handshake.probe group now c).1) (Handshake.probe group now c).2 :=
  settles_ask ((pending_setLifecycle c _).trans hempty) group now .probing .ping

theorem settles_authenticate (hempty : c.pending = .empty) (group : Group) (now : Nat) :
    Settles 0 (ofProgress (Handshake.authenticate group now c).1)
      (Handshake.authenticate group now c).2 := by
  have hnext : (c.setLifecycle .authenticating).pending = .empty :=
    (pending_setLifecycle c _).trans hempty
  unfold Handshake.authenticate
  dsimp only
  split
  · exact settles_ask hnext group now .authenticating _
  · exact settles_probe hnext group now

/-- Going on with a result begins one request more at most. -/
theorem settles_step (hempty : h.conn.pending = .empty) (now : Nat)
    (result : Except ClientError Response) :
    Settles 0 (ofProgress (h.step now result).1) (h.step now result).2 := by
  unfold Handshake.step
  cases h.stage with
  | identifying =>
      dsimp only
      cases Negotiated.ofResult result with
      | error e => exact settles_fail_of_empty hempty now e
      | ok negotiated =>
          exact settles_authenticate (c := { h.conn with negotiated }) hempty h.group now
  | authenticating =>
      cases result with
      | error e => exact settles_fail_of_empty hempty now (Handshake.authError e)
      | ok response => exact settles_probe hempty h.group now
  | probing =>
      cases result with
      | error e => exact settles_fail_of_empty hempty now e
      | ok response =>
          have hready : (h.conn.setLifecycle .ready).pending = .empty :=
            (pending_setLifecycle _ _).trans hempty
          have hnone : waiting (.connected (h.conn.setLifecycle .ready)) = 0 :=
            Connection.pendingCount_of_empty hready
          have hsilent : ∀ e ∈ (response.schemaVersion.map Effect.observed).toList,
              e.request? = none := by
            cases response.schemaVersion <;> simp [Effect.request?]
          have hsettles := Settles.silent (.connected hready) hsilent
          rw [hnone] at hsettles
          exact hsettles

/-! ## What happens to the connection -/

/-- A request that ends has a result. -/
theorem exists_resultOf? {sync : UInt64} {result : Except ClientError Response} {after : Duration}
    (hresolved : .resolved sync result after ∈ effects) :
    ∃ first, Handshake.resultOf? sync effects = some first := by
  have hmem : result ∈ resultsOf sync effects := mem_resultsOf_iff.2 ⟨after, hresolved⟩
  rw [resultOf?_eq_head?]
  cases hresults : resultsOf sync effects with
  | nil =>
      rw [hresults] at hmem
      cases hmem
  | cons first rest => exact ⟨first, rfl⟩

/-- What happens to a connection while its request is awaited ends the request and is its result, or
does neither. -/
theorem settles_observe {answer : Option (Except ClientError Response)}
    (hsole : Sole (.going h answer)) {action : Action} (haction : action.isInbound = true)
    (now : Nat) :
    Settles h.conn.pendingCount (observe h answer now action).1
      (observe h answer now action).2 := by
  have hnumber := h.conn.act_ne_sync haction now
  have hturn := h.conn.act_turn now action
  unfold observe
  generalize h.conn.act now action = outcome at hnumber hturn ⊢
  obtain ⟨result, c', effects⟩ := outcome
  have hbalance := (hturn.balance fun heq => absurd heq (hnumber _)).2
  refine ⟨?_, hbalance⟩
  dsimp only
  cases hsole with
  | answered hpending =>
      refine .answered ?_
      dsimp only
      cases hturn with
      | quiet hsame _ _ _ _ => exact hsame.trans hpending
      | begun w packet _ => exact absurd rfl (hnumber _)
      | answered _ _ hw | expired hw =>
          rw [hpending] at hw
          cases hw
      | ended _ => rfl
  | @asking _ w hpending hopen =>
      have hends {c' : Connection} {effects : List Effect} (hempty : c'.pending = .empty)
          (hresolved : ∃ result after, .resolved h.awaited result after ∈ effects) :
          Sole (.going { h with conn := c' } (none <|> Handshake.resultOf? h.awaited effects)) := by
        obtain ⟨result, after, hresolved⟩ := hresolved
        obtain ⟨first, hfirst⟩ := exists_resultOf? hresolved
        rw [hfirst]
        exact .answered hempty
      cases hturn with
      | quiet hsame _ hlifecycle hsilent _ =>
          have hnone : Handshake.resultOf? h.awaited effects = none := by
            rw [resultOf?_eq_head?, resultsOf_of_silent hsilent]
            rfl
          rw [hnone]
          refine .asking (w := w) (hsame.trans hpending) ?_
          rcases hlifecycle with hstays | ⟨_, hset⟩
          · show c'.isClosed = false
            rw [Connection.isClosed, hstays]
            exact hopen
          · rw [hset] at haction
            cases haction
      | begun w packet _ => exact absurd rfl (hnumber _)
      | @answered p v _ _ hw =>
          rw [hpending] at hw
          have hsync := SortedMap.eq_of_get?_single hw
          rw [hsync, hpending, SortedMap.erase_single]
          exact hends rfl ⟨_, _, List.mem_append_right _ List.mem_cons_self⟩
      | @expired sync v hw =>
          rw [hpending] at hw
          have hsync := SortedMap.eq_of_get?_single hw
          rw [hsync, hpending, SortedMap.erase_single]
          exact hends rfl ⟨_, _, List.mem_cons_self⟩
      | ended _ =>
          rw [hpending]
          exact hends rfl ⟨_, _, List.mem_append_left _ List.mem_cons_self⟩

/-! ## Events -/

theorem Settles.proceed {answer : Option (Except ClientError Response)}
    (hsole : Sole (.going h answer)) (now : Nat) :
    Settles h.conn.pendingCount (ofProgress (proceed h now answer).1) (proceed h now answer).2 := by
  cases hsole with
  | asking hpending hopen => exact Settles.still (.asking hpending hopen)
  | answered hpending =>
      rw [Connection.pendingCount_of_empty hpending]
      exact settles_step hpending now _

theorem Settles.giveUp (progress : HandshakeProgress) (hsole : Sole (ofProgress progress))
    (now : Nat) : Settles (ofProgress progress).waiting (ofProgress (giveUp now progress).1)
      (giveUp now progress).2 := by
  cases progress with
  | ready c => exact Settles.still hsole
  | failed c e => exact Settles.still hsole
  | going h =>
      cases hsole with
      | asking hpending hopen =>
          refine settles_fail (fun hclosed => ?_) now _
          rw [hopen] at hclosed
          cases hclosed

/-- Whatever happens during an attempt, what begins ends or waits. -/
theorem Sole.step (hsole : Sole a) (now : Nat) (event : Event) :
    Settles a.waiting (a.step now event).1 (a.step now event).2 := by
  cases a with
  | refused e => exact Settles.still hsole
  | connected c => exact Settles.still hsole
  | failed c e => exact Settles.still hsole
  | going h answer =>
      cases event with
      | received p => exact settles_observe hsole rfl now
      | expired sync => exact settles_observe hsole rfl now
      | lost => exact settles_observe hsole rfl now
      | wake => exact Settles.proceed hsole now
      | timeOut =>
          have hproceeded := Settles.proceed hsole now
          exact hproceeded.trans (Settles.giveUp _ hproceeded.sole now)

theorem Sole.run (hsole : Sole a) (steps : List (Nat × Event)) :
    Settles a.waiting (a.run steps).1 (a.run steps).2 := by
  induction steps generalizing a with
  | nil => exact Settles.still hsole
  | cons step rest ih =>
      have hstep := hsole.step step.1 step.2
      exact hstep.trans (ih hstep.sole)

/-- A handshake begins with one request. -/
theorem settles_greeted {group : Group} {index : Nat} {requestTimeout : Duration} {now : Nat}
    {raw : Bytes} {progress : HandshakeProgress × List Effect}
    (hgreeted : Connection.greeted group index requestTimeout now raw = .ok progress) :
    Settles 0 (ofProgress progress.1) progress.2 := by
  unfold Connection.greeted at hgreeted
  split at hgreeted
  · cases hgreeted
  · cases hgreeted
    exact settles_ask rfl group now .identifying _

theorem settles_begin (group : Group) (index : Nat) (requestTimeout : Duration) (now : Nat)
    (opening : Opening) : Settles 0 (begin group index requestTimeout now opening).1
      (begin group index requestTimeout now opening).2 := by
  cases opening with
  | failed e => exact Settles.still (.refused e)
  | timedOut => exact Settles.still (.refused _)
  | greeted raw =>
      cases hgreeted : Connection.greeted group index requestTimeout now raw with
      | error e =>
          simp only [begin, hgreeted]
          exact Settles.still (.refused e)
      | ok progress =>
          simp only [begin, hgreeted]
          exact settles_greeted hgreeted

/-- A whole attempt settles what it begins, up to what waits at its end. -/
theorem settles_make (group : Group) (index : Nat) (requestTimeout : Duration) (now : Nat)
    (opening : Opening) (steps : List (Nat × Event)) :
    Settles 0 (make group index requestTimeout now opening steps).1
      (make group index requestTimeout now opening steps).2 := by
  have hbegun := settles_begin group index requestTimeout now opening
  exact hbegun.trans (hbegun.sole.run steps)

end Attempt

/-! ## Handshakes -/

/-- Whether something happens during a handshake by itself, and is not done to its connection. -/
def Handshake.Event.isInbound : Event → Bool
  | conn action => action.isInbound
  | timeOut => true

/-- A handshake goes on, and asks for the next thing as soon as it can. -/
theorem Attempt.Sole.onEvent {h : Handshake} (hsole : Sole (.going h none))
    {event : Handshake.Event} (hevent : event.isInbound = true) (now : Nat) :
    Settles h.conn.pendingCount (ofProgress (h.onEvent now event).1) (h.onEvent now event).2 := by
  cases event with
  | timeOut => exact Settles.giveUp (.going h) hsole now
  | conn action =>
      have hobserved := settles_observe hsole hevent now
      have hwoken := hobserved.sole.step now .wake
      have heq := onEvent_eq h now action
      obtain ⟨hattempt, heffects⟩ := Prod.mk.inj heq
      rw [hattempt, heffects]
      exact hobserved.trans hwoken

end TupleWire
