/-
  What becomes of the callbacks of a connection.

  A request to watch a key, or to stop watching it, changes the table of
  callbacks before its frame is queued: if the two sides have agreed on
  watching, the table changes even where the frame does not fit.  Nothing else
  that can happen to a connection touches the table.
-/
import TupleWire.Proofs.Connection.Turn

set_option autoImplicit false

namespace TupleWire

/-- Whether an action leaves alone what is watched and what was agreed on. -/
def Action.leavesWatches : Action → Prop
  | .watch _ _ | .unwatch _ | .agree _ => False
  | _ => True

theorem Action.leavesWatches_shutdown : Action.shutdown.leavesWatches := trivial

theorem Action.leavesWatches_drain : Action.drain.leavesWatches := trivial

theorem Action.leavesWatches_setLifecycle (state : Lifecycle) :
    (Action.setLifecycle state).leavesWatches := trivial

namespace Connection

/-- Whether the two sides have agreed on watching. -/
def canWatch (c : Connection) : Bool := c.negotiated.allows .watch

/-- Whether a connection can ask its server to watch a key or to stop watching it: they have agreed
on watching, and the frame has room for the key. -/
def CanAsk (c : Connection) (kind : RequestType) (key : String) : Prop :=
  c.canWatch = true ∧
    (⟨c.nextHeader kind none none, Body.watch key⟩ : Packet).payload.length ≤ Packet.payloadLimit

variable {c : Connection} {now : Nat} {key : String} {callback : WatchCallback}

/-! ## Watching a key, and no longer -/

/-- Sending what is never answered changes nothing but the count of the numbers given out. -/
theorem conn_sendOneway (c : Connection) (kind : RequestType) (body : Body) :
    ∃ issued, (c.sendOneway kind body).2.1 = { c with issued } := by
  unfold sendOneway
  split
  · exact ⟨c.issued, rfl⟩
  · dsimp only
    split
    · exact ⟨c.issued + 1, rfl⟩
    · exact ⟨c.issued + 1, rfl⟩

/-- An open connection queues what is never answered if and only if it fits a frame. -/
theorem isOk_sendOneway_iff (hopen : c.isClosed = false) (kind : RequestType) (body : Body) :
    (c.sendOneway kind body).1.isOk = true ↔
      (⟨c.nextHeader kind none none, body⟩ : Packet).payload.length ≤ Packet.payloadLimit := by
  simp only [sendOneway, hopen, Bool.false_eq_true, if_false, Packet.frame]
  by_cases hfits :
      (⟨c.nextHeader kind none none, body⟩ : Packet).payload.length ≤ Packet.payloadLimit
  · simp [hfits, Except.isOk, Except.toBool]
  · simp [hfits, Except.isOk, Except.toBool]

/-- Sets the table of callbacks and tells the server, if watching was agreed on. -/
def ask (c : Connection) (kind : RequestType) (key : String)
    (watchers : Dict String WatchCallback) : Except ClientError Unit × Connection × List Effect :=
  match c.negotiated.check .watch with
  | .error capability => (.error (.contract (.unsupported capability)), c, [])
  | .ok () => { c with watchers }.sendOneway kind (Body.watch key)

theorem watch_eq_ask : c.watch key callback = c.ask .watch key (c.watchers.insert key callback) :=
  rfl

theorem unwatch_eq_ask : c.unwatch key = c.ask .unwatch key (c.watchers.erase key) := rfl

theorem ask_of_canWatch (h : c.canWatch = true) (kind : RequestType) (key : String)
    (watchers : Dict String WatchCallback) :
    c.ask kind key watchers = { c with watchers }.sendOneway kind (Body.watch key) := by
  have hcheck : c.negotiated.check .watch = .ok () := if_pos h
  rw [ask, hcheck]

theorem ask_of_not_canWatch (h : c.canWatch = false) (kind : RequestType) (key : String)
    (watchers : Dict String WatchCallback) :
    c.ask kind key watchers = (.error (.contract (.unsupported .watch)), c, []) := by
  have hcheck : c.negotiated.check .watch = .error .watch := if_neg (by simpa [canWatch] using h)
  rw [ask, hcheck]

theorem conn_ask (c : Connection) (kind : RequestType) (key : String)
    (watchers : Dict String WatchCallback) :
    ∃ issued, (c.ask kind key watchers).2.1 =
      { c with watchers := if c.canWatch then watchers else c.watchers, issued } := by
  cases hcan : c.canWatch with
  | true =>
      rw [ask_of_canWatch hcan]
      exact conn_sendOneway _ _ _
  | false =>
      rw [ask_of_not_canWatch hcan]
      exact ⟨c.issued, rfl⟩

theorem isOk_ask_iff (hopen : c.isClosed = false) (kind : RequestType) (key : String)
    (watchers : Dict String WatchCallback) :
    (c.ask kind key watchers).1.isOk = true ↔ c.CanAsk kind key := by
  rw [CanAsk]
  cases hcan : c.canWatch with
  | true =>
      rw [ask_of_canWatch hcan, isOk_sendOneway_iff (c := { c with watchers }) hopen]
      exact (and_iff_right rfl).symm
  | false =>
      rw [ask_of_not_canWatch hcan]
      simp [Except.isOk, Except.toBool]

theorem isOk_withReceipt {α : Type} (receipt : α → Receipt)
    (outcome : Except ClientError α × Connection × List Effect) :
    (withReceipt receipt outcome).1.isOk = outcome.1.isOk := by
  obtain ⟨result, c, effects⟩ := outcome
  cases result with
  | error e => rfl
  | ok a => rfl

theorem conn_watch (c : Connection) (now : Nat) (key : String) (callback : WatchCallback) :
    ∃ issued, (c.act now (.watch key callback)).2.1 =
      { c with
        watchers := if c.canWatch then c.watchers.insert key callback else c.watchers
        issued } :=
  c.conn_ask .watch key _

theorem conn_unwatch (c : Connection) (now : Nat) (key : String) :
    ∃ issued, (c.act now (.unwatch key)).2.1 =
      { c with watchers := if c.canWatch then c.watchers.erase key else c.watchers, issued } :=
  c.conn_ask .unwatch key _

theorem isOk_watch_iff (hopen : c.isClosed = false) :
    (c.act now (.watch key callback)).1.isOk = true ↔ c.CanAsk .watch key := by
  rw [act, isOk_withReceipt, watch_eq_ask, isOk_ask_iff hopen]

theorem isOk_unwatch_iff (hopen : c.isClosed = false) :
    (c.act now (.unwatch key)).1.isOk = true ↔ c.CanAsk .unwatch key := by
  rw [act, isOk_withReceipt, unwatch_eq_ask, isOk_ask_iff hopen]

/-! ## Everything else -/

theorem isClosed_act (now : Nat) (action : Action) (h : c.isClosed = true) :
    (c.act now action).2.1.isClosed = true := by
  have hturn := c.act_turn now action
  generalize c.act now action = outcome at hturn ⊢
  cases hturn with
  | quiet _ _ hlifecycle _ _ =>
      rcases hlifecycle with hsame | ⟨hopen, _⟩
      · rw [isClosed, hsame]
        exact h
      · rw [h] at hopen
        cases hopen
  | begun _ _ hopen | ended hopen =>
      rw [h] at hopen
      cases hopen
  | answered | expired => exact h

theorem watches_send (c : Connection) (now : Nat) (kind : RequestType) (body : Body)
    (options : RequestOptions) (streamId : Option UInt64) :
    (c.send now kind body options streamId).2.1.negotiated = c.negotiated ∧
      (c.send now kind body options streamId).2.1.watchers = c.watchers := by
  unfold send
  split
  · exact ⟨rfl, rfl⟩
  · dsimp only
    split
    · exact ⟨rfl, rfl⟩
    · exact ⟨rfl, rfl⟩

theorem watches_receive (c : Connection) (now : Nat) (p : ReceivedPacket) :
    (c.receive now p).1.negotiated = c.negotiated ∧
      (c.receive now p).1.watchers = c.watchers := by
  simp only [receive, route]
  split
  · simp only [receiveEvent]
    split
    · exact ⟨rfl, rfl⟩
    · dsimp only [acknowledge]
      split
      · exact ⟨rfl, rfl⟩
      · exact ⟨rfl, rfl⟩
  · split
    · exact ⟨rfl, rfl⟩
    · simp only [receiveResponse]
      split
      · exact ⟨rfl, rfl⟩
      · exact ⟨rfl, rfl⟩

/-- What is watched changes only where somebody asks for it. -/
theorem watches_act (c : Connection) (now : Nat) {action : Action} (h : action.leavesWatches) :
    (c.act now action).2.1.negotiated = c.negotiated ∧
      (c.act now action).2.1.watchers = c.watchers := by
  cases action with
  | watch key callback | unwatch key | agree negotiated => exact absurd h id
  | request r options =>
      simp only [act, withReceipt, request]
      split
      · exact ⟨rfl, rfl⟩
      · exact watches_send _ _ _ _ _ _
  | inStream stream r options => exact watches_send _ _ _ _ _ _
  | oneway kind body =>
      obtain ⟨issued, hsent⟩ := c.conn_sendOneway kind body
      simp only [act, withReceipt, hsent]
      exact ⟨trivial, trivial⟩
  | openStream =>
      simp only [act, withReceipt, openStream]
      split
      · exact ⟨rfl, rfl⟩
      · exact ⟨rfl, rfl⟩
  | receive p => exact c.watches_receive now p
  | expire sync =>
      simp only [act, expire]
      split
      · exact ⟨rfl, rfl⟩
      · exact ⟨rfl, rfl⟩
  | drain => exact ⟨rfl, rfl⟩
  | shutdown =>
      simp only [act, shutdown]
      split
      · exact ⟨rfl, rfl⟩
      · exact ⟨rfl, rfl⟩
  | setLifecycle state =>
      simp only [act, setLifecycle]
      split
      · exact ⟨rfl, rfl⟩
      · exact ⟨rfl, rfl⟩

end Connection

end TupleWire
