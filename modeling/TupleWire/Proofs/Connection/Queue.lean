/-
  The frames that a connection puts on its queue.

  Whatever happens to a connection puts one frame on the queue at most.  `Sends`
  lists the frames by what they are due to, `Queues` says what comes with one, and
  `act_queues` that nothing else can happen.  What is said of every frame that is
  ever queued rests on it: here that the frames have ascending numbers in the
  order in which they were asked for, one call after the other, and that only what
  is sent in a stream belongs to one.
-/
import Mathlib.Data.List.Basic
import TupleWire.Connection.History
import TupleWire.Proofs.Connection.Inbound
import TupleWire.Proofs.Connection.Watching

set_option autoImplicit false

namespace TupleWire

namespace Effect

/-- The packet that an effect puts on the queue. -/
def packet? : Effect → Option Packet
  | .queued packet => some packet
  | _ => none

/-- The packets that effects put on the queue, in order. -/
def packetsOf (effects : List Effect) : List Packet := effects.filterMap packet?

@[simp] theorem packetsOf_append (effects more : List Effect) :
    packetsOf (effects ++ more) = packetsOf effects ++ packetsOf more :=
  List.filterMap_append

/-- What says nothing but how requests ended queues nothing. -/
theorem packetsOf_eq_nil {effects : List Effect} (h : ∀ e ∈ effects, e.packet? = none) :
    packetsOf effects = [] :=
  List.filterMap_eq_nil_iff.2 h

end Effect

namespace Connection

open Effect

/-! ## What an action sends -/

/-- The frame that an action is to put on the queue, if it puts one there. -/
inductive Sends (c : Connection) : Action → Packet → Prop
  /-- a request that makes sense and that the server supports -/
  | request {r : Request} {options : RequestOptions} (checked : r.check c.negotiated = .ok ()) :
      Sends c (.request r options)
        ⟨c.nextHeader r.kind options.schemaVersion none, r.body c.salt⟩
  /-- a request in a stream -/
  | inStream {stream : UInt64} {r : StreamRequest} {options : RequestOptions} :
      Sends c (.inStream stream r options)
        ⟨c.nextHeader r.kind (r.options options).schemaVersion (some stream), r.body⟩
  | oneway {kind : RequestType} {body : Body} :
      Sends c (.oneway kind body) ⟨c.nextHeader kind none none, body⟩
  | watch {key : String} {callback : WatchCallback} (can : c.canWatch = true) :
      Sends c (.watch key callback) ⟨c.nextHeader .watch none none, Body.watch key⟩
  | unwatch {key : String} (can : c.canWatch = true) :
      Sends c (.unwatch key) ⟨c.nextHeader .unwatch none none, Body.watch key⟩
  /-- the next change of a key is asked for when a notification comes in -/
  | acknowledgement {p : ReceivedPacket} {key : String} {callback : WatchCallback}
      (watched : c.watchers.get? key = some callback) :
      Sends c (.receive p) (c.acknowledgement key)

/-- What an action does to the queue, together with the count of the numbers given out. -/
inductive Queues (c : Connection) (action : Action) : Connection × List Effect → Prop
  /-- nothing is queued; a frame that was too long has used a number up -/
  | nothing {c' : Connection} {effects : List Effect} (issued : c.issued ≤ c'.issued)
      (few : c'.issued ≤ c.issued + 1) (none : packetsOf effects = []) :
      Queues c action (c', effects)
  /-- one frame is queued -/
  | frame {c' : Connection} {effects : List Effect} {packet : Packet}
      (sends : Sends c action packet) (issued : c'.issued = c.issued + 1)
      (one : packetsOf effects = [packet]) : Queues c action (c', effects)

variable {c : Connection} {now : Nat} {action : Action}

theorem Queues.silent {c' : Connection} (h : c'.issued = c.issued) : Queues c action (c', []) :=
  .nothing (Nat.le_of_eq h.symm) (h ▸ Nat.le_succ _) rfl

/-- Sending a request, also in a stream, if the frame is due to the action. -/
theorem send_queues {kind : RequestType} {body : Body} {options : RequestOptions}
    {streamId : Option UInt64}
    (sends : Sends c action ⟨c.nextHeader kind options.schemaVersion streamId, body⟩) :
    Queues c action (c.send now kind body options streamId).2 := by
  unfold send
  split
  · exact .silent rfl
  · dsimp only
    split
    · exact .nothing (Nat.le_succ _) (Nat.le_refl _) rfl
    · exact .frame sends rfl rfl

/-- Sending what is never answered, also if the callbacks were changed before. -/
theorem sendOneway_queues {d : Connection} {kind : RequestType} {body : Body}
    (hissued : d.issued = c.issued) (sends : Sends c action ⟨d.nextHeader kind none none, body⟩) :
    Queues c action (d.sendOneway kind body).2 := by
  unfold sendOneway
  split
  · exact .silent hissued
  · have hadvance : d.advance.issued = c.issued + 1 := congrArg (· + 1) hissued
    dsimp only
    split
    · exact .nothing (hadvance ▸ Nat.le_succ _) (Nat.le_of_eq hadvance) rfl
    · exact .frame sends hadvance rfl

theorem packetsOf_observation (p : ReceivedPacket) : packetsOf (observation p) = [] := by
  unfold observation
  cases p.packet.header.schemaVersion with
  | none => rfl
  | some version => rfl

theorem Received.queues {p : ReceivedPacket} {fate : Fate} {outcome : Connection × List Effect}
    (h : Received c now p fate outcome) : Queues c (.receive p) outcome := by
  cases h with
  | @notified key callback _ _ hwatched _ =>
      have hpackets (event : WatchEvent) (asked : List Effect) :
          packetsOf (observation p ++ .notified callback event :: asked) = packetsOf asked := by
        rw [packetsOf_append, packetsOf_observation]
        rfl
      unfold asking
      split
      · exact .frame (.acknowledgement hwatched) rfl (hpackets _ _)
      · exact .nothing (Nat.le_succ _) (Nat.le_refl _) (hpackets _ _)
  | answered | ignored =>
      refine .nothing (Nat.le_refl _) (Nat.le_succ _) ?_
      rw [packetsOf_append, packetsOf_observation]
      rfl

/-- Every action queues one frame at most, one of those that `Sends` lists. -/
theorem act_queues (c : Connection) (now : Nat) (action : Action) :
    Queues c action (c.act now action).2 := by
  cases action with
  | request r options =>
      simp only [act, withReceipt, request]
      split
      · exact .silent rfl
      · rename_i hchecked
        exact send_queues (.request hchecked)
  | inStream stream r options => exact send_queues .inStream
  | oneway kind body => exact sendOneway_queues rfl .oneway
  | watch key callback =>
      rw [act, withReceipt, watch_eq_ask]
      cases hcan : c.canWatch with
      | true =>
          rw [ask_of_canWatch hcan]
          exact sendOneway_queues rfl (.watch hcan)
      | false =>
          rw [ask_of_not_canWatch hcan]
          exact .silent rfl
  | unwatch key =>
      rw [act, withReceipt, unwatch_eq_ask]
      cases hcan : c.canWatch with
      | true =>
          rw [ask_of_canWatch hcan]
          exact sendOneway_queues rfl (.unwatch hcan)
      | false =>
          rw [ask_of_not_canWatch hcan]
          exact .silent rfl
  | openStream =>
      simp only [act, withReceipt, openStream]
      split
      · exact .silent rfl
      · exact .silent rfl
  | receive p =>
      obtain ⟨_, hreceived⟩ := receive_received c now p
      exact hreceived.queues
  | expire sync =>
      simp only [act, expire]
      split
      · exact .silent rfl
      · exact .nothing (Nat.le_refl _) (Nat.le_succ _) rfl
  | drain => exact .silent rfl
  | shutdown =>
      simp only [act, shutdown]
      split
      · exact .silent rfl
      · refine .nothing (Nat.le_refl _) (Nat.le_succ _) (packetsOf_eq_nil ?_)
        intro e he
        rcases List.mem_append.1 he with hfailed | hclosed
        · obtain ⟨_, _, rfl⟩ := List.mem_map.1 hfailed
          rfl
        · rw [List.mem_singleton.1 hclosed]
          rfl
  | setLifecycle state =>
      simp only [act, setLifecycle]
      split
      · exact .silent rfl
      · exact .silent rfl
  | agree negotiated => exact .silent rfl

theorem Sends.sync_eq {packet : Packet} (h : Sends c action packet) :
    packet.header.sync = c.nextSync := by
  cases h <;> rfl

theorem issued_act_le (c : Connection) (now : Nat) (action : Action) :
    (c.act now action).2.1.issued ≤ c.issued + 1 := by
  have hqueues := act_queues c now action
  generalize (c.act now action).2 = outcome at hqueues ⊢
  cases hqueues with
  | nothing _ hfew _ => exact hfew
  | frame _ hissued _ => exact Nat.le_of_eq hissued

end Connection

/-! ## Moments -/

namespace Moment

open Connection Effect

/-- The packet that is put on the queue. -/
def packet? (m : Moment) : Option Packet := (packetsOf m.effects).head?

/-- The number under which a stream is opened. -/
def opened? (m : Moment) : Option UInt64 :=
  match m.result with
  | .ok (.stream n) => some n
  | _ => none

variable {m : Moment}

/-- What is queued is due to what is done, and uses a number up. -/
theorem sends_of_packet? {packet : Packet} (h : m.packet? = some packet) :
    Sends m.conn m.action packet ∧ m.after.issued = m.conn.issued + 1 := by
  have hqueues : Queues m.conn m.action (m.after, m.effects) := act_queues _ _ _
  unfold packet? at h
  cases hqueues with
  | nothing _ _ hnone =>
      rw [hnone] at h
      cases h
  | frame hsends hissued hone =>
      rw [hone] at h
      cases h
      exact ⟨hsends, hissued⟩

end Moment

namespace Connection

open Effect

/-- Whether a counter of a connection gives out the numbers that moments show: one number at most
in a moment, and always the next. -/
structure GivesOut (count : Connection → Nat) (number? : Moment → Option UInt64) : Prop where
  mono (m : Moment) : count m.conn ≤ count m.after
  next {m : Moment} {n : UInt64} : number? m = some n →
    n = UInt64.ofNat (count m.conn + 1) ∧ count m.after = count m.conn + 1

namespace GivesOut

variable {count : Connection → Nat} {number? : Moment → Option UInt64}

theorem mono_run (h : GivesOut count number?) (c : Connection) (steps : List (Nat × Action)) :
    count c ≤ count (c.run steps).1 := by
  induction steps generalizing c with
  | nil => exact Nat.le_refl _
  | cons step rest ih => exact Nat.le_trans (h.mono ⟨c, step.1, step.2⟩) (ih _)

/-- As long as a counter does not run over, its numbers ascend, and go on where it stood. -/
theorem ascending (h : GivesOut count number?) (c : Connection) (steps : List (Nat × Action))
    (hfew : count (c.run steps).1 < UInt64.size) :
    ((c.history steps).filterMap number?).Pairwise (· < ·) ∧
      ∀ n ∈ (c.history steps).filterMap number?, count c < n.toNat := by
  induction steps generalizing c with
  | nil => exact ⟨.nil, by simp [history]⟩
  | cons step rest ih =>
      let m : Moment := ⟨c, step.1, step.2⟩
      have hrun : count m.after ≤ count (m.after.run rest).1 := h.mono_run _ _
      obtain ⟨hascending, habove⟩ := ih m.after hfew
      have hmono : count c ≤ count m.after := h.mono m
      rw [history]
      cases hm : number? m with
      | none =>
          rw [List.filterMap_cons_none hm]
          exact ⟨hascending, fun n hn => Nat.lt_of_le_of_lt hmono (habove n hn)⟩
      | some k =>
          obtain ⟨hk, hafter⟩ := h.next hm
          have hvalue : k.toNat = count m.after := by
            have hsmall : count c + 1 < UInt64.size :=
              hafter ▸ Nat.lt_of_le_of_lt hrun hfew
            rw [hk, UInt64.toNat_ofNat', Nat.mod_eq_of_lt hsmall, hafter]
          rw [List.filterMap_cons_some hm]
          refine ⟨List.pairwise_cons.2 ⟨fun n hn => ?_, hascending⟩, ?_⟩
          · exact UInt64.lt_iff_toNat_lt.2 (hvalue ▸ habove n hn)
          · intro n hn
            rcases List.mem_cons.1 hn with rfl | hn
            · rw [hvalue, hafter]
              exact Nat.lt_succ_self _
            · exact Nat.lt_of_le_of_lt hmono (habove n hn)

end GivesOut

section Opened

variable {c : Connection} {now : Nat} {action : Action} {n : UInt64}

theorem withReceipt_ne_stream {α : Type} {receipt : α → Receipt} (h : ∀ a, receipt a ≠ .stream n)
    (outcome : Except ClientError α × Connection × List Effect) :
    (withReceipt receipt outcome).1 ≠ .ok (.stream n) := by
  obtain ⟨result, rest⟩ := outcome
  cases result with
  | error e => exact fun hstream => nomatch hstream
  | ok a => exact fun hstream => h a (Except.ok.inj hstream)

theorem opened_send (c : Connection) (now : Nat) (kind : RequestType) (body : Body)
    (options : RequestOptions) (streamId : Option UInt64) :
    (c.send now kind body options streamId).2.1.opened = c.opened := by
  unfold send
  split
  · rfl
  · dsimp only
    split
    · rfl
    · rfl

theorem Received.opened {p : ReceivedPacket} {fate : Fate} {outcome : Connection × List Effect}
    (h : Received c now p fate outcome) : outcome.1.opened = c.opened := by
  cases h <;> rfl

/-- Only opening a stream counts the streams and gives a stream's number. -/
theorem opened_act (h : action ≠ .openStream) :
    (c.act now action).2.1.opened = c.opened ∧ (c.act now action).1 ≠ .ok (.stream n) := by
  cases action with
  | openStream => exact absurd rfl h
  | request r options =>
      refine ⟨?_, withReceipt_ne_stream (by simp) _⟩
      simp only [act, withReceipt, request]
      split
      · rfl
      · exact opened_send _ _ _ _ _ _
  | inStream stream r options =>
      exact ⟨opened_send _ _ _ _ _ _, withReceipt_ne_stream (by simp) _⟩
  | oneway kind body =>
      obtain ⟨issued, hconn⟩ := c.conn_sendOneway kind body
      refine ⟨?_, withReceipt_ne_stream (by simp) _⟩
      rw [act, withReceipt, hconn]
  | watch key callback =>
      obtain ⟨issued, hconn⟩ := c.conn_watch now key callback
      refine ⟨?_, withReceipt_ne_stream (by simp) _⟩
      rw [hconn]
  | unwatch key =>
      obtain ⟨issued, hconn⟩ := c.conn_unwatch now key
      refine ⟨?_, withReceipt_ne_stream (by simp) _⟩
      rw [hconn]
  | receive p =>
      obtain ⟨_, hreceived⟩ := receive_received c now p
      exact ⟨hreceived.opened, by simp [act]⟩
  | expire sync =>
      simp only [act, expire]
      split
      · exact ⟨rfl, by simp⟩
      · exact ⟨rfl, by simp⟩
  | drain | agree negotiated => exact ⟨rfl, by simp [act]⟩
  | shutdown =>
      simp only [act, shutdown]
      split
      · exact ⟨rfl, by simp⟩
      · exact ⟨rfl, by simp⟩
  | setLifecycle state =>
      simp only [act, setLifecycle]
      split
      · exact ⟨rfl, by simp⟩
      · exact ⟨rfl, by simp⟩

/-- A stream is opened where the two sides have agreed on streams, under the next number. -/
theorem act_openStream (c : Connection) (now : Nat) :
    c.act now .openStream =
      if c.negotiated.allows .stream then
        (.ok (.stream (UInt64.ofNat (c.opened + 1))), { c with opened := c.opened + 1 }, [])
      else (.error (.contract (.unsupported .stream)), c, []) := by
  simp only [act, openStream, Negotiated.check]
  by_cases hallows : c.negotiated.allows .stream = true
  · simp only [if_pos hallows]
    rfl
  · simp only [if_neg hallows]
    rfl

end Opened

end Connection

theorem Moment.result_of_opened? {m : Moment} {n : UInt64} (h : m.opened? = some n) :
    m.result = .ok (.stream n) := by
  unfold opened? at h
  split at h
  · rename_i hresult
    cases h
    exact hresult
  · cases h

/-- Whoever gets the number of a stream has opened it, on a connection that allows it. -/
theorem Moment.of_opened? {m : Moment} {n : UInt64} (h : m.opened? = some n) :
    m.conn.negotiated.allows .stream = true ∧ n = UInt64.ofNat (m.conn.opened + 1) ∧
      m.after.opened = m.conn.opened + 1 := by
  obtain ⟨conn, now, action⟩ := m
  have hresult : (conn.act now action).1 = .ok (.stream n) := Moment.result_of_opened? h
  have haction : action = .openStream :=
    Classical.byContradiction fun hne => (Connection.opened_act hne).2 hresult
  subst haction
  rw [Connection.act_openStream] at hresult
  simp only [after, Connection.act_openStream]
  by_cases hallows : conn.negotiated.allows .stream = true
  · rw [if_pos hallows] at hresult ⊢
    cases hresult
    exact ⟨hallows, rfl, rfl⟩
  · rw [if_neg hallows] at hresult
    cases hresult

namespace Connection

open Effect

/-- What the server says about the request of a number, at schema version 1. -/
def response (code : UInt32) (sync : UInt64) (body : Body) : ReceivedPacket :=
  let packet : Packet := ⟨Header.response code sync 1, body⟩
  ⟨packet.payload, packet⟩

/-- The notification that a key has changed. -/
def notification (key : String) : ReceivedPacket :=
  response RequestType.event.code 0 (Body.watch key)

end Connection

end TupleWire
