/-
  A connection at the end of a byte pipe, with a clock.

  An endpoint takes frames off what the server sends, lets the time of requests
  run out, and closes its connection for those who asked for it: at once, or
  gracefully, when nothing is pending any more or a grace period is over.  Each
  step carries everything out that it makes possible, alarms in the order in
  which they go off, and reports what happened; only then are the notifications
  that came in handed to their callbacks.

  That the connection is in the closed state is one thing, that the pipe is
  closed another: `Connection.setLifecycle` reaches the state alone, and then
  inbound frames are still taken and alarms still go off.  A reader that breaks
  off leaves its connection in the state that it is in.
-/
import TupleWire.Connection.Action
import TupleWire.Packet.Look

set_option autoImplicit false

namespace TupleWire

/-- Somebody who waits for a graceful close. -/
structure Closer where
  /-- by which the waiting is told apart from others -/
  token : Nat
  /-- when the grace period is over -/
  deadline : Nat
  /-- the sync numbers given out before the waiting began -/
  since : Nat
  deriving DecidableEq, Repr

/-- Something that happens when its time has come. -/
inductive Alarm where
  /-- the time of a request is up -/
  | request (sync : UInt64)
  /-- a grace period is over -/
  | grace (token : Nat)
  deriving DecidableEq, Repr

/-- A connection with its side of the pipe and its clock. -/
structure Endpoint where
  conn : Connection
  shared : Shared
  /-- the longest frame payload that is accepted -/
  limit : Nat
  /-- the milliseconds that have passed -/
  now : Nat := 0
  /-- what has come in of a frame that is not complete -/
  inbound : Bytes := []
  closers : List Closer := []
  /-- nothing more is read: the stream of the server ended or broke the protocol, or the reader broke
  off -/
  isDeaf : Bool := false
  /-- this side of the pipe was closed -/
  hasEnded : Bool := false

/-- What a step shows. -/
structure Report where
  effects : List Effect := []
  /-- those whose close is done -/
  returned : List Nat := []
  /-- notifications handed to their callbacks -/
  delivered : List (WatchCallback × WatchEvent) := []

namespace Endpoint

/-- Something that an endpoint does, and what it shows. -/
abbrev Step : Type := Endpoint → Endpoint × Report

/-- Nothing at all. -/
def skip : Step := fun e => (e, {})

/-- One step after the other. -/
def andThen (first second : Step) : Step := fun e =>
  let (e, shown) := first e
  let (e, more) := second e
  (e, ⟨shown.effects ++ more.effects, shown.returned ++ more.returned,
    shown.delivered ++ more.delivered⟩)

/-- Steps one after the other. -/
def sequence (steps : List Step) : Step := steps.foldl andThen skip

/-- A step of the connection; when it shuts the connection down, the pipe is closed. -/
def lift (step : Connection → Connection × List Effect) : Step := fun e =>
  let (conn, effects) := step e.conn
  ({ e with conn, shared := e.shared.applyAll effects
            hasEnded := e.hasEnded || effects.any Effect.isClosing }, { effects })

/-- Shuts the connection down. -/
def shutdown : Step := fun e => lift (fun c => c.shutdown e.now) e

/-! ## Alarms -/

/-- The alarm of a request. -/
def requestAlarm (entry : UInt64 × Waiter) : (Nat × Nat) × Alarm :=
  ((entry.2.deadline, 2 * entry.1.toNat), .request entry.1)

/-- The alarm of a closer, which was set after those of the requests sent before. -/
def graceAlarm (closer : Closer) : (Nat × Nat) × Alarm :=
  ((closer.deadline, 2 * closer.since + 1), .grace closer.token)

/-- The alarms that have gone off by now, by their times; of those with one time the one that was
set first comes first. -/
def due (e : Endpoint) : List Alarm :=
  let alarms := e.conn.pending.entries.map requestAlarm ++ e.closers.map graceAlarm
  let ordered := (alarms.filter fun a => decide (a.1.1 ≤ e.now)).mergeSort fun a b =>
    decide (a.1.1 < b.1.1 ∨ a.1.1 = b.1.1 ∧ a.1.2 ≤ b.1.2)
  ordered.map Prod.snd

/-- Somebody who waits for a close does not wait any longer. -/
def release (token : Nat) : Step := fun e =>
  andThen shutdown
    (fun e => ({ e with closers := e.closers.filter fun c => c.token != token },
      { returned := [token] })) e

/-- What an alarm does. -/
def ring : Alarm → Step
  | .request sync => fun e => lift (fun c => c.expire e.now sync) e
  | .grace token => release token

/-- Those who wait for a close are done with waiting once no request is pending. -/
def releaseAll : Step := fun e =>
  if e.conn.pending.isEmpty then sequence (e.closers.map fun c => release c.token) e else skip e

/-- Everything that is due now. -/
def settle : Step := fun e => andThen (sequence (e.due.map ring)) releaseAll e

/-- Hands the waiting notifications to their callbacks. -/
def deliver : Step := fun e =>
  let (delivered, queue) := e.shared.queue.deliver
  ({ e with shared := { e.shared with queue } }, { delivered })

/-- A step and everything that it makes possible. -/
def complete (step : Step) : Step := andThen step (andThen settle deliver)

/-! ## Steps -/

/-- Acts on the connection. -/
def act (action : Action) (e : Endpoint) : Except ClientError Receipt × Endpoint × Report :=
  let (result, _, _) := e.conn.act e.now action
  (result, complete (lift fun c => (c.act e.now action).2) e)

/-- Reads no more and shuts the connection down. -/
def stopReading : Step := fun e => shutdown { e with isDeaf := true }

/-- Waits for more bytes behind those that are left.  If the look at them breaks off, nothing more is
read, but nobody is told. -/
def readOn : Step := fun e =>
  match Frame.look .ample e.limit e.inbound with
  | .ok _ => skip e
  | .error _ => skip { e with isDeaf := true }

/-- Takes frames off the bytes that have come in, as long as the pipe is read. -/
def receive (bytes : Bytes) : Step := fun e =>
  if e.isDeaf || e.hasEnded then skip e
  else
    let taken := Frame.drain e.limit (e.inbound ++ bytes)
    let frames := taken.packets.map fun p => lift fun c => c.receive e.now p
    andThen (sequence frames) (if taken.fault.isSome then stopReading else readOn)
      { e with inbound := taken.rest }

/-- The server sent bytes. -/
def feed (bytes : Bytes) : Step := complete (receive bytes)

/-- The server ended its stream. -/
def hangUp : Step := complete fun e => if e.isDeaf then skip e else stopReading e

/-- Time passes. -/
def advance (ms : Nat) : Step := complete fun e => ({ e with now := Clock.after e.now ms }, {})

/-- Somebody asks for the connection to be closed and waits for it; gracefully, if a grace period
is given. -/
def close (token : Nat) (grace : Option Duration) : Step := complete fun e =>
  if e.conn.isClosed then (e, { returned := [token] })
  else match grace with
    | none => release token e
    | some grace =>
        let closer : Closer := ⟨token, Clock.after e.now grace.ticks, e.conn.issued⟩
        ({ e with conn := e.conn.drain, closers := e.closers ++ [closer] }, {})

end Endpoint

end TupleWire
