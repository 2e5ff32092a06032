/-
  Keeping slots connected, and closing the pool.

  Every slot is looked after on its own: it is connected, the loss of its
  connection is noticed, and after a delay the next attempt is made, until the
  pool is closed.  The first to close the pool tears it down: the connections
  are closed, gracefully if that is configured; then all supervisors are
  stopped wherever they are, the slots are emptied, and the pool tells that it
  is closed.  Whoever closes the pool after that waits for the same teardown.

  `Pool.step` is one step of any of this, and a step ends where something has
  to be waited for; one that is not possible now changes nothing.
-/
import TupleWire.Pool.Probing

set_option autoImplicit false

namespace TupleWire

namespace Pool

/-- Something that happens to a pool. -/
inductive Event where
  /-- something happens to a connection that was installed -/
  | conn (number : Nat) (action : Action)
  /-- the server of an attempt greeted -/
  | greeted (position : Nat) (requestTimeout : Duration) (raw : Bytes)
  /-- something happens to the handshake of an attempt -/
  | handshake (position : Nat) (event : Handshake.Event)
  /-- an attempt failed before the handshake -/
  | unreachable (position : Nat) (cause : ClientError)
  /-- a supervisor notices that its connection is closed -/
  | lost (position : Nat)
  /-- a supervisor notices that the pool is closed -/
  | dismissed (position : Nat)
  /-- the delay before an attempt is over -/
  | rested (position : Nat)
  | probed (position : Nat) (valid : Bool)
  | watch (key : String) (callback : WatchCallback)
  | unwatch (key : String)
  /-- somebody closes the pool -/
  | close
  /-- a connection that is being closed with the pool has nothing pending any more -/
  | drained (number : Nat)
  /-- the time for pending requests is over -/
  | graceOver
  /-- the connections are closed, and the rest is torn down -/
  | tearDown

/-- Sets what a supervisor does next. -/
def supervise (p : Pool) (position : Nat) (s : Slot) (next : Supervisor) : Pool :=
  p.setSlot position { s with supervisor := next }

/-! ## Attempts -/

/-- Waits for the next attempt, unless the pool is closed. -/
def rest (p : Pool) (position : Nat) (s : Slot) : Pool × List PoolEvent :=
  if p.isClosed then (p.supervise position s .stopped, [])
  else (p.supervise position s .resting, [s.tell (.reconnecting p.config.reconnectDelay)])

/-- An attempt failed. -/
def fail (p : Pool) (position : Nat) (s : Slot) (cause : ClientError) : Pool × List PoolEvent :=
  let (p, events) := p.rest position s
  (p, s.tell (.connectFailed cause) :: events)

/-- An attempt succeeded; in a closed pool the connection is closed again. -/
def succeed (p : Pool) (now position : Nat) (s : Slot) (c : Connection) :
    Pool × List PoolEvent :=
  if p.isClosed then
    let (_, effects) := c.shutdown now
    ({ p with shared := p.shared.applyAll effects }.supervise position s .stopped, [])
  else p.install now position s c

/-- Goes on with an attempt. -/
def proceed (p : Pool) (now position : Nat) (s : Slot)
    (progress : HandshakeProgress × List Effect) : Pool × List PoolEvent :=
  let p := { p with shared := p.shared.applyAll progress.2 }
  match progress.1 with
  | .going h => (p.supervise position s (.attempting (some h)), [])
  | .ready c => p.succeed now position s c
  | .failed _ cause => p.fail position s cause

/-! ## Supervisors -/

/-- Notices the loss of a connection. -/
def notice (p : Pool) (position : Nat) (s : Slot) (conn : Nat) : Pool × List PoolEvent :=
  let s := { s with conn := s.conn.filter (· ≠ conn) }
  if p.isClosed then (p.supervise position s .stopped, [])
  else
    let (p, events) := p.rest position s
    (p, s.tell .disconnected :: events)

/-- Whether a connection is closed. -/
def isConnClosed (p : Pool) (conn : Nat) : Bool := (p.conns[conn]?).all Connection.isClosed

/-- What happens to the supervisor of a slot. -/
def stepSlot (p : Pool) (now position : Nat) (s : Slot) : Event → Pool × List PoolEvent
  | .greeted _ requestTimeout raw =>
      match s.supervisor with
      | .attempting none =>
          match Connection.greeted s.group s.index requestTimeout now raw with
          | .error cause => p.fail position s cause
          | .ok progress => p.proceed now position s progress
      | _ => (p, [])
  | .handshake _ event =>
      match s.supervisor with
      | .attempting (some h) => p.proceed now position s (h.onEvent now event)
      | _ => (p, [])
  | .unreachable _ cause =>
      match s.supervisor with
      | .attempting none => p.fail position s cause
      | _ => (p, [])
  | .lost _ =>
      match s.supervisor with
      | .watching conn => if p.isConnClosed conn then p.notice position s conn else (p, [])
      | _ => (p, [])
  | .dismissed _ =>
      match s.supervisor with
      | .watching _ | .resting =>
          if p.isClosed then (p.supervise position s .stopped, []) else (p, [])
      | _ => (p, [])
  | .rested _ =>
      match s.supervisor with
      | .resting =>
          (p.supervise position s (if p.isClosed then .stopped else .attempting none), [])
      | _ => (p, [])
  | _ => (p, [])

/-! ## Closing -/

/-- Begins to close a connection with the pool. -/
def closeConn (now : Nat) (p : Pool) (conn : Nat) : Pool :=
  if p.isConnClosed conn then p
  else if p.config.isGraceful then
    let p := p.perform now .drain conn
    if (p.conns[conn]?).all fun c => c.pending.isEmpty then p.perform now .shutdown conn else p
  else p.perform now .shutdown conn

/-- Closes the pool; the first time only, it is torn down. -/
def close (p : Pool) (now : Nat) : Pool :=
  if p.isClosed then p
  else
    let p := { p with isClosed := true, closing := p.installed }
    p.closing.foldl (closeConn now) p

/-- Closes a connection that is being closed with the pool and has nothing pending. -/
def closeDrained (p : Pool) (now conn : Nat) : Pool :=
  if p.closing.contains conn && (p.conns[conn]?).any (fun c => c.pending.isEmpty) then
    p.perform now .shutdown conn
  else p

/-- Closes what is still open of the connections that are being closed with the pool. -/
def closeAll (p : Pool) (now : Nat) : Pool :=
  p.closing.foldl (fun p n => p.perform now .shutdown n) p

/-- Whether the rest can be torn down: the pool is closed, and so are its connections. -/
def canTearDown (p : Pool) : Bool :=
  p.isClosed && !p.isTornDown && p.closing.all p.isConnClosed

/-- Stops the supervisors, empties the slots and tells that the pool is closed.  A handshake that
is on its way is dropped, and nobody waits for its requests any more. -/
def tearDown (p : Pool) (now : Nat) : Pool × List PoolEvent :=
  if p.canTearDown then
    let left := p.installed
    let p := left.foldl (fun p n => p.perform now .shutdown n) p
    ({ p with
      slots := p.slots.map fun s => { s with conn := none, supervisor := .stopped }
      isTornDown := true }, [.closed])
  else (p, [])

/-! ## Steps -/

/-- The position of the slot that an event concerns. -/
def Event.position? : Event → Option Nat
  | greeted position _ _ | handshake position _ | unreachable position _ | lost position
  | dismissed position | rested position => some position
  | _ => none

/-- Takes an event into account. -/
def step (p : Pool) (now : Nat) (event : Event) : Pool × List PoolEvent :=
  match event with
  | .conn number action => (p.perform now action number, [])
  | .probed position valid => p.probed now position valid
  | .watch key callback => ((p.watch now key callback).2, [])
  | .unwatch key => ((p.unwatch now key).2, [])
  | .close => (p.close now, [])
  | .drained number => (p.closeDrained now number, [])
  | .graceOver => (p.closeAll now, [])
  | .tearDown => p.tearDown now
  | event =>
      match event.position?.bind fun position => (p.slots[position]?).map ((position, ·)) with
      | some (position, s) => p.stepSlot now position s event
      | none => (p, [])

/-- Takes events into account, each at its time, and collects what the pool tells. -/
def run (p : Pool) : List (Nat × Event) → Pool × List PoolEvent
  | [] => (p, [])
  | (now, event) :: rest =>
      let (p, events) := p.step now event
      let (p, more) := run p rest
      (p, events ++ more)

/-- Whether somebody who closed the pool may go on: not before it is torn down. -/
def closeReturns (p : Pool) : Bool := p.isClosed && p.isTornDown

end Pool

end TupleWire
