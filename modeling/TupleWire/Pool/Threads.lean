/-
  Supervisors on threads of their own.

  `Pool.step` takes a supervisor from one wait to the next as if nobody else
  were there.  Other threads run meanwhile: after a supervisor has looked
  whether the pool is closed, and before it fills its slot or tells something,
  anybody may close the pool.  Here each look at the pool, each change of a slot
  and each event is a step of its own, and `Stand` is where a supervisor is in
  between.
-/
import TupleWire.Pool.Supervision

set_option autoImplicit false

namespace TupleWire

/-- What a supervisor does between two waits that others can see. -/
inductive Deed where
  /-- puts a connection into the slot -/
  | install (c : Connection)
  | tell (event : SlotEvent)

/-- Where a supervisor is. -/
inductive Stand where
  /-- it waits, for what its slot says, and can be stopped -/
  | waiting
  /-- it is about to look whether the pool is closed, and to do something if it is not -/
  | looking (deed : Deed)
  /-- it is about to do something, whatever has become of the pool -/
  | doing (deed : Deed)

/-- Whether a supervisor waits. -/
def Stand.isWaiting : Stand → Bool
  | waiting => true
  | looking _ | doing _ => false

namespace Pool

/-- An attempt goes on or is over. -/
def attempted (p : Pool) (position : Nat) (s : Slot)
    (progress : HandshakeProgress × List Effect) : Pool × Stand :=
  let p := { p with shared := p.shared.applyAll progress.2 }
  match progress.1 with
  | .going h => (p.supervise position s (.attempting (some h)), .waiting)
  | .ready c => (p, .looking (.install c))
  | .failed _ cause => (p, .doing (.tell (.connectFailed cause)))

/-- What a supervisor waits for happens. -/
def woken (p : Pool) (now position : Nat) (s : Slot) : Event → Pool × Stand
  | .greeted _ requestTimeout raw =>
      match s.supervisor with
      | .attempting none =>
          match Connection.greeted s.group s.index requestTimeout now raw with
          | .error cause => (p, .doing (.tell (.connectFailed cause)))
          | .ok progress => p.attempted position s progress
      | _ => (p, .waiting)
  | .handshake _ event =>
      match s.supervisor with
      | .attempting (some h) => p.attempted position s (h.onEvent now event)
      | _ => (p, .waiting)
  | .unreachable _ cause =>
      match s.supervisor with
      | .attempting none => (p, .doing (.tell (.connectFailed cause)))
      | _ => (p, .waiting)
  | .lost _ =>
      match s.supervisor with
      | .watching conn =>
          if p.isConnClosed conn then
            (p.setSlot position { s with conn := s.conn.filter (· ≠ conn) },
              .looking (.tell .disconnected))
          else (p, .waiting)
      | _ => (p, .waiting)
  -- A look at the pool is all that comes before the next wait, or the end.
  | .dismissed _ => ((p.stepSlot now position s (.dismissed position)).1, .waiting)
  | .rested _ => ((p.stepSlot now position s (.rested position)).1, .waiting)
  | _ => (p, .waiting)

/-- What is left to do about something that is not to be done: a connection that is not to be
installed is closed again. -/
def discard (p : Pool) (now : Nat) : Deed → Pool
  | .install c => { p with shared := p.shared.applyAll (c.shutdown now).2 }
  | .tell _ => p

/-- A supervisor looks whether the pool is closed, and stops if it is. -/
def looked (p : Pool) (now position : Nat) (s : Slot) (deed : Deed) : Pool × Stand :=
  if p.isClosed then ((p.discard now deed).supervise position s .stopped, .waiting)
  else (p, .doing deed)

/-- Where a supervisor turns once it has told something. -/
def turned (p : Pool) (position : Nat) (s : Slot) : SlotEvent → Pool × Stand
  | .disconnected | .connectFailed _ =>
      (p, .looking (.tell (.reconnecting p.config.reconnectDelay)))
  | .reconnecting _ => (p.supervise position s .resting, .waiting)
  | _ => (p, .waiting)

/-- A supervisor does something, which may be to tell an event. -/
def done (p : Pool) (now position : Nat) (s : Slot) : Deed → (Pool × Stand) × List PoolEvent
  | .install c => (((p.install now position s c).1, .doing (.tell .connected)), [])
  | .tell event => (p.turned position s event, [s.tell event])

/-- A supervisor goes on, unless it waits. -/
def goesOn (p : Pool) (now position : Nat) (s : Slot) :
    Stand → (Pool × Stand) × List PoolEvent
  | .waiting => ((p, .waiting), [])
  | .looking deed => (p.looked now position s deed, [])
  | .doing deed => p.done now position s deed

/-- Takes the connection out of the slot in a position and closes it. -/
def emptySlot (p : Pool) (now position : Nat) : Pool :=
  match p.slots[position]? with
  | some s => (p.performOn now s .shutdown).setSlot position { s with conn := none }
  | none => p

end Pool

end TupleWire
