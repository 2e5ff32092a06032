/-
  What probes do to the slots of a pool.

  The outcome of a probe changes the history of its slot; the verdict on it
  decides whether the slot may be selected.  Invalidated slots are degraded and
  evicted ones lose their connection; either is in quarantine until a verdict
  lets it out.
-/
import TupleWire.Pool.Basic

set_option autoImplicit false

namespace TupleWire.Pool

/-- Acts on the connection of a slot, if it has one. -/
def performOn (p : Pool) (now : Nat) (s : Slot) (action : Action) : Pool :=
  match s.conn with
  | some n => p.perform now action n
  | none => p

/-- Takes a slot out of selection. -/
def invalidate (p : Pool) (now position : Nat) (s : Slot) : Pool × List PoolEvent :=
  if s.isQuarantined then (p, [])
  else ((p.setSlot position { s with isQuarantined := true }).performOn now s
    (.setLifecycle .degraded), [s.tell .invalidated])

/-- Lets an invalidated slot be selected again. -/
def recover (p : Pool) (now position : Nat) (s : Slot) : Pool × List PoolEvent :=
  if s.isEvicted || !s.isQuarantined then (p, [])
  else ((p.setSlot position { s with isQuarantined := false }).performOn now s
    (.setLifecycle .ready), [s.tell .recovered])

/-- Closes the connection of a slot; the next ones stay out of selection. -/
def evict (p : Pool) (now position : Nat) (s : Slot) : Pool × List PoolEvent :=
  let p := p.setSlot position { s with isQuarantined := true, isEvicted := true }
  if s.isEvicted then (p, []) else (p.performOn now s .shutdown, [s.tell .evicted])

/-- Lets an evicted slot be selected again. -/
def reinstate (p : Pool) (now position : Nat) (s : Slot) : Pool × List PoolEvent :=
  if !s.isEvicted then (p, [])
  else ((p.setSlot position { s with isQuarantined := false, isEvicted := false }).performOn now s
    (.setLifecycle .ready), [s.tell .reinstated])

/-- Does what a verdict on a slot asks for. -/
def applyVerdict (p : Pool) (now position : Nat) (s : Slot) :
    Verdict → Pool × List PoolEvent
  | .unchanged => (p, [])
  | .invalidated => p.invalidate now position s
  | .recovered => p.recover now position s
  | .dead => p.evict now position s
  | .reinstated => p.reinstate now position s

/-- The positions of the slots whose connection is to be probed: one that is not closed. -/
def probeTargets (p : Pool) : List Nat :=
  (List.range p.slots.length).filter fun position =>
    (p.slots[position]?.bind p.current?).any fun c => !c.isClosed

/-- Takes the outcome of a probe of a slot into account. -/
def probed (p : Pool) (now position : Nat) (valid : Bool) : Pool × List PoolEvent :=
  match p.slots[position]? with
  | none => (p, [])
  | some s =>
      let (verdict, history) := s.history.record p.config.rules valid
      let s := { s with history }
      (p.setSlot position s).applyVerdict now position s verdict

end TupleWire.Pool
