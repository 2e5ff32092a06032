/-
  A client whose tasks run on several threads.

  The supervisors, the task that probes and the calls that close the client are
  on their ways at the same time, and their steps come in any order.  Who closes
  a pool stops a task only where it waits; one that is on its way goes on to its
  next wait, where it finds that the pool is closed.
-/
import TupleWire.Client.Closing
import TupleWire.Pool.Threads

set_option autoImplicit false

namespace TupleWire

/-- Where a call that closes a client is. -/
inductive CloseStage where
  /-- it has stopped the task that probes, and is about to close the pool -/
  | claiming
  /-- another call has closed the pool; it waits until the pool is torn down -/
  | waiting
  /-- it has closed the pool, and is about to look for connections -/
  | gathering
  /-- it waits until the connections are closed -/
  | draining
  /-- it is about to stop the supervisors, from the one of a slot on -/
  | stopping (position : Nat)
  /-- it is about to empty the slots, from one of them on -/
  | emptying (position : Nat)
  /-- it is about to tell that the pool is closed -/
  | telling
  /-- it is about to let the calls that wait go on -/
  | releasing
  /-- it is about to take the threads -/
  | leaving
  | returned
  deriving DecidableEq, Repr

/-- A call that closes a client, step by step. -/
structure ClosingCall where
  /-- whether it has closed the pool, and tears it down -/
  isTearing : Bool := false
  stage : CloseStage := .claiming
  deriving DecidableEq, Repr

/-- A call at another stage. -/
def ClosingCall.goTo (call : ClosingCall) (stage : CloseStage) : ClosingCall := { call with stage }

/-- A client in use, with its tasks wherever they are. -/
structure ThreadedClient where
  pool : Pool
  /-- where the supervisor of the slot in a position is -/
  stand : Nat → Stand := fun _ => .waiting
  /-- whether the task that probes has not been stopped -/
  isProbing : Bool
  /-- the outcomes of probes that it has yet to judge -/
  outcomes : List (Nat × Bool) := []
  /-- what it has yet to tell -/
  verdicts : List PoolEvent := []
  /-- the threads that do the work, until a call takes them -/
  runtime : Option (Managed Nat)
  /-- the threads that were shut down -/
  released : List Nat := []
  /-- the calls that close the client, in the order in which they began -/
  calls : List ClosingCall := []

/-- A client as it is used from now on, on several threads. -/
def Client.threaded (c : Client) : ThreadedClient where
  pool := c.pool
  isProbing := c.config.heartbeat.isSome
  runtime := some c.runtime

namespace ThreadedClient

/-- Something that happens to a client in use. -/
inductive Event where
  /-- something happens to its pool, or the wait of a supervisor is over -/
  | pool (event : Pool.Event)
  /-- the supervisor of a slot goes on -/
  | supervisor (position : Nat)
  /-- the probes of a round are answered, or not -/
  | probed (outcomes : List (Nat × Bool))
  /-- the task that probes goes on -/
  | prober
  /-- somebody begins to close the client -/
  | close
  /-- a call that closes the client goes on -/
  | proceed (call : Nat)

/-! ## Supervisors -/

/-- The supervisor of the slot in a position has come to another place, with what it did to the
pool. -/
def moved (l : ThreadedClient) (position : Nat) (reached : Pool × Stand) : ThreadedClient :=
  { l with
    pool := reached.1
    stand := fun i => if i = position then reached.2 else l.stand i }

/-- The supervisor of a slot goes on. -/
def supervise (l : ThreadedClient) (now position : Nat) : ThreadedClient × List PoolEvent :=
  match l.pool.slots[position]? with
  | none => (l, [])
  | some s =>
      let (reached, told) := l.pool.goesOn now position s (l.stand position)
      (l.moved position reached, told)

/-- Something happens to the pool.  What a supervisor waits for is for one that waits; only calls
close the pool and tear it down, and only the task that probes judges its slots. -/
def onPool (l : ThreadedClient) (now : Nat) (event : Pool.Event) : ThreadedClient :=
  match event.position? with
  | some position =>
      match l.pool.slots[position]? with
      | some s =>
          if (l.stand position).isWaiting then
            l.moved position (l.pool.woken now position s event)
          else l
      | none => l
  | none =>
      match event with
      | .close | .tearDown | .probed _ _ => l
      | event => { l with pool := (l.pool.step now event).1 }

/-! ## The task that probes -/

/-- The task that probes hears of a round of probes, if it waits for one. -/
def hear (l : ThreadedClient) (outcomes : List (Nat × Bool)) : ThreadedClient :=
  if l.isProbing && l.outcomes.isEmpty && l.verdicts.isEmpty then { l with outcomes } else l

/-- The task that probes goes on: it tells its last verdict, or judges the next outcome. -/
def probe (l : ThreadedClient) (now : Nat) : ThreadedClient × List PoolEvent :=
  match l.verdicts with
  | verdict :: rest => ({ l with verdicts := rest }, [verdict])
  | [] =>
      match l.outcomes with
      | [] => (l, [])
      | (position, valid) :: rest =>
          let (pool, verdicts) := l.pool.probed now position valid
          ({ l with pool, outcomes := rest, verdicts }, [])

/-! ## Calls -/

/-- Begins to close the client. -/
def beginClose (l : ThreadedClient) : ThreadedClient :=
  { l with isProbing := false, calls := l.calls ++ [{}] }

/-- Stops the supervisor of the slot in a position if it waits. -/
def stopAt (l : ThreadedClient) (position : Nat) : Pool :=
  match l.pool.slots[position]? with
  | some s =>
      if (l.stand position).isWaiting then l.pool.supervise position s .stopped else l.pool
  | none => l.pool

/-- How a call goes on, as far as the next thing that others can see: what becomes of the pool and
of the call, and what is told. -/
def advance (l : ThreadedClient) (now : Nat) (call : ClosingCall) :
    Pool × ClosingCall × List PoolEvent :=
  match call.stage with
  | .claiming =>
      if l.pool.isClosed then (l.pool, call.goTo .waiting, [])
      else ({ l.pool with isClosed := true }, ⟨true, .gathering⟩, [])
  | .waiting => (l.pool, if l.pool.isTornDown then call.goTo .leaving else call, [])
  | .gathering =>
      (l.pool.installed.foldl (Pool.closeConn now) { l.pool with closing := l.pool.installed },
        call.goTo .draining, [])
  | .draining =>
      (l.pool, if l.pool.closing.all l.pool.isConnClosed then call.goTo (.stopping 0) else call, [])
  | .stopping position =>
      if position < l.pool.slots.length then
        (l.stopAt position, call.goTo (.stopping (position + 1)), [])
      else (l.pool, call.goTo (.emptying 0), [])
  | .emptying position =>
      if position < l.pool.slots.length then
        (l.pool.emptySlot now position, call.goTo (.emptying (position + 1)), [])
      else (l.pool, call.goTo .telling, [])
  | .telling => (l.pool, call.goTo .releasing, [.closed])
  | .releasing => ({ l.pool with isTornDown := true }, call.goTo .leaving, [])
  | .leaving => (l.pool, call.goTo .returned, [])
  | .returned => (l.pool, call, [])

/-- The first call that leaves takes the threads. -/
def takeThreads (l : ThreadedClient) : ThreadedClient :=
  { l with
    runtime := none
    released := l.released ++ (l.runtime.bind Managed.toRelease?).toList }

/-- A call goes on. -/
def proceed (l : ThreadedClient) (now i : Nat) : ThreadedClient × List PoolEvent :=
  match l.calls[i]? with
  | none => (l, [])
  | some call =>
      let (pool, next, told) := l.advance now call
      let l := if call.stage = .leaving then l.takeThreads else l
      ({ l with pool, calls := l.calls.set i next }, told)

/-! ## Steps -/

/-- Takes an event into account. -/
def step (l : ThreadedClient) (now : Nat) : Event → ThreadedClient × List PoolEvent
  | .pool event => (l.onPool now event, [])
  | .supervisor position => l.supervise now position
  | .probed outcomes => (l.hear outcomes, [])
  | .prober => l.probe now
  | .close => (l.beginClose, [])
  | .proceed i => l.proceed now i

/-- Takes events into account, each at its time, and collects what the pool tells. -/
def run (l : ThreadedClient) : List (Nat × Event) → ThreadedClient × List PoolEvent
  | [] => (l, [])
  | (now, event) :: rest =>
      let (l, told) := l.step now event
      let (l, more) := run l rest
      (l, told ++ more)

end ThreadedClient

end TupleWire
