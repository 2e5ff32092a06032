/-
  Closing a client.

  Any number of callers may close a client.  Each of them stops the task that
  probes and closes the pool.  The first to close it tears it down, and the
  others wait for that.  The first to come back takes the threads, and shuts
  them down if the client has made them.

  As for a pool, a step ends where something has to be waited for: a call begins
  in one step, and goes on in another once what it waits for has come.
-/
import TupleWire.Client.Connect

set_option autoImplicit false

namespace TupleWire

/-- A call that closes a client. -/
structure CloseCall where
  /-- whether it tears the pool down; otherwise it waits for the call that does -/
  isTearing : Bool
  hasReturned : Bool := false
  deriving DecidableEq, Repr

/-- A client in use. -/
structure LiveClient where
  pool : Pool
  /-- whether the task that probes is running -/
  isProbing : Bool
  /-- the threads that do the work, until a call takes them -/
  runtime : Option (Managed Nat)
  /-- the threads that were shut down -/
  released : List Nat := []
  /-- the calls that close the client, in the order in which they began -/
  calls : List CloseCall := []

/-- A client as it is used from now on. -/
def Client.live (c : Client) : LiveClient where
  pool := c.pool
  isProbing := c.config.heartbeat.isSome
  runtime := some c.runtime

namespace LiveClient

/-- Something that happens to a client in use. -/
inductive Event where
  /-- something happens to its pool -/
  | pool (event : Pool.Event)
  /-- somebody begins to close the client -/
  | close
  /-- a call that closes the client goes on -/
  | proceed (call : Nat)

/-- Whether something may happen to the pool by itself: only calls close it and tear it down, and
only the task that probes judges its slots. -/
def admits (l : LiveClient) : Pool.Event → Bool
  | .close | .tearDown => false
  | .probed _ _ => l.isProbing
  | _ => true

/-- Begins to close the client. -/
def beginClose (l : LiveClient) (now : Nat) : LiveClient :=
  { l with
    isProbing := false
    pool := l.pool.close now
    calls := l.calls ++ [{ isTearing := !l.pool.isClosed }] }

/-- A call comes back; the first one takes the threads. -/
def finish (l : LiveClient) (i : Nat) (call : CloseCall) : LiveClient :=
  { l with
    runtime := none
    released := l.released ++ (l.runtime.bind Managed.toRelease?).toList
    calls := l.calls.set i { call with hasReturned := true } }

/-- A call goes on, and comes back once the pool is torn down. -/
def proceed (l : LiveClient) (now i : Nat) : LiveClient × List PoolEvent :=
  match l.calls[i]? with
  | none => (l, [])
  | some call =>
      if call.hasReturned then (l, [])
      else
        let (pool, told) := if call.isTearing then l.pool.tearDown now else (l.pool, [])
        let l := { l with pool }
        (if pool.closeReturns then l.finish i call else l, told)

/-- Takes an event into account. -/
def step (l : LiveClient) (now : Nat) : Event → LiveClient × List PoolEvent
  | .pool event =>
      if l.admits event then
        let (pool, told) := l.pool.step now event
        ({ l with pool }, told)
      else (l, [])
  | .close => (l.beginClose now, [])
  | .proceed i => l.proceed now i

/-- Takes events into account, each at its time, and collects what the pool tells. -/
def run (l : LiveClient) : List (Nat × Event) → LiveClient × List PoolEvent
  | [] => (l, [])
  | (now, event) :: rest =>
      let (l, told) := l.step now event
      let (l, more) := run l rest
      (l, told ++ more)

end LiveClient

end TupleWire
