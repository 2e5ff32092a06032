/-
  Everything that can happen to a connection, as data.

  `Connection.act` carries out one action and `Connection.run` a row of them;
  what is said of every run of a connection is said of `run`.
-/
import TupleWire.Connection.Basic

set_option autoImplicit false

namespace TupleWire

/-- Something that happens to a connection. -/
inductive Action where
  | request (r : Request) (options : RequestOptions)
  | inStream (stream : UInt64) (r : StreamRequest) (options : RequestOptions)
  | oneway (kind : RequestType) (body : Body)
  | watch (key : String) (callback : WatchCallback)
  | unwatch (key : String)
  | openStream
  /-- a packet came in -/
  | receive (p : ReceivedPacket)
  /-- the time of a request is up -/
  | expire (sync : UInt64)
  | drain
  | shutdown
  | setLifecycle (state : Lifecycle)
  /-- what client and server agreed on became known -/
  | agree (negotiated : Negotiated)

/-- What whoever acts gets back. -/
inductive Receipt where
  | nothing
  /-- the number under which a response is to be expected -/
  | sync (n : UInt64)
  /-- the number of a new stream -/
  | stream (n : UInt64)
  deriving DecidableEq, Repr

namespace Connection

/-- A result with a receipt in it. -/
def withReceipt {α : Type} (receipt : α → Receipt)
    (outcome : Except ClientError α × Connection × List Effect) :
    Except ClientError Receipt × Connection × List Effect :=
  (outcome.1.map receipt, outcome.2)

/-- Carries out an action at a time. -/
def act (c : Connection) (now : Nat) :
    Action → Except ClientError Receipt × Connection × List Effect
  | .request r options => withReceipt .sync (c.request now r options)
  | .inStream stream r options => withReceipt .sync (c.requestInStream now stream r options)
  | .oneway kind body => withReceipt (fun _ => .nothing) (c.sendOneway kind body)
  | .watch key callback => withReceipt (fun _ => .nothing) (c.watch key callback)
  | .unwatch key => withReceipt (fun _ => .nothing) (c.unwatch key)
  | .openStream =>
      let (result, c) := c.openStream
      withReceipt .stream (result, c, [])
  | .receive p => (.ok .nothing, c.receive now p)
  | .expire sync => (.ok .nothing, c.expire now sync)
  | .drain => (.ok .nothing, c.drain, [])
  | .shutdown => (.ok .nothing, c.shutdown now)
  | .setLifecycle state => (.ok .nothing, c.setLifecycle state, [])
  | .agree negotiated => (.ok .nothing, { c with negotiated }, [])

/-- Carries out actions, each at its time, and collects what they do. -/
def run (c : Connection) : List (Nat × Action) → Connection × List Effect
  | [] => (c, [])
  | (now, action) :: rest =>
      let (_, c, effects) := c.act now action
      let (c, more) := run c rest
      (c, effects ++ more)

end Connection

end TupleWire
