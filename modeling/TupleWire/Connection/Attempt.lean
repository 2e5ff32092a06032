/-
  An attempt to connect.

  A server is reached and greets, and a handshake begins on a connection of its
  own.  `Handshake.onEvent` goes on in the moment in which the awaited request is
  resolved.  Here the two are apart: the result is kept until the task that
  connects goes on, and in between the connection lives on, may come to its end
  or see the time to connect run out.  What is ready by then is still used.
-/
import TupleWire.Connection.Handshake

set_option autoImplicit false

namespace TupleWire

/-- What came of reaching a server. -/
inductive Opening where
  /-- the server was not reached, or did not greet -/
  | failed (e : ClientError)
  /-- the time to connect was over before it greeted -/
  | timedOut
  | greeted (raw : Bytes)

/-- An attempt to connect. -/
inductive Attempt where
  /-- there is no connection -/
  | refused (e : ClientError)
  /-- a handshake, and the result of the awaited request once it is there -/
  | going (h : Handshake) (answer : Option (Except ClientError Response))
  | connected (c : Connection)
  /-- the connection was closed -/
  | failed (c : Connection) (e : ClientError)

namespace Attempt

/-- Something that happens during a handshake. -/
inductive Event where
  /-- a packet came in -/
  | received (p : ReceivedPacket)
  /-- the time of a request is up -/
  | expired (sync : UInt64)
  /-- the stream of the server ended or broke the protocol -/
  | lost
  /-- the task that connects goes on -/
  | wake
  /-- the time to connect is over -/
  | timeOut

/-- What whoever connects gets, once the attempt has come to its end. -/
def result? : Attempt → Option (Except ClientError Connection)
  | .going _ _ => none
  | .connected c => some (.ok c)
  | .refused e | .failed _ e => some (.error e)

/-- Whether the attempt has come to its end. -/
def isOver (a : Attempt) : Bool := a.result?.isSome

/-- Where a step of a handshake leads; a request that was just sent has no result. -/
def ofProgress : HandshakeProgress → Attempt
  | .going h => .going h none
  | .ready c => .connected c
  | .failed c e => .failed c e

/-- Begins, given what came of reaching the server. -/
def begin (group : Group) (index : Nat) (requestTimeout : Duration) (now : Nat) :
    Opening → Attempt × List Effect
  | .failed e => (.refused e, [])
  | .timedOut => (.refused (.network s!"connect to {group.addr} timed out"), [])
  | .greeted raw =>
      match Connection.greeted group index requestTimeout now raw with
      | .error e => (.refused e, [])
      | .ok (progress, effects) => (ofProgress progress, effects)

/-- Something happens to the connection.  The result of the awaited request is kept. -/
def observe (h : Handshake) (answer : Option (Except ClientError Response)) (now : Nat)
    (action : Action) : Attempt × List Effect :=
  let (_, conn, effects) := h.conn.act now action
  (.going { h with conn } (answer <|> Handshake.resultOf? h.awaited effects), effects)

/-- Goes on with the result of the awaited request, if it is there. -/
def proceed (h : Handshake) (now : Nat) :
    Option (Except ClientError Response) → HandshakeProgress × List Effect
  | none => (.going h, [])
  | some result => h.step now result

/-- Gives up what still goes on. -/
def giveUp (now : Nat) : HandshakeProgress → HandshakeProgress × List Effect
  | .going h => h.timeOut now
  | progress => (progress, [])

/-- Takes an event into account; an attempt that is over stays as it is. -/
def step (a : Attempt) (now : Nat) (event : Event) : Attempt × List Effect :=
  match a with
  | .going h answer =>
      match event with
      | .received p => observe h answer now (.receive p)
      | .expired sync => observe h answer now (.expire sync)
      | .lost => observe h answer now .shutdown
      | .wake =>
          let (progress, effects) := proceed h now answer
          (ofProgress progress, effects)
      | .timeOut =>
          let (progress, effects) := proceed h now answer
          let (progress, more) := giveUp now progress
          (ofProgress progress, effects ++ more)
  | a => (a, [])

/-- Goes through events, each at its time. -/
def run (a : Attempt) : List (Nat × Event) → Attempt × List Effect
  | [] => (a, [])
  | (now, event) :: rest =>
      let (a, effects) := a.step now event
      let (a, more) := run a rest
      (a, effects ++ more)

/-- An attempt from its very beginning. -/
def make (group : Group) (index : Nat) (requestTimeout : Duration) (now : Nat)
    (opening : Opening) (steps : List (Nat × Event)) : Attempt × List Effect :=
  let (a, effects) := begin group index requestTimeout now opening
  let (a, more) := a.run steps
  (a, effects ++ more)

end Attempt

end TupleWire
