/-
  Requests carried out by one instance.

  `Instance.exchange` takes a request all the way: its packet in a frame, the
  frame read by the instance, the packets that answer it, and the response among
  them read by the client.
-/
import TupleWire.Client.Dispatch
import TupleWire.Connection.Basic
import TupleWire.Instance.Dispatch

set_option autoImplicit false

namespace TupleWire

/-- An instance and a client's session with it. -/
structure Peer where
  inst : Instance
  session : Session
  /-- what was agreed on -/
  negotiated : Negotiated
  /-- sync numbers given out so far -/
  issued : Nat := 0

namespace Peer

/-- The packet of the next request. -/
def packet (p : Peer) (r : Request) (o : RequestOptions) : Packet :=
  ⟨{ Header.request r.kind (UInt64.ofNat (p.issued + 1)) with schemaVersion := o.schemaVersion },
    r.body p.session.salt⟩

/-- What the other side reads of a packet. -/
def transmit (p : Packet) : Except ClientError Packet :=
  match p.frame with
  | .error fault => .error (.protocol fault)
  | .ok _ =>
      match Packet.ofPayload p.payload with
      | .error fault => .error (.protocol fault)
      | .ok read => .ok read

/-- The response to a request among the packets that the instance sends at once. -/
def responseIn (sync : UInt64) (sent : List Outgoing) : Option Packet :=
  (sent.find? fun o => o.packet.header.sync == sync && !o.packet.header.isEvent).map
    Outgoing.packet

/-- Carries out a request.  One that is not answered is given up as timed out. -/
def exchange (timeout : Duration) : Exchange Peer := fun r o tracker p =>
  match r.check p.negotiated with
  | .error refusal => (.error (.contract refusal), tracker, p)
  | .ok () =>
      let packet := p.packet r o
      let p := { p with issued := p.issued + 1 }
      match transmit packet with
      | .error e => (.error e, tracker, p)
      | .ok read =>
          let (inst, session, sent) := p.inst.handle p.session read
          let p := { p with inst, session }
          match (responseIn packet.header.sync sent).map transmit with
          | none => (.error (.timeout packet.header.sync (o.timeout.getD timeout)), tracker, p)
          | some (.error e) => (.error e, tracker, p)
          | some (.ok response) =>
              let tracker := match response.header.schemaVersion with
                | some version => tracker.observe version
                | none => tracker
              (Connection.resultOf response o.format, tracker, p)

end Peer

end TupleWire
