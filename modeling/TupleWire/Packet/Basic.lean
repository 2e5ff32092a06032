/-
  Packets, and how they are laid out in frames.

  A packet is a header and a body.  Its payload is the two of them in
  MessagePack, one after the other, and a frame is a payload behind its length.
  Frames are always written with a five-byte length; `FrameReader` accepts every
  spelling of one.  `readPayload` ignores what follows the body.
-/
import TupleWire.MsgPack.Writer
import TupleWire.Packet.Header
import TupleWire.Packet.Body

set_option autoImplicit false

namespace TupleWire

/-- One packet. -/
structure Packet where
  header : Header
  body : Body
  deriving DecidableEq

/-- An error that the server reports. -/
structure ServerError where
  code : UInt32
  message : String
  deriving DecidableEq, Repr, Inhabited

namespace Packet

/-- The error that a response reports; one without a message gets a standard one. -/
def serverError? (p : Packet) : Option ServerError :=
  p.header.errorCode?.map fun code =>
    ⟨code, p.body.errorMessage?.getD s!"server error {code}"⟩

/-! ## Writing -/

/-- The payload of a packet. -/
def payload (p : Packet) : Bytes :=
  MsgPack.write p.header.toValue ++ MsgPack.write p.body.toValue

/-- The longest payload that a frame can announce. -/
def payloadLimit : Nat := 0xffffffff

/-- The frame of a packet: its payload behind a five-byte length. -/
def frame (p : Packet) : Except ProtocolError Bytes :=
  let payload := p.payload
  if payload.length ≤ payloadLimit then
    .ok (0xce :: Bytes.ofNat 4 payload.length ++ payload)
  else .error (.frameTooLarge payload.length payloadLimit)

/-- What is to be written, with the frame of a packet put behind it. -/
def appendTo (p : Packet) (out : Bytes) : Except ProtocolError Bytes :=
  match p.frame with
  | .error e => .error e
  | .ok frame => .ok (out ++ frame)

/-! ## Reading -/

/-- A value off the front of a payload, with its faults as protocol errors. -/
def takeValue (bs : Bytes) : Except ProtocolError (Value × Bytes) :=
  match MsgPack.read bs with
  | .error cause => .error (.decode cause)
  | .ok found => .ok found

/-- The body after a header; nothing at all is the empty body. -/
def readBody (bs : Bytes) : Except ProtocolError Body :=
  if bs.isEmpty then .ok Body.empty
  else match takeValue bs with
    | .error e => .error e
    | .ok (value, _) =>
        match Body.ofValue value with
        | .error fault => .error (.body fault)
        | .ok body => .ok body

/-- The packet whose payload the bytes are. -/
def ofPayload (bs : Bytes) : Except ProtocolError Packet :=
  match takeValue bs with
  | .error e => .error e
  | .ok (value, rest) =>
      match Header.ofValue value with
      | .error fault => .error (.header fault)
      | .ok header =>
          match readBody rest with
          | .error e => .error e
          | .ok body => .ok ⟨header, body⟩

end Packet

end TupleWire
