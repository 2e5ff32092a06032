/-
  Taking frames off a byte stream.

  A frame is a length and so many bytes of payload.  The length is an unsigned
  MessagePack integer in any of its spellings.  `Frame.next` looks at the bytes
  received so far and either waits for more, reports a fault, or removes one
  frame; a frame whose payload is no packet is removed all the same.
  `Frame.drain` repeats it until nothing more can be taken.
-/
import TupleWire.Packet.Basic

set_option autoImplicit false

namespace TupleWire

/-- A packet together with the payload that it was read from. -/
structure ReceivedPacket where
  payload : Bytes
  packet : Packet
  deriving DecidableEq

namespace Frame

/-- The longest payload that is accepted unless something else is asked for. -/
def defaultLimit : Nat := 64 * 1024 * 1024

/-- The number of bytes of a length field after its marker, or the length that the marker is. -/
def lengthMarker (b : UInt8) : Except ProtocolError (Nat ⊕ Nat) :=
  if b.toNat < 0x80 then .ok (.inl b.toNat)
  else match b.toNat with
    | 0xcc => .ok (.inr 1)
    | 0xcd => .ok (.inr 2)
    | 0xce => .ok (.inr 4)
    | 0xcf => .ok (.inr 8)
    | _ => .error (.invalidLengthPrefix b)

/-- The size of the length prefix and the length it gives; none while it is incomplete. -/
def readLength : Bytes → Except ProtocolError (Option (Nat × Nat))
  | [] => .ok none
  | b :: rest =>
      match lengthMarker b with
      | .error e => .error e
      | .ok (.inl n) => .ok (some (1, n))
      | .ok (.inr width) =>
          match Bytes.splitExact? width rest with
          | none => .ok none
          | some (digits, _) => .ok (some (1 + width, Bytes.toNat digits))

/-- The outcome of looking for a frame in a buffer. -/
inductive Next where
  /-- no whole frame is there yet -/
  | wait
  /-- the buffer does not start with an acceptable frame; it is left as it was -/
  | refused (e : ProtocolError)
  /-- one frame was removed; it held a packet, or something that is none -/
  | removed (result : Except ProtocolError ReceivedPacket) (rest : Bytes)

/-- Looks for a frame at the front of a buffer. -/
def next (limit : Nat) (buffer : Bytes) : Next :=
  match readLength buffer with
  | .error e => .refused e
  | .ok none => .wait
  | .ok (some (prefixSize, len)) =>
      if limit < len then .refused (.frameTooLarge len limit)
      else
        match Bytes.splitExact? len (buffer.drop prefixSize) with
        | none => .wait
        | some (payload, rest) =>
            match Packet.ofPayload payload with
            | .error e => .removed (.error e) rest
            | .ok packet => .removed (.ok ⟨payload, packet⟩) rest

/-- A length prefix has at least one byte, and all its bytes are in the buffer. -/
theorem readLength_size {buffer : Bytes} {size len : Nat}
    (h : readLength buffer = .ok (some (size, len))) : 1 ≤ size ∧ size ≤ buffer.length := by
  cases buffer with
  | nil => simp [readLength] at h
  | cons b rest =>
      rw [readLength] at h
      split at h
      · simp at h
      · simp only [Except.ok.injEq, Option.some.injEq, Prod.mk.injEq] at h
        simp only [List.length_cons]; omega
      · split at h
        · simp at h
        · rename_i hs
          have hlen := congrArg List.length (Bytes.splitExact?_eq_some hs).1
          have hw := (Bytes.splitExact?_eq_some hs).2
          simp only [Except.ok.injEq, Option.some.injEq, Prod.mk.injEq] at h
          simp only [List.length_append] at hlen
          simp only [List.length_cons]; omega

/-- Removing a frame makes the buffer shorter. -/
theorem length_rest_lt {limit : Nat} {buffer rest : Bytes}
    {result : Except ProtocolError ReceivedPacket}
    (h : next limit buffer = .removed result rest) : rest.length < buffer.length := by
  rw [next] at h
  split at h
  · simp at h
  · simp at h
  · rename_i hl
    have hsize := readLength_size hl
    split at h
    · simp at h
    · split at h
      · simp at h
      · rename_i hs
        have hdrop := congrArg List.length (Bytes.splitExact?_eq_some hs).1
        simp only [List.length_append, List.length_drop] at hdrop
        split at h <;> (simp only [Next.removed.injEq] at h; obtain ⟨_, rfl⟩ := h; omega)

/-- What taking every frame off a buffer gives: the packets in order, the fault that stopped it
(if any), and the bytes left. -/
structure Drained where
  packets : List ReceivedPacket
  fault : Option ProtocolError
  rest : Bytes
  deriving DecidableEq

/-- Takes frames off a buffer until it has none left or one is at fault. -/
def drain (limit : Nat) (buffer : Bytes) : Drained :=
  match _ : next limit buffer with
  | .wait => ⟨[], none, buffer⟩
  | .refused e => ⟨[], some e, buffer⟩
  | .removed (.error e) rest => ⟨[], some e, rest⟩
  | .removed (.ok packet) rest =>
      let more := drain limit rest
      { more with packets := packet :: more.packets }
termination_by buffer.length
decreasing_by exact length_rest_lt ‹_›

/-- Takes frames off a stream that arrives in chunks, after each chunk as many as there are. -/
def drainChunks (limit : Nat) : Bytes → List Bytes → List Drained
  | _, [] => []
  | buffer, chunk :: chunks =>
      let taken := drain limit (buffer ++ chunk)
      taken :: drainChunks limit taken.rest chunks

end Frame

end TupleWire
