/-
  Looking at a buffer on a machine.

  `Frame.next` takes sizes for what they are.  A machine has sums in 64 bits and a
  buffer that has to be made large enough for a frame which is still coming in,
  and on either a look can break off, so that there is no answer at all.
  `Frame.look` goes through the sums and cuts of a look one by one.
-/
import TupleWire.Packet.Frame

set_option autoImplicit false

namespace TupleWire

/-- Why a look breaks off. -/
inductive Crash where
  /-- a sum of sizes is no 64-bit number -/
  | overflow
  /-- more bytes were to be cut off than there are -/
  | outOfRange (asked held : Nat)
  /-- the buffer cannot be made so large -/
  | noRoom (size : Nat)
  deriving DecidableEq, Repr

/-- What a look needs from the machine that it runs on. -/
structure Machine where
  /-- a sum that is no 64-bit number breaks off; otherwise it wraps around -/
  checksSums : Bool
  /-- whether a buffer can be made so large -/
  hasRoom : Nat → Bool

namespace Machine

/-- A machine that lets sums wrap around and that has all the memory which can be asked for: a buffer
is shorter than 2^63 bytes. -/
def ample : Machine := ⟨false, fun size => size < UInt64.size / 2⟩

/-- The sum of two sizes. -/
def sum (m : Machine) (a b : Nat) : Except Crash Nat :=
  if a + b < UInt64.size then .ok (a + b)
  else if m.checksSums then .error .overflow else .ok ((a + b) % UInt64.size)

/-- Makes a buffer large enough. -/
def reserve (m : Machine) (size : Nat) : Except Crash Unit :=
  if m.hasRoom size then .ok () else .error (.noRoom size)

end Machine

/-- Cuts bytes off the front of a buffer. -/
def Bytes.cut (n : Nat) (bs : Bytes) : Except Crash (Bytes × Bytes) :=
  match splitExact? n bs with
  | some found => .ok found
  | none => .error (.outOfRange n bs.length)

/-- Looks for a frame at the front of a buffer, step by step. -/
def Frame.look (m : Machine) (limit : Nat) (buffer : Bytes) : Except Crash Next :=
  match readLength buffer with
  | .error e => .ok (.refused e)
  | .ok none => .ok .wait
  | .ok (some (prefixSize, len)) =>
      if limit < len then .ok (.refused (.frameTooLarge len limit))
      else do
        let size ← m.sum prefixSize len
        if buffer.length < size then
          m.reserve size
          return .wait
        else
          let (_, behind) ← Bytes.cut prefixSize buffer
          let (payload, rest) ← Bytes.cut len behind
          return .removed ((Packet.ofPayload payload).map fun packet => ⟨payload, packet⟩) rest

end TupleWire
