/-
  The SHA-1 digest.

  A message is padded to whole blocks of 64 bytes: a one bit, zeros, and the
  message's length in bits as the last eight bytes.  Each block stirs a state of
  five words through eighty rounds; the state after the last block is the digest.
-/
import TupleWire.Bytes

set_option autoImplicit false

namespace TupleWire.Sha1

/-- The number of bytes in a digest. -/
def digestSize : Nat := 20

/-- The five words that the rounds stir. -/
structure State where
  a : UInt32
  b : UInt32
  c : UInt32
  d : UInt32
  e : UInt32
  deriving DecidableEq, Repr

/-- The state before the first block. -/
def State.start : State := ⟨0x67452301, 0xefcdab89, 0x98badcfe, 0x10325476, 0xc3d2e1f0⟩

/-- Rotation to the left. -/
def rotate (x : UInt32) (n : UInt32) : UInt32 := (x <<< n) ||| (x >>> (32 - n))

/-- The message with its padding. -/
def pad (message : Bytes) : Bytes :=
  let zeros := (119 - message.length % 64) % 64
  message ++ 0x80 :: List.replicate zeros 0 ++ Bytes.ofNat 8 (message.length * 8)

/-- The words of four bytes each. -/
def words : Bytes → List UInt32
  | w :: x :: y :: z :: rest => UInt32.ofNat (Bytes.toNat [w, x, y, z]) :: words rest
  | _ => []

/-- The eighty words of a block: its own sixteen, then each the rotated sum of four before it. -/
def schedule (block : Bytes) : Array UInt32 :=
  (List.range 64).foldl
    (fun ws i =>
      ws.push (rotate (ws.getD (i + 13) 0 ^^^ ws.getD (i + 8) 0 ^^^ ws.getD (i + 2) 0 ^^^
        ws.getD i 0) 1))
    (words block).toArray

/-- The mixing function and the constant of a round. -/
def mix (round : Nat) (b c d : UInt32) : UInt32 × UInt32 :=
  if round < 20 then ((b &&& c) ||| (~~~b &&& d), 0x5a827999)
  else if round < 40 then (b ^^^ c ^^^ d, 0x6ed9eba1)
  else if round < 60 then ((b &&& c) ||| (b &&& d) ||| (c &&& d), 0x8f1bbcdc)
  else (b ^^^ c ^^^ d, 0xca62c1d6)

/-- One round. -/
def step (ws : Array UInt32) (s : State) (round : Nat) : State :=
  let (f, k) := mix round s.b s.c s.d
  ⟨rotate s.a 5 + f + s.e + k + ws.getD round 0, s.a, rotate s.b 30, s.c, s.d⟩

/-- The state after a block. -/
def absorb (s : State) (block : Bytes) : State :=
  let ws := schedule block
  let t := (List.range 80).foldl (step ws) s
  ⟨s.a + t.a, s.b + t.b, s.c + t.c, s.d + t.d, s.e + t.e⟩

/-- The state after so many blocks off the front of the padded message. -/
def absorbBlocks : Nat → State → Bytes → State
  | 0, s, _ => s
  | n + 1, s, bs => absorbBlocks n (absorb s (bs.take 64)) (bs.drop 64)

/-- The digest that a state spells. -/
def State.digest (s : State) : Bytes :=
  [s.a, s.b, s.c, s.d, s.e].flatMap fun w => Bytes.ofNat 4 w.toNat

/-- The digest of a message. -/
def hash (message : Bytes) : Bytes :=
  let padded := pad message
  (absorbBlocks (padded.length / 64) State.start padded).digest

@[simp] theorem length_hash (message : Bytes) : (hash message).length = digestSize := by
  simp [hash, State.digest, digestSize]

end TupleWire.Sha1
