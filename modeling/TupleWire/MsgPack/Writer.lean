/-
  Writing MessagePack.

  Every value has one written form: the shortest spelling of its integers and of
  the lengths of its strings, arrays, maps and extensions.  A string whose bytes
  are not UTF-8 is written as binary.
-/
import TupleWire.MsgPack.Value

set_option autoImplicit false

namespace TupleWire.MsgPack

open Bytes (ofNat)

/-! ## Integers -/

/-- The shortest spelling of a non-negative integer. -/
def uintBytes (n : Nat) : Bytes :=
  if n < 0x80 then [UInt8.ofNat n]
  else if n < 0x100 then 0xcc :: ofNat 1 n
  else if n < 0x10000 then 0xcd :: ofNat 2 n
  else if n < 0x100000000 then 0xce :: ofNat 4 n
  else 0xcf :: ofNat 8 n

/-- The shortest spelling of the negative integer `-1 - m`, in two's complement. -/
def nintBytes (m : Nat) : Bytes :=
  if m < 0x20 then [UInt8.ofNat (0xff - m)]
  else if m < 0x80 then 0xd0 :: ofNat 1 (0xff - m)
  else if m < 0x8000 then 0xd1 :: ofNat 2 (0xffff - m)
  else if m < 0x80000000 then 0xd2 :: ofNat 4 (0xffffffff - m)
  else 0xd3 :: ofNat 8 (0xffffffffffffffff - m)

/-! ## Heads: the marker and length of a compound value -/

/-- The head of a string of `n` bytes. -/
def strHead (n : Nat) : Bytes :=
  if n < 0x20 then [UInt8.ofNat (0xa0 + n)]
  else if n < 0x100 then 0xd9 :: ofNat 1 n
  else if n < 0x10000 then 0xda :: ofNat 2 n
  else 0xdb :: ofNat 4 n

/-- The head of `n` bytes of binary. -/
def binHead (n : Nat) : Bytes :=
  if n < 0x100 then 0xc4 :: ofNat 1 n
  else if n < 0x10000 then 0xc5 :: ofNat 2 n
  else 0xc6 :: ofNat 4 n

/-- The head of an array of `n` elements. -/
def arrayHead (n : Nat) : Bytes :=
  if n < 0x10 then [UInt8.ofNat (0x90 + n)]
  else if n < 0x10000 then 0xdc :: ofNat 2 n
  else 0xdd :: ofNat 4 n

/-- The head of a map of `n` entries. -/
def mapHead (n : Nat) : Bytes :=
  if n < 0x10 then [UInt8.ofNat (0x80 + n)]
  else if n < 0x10000 then 0xde :: ofNat 2 n
  else 0xdf :: ofNat 4 n

/-- The head of an extension of `n` bytes, with its type. -/
def extHead (kind : Int8) (n : Nat) : Bytes :=
  (if n = 1 then [0xd4]
   else if n = 2 then [0xd5]
   else if n = 4 then [0xd6]
   else if n = 8 then [0xd7]
   else if n = 16 then [0xd8]
   else if n < 0x100 then 0xc7 :: ofNat 1 n
   else if n < 0x10000 then 0xc8 :: ofNat 2 n
   else 0xc9 :: ofNat 4 n) ++ [kind.toUInt8]

/-- A string as it is written: as a string if it is UTF-8, as binary otherwise. -/
def strBytes (bytes : Bytes) : Bytes :=
  (if Utf8.isValid bytes then strHead bytes.length else binHead bytes.length) ++ bytes

/-! ## Values -/

mutual

/-- The written form of a value. -/
def write : Value → Bytes
  | .nil => [0xc0]
  | .bool b => [if b then 0xc3 else 0xc2]
  | .uint n => uintBytes n.toNat
  | .nint m => nintBytes m.val
  | .f32 bits => 0xca :: ofNat 4 bits.toNat
  | .f64 bits => 0xcb :: ofNat 8 bits.toNat
  | .str bytes => strBytes bytes
  | .bin bytes => binHead bytes.length ++ bytes
  | .array items => arrayHead items.length ++ writeItems items
  | .map entries => mapHead entries.length ++ writeEntries entries
  | .ext kind data => extHead kind data.length ++ data

/-- The elements of an array, one after the other. -/
def writeItems : List Value → Bytes
  | [] => []
  | v :: vs => write v ++ writeItems vs

/-- The entries of a map, each key before its value. -/
def writeEntries : List (Value × Value) → Bytes
  | [] => []
  | (k, v) :: es => write k ++ (write v ++ writeEntries es)

end

end TupleWire.MsgPack
