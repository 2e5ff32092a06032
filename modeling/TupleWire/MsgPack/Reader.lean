/-
  Reading MessagePack.

  `read` takes one value off the front of a byte string and returns the rest.
  It accepts every marker and every spelling of a length, shortest or not, and
  reads the reserved marker as nil.  It is total: the nesting that it follows is
  bounded by a depth budget, and a byte string that ends too early, or nests too
  deep, gives one of the four causes of `ReadError`.

  The budget.  Reading a value takes one unit, before its marker is read; the
  contents of an array or a map take one more, the bytes of a string or of an
  extension two, and binary one.  Elements start with what is left.
-/
import TupleWire.MsgPack.Value

set_option autoImplicit false

namespace TupleWire.MsgPack

/-! ## Causes -/

/-- Why no value could be read. -/
inductive ReadError where
  /-- the input ended where a marker was due -/
  | marker
  /-- the input ended inside a number, a length or an extension type -/
  | number
  /-- a payload of `expected` bytes had only `left` -/
  | payload (expected left : Nat)
  /-- the value nests deeper than the budget -/
  | depth
  deriving DecidableEq, Repr, Inhabited

/-- The wording of a cause. -/
def ReadError.message : ReadError → String
  | .marker => "I/O error while reading marker byte: failed to fill whole buffer"
  | .number => "I/O error while reading non-marker bytes: failed to fill whole buffer"
  | .payload expected left =>
      s!"I/O error while reading non-marker bytes: Expected {expected} bytes, read {left} bytes"
  | .depth => "depth limit exceeded"

/-- A reader of one thing: it consumes a prefix of the input and returns the rest. -/
abbrev Reader (α : Type) : Type := Bytes → Except ReadError (α × Bytes)

/-! ## Fields of a fixed width -/

/-- A big-endian number of `width` bytes. -/
def readNat (width : Nat) : Reader Nat := fun bs =>
  match Bytes.splitExact? width bs with
  | some (digits, rest) => .ok (Bytes.toNat digits, rest)
  | none => .error .number

/-- `n` bytes of payload, for which the budget must hold one unit. -/
def readPayload : (budget n : Nat) → Reader Bytes
  | 0, _, _ => .error .depth
  | _ + 1, n, bs =>
      match Bytes.splitExact? n bs with
      | some found => .ok found
      | none => .error (.payload n bs.length)

/-- A number in two's complement of `width` bytes. -/
def signed (width n : Nat) : Value :=
  if n < Bytes.capacity width / 2 then .uint (UInt64.ofNat n)
  else .ofInt (.negSucc (Bytes.capacity width - 1 - n))

/-! ## Markers -/

/-- How the length of a compound value is given. -/
inductive Length where
  /-- by the marker itself -/
  | inMarker (n : Nat)
  /-- by a number of so many bytes after the marker -/
  | field (width : Nat)
  deriving DecidableEq, Repr

/-- What a marker byte announces. -/
inductive Marker where
  /-- the marker is the whole value -/
  | complete (v : Value)
  | unsigned (width : Nat)
  | signed (width : Nat)
  | float32
  | float64
  | str (len : Length)
  | bin (len : Length)
  | array (len : Length)
  | map (len : Length)
  | ext (len : Length)

/-- The meaning of each of the 256 marker bytes; the reserved one reads as nil. -/
def Marker.ofByte (b : UInt8) : Marker :=
  let n := b.toNat
  if n < 0x80 then .complete (.uint b.toUInt64)
  else if n < 0x90 then .map (.inMarker (n - 0x80))
  else if n < 0xa0 then .array (.inMarker (n - 0x90))
  else if n < 0xc0 then .str (.inMarker (n - 0xa0))
  else if 0xe0 ≤ n then .complete (.ofInt (.negSucc (0xff - n)))
  else match n with
    | 0xc2 => .complete (.bool false)
    | 0xc3 => .complete (.bool true)
    | 0xc4 => .bin (.field 1)
    | 0xc5 => .bin (.field 2)
    | 0xc6 => .bin (.field 4)
    | 0xc7 => .ext (.field 1)
    | 0xc8 => .ext (.field 2)
    | 0xc9 => .ext (.field 4)
    | 0xca => .float32
    | 0xcb => .float64
    | 0xcc => .unsigned 1
    | 0xcd => .unsigned 2
    | 0xce => .unsigned 4
    | 0xcf => .unsigned 8
    | 0xd0 => .signed 1
    | 0xd1 => .signed 2
    | 0xd2 => .signed 4
    | 0xd3 => .signed 8
    | 0xd4 => .ext (.inMarker 1)
    | 0xd5 => .ext (.inMarker 2)
    | 0xd6 => .ext (.inMarker 4)
    | 0xd7 => .ext (.inMarker 8)
    | 0xd8 => .ext (.inMarker 16)
    | 0xd9 => .str (.field 1)
    | 0xda => .str (.field 2)
    | 0xdb => .str (.field 4)
    | 0xdc => .array (.field 2)
    | 0xdd => .array (.field 4)
    | 0xde => .map (.field 2)
    | 0xdf => .map (.field 4)
    | _ => .complete .nil

/-- The length that a marker announced. -/
def Length.read : Length → Reader Nat
  | .inMarker n, bs => .ok (n, bs)
  | .field width, bs => readNat width bs

/-! ## Values -/

/-- `n` things in a row, after those already collected in reverse. -/
def readMany {α : Type} (one : Reader α) : Nat → List α → Reader (List α)
  | 0, found, bs => .ok (found.reverse, bs)
  | n + 1, found, bs =>
      match one bs with
      | .error e => .error e
      | .ok (a, rest) => readMany one n (a :: found) rest

/-- One thing after the other. -/
def readPair {α β : Type} (first : Reader α) (second : Reader β) : Reader (α × β) := fun bs =>
  match first bs with
  | .error e => .error e
  | .ok (a, rest) =>
      match second rest with
      | .error e => .error e
      | .ok (b, rest) => .ok ((a, b), rest)

/-- The bytes of a string, from the budget left after the string's own unit. -/
def readStr (budget : Nat) (len : Length) : Reader Value := fun bs =>
  match len.read bs with
  | .error e => .error e
  | .ok (n, rest) =>
      match budget with
      | 0 => .error .depth
      | budget + 1 =>
          match readPayload budget n rest with
          | .error e => .error e
          | .ok (bytes, rest) => .ok (.str bytes, rest)

/-- The bytes of a binary value. -/
def readBin (budget : Nat) (len : Length) : Reader Value := fun bs =>
  match len.read bs with
  | .error e => .error e
  | .ok (n, rest) =>
      match readPayload budget n rest with
      | .error e => .error e
      | .ok (bytes, rest) => .ok (.bin bytes, rest)

/-- The type and the bytes of an extension. -/
def readExt (budget : Nat) (len : Length) : Reader Value := fun bs =>
  match len.read bs with
  | .error e => .error e
  | .ok (n, rest) =>
      match budget with
      | 0 => .error .depth
      | budget + 1 =>
          match rest with
          | [] => .error .number
          | kind :: rest =>
              match readPayload budget n rest with
              | .error e => .error e
              | .ok (bytes, rest) => .ok (.ext kind.toInt8 bytes, rest)

/-- The rest of a value that needs no nested value, after its marker. -/
def readFlat (budget : Nat) : Marker → Reader Value
  | .complete v, bs => .ok (v, bs)
  | .unsigned width, bs =>
      match readNat width bs with
      | .error e => .error e
      | .ok (n, rest) => .ok (.uint (UInt64.ofNat n), rest)
  | .signed width, bs =>
      match readNat width bs with
      | .error e => .error e
      | .ok (n, rest) => .ok (MsgPack.signed width n, rest)
  | .float32, bs =>
      match readNat 4 bs with
      | .error e => .error e
      | .ok (n, rest) => .ok (.f32 (UInt32.ofNat n), rest)
  | .float64, bs =>
      match readNat 8 bs with
      | .error e => .error e
      | .ok (n, rest) => .ok (.f64 (UInt64.ofNat n), rest)
  | .str len, bs => readStr budget len bs
  | .bin len, bs => readBin budget len bs
  | .ext len, bs => readExt budget len bs
  | .array _, _ => .error .depth
  | .map _, _ => .error .depth

/-- The elements of an array or the entries of a map, once their number is known. -/
def readContents {α : Type} (len : Length) (one : Option (Reader α)) (make : List α → Value) :
    Reader Value := fun bs =>
  match len.read bs with
  | .error e => .error e
  | .ok (n, rest) =>
      match one with
      | none => .error .depth
      | some one =>
          match readMany one n [] rest with
          | .error e => .error e
          | .ok (found, rest) => .ok (make found, rest)

/-- One value, within a depth budget. -/
def readWithin : Nat → Reader Value
  | 0, _ => .error .depth
  | _ + 1, [] => .error .marker
  | 1, b :: bs =>
      match Marker.ofByte b with
      | .array len => readContents (α := Value) len none .array bs
      | .map len => readContents (α := Value × Value) len none .map bs
      | marker => readFlat 0 marker bs
  | budget + 2, b :: bs =>
      match Marker.ofByte b with
      | .array len => readContents len (some (readWithin budget)) .array bs
      | .map len =>
          readContents len (some (readPair (readWithin budget) (readWithin budget))) .map bs
      | marker => readFlat (budget + 1) marker bs

/-- The depth budget of a value that comes off the wire. -/
def depthBudget : Nat := 1024

/-- One value off the wire. -/
def read : Reader Value := readWithin depthBudget

end TupleWire.MsgPack
