/-
  The ways in which bytes fail to be a frame, a packet or a greeting.

  A fault is a cause; the wording of each cause is `ProtocolError.message` and
  the functions it uses.
-/
import TupleWire.MsgPack.Reader

set_option autoImplicit false

namespace TupleWire

/-- Why a value is not a packet header. -/
inductive HeaderFault where
  | notAMap
  | keyNotInteger
  | syncNotInteger
  | missingType
  deriving DecidableEq, Repr, Inhabited

/-- Why a value is not a packet body. -/
inductive BodyFault where
  | notAMap
  | keyNotInteger
  deriving DecidableEq, Repr, Inhabited

/-- Why bytes are not a greeting. -/
inductive GreetingFault where
  | tooShort
  | serverNotUtf8
  | unexpectedBanner
  | saltNotUtf8
  | saltNotBase64
  | saltTooShort
  deriving DecidableEq, Repr, Inhabited

/-- Why bytes could not be read as protocol data, or a packet not be written. -/
inductive ProtocolError where
  /-- the first byte of a frame is not the marker of an unsigned integer -/
  | invalidLengthPrefix (marker : UInt8)
  /-- a frame is longer than allowed -/
  | frameTooLarge (len limit : Nat)
  | decode (cause : MsgPack.ReadError)
  | header (cause : HeaderFault)
  | body (cause : BodyFault)
  | greeting (cause : GreetingFault)
  deriving DecidableEq, Repr, Inhabited

def HeaderFault.message : HeaderFault → String
  | notAMap => "header is not a map"
  | keyNotInteger => "non-integer header key"
  | syncNotInteger => "sync is not an integer"
  | missingType => "missing request type"

def BodyFault.message : BodyFault → String
  | notAMap => "body is not a map"
  | keyNotInteger => "non-integer body key"

def GreetingFault.message : GreetingFault → String
  | tooShort => "greeting is shorter than 128 bytes"
  | serverNotUtf8 => "server line is not utf-8"
  | unexpectedBanner => "unexpected server banner"
  | saltNotUtf8 => "salt line is not utf-8"
  | saltNotBase64 => "salt is not base64"
  | saltTooShort => "salt is too short"

/-- A byte as two lower-case hexadecimal digits. -/
def hexByte (b : UInt8) : String :=
  String.ofList [Nat.digitChar (b.toNat / 16), Nat.digitChar (b.toNat % 16)]

/-- The wording of a fault. -/
def ProtocolError.message : ProtocolError → String
  | invalidLengthPrefix marker => s!"invalid frame length prefix (marker 0x{hexByte marker})"
  | frameTooLarge len limit => s!"frame of {len} bytes exceeds limit of {limit} bytes"
  | decode cause => s!"malformed msgpack: {cause.message}"
  | header cause => s!"malformed header: {cause.message}"
  | body cause => s!"malformed body: {cause.message}"
  | greeting cause => s!"invalid greeting: {cause.message}"

end TupleWire
