/-
  The server's greeting, and the proof of a password that answers it.

  A server opens a session with two lines of 64 bytes, filled up with spaces: its
  banner, and in Base64 a salt.  A password is proved by `scramble`: the digest
  of the password, masked with a digest that takes in the first 20 bytes of the
  salt and the digest of that digest.
-/
import TupleWire.Text.Base64
import TupleWire.Text.Utf8
import TupleWire.Digest.Sha1
import TupleWire.Packet.Fault

set_option autoImplicit false

namespace TupleWire

/-- What a server says first. -/
structure Greeting where
  /-- the banner -/
  server : String
  salt : Bytes
  deriving DecidableEq

namespace Greeting

/-- The size of one line. -/
def lineSize : Nat := 64

/-- The size of a greeting: two lines. -/
def size : Nat := 128

/-- How a banner has to start. -/
def banner : Bytes := Utf8.encode "Tarantool"

/-! ## Reading -/

/-- The bytes that fill up a line: NUL, space and line feed. -/
def isFiller (b : UInt8) : Bool := b == 0x00 || b == 0x20 || b == 0x0a

/-- A line without the filler at its end. -/
def trim (line : Bytes) : Bytes := (line.reverse.dropWhile isFiller).reverse

/-- The banner on the first line. -/
def readServer (line : Bytes) : Except GreetingFault String :=
  if Utf8.isValid line then
    match Utf8.decode? (trim line) with
    | some server => if banner.isPrefixOf (trim line) then .ok server else .error .unexpectedBanner
    | none => .error .serverNotUtf8
  else .error .serverNotUtf8

/-- The salt on the second line. -/
def readSalt (line : Bytes) : Except GreetingFault Bytes :=
  if Utf8.isValid line then
    match Base64.decode? (trim line) with
    | some salt => if salt.length < Sha1.digestSize then .error .saltTooShort else .ok salt
    | none => .error .saltNotBase64
  else .error .saltNotUtf8

/-- The greeting that the first 128 bytes spell. -/
def parse (raw : Bytes) : Except GreetingFault Greeting :=
  if raw.length < size then .error .tooShort
  else
    match readServer (raw.take lineSize) with
    | .error fault => .error fault
    | .ok server =>
        match readSalt ((raw.drop lineSize).take lineSize) with
        | .error fault => .error fault
        | .ok salt => .ok ⟨server, salt⟩

/-! ## Writing -/

/-- A text on a line of its own: cut to fit, filled up with spaces, ended by a line feed. -/
def line (text : Bytes) : Bytes :=
  let shown := text.take (lineSize - 1)
  shown ++ List.replicate (lineSize - 1 - shown.length) 0x20 ++ [0x0a]

/-- The 128 bytes of a greeting. -/
def encode (g : Greeting) : Bytes :=
  line (Utf8.encode g.server) ++ line (Base64.encode g.salt)

theorem length_line (text : Bytes) : (line text).length = lineSize := by
  simp only [line, List.length_append, List.length_take, List.length_replicate,
    List.length_singleton, lineSize]
  omega

@[simp] theorem length_encode (g : Greeting) : g.encode.length = size := by
  simp [encode, length_line, lineSize, size]

end Greeting

/-! ## Proving a password -/

/-- Byte by byte exclusive or. -/
def xorBytes (a b : Bytes) : Bytes := List.zipWith (· ^^^ ·) a b

/-- The mask of a password's digest: what a server can compute that holds only the digest of the
digest. -/
def scrambleMask (salt storedHash : Bytes) : Bytes :=
  Sha1.hash (salt.take Sha1.digestSize ++ storedHash)

/-- The proof of a password in a session with a salt. -/
def scramble (salt : Bytes) (password : String) : Bytes :=
  let once := Sha1.hash (Utf8.encode password)
  xorBytes once (scrambleMask salt (Sha1.hash once))

end TupleWire
