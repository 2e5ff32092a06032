/-
  The outline of a certificate.

  A certificate is a sequence of three parts: what is signed, the algorithm of
  the signature, and the signature.  `Certificate.check` looks at that outline
  and the one of the signed part.  It does not look into names and keys, and
  does not verify the signature.
-/
import TupleWire.Tls.Element

set_option autoImplicit false

namespace TupleWire

/-- Why bytes are no certificate that can be trusted. -/
inductive CertificateFault where
  | badEncoding
  /-- the signed part names another algorithm than the certificate does -/
  | algorithmMismatch
  /-- an extension that is looked at occurs twice -/
  | repeatedExtension
  deriving DecidableEq, Repr

/-- The wording of a fault. -/
def CertificateFault.message : CertificateFault → String
  | badEncoding => "BadEncoding"
  | algorithmMismatch => "Other(OtherError(SignatureAlgorithmMismatch))"
  | repeatedExtension => "Other(OtherError(ExtensionValueInvalid))"

namespace Certificate

/-- What is read, unless it is encoded badly. -/
def encoded {α : Type} : Option α → Except CertificateFault α
  | some a => .ok a
  | none => .error .badEncoding

/-! ## Extensions -/

/-- The extension that says what the key is used for. -/
def keyUsage : UInt8 := 15

/-- The extensions that are looked at, by the last numbers of their names: the usage of the key,
other names of the subject, constraints on what is certified, constraints on names, where withdrawn
certificates are listed, and the purposes of the key. -/
def known : List UInt8 := [keyUsage, 17, 19, 30, 31, 37]

/-- The last number of the name of an extension that is looked at. -/
def known? : Bytes → Option UInt8
  | [0x55, 0x1d, number] => if known.contains number then some number else none
  | _ => none

/-- Skips the mark that an extension is critical, if there is one. -/
def skipCritical? (bytes : Bytes) : Option Bytes :=
  if bytes.head? = some Element.boolean then do
    let (contents, rest) ← Element.read? Element.boolean bytes
    if contents = [0x00] ∨ contents = [0xff] then some rest else none
  else some bytes

/-- Whether the value of an extension has its outline. -/
def hasOutline (number : UInt8) (value : Bytes) : Bool :=
  number == keyUsage || (Element.only? Element.sequence value).isSome

/-- Checks an extension after others; the numbers of those that are looked at. -/
def checkExtension (seen : List UInt8) (bytes : Bytes) : Except CertificateFault (List UInt8) := do
  let (name, rest) ← encoded (Element.read? Element.identifier bytes)
  let rest ← encoded (skipCritical? rest)
  let (value, rest) ← encoded (Element.read? Element.octetString rest)
  match known? name with
  | none => if rest.isEmpty then .ok seen else .error .badEncoding
  | some number =>
      if seen.contains number then .error .repeatedExtension
      else if rest.isEmpty && hasOutline number value then .ok (number :: seen)
      else .error .badEncoding

/-- Checks a row of extensions. -/
def checkExtensions (seen : List UInt8) (bytes : Bytes) : Except CertificateFault Unit :=
  if bytes.isEmpty then .ok ()
  else
    match _h : Element.read? Element.sequence bytes with
    | none => .error .badEncoding
    | some (contents, rest) =>
        match checkExtension seen contents with
        | .error fault => .error fault
        | .ok seen => checkExtensions seen rest
termination_by bytes.length
decreasing_by exact Element.length_rest_lt ‹_›

/-! ## The signed part -/

/-- Skips so many sequences. -/
def skipSequences? : Nat → Bytes → Option Bytes
  | 0, bytes => some bytes
  | n + 1, bytes => do
      let (_, rest) ← Element.read? Element.sequence bytes
      skipSequences? n rest

/-- Skips the version of certificates that may have extensions. -/
def skipVersion? (signed : Bytes) : Option Bytes := do
  let (version, rest) ← Element.read? Element.explicit0 signed
  let number ← Element.only? Element.integer version
  if number = [2] then some rest else none

/-- Whether the signed part has the outline of the first version: a number, the algorithm, the
issuer, the validity, the subject and its key. -/
def isFirstVersion (signed : Bytes) : Bool :=
  let after := do
    let (_, rest) ← Element.read? Element.integer signed
    skipSequences? 5 rest
  after = some []

/-- Checks the signed part after its version: what the first version holds, with the algorithm of
the certificate, and then extensions or nothing. -/
def checkSigned (algorithm bytes : Bytes) : Except CertificateFault Unit := do
  let (_, rest) ← encoded (Element.read? Element.integer bytes)
  let (named, rest) ← encoded (Element.read? Element.sequence rest)
  if named ≠ algorithm then .error .algorithmMismatch
  else
    let rest ← encoded (skipSequences? 4 rest)
    if rest.isEmpty then .ok ()
    else
      let (tagged, after) ← encoded (Element.read? Element.explicit3 rest)
      let (extensions, inner) ← encoded (Element.read? Element.sequence tagged)
      checkExtensions [] extensions
      if inner.isEmpty && after.isEmpty then .ok () else .error .badEncoding

/-! ## Certificates -/

/-- The parts of a certificate that are looked at. -/
structure Parts where
  signed : Bytes
  /-- what the algorithm of the signature is -/
  algorithm : Bytes
  deriving DecidableEq, Repr

/-- The parts of a certificate, if a signature of whole bytes follows them, and nothing else. -/
def parts? (bytes : Bytes) : Option Parts := do
  let whole ← Element.only? Element.sequence bytes
  let (signed, rest) ← Element.read? Element.sequence whole
  let (algorithm, rest) ← Element.read? Element.sequence rest
  let signature ← Element.only? Element.bitString rest
  if signature.head? = some 0 then some ⟨signed, algorithm⟩ else none

/-- Checks the outline of a certificate. -/
def check (bytes : Bytes) : Except CertificateFault Unit := do
  let parts ← encoded (parts? bytes)
  match skipVersion? parts.signed with
  | some rest => checkSigned parts.algorithm rest
  | none => if isFirstVersion parts.signed then .ok () else .error .badEncoding

end Certificate

end TupleWire
