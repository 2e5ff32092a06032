/-
  Whom an encrypted connection trusts.

  Without a file of certificates the usual authorities are trusted.  With one,
  all the certificates in it are, and there has to be at least one.  The first
  certificate that cannot be used decides why nothing is trusted.
-/
import TupleWire.Config.Basic
import TupleWire.Tls.Armor
import TupleWire.Tls.Fault

set_option autoImplicit false

namespace TupleWire

/-- The authorities that a connection trusts. -/
inductive Trust where
  | usual
  | certificates (list : List Bytes)
  deriving DecidableEq, Repr

/-- The authorities that settings ask for. -/
def TlsConfig.trust (t : TlsConfig) (host : Host) : Except TlsFault Trust :=
  match t.caCertPath with
  | none => .ok .usual
  | some path =>
      match host.read path with
      | .error fault => .error (.unreadable path fault)
      | .ok contents =>
          let found := Armor.certificates contents
          if found.isEmpty then .error (.noCertificates path)
          else
            match found.forM Certificate.check with
            | .ok () => .ok (.certificates found)
            | .error fault => .error (.unusableCertificate fault)

end TupleWire
