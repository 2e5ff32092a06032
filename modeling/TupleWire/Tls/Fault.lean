/-
  What keeps a connection from being encrypted.
-/
import TupleWire.Tls.Certificate
import TupleWire.Tls.Host

set_option autoImplicit false

namespace TupleWire

/-- Why encryption cannot be set up. -/
inductive TlsFault where
  /-- the file of certificates cannot be read -/
  | unreadable (path : String) (fault : PathFault)
  | noCertificates (path : String)
  | unusableCertificate (fault : CertificateFault)
  | invalidServerName
  /-- worded by the transport -/
  | other (text : String)
  deriving DecidableEq, Repr

/-- The wording of a fault. -/
def TlsFault.message : TlsFault → String
  | unreadable path fault => path ++ ": " ++ fault.message
  | noCertificates path => s!"no certificates found in {path}"
  | unusableCertificate fault => "failed to add CA: invalid peer certificate: " ++ fault.message
  | invalidServerName => "invalid server name: invalid dns name"
  | other text => text

end TupleWire
