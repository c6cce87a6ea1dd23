import ReverseTunnel.Certificate
import ReverseTunnel.Client.Basic
import ReverseTunnel.FileTree

/-!
# Trusted root certificates

A client can be told to trust the certificates of a PEM file, of which there must be
at least one. What it then keeps of them is only that they are trusted.
-/

namespace ReverseTunnel.Client

/-- The security that trusts the certificates of a PEM file. -/
def Security.ofPem (pem : Bytes) (serverName : String) : Except TlsFault Security :=
  match Pem.certificates pem with
  | .error _ => .error .invalidPem
  | .ok [] => .error .noCertificates
  | .ok roots =>
    if roots.all fun r => (Certificate.ofBytes? r).isSome then .ok (.tls serverName)
    else .error .invalidRoot

/-- The security that trusts the certificates of the PEM file at a path. -/
def Security.ofFile (tree : FileTree) (path serverName : String) : Except Fault Security := do
  let pem ← (tree.read path).mapError .io
  (ofPem pem serverName).mapError .tls

end ReverseTunnel.Client
