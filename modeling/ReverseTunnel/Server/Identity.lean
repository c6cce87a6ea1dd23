import ReverseTunnel.Certificate
import ReverseTunnel.FileTree

/-!
# The identity of a server

A server that speaks TLS shows a certificate and holds its private key. Both come
from PEM files, and must belong together.
-/

namespace ReverseTunnel.Server

/-- Why a PEM file could not be read to its end. -/
inductive PemFault where
  | system (error : SystemError)
  | format (fault : Pem.Fault)
  deriving DecidableEq

/-- The wording of a PEM fault. -/
def PemFault.message : PemFault → String
  | .system error => error.message
  | .format fault => fault.message

/-- Why a certificate and a key are no identity. -/
inductive PairFault where
  | unusableKey
  | unusableCertificate
  | differentKeys
  deriving DecidableEq

/-- The wording of a pair that is no identity. -/
def PairFault.message : PairFault → String
  | .unusableKey =>
    "unexpected error: failed to parse private key as RSA, ECDSA, or EdDSA"
  | .unusableCertificate => "invalid peer certificate: BadEncoding"
  | .differentKeys => "keys may not be consistent: KeyMismatch"

/-- Why a server has no identity. -/
inductive IdentityFault where
  | openCertificate (path : String) (error : SystemError)
  | readCertificate (fault : PemFault)
  | noCertificates (path : String)
  | openKey (path : String) (error : SystemError)
  | readKey (fault : PemFault)
  | noKey (path : String)
  | pair (fault : PairFault)
  deriving DecidableEq

/-- The wording of a fault. -/
def IdentityFault.message : IdentityFault → String
  | .openCertificate path _ => "Failed to open certificate " ++ path
  | .readCertificate _ => "Failed to parse certificate PEM"
  | .noCertificates path => "No certificates found in " ++ path
  | .openKey path _ => "Failed to open private key " ++ path
  | .readKey _ => "Failed to parse private key PEM"
  | .noKey path => "No private key found in " ++ path
  | .pair _ => "Certificate and key do not match"

/-- What lies beneath a fault. -/
def IdentityFault.cause : IdentityFault → Option String
  | .openCertificate _ error | .openKey _ error => some error.message
  | .readCertificate fault | .readKey fault => some fault.message
  | .noCertificates _ | .noKey _ => none
  | .pair fault => some fault.message

/-- A certificate chain, its server's own certificate first, and a private key. -/
structure Identity where
  chain : List Bytes
  key : PrivateKey

namespace Identity

/-- Opens a file. A directory can be opened too; it is the reading that then fails. -/
def openFile (tree : FileTree) (path : String) : Except SystemError (Except PemFault Bytes) :=
  match tree.read path with
  | .ok content => .ok (.ok content)
  | .error .isADirectory => .ok (.error (.system .isADirectory))
  | .error e => .error e

/-- The certificates of the file at a path. -/
def loadChain (tree : FileTree) (path : String) : Except IdentityFault (List Bytes) := do
  let file ← (openFile tree path).mapError (.openCertificate path)
  let content ← file.mapError .readCertificate
  let chain ← (Pem.certificates content).mapError fun e => .readCertificate (.format e)
  if chain.isEmpty then throw (.noCertificates path)
  return chain

/-- The private key section of the file at a path. -/
def loadKey (tree : FileTree) (path : String) : Except IdentityFault Pem.Section := do
  let file ← (openFile tree path).mapError (.openKey path)
  let content ← file.mapError .readKey
  match ← (Pem.privateKey content).mapError fun e => .readKey (.format e) with
  | some key => return key
  | none => throw (.noKey path)

/-- The identity of a chain and a key, if the first certificate is for that key. -/
def ofPair (chain : List Bytes) (key : Pem.Section) : Except PairFault Identity :=
  match PrivateKey.ofSection? key with
  | none => .error .unusableKey
  | some k =>
    match chain.head?.bind Certificate.ofBytes? with
    | none => .error .unusableCertificate
    | some c =>
      if c.isFirstVersion then .error .unusableCertificate
      else if c.publicKey = k.publicKey then .ok ⟨chain, k⟩
      else .error .differentKeys

/-- The identity in two files. -/
def load (tree : FileTree) (certificatePath keyPath : String) : Except IdentityFault Identity := do
  let chain ← loadChain tree certificatePath
  let key ← loadKey tree keyPath
  (ofPair chain key).mapError .pair

end Identity

end ReverseTunnel.Server
