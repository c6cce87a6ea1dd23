import ReverseTunnel.Der
import ReverseTunnel.Pem

/-!
# Certificates and private keys

What is read of a certificate is the public key that it vouches for; its other parts
only have to be there and in order. Of a private key its public half is read, so
that a key and a certificate can be compared.
-/

namespace ReverseTunnel

open Der

/-- A public key: the algorithm that it is for, and the key itself. -/
structure PublicKey where
  algorithm : Bytes
  key : Bytes
  deriving DecidableEq

namespace PublicKey

/-- The public key of its information element. -/
def ofElement? (e : Element) : Option PublicKey :=
  if e.tag = sequenceTag then
    match elements? e.content with
    | some [algorithm, bits] =>
      if algorithm.tag = sequenceTag then (wholeBits? bits).map fun key => ⟨algorithm.content, key⟩
      else none
    | _ => none
  else none

end PublicKey

/-- A certificate, of which only the public key and the kind are known. -/
structure Certificate where
  publicKey : PublicKey
  /-- It is of the first version, which has no extensions. -/
  isFirstVersion : Bool
  deriving DecidableEq

namespace Certificate

/-- The element is the version mark of certificates with extensions. -/
def isVersionMark (e : Element) : Bool :=
  e.tag == markedTag 0 && e.content == (⟨integerTag, [2]⟩ : Element).bytes

/-- The element can hold extensions. -/
def isExtensions (e : Element) : Bool :=
  e.tag == markedTag 3 &&
    match sequence? e.content with
    | some extensions =>
      extensions.all fun x => x.tag == sequenceTag && (elements? x.content).isSome
    | none => false

/-- The public key behind the serial number, the algorithm, the issuer, the validity
and the subject. -/
def ofNamedParts? (algorithm : Element) (parts : List Element) :
    Option (PublicKey × List Element) :=
  match parts with
  | serial :: signature :: issuer :: validity :: subject :: key :: rest =>
    if serial.tag = integerTag ∧ serial.content ≠ [] ∧ signature = algorithm ∧
        [issuer, validity, subject].all (·.tag == sequenceTag) then
      (PublicKey.ofElement? key).map fun k => (k, rest)
    else none
  | _ => none

/-- The certificate with this signed part. Those of the first version have neither a
version mark nor extensions. -/
def ofSignedPart? (algorithm : Element) (parts : List Element) : Option Certificate :=
  match parts with
  | first :: rest =>
    if isVersionMark first then
      match ofNamedParts? algorithm rest with
      | some (key, []) => some ⟨key, false⟩
      | some (key, [extensions]) => if isExtensions extensions then some ⟨key, false⟩ else none
      | _ => none
    else
      match ofNamedParts? algorithm parts with
      | some (key, []) => some ⟨key, true⟩
      | _ => none
  | [] => none

/-- The certificate that some bytes form. -/
def ofBytes? (bytes : Bytes) : Option Certificate :=
  match sequence? bytes with
  | some [signed, algorithm, signature] =>
    if signed.tag = sequenceTag ∧ algorithm.tag = sequenceTag ∧ (wholeBits? signature).isSome then
      (elements? signed.content).bind (ofSignedPart? algorithm)
    else none
  | _ => none

end Certificate

/-- A private key, of which only the public half is known. -/
structure PrivateKey where
  publicKey : PublicKey
  deriving DecidableEq

namespace PrivateKey

/-- The identifier of RSA keys. -/
def rsaIdentifier : Element :=
  ⟨identifierTag, [0x2A, 0x86, 0x48, 0x86, 0xF7, 0x0D, 0x01, 0x01, 0x01]⟩

/-- The identifier of elliptic curve keys. -/
def curveKeyIdentifier : Element := ⟨identifierTag, [0x2A, 0x86, 0x48, 0xCE, 0x3D, 0x02, 0x01]⟩

/-- The curves that are known, with the lengths of their public keys. -/
def curves : List (Element × Nat) :=
  [(⟨identifierTag, [0x2A, 0x86, 0x48, 0xCE, 0x3D, 0x03, 0x01, 0x07]⟩, 65),
    (⟨identifierTag, [0x2B, 0x81, 0x04, 0x00, 0x22]⟩, 97)]

/-- The algorithm of RSA keys. -/
def rsaAlgorithm : Bytes := rsaIdentifier.bytes ++ [0x05, 0x00]

/-- The algorithm of the keys of a curve. -/
def curveAlgorithm (curve : Element) : Bytes := curveKeyIdentifier.bytes ++ curve.bytes

/-- The public half of an RSA key: its first two numbers. -/
def ofRsa? (bytes : Bytes) : Option PrivateKey :=
  match sequence? bytes with
  | some (version :: modulus :: exponent :: rest) =>
    if version = ⟨integerTag, [0]⟩ ∧ rest.length = 6 ∧
        (modulus :: exponent :: rest).all (·.tag == integerTag) then
      some ⟨⟨rsaAlgorithm, (⟨sequenceTag, modulus.bytes ++ exponent.bytes⟩ : Element).bytes⟩⟩
    else none
  | _ => none

/-- The public half of an elliptic curve key, which stands behind the private one and
fits the curve. -/
def ofCurve? (curve : Option Element) (bytes : Bytes) : Option PrivateKey := do
  let parts ← sequence? bytes
  guard (parts.take 1 = [⟨integerTag, [1]⟩])
  let bits ← parts.find? (·.tag == markedTag 1)
  let key ← (element? bits.content).bind fun e => wholeBits? e.1
  let (curve, _) ← curves.find? fun c =>
    c.2 == key.length && (curve.isNone || curve == some c.1)
  return ⟨⟨curveAlgorithm curve, key⟩⟩

/-- The key in its general form: a version, an algorithm, and the key of that
algorithm. -/
def ofGeneral? (bytes : Bytes) : Option PrivateKey :=
  match sequence? bytes with
  | some (version :: algorithm :: key :: _) =>
    if version = ⟨integerTag, [0]⟩ ∧ algorithm.tag = sequenceTag ∧ key.tag = byteStringTag then
      match elements? algorithm.content with
      | some (identifier :: parameters) =>
        if identifier = rsaIdentifier then ofRsa? key.content
        else if identifier = curveKeyIdentifier then ofCurve? parameters.head? key.content
        else none
      | _ => none
    else none
  | _ => none

/-- The key of a section of a PEM file. -/
def ofSection? (s : Pem.Section) : Option PrivateKey :=
  if s.label = "PRIVATE KEY" then ofGeneral? s.content
  else if s.label = "RSA PRIVATE KEY" then ofRsa? s.content
  else if s.label = "EC PRIVATE KEY" then ofCurve? none s.content
  else none

end PrivateKey

end ReverseTunnel
