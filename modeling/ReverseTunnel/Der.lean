import ReverseTunnel.Bytes

/-!
# Elements of certificates and keys

Certificates and keys are built of elements: a tag, a length in its shortest form,
and a content of that length, which may itself be a row of elements.
-/

namespace ReverseTunnel.Der

/-- An element. -/
structure Element where
  tag : UInt8
  content : Bytes
  deriving DecidableEq

/-- The tag of whole numbers. -/
def integerTag : UInt8 := 0x02

/-- The tag of bit strings. -/
def bitStringTag : UInt8 := 0x03

/-- The tag of byte strings. -/
def byteStringTag : UInt8 := 0x04

/-- The tag of object identifiers. -/
def identifierTag : UInt8 := 0x06

/-- The tag of sequences. -/
def sequenceTag : UInt8 := 0x30

/-- The tag of an element that is marked by a number. -/
def markedTag (n : UInt8) : UInt8 := 0xA0 + n

/-- The number of some bytes, the highest first. -/
def number (bytes : Bytes) : Nat := bytes.foldl (fun n b => 256 * n + b.toNat) 0

/-- A length and what follows it. Lengths below 128 are one byte; others are written
in as few bytes as they need, at most four, after a byte that counts them. -/
def length? (bytes : Bytes) : Option (Nat × Bytes) :=
  match bytes with
  | [] => none
  | b :: rest =>
    if b < 0x80 then some (b.toNat, rest)
    else
      let count := b.toNat - 0x80
      let digits := rest.take count
      let n := number digits
      if 1 ≤ count ∧ count ≤ 4 ∧ digits.length = count ∧ 128 ≤ n ∧ 1 <<< (8 * (count - 1)) ≤ n then
        some (n, rest.drop count)
      else none

/-- The first element and what follows it. Tags of more than one byte are not read. -/
def element? (bytes : Bytes) : Option (Element × Bytes) :=
  match bytes with
  | [] => none
  | tag :: rest =>
    if tag &&& 0x1F = 0x1F then none
    else
      match length? rest with
      | some (n, rest) =>
        if n ≤ rest.length then some (⟨tag, rest.take n⟩, rest.drop n) else none
      | none => none

/-- The elements that a content is made of, at most as many as `fuel` says. -/
def elementsWithin : Nat → Bytes → Option (List Element)
  | _, [] => some []
  | 0, _ :: _ => none
  | fuel + 1, bytes =>
    match element? bytes with
    | some (e, rest) => (elementsWithin fuel rest).map (e :: ·)
    | none => none

/-- The elements that a content is made of. -/
def elements? (bytes : Bytes) : Option (List Element) := elementsWithin bytes.length bytes

/-- The elements of a sequence that stands alone. -/
def sequence? (bytes : Bytes) : Option (List Element) :=
  match element? bytes with
  | some (e, []) => if e.tag = sequenceTag then elements? e.content else none
  | _ => none

/-- The bytes of a length. -/
def writeLength (n : Nat) : Bytes :=
  if n < 128 then [UInt8.ofNat n]
  else if n < 256 then [0x81, UInt8.ofNat n]
  else [0x82, UInt8.ofNat (n / 256), UInt8.ofNat (n % 256)]

/-- The bytes of an element. -/
def Element.bytes (e : Element) : Bytes := e.tag :: (writeLength e.content.length ++ e.content)

/-- The content of a bit string of whole bytes. -/
def wholeBits? (e : Element) : Option Bytes :=
  match e.content with
  | 0 :: bits => if e.tag = bitStringTag then some bits else none
  | _ => none

end ReverseTunnel.Der
