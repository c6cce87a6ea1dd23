import ReverseTunnel.Bytes

/-!
# Reading bytes as text at any price

Bytes from the other side that are no UTF-8 are shown as far as they can be: every
longest run of bytes that opens a sequence without completing it becomes one
replacement character.
-/

namespace ReverseTunnel

/-- How a sequence of more than one byte goes on after its first byte: the range
of the second byte and the number of bytes that follow. -/
structure SequenceOpening where
  low : UInt8
  high : UInt8
  following : Nat
  /-- The bits that the first byte adds. -/
  bits : Nat

/-- The opening that a first byte makes. -/
def sequenceOpening? (b : UInt8) : Option SequenceOpening :=
  if 0xC2 ≤ b && b ≤ 0xDF then some ⟨0x80, 0xBF, 1, b.toNat - 0xC0⟩
  else if b == 0xE0 then some ⟨0xA0, 0xBF, 2, 0⟩
  else if b == 0xED then some ⟨0x80, 0x9F, 2, 0xD⟩
  else if 0xE1 ≤ b && b ≤ 0xEF then some ⟨0x80, 0xBF, 2, b.toNat - 0xE0⟩
  else if b == 0xF0 then some ⟨0x90, 0xBF, 3, 0⟩
  else if b == 0xF4 then some ⟨0x80, 0x8F, 3, 4⟩
  else if 0xF1 ≤ b && b ≤ 0xF3 then some ⟨0x80, 0xBF, 3, b.toNat - 0xF0⟩
  else none

/-- The bytes that go on with an opened sequence. -/
def continuation (o : SequenceOpening) (bytes : Bytes) : Bytes :=
  match bytes with
  | [] => []
  | b :: rest =>
    if o.low ≤ b && b ≤ o.high then
      b :: (rest.take (o.following - 1)).takeWhile fun c => 0x80 ≤ c && c ≤ 0xBF
    else []

/-- The code point of a complete sequence. -/
def sequenceValue (o : SequenceOpening) (bytes : Bytes) : Nat :=
  bytes.foldl (fun n b => n * 64 + (b.toNat - 0x80)) o.bits

/-- The characters of bytes, with replacements for what is no UTF-8. -/
def lossyChars : Bytes → List Char
  | [] => []
  | b :: rest =>
    if b < 0x80 then Char.ofNat b.toNat :: lossyChars rest
    else
      match sequenceOpening? b with
      | none => '\uFFFD' :: lossyChars rest
      | some o =>
        let found := continuation o rest
        (if found.length = o.following then Char.ofNat (sequenceValue o found) else '\uFFFD') ::
          lossyChars (rest.drop found.length)
termination_by bytes => bytes.length
decreasing_by
  all_goals simp only [List.length_drop, List.length_cons]; omega

/-- The text of bytes, with replacements for what is no UTF-8. -/
def lossyText (bytes : Bytes) : String := String.ofList (lossyChars bytes)

end ReverseTunnel
