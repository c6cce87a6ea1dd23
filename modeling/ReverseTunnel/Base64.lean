import ReverseTunnel.Bytes

/-!
# Base64

Four characters of the alphabet stand for three bytes; at the end one or two padding
characters take the place of missing ones. Blanks between the characters count for
nothing.
-/

namespace ReverseTunnel.Base64

/-- Why some bytes are no Base64. -/
inductive Fault where
  | invalidCharacter (byte : UInt8)
  /-- Something follows the padding. -/
  | prematurePadding
  | invalidTrailingPadding
  deriving DecidableEq

/-- The wording of a fault. -/
def Fault.message : Fault → String
  | .invalidCharacter byte => "InvalidCharacter(" ++ toString byte.toNat ++ ")"
  | .prematurePadding => "PrematurePadding"
  | .invalidTrailingPadding => "InvalidTrailingPadding"

/-- A blank: a space, a tab or a control character that ends lines or pages. -/
def isBlank (b : UInt8) : Bool := b == 32 || (9 ≤ b && b ≤ 13)

/-- The padding character. -/
def pad : UInt8 := 61

/-- The six bits that a character of the alphabet stands for. -/
def sextet? (b : UInt8) : Option Nat :=
  if 65 ≤ b ∧ b ≤ 90 then some (b.toNat - 65)
  else if 97 ≤ b ∧ b ≤ 122 then some (b.toNat - 97 + 26)
  else if 48 ≤ b ∧ b ≤ 57 then some (b.toNat - 48 + 52)
  else if b = 43 then some 62
  else if b = 47 then some 63
  else none

/-- The six bits of a character, or the fault that it is none of the alphabet. -/
def sextet (b : UInt8) : Except Fault Nat :=
  match sextet? b with
  | some n => .ok n
  | none => .error (.invalidCharacter b)

/-- The three bytes of 24 bits. -/
def threeBytes (n : Nat) : Bytes :=
  [UInt8.ofNat (n / 65536), UInt8.ofNat (n / 256 % 256), UInt8.ofNat (n % 256)]

/-- The bytes that groups of six bits form; none if one group is left over. -/
def joinSextets : List Nat → Option Bytes
  | [] => some []
  | [_] => none
  | [a, b] => some ((threeBytes (a * 262144 + b * 4096)).take 1)
  | [a, b, c] => some ((threeBytes (a * 262144 + b * 4096 + c * 64)).take 2)
  | a :: b :: c :: d :: rest =>
    (joinSextets rest).map (threeBytes (a * 262144 + b * 4096 + c * 64 + d) ++ ·)

/-- The bytes that a text stands for. -/
def decode (text : Bytes) : Except Fault Bytes := do
  let symbols := text.filter fun b => !isBlank b
  let body := symbols.takeWhile (· != pad)
  let padding := symbols.dropWhile (· != pad)
  let sextets ← body.mapM sextet
  if !padding.all (· == pad) then throw .prematurePadding
  if symbols.length % 4 ≠ 0 ∨ padding.length > 2 then throw .invalidTrailingPadding
  match joinSextets sextets with
  | some bytes => return bytes
  | none => throw .invalidTrailingPadding

end ReverseTunnel.Base64
