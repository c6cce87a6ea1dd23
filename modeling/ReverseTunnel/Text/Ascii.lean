/-!
# ASCII letters and digits

Host names, protocol names, header names and tokens compare by their ASCII
lower-case form; characters outside ASCII stay as they are. Lower-casing twice
changes nothing more (`lower_lower`).
-/

namespace ReverseTunnel.Text

/-- The text with the ASCII capitals replaced by small letters. -/
def lower (s : String) : String := String.ofList (s.toList.map Char.toLower)

/-- Equality up to ASCII case. -/
def sameIgnoringCase (s t : String) : Bool := lower s == lower t

/-- Every character is an ASCII digit; the empty text qualifies. -/
def isDigits (cs : List Char) : Bool := cs.all Char.isDigit

/-- The first character is `c`. -/
def startsWith (c : Char) (s : String) : Bool := s.toList.head? == some c

@[simp]
theorem toList_lower (s : String) : (lower s).toList = s.toList.map Char.toLower := by
  simp [lower]

theorem toLower_toLower (c : Char) : c.toLower.toLower = c.toLower := by
  delta Char.toLower
  split
  · next h =>
    have h1 := h.1
    have h2 := h.2
    simp only [ge_iff_le, UInt32.le_iff_toNat_le] at h1 h2
    have ha : ('a'.val - 'A'.val).toNat = 32 := rfl
    have hA : ('A'.val).toNat = 65 := rfl
    have hZ : ('Z'.val).toNat = 90 := rfl
    rw [dif_neg]
    rintro ⟨-, h3⟩
    simp only [UInt32.le_iff_toNat_le, UInt32.toNat_add] at h3
    omega
  · rfl

theorem lower_lower (s : String) : lower (lower s) = lower s := by
  have h : Char.toLower ∘ Char.toLower = Char.toLower := funext toLower_toLower
  simp [lower, h]

end ReverseTunnel.Text
