/-!
# Bytes and UTF-8

Documents, header values and streams are lists of bytes. A list of bytes is the
UTF-8 form of at most one text, and `text?` finds it (`text?_eq_some_iff`).
-/

namespace ReverseTunnel

/-- A row of bytes. -/
abbrev Bytes := List UInt8

/-- The UTF-8 form of a text. -/
def utf8 (s : String) : Bytes := s.toUTF8.data.toList

/-- The text whose UTF-8 form this is. -/
def text? (bytes : Bytes) : Option String := String.fromUTF8? ⟨bytes.toArray⟩

/-- The text of bytes that are all ASCII. -/
def asciiText (bytes : Bytes) : String := String.ofList (bytes.map fun b => Char.ofNat b.toNat)

/-- The big-endian number of two bytes. -/
def be16 (high low : UInt8) : Nat := high.toNat * 256 + low.toNat

theorem text?_utf8 (s : String) : text? (utf8 s) = some s := by
  have h : (⟨(utf8 s).toArray⟩ : ByteArray) = s.toByteArray := by simp [utf8]
  rw [text?, h, String.fromUTF8?, dif_pos s.isValidUTF8]
  rfl

theorem text?_eq_some_iff {bytes : Bytes} {s : String} :
    text? bytes = some s ↔ bytes = utf8 s := by
  constructor
  · intro h
    simp only [text?, String.fromUTF8?] at h
    split at h
    · next hv =>
      simp only [Option.some.injEq] at h
      subst h
      show bytes = (String.fromUTF8 ⟨bytes.toArray⟩ hv).toByteArray.data.toList
      rfl
    · simp at h
  · rintro rfl
    exact text?_utf8 s

theorem utf8_injective {s t : String} (h : utf8 s = utf8 t) : s = t := by
  have hs := text?_utf8 s
  rw [h, text?_utf8] at hs
  exact (Option.some.inj hs).symm

theorem utf8_append (s t : String) : utf8 (s ++ t) = utf8 s ++ utf8 t := by
  simp [utf8]

end ReverseTunnel
