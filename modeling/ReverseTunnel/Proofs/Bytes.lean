import ReverseTunnel.Bytes

/-!
# Characters as bytes

The UTF-8 form of a text is that of its characters, one after the other (`utf8_ofList`). A
character is one byte, its number, exactly if it is ASCII; the bytes of every other character
are beyond ASCII. So a text whose bytes are all ASCII is the text that is read from them
byte by byte (`asciiText_utf8`).
-/

namespace ReverseTunnel

theorem utf8_ofList (cs : List Char) :
    utf8 (String.ofList cs) = cs.flatMap String.utf8EncodeChar := by
  simp [utf8, List.utf8Encode]

theorem utf8_eq_flatMap (s : String) : utf8 s = s.toList.flatMap String.utf8EncodeChar := by
  rw [← utf8_ofList, String.ofList_toList]

theorem utf8EncodeChar_of_le {c : Char} (hc : c.toNat ≤ 0x7F) :
    String.utf8EncodeChar c = [UInt8.ofNat c.toNat] := by
  simp [String.utf8EncodeChar, hc]

/-- The bytes of a character beyond ASCII are beyond ASCII. -/
theorem le_of_mem_utf8EncodeChar {c : Char} (hc : 0x7F < c.toNat) {b : UInt8}
    (hb : b ∈ String.utf8EncodeChar c) : 0x80 ≤ b.toNat := by
  simp only [String.utf8EncodeChar, Char.toNat_val, if_neg (Nat.not_le.2 hc)] at hb
  split at hb
  · simp only [List.mem_cons, List.not_mem_nil, or_false] at hb
    rcases hb with rfl | rfl <;> simp <;> omega
  · split at hb
    · simp only [List.mem_cons, List.not_mem_nil, or_false] at hb
      rcases hb with rfl | rfl | rfl <;> simp <;> omega
    · simp only [List.mem_cons, List.not_mem_nil, or_false] at hb
      rcases hb with rfl | rfl | rfl | rfl <;> simp <;> omega

/-- An ASCII byte is the UTF-8 form of the character with its number. -/
theorem utf8EncodeChar_ofNat {b : UInt8} (hb : b.toNat < 0x80) :
    String.utf8EncodeChar (Char.ofNat b.toNat) = [b] := by
  have hnumber : (Char.ofNat b.toNat).toNat = b.toNat := by
    rw [Char.ofNat, dif_pos (Or.inl (by omega))]
    rfl
  rw [utf8EncodeChar_of_le (by omega), hnumber, UInt8.ofNat_toNat]

/-- The text that is read from ASCII bytes has these bytes. -/
theorem utf8_asciiText {bytes : Bytes} (h : ∀ b ∈ bytes, b.toNat < 0x80) :
    utf8 (asciiText bytes) = bytes := by
  rw [asciiText, utf8_ofList]
  induction bytes with
  | nil => rfl
  | cons b rest ih =>
    rw [List.map_cons, List.flatMap_cons, utf8EncodeChar_ofNat (h b List.mem_cons_self),
      ih fun b hb => h b (List.mem_cons_of_mem _ hb), List.singleton_append]

/-- A text with ASCII bytes is what is read from them byte by byte. -/
theorem asciiText_utf8 {s : String} (h : ∀ b ∈ utf8 s, b.toNat < 0x80) :
    asciiText (utf8 s) = s := by
  apply utf8_injective
  exact utf8_asciiText h

end ReverseTunnel
