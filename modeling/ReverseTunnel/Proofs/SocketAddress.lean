import ReverseTunnel.Proofs.ControlMessage
import ReverseTunnel.SocketAddress

/-!
# How addresses are written

An IP address is written in digits, the letters of hexadecimal digits, dots and colons
(`bounds_of_isIp`). So there are no blanks in it, and these characters can be read from a field
value, as can a resolved address as a whole (`isReadable_text`).
-/

namespace ReverseTunnel.SocketAddress

/-- A digit lies between the dot and the colon. -/
theorem bounds_of_isDigit {c : Char} (h : c.isDigit = true) : 46 ≤ c.toNat ∧ c.toNat ≤ 102 := by
  obtain ⟨hlow, hhigh⟩ := Char.isDigit_iff_toNat.1 h
  exact ⟨Nat.le_trans (by decide) hlow, Nat.le_trans hhigh (by decide)⟩

/-- The characters of an IPv4 address lie between the dot and the letter f. -/
theorem bounds_of_isV4 {host : String} (h : isV4 host = true) :
    ∀ c ∈ host.toList, 46 ≤ c.toNat ∧ c.toNat ≤ 102 := by
  simp only [isV4, Bool.and_eq_true, List.all_eq_true] at h
  intro c hc
  rcases Text.mem_pieces '.' hc with rfl | ⟨octet, hmem, hc⟩
  · decide
  · have hoctet := h.2 octet hmem
    simp only [isOctet, Bool.and_eq_true, Text.isDigits, List.all_eq_true] at hoctet
    exact bounds_of_isDigit (hoctet.1.1.1.2 c hc)

/-- So do those of an IPv6 address. -/
theorem bounds_of_isV6 {host : String} (h : isV6 host = true) :
    ∀ c ∈ host.toList, 46 ≤ c.toNat ∧ c.toNat ≤ 102 := by
  simp only [isV6, Bool.and_eq_true, List.all_eq_true, Bool.or_eq_true, beq_iff_eq] at h
  intro c hc
  rcases h.2 c hc with ((rfl | rfl) | hdigit) | hletter
  · decide
  · decide
  · exact bounds_of_isDigit hdigit
  · have hletters : ("abcdefABCDEF".toList.all fun c =>
        decide (46 ≤ c.toNat ∧ c.toNat ≤ 102)) = true := by decide
    exact of_decide_eq_true (List.all_eq_true.1 hletters c (List.contains_iff_mem.1 hletter))

/-- The text is an IP address. -/
def IsIp (host : String) : Prop := isV4 host = true ∨ isV6 host = true

instance (host : String) : Decidable (IsIp host) := inferInstanceAs (Decidable (_ ∨ _))

theorem bounds_of_isIp {host : String} (h : IsIp host) :
    ∀ c ∈ host.toList, 46 ≤ c.toNat ∧ c.toNat ≤ 102 := by
  rcases h with hv4 | hv6
  · exact bounds_of_isV4 hv4
  · exact bounds_of_isV6 hv6

/-- The characters of an IP address are no blanks. -/
theorem isBlank_eq_false {c : Char} (h : 46 ≤ c.toNat ∧ c.toNat ≤ 102) :
    Text.isBlank c = false := by
  simp only [Text.isBlank, Bool.or_eq_false_iff, Bool.and_eq_false_iff, decide_eq_false_iff_not,
    beq_eq_false_iff_ne]
  omega

theorem isReadable_of_bounds {s : String} (h : ∀ c ∈ s.toList, 46 ≤ c.toNat ∧ c.toNat ≤ 102) :
    IsReadable s := by
  rw [isReadable_iff]
  intro c hc
  obtain ⟨hlow, hhigh⟩ := h c hc
  exact .inl ⟨Nat.le_trans (by decide) hlow, Nat.lt_of_le_of_lt hhigh (by decide)⟩

theorem isReadable_toString (n : Nat) : IsReadable (toString n) := by
  apply isReadable_of_bounds
  intro c hc
  apply bounds_of_isDigit
  exact Nat.isDigit_of_mem_toDigits (b := 10) (by decide) (by decide) (Nat.toList_repr ▸ hc)

/-- A resolved address is written in characters that can be read. -/
theorem isReadable_text {address : String} {a : SocketAddress} (h : resolve address = .ok a) :
    IsReadable a.text := by
  have hhost : IsReadable a.host := by
    simp only [resolve] at h
    repeat' split at h
    all_goals cases h
    · exact isReadable_of_bounds (bounds_of_isV4 ‹_›)
    · change IsReadable "127.0.0.1"
      decide
    · exact isReadable_of_bounds (bounds_of_isV6 ‹_›)
    · next hinner =>
      rw [Bool.and_eq_true] at hinner
      exact isReadable_of_bounds (bounds_of_isV6 hinner.2)
  have hport := isReadable_toString a.port.toNat
  rw [text]
  split
  · apply isReadable_append _ hport
    exact isReadable_append hhost (by decide)
  · apply isReadable_append _ hport
    apply isReadable_append _ (by decide)
    exact isReadable_append (by decide) hhost

end ReverseTunnel.SocketAddress
