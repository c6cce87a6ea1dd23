import ReverseTunnel.Text.Ascii

/-!
# Decimal numerals

An unsigned numeral is one optional plus sign and at least one ASCII digit;
leading zeros are allowed. `unsigned?` reads the numerals whose value stays
within a limit (`unsigned?_eq_some_iff`).
-/

namespace ReverseTunnel.Text

/-- The value of a row of decimal digits. -/
def digitsValue (cs : List Char) : Nat :=
  cs.foldl (fun n c => 10 * n + (c.toNat - '0'.toNat)) 0

/-- The digits of a numeral, without the plus sign that may stand before them. -/
def unsignedDigits (cs : List Char) : List Char :=
  match cs with
  | '+' :: digits => digits
  | digits => digits

/-- The value of an unsigned numeral, if it is at most `limit`. -/
def unsigned? (limit : Nat) (s : String) : Option Nat :=
  let digits := unsignedDigits s.toList
  if digits ≠ [] ∧ isDigits digits ∧ digitsValue digits ≤ limit then some (digitsValue digits)
  else none

theorem unsigned?_eq_some_iff {limit : Nat} {s : String} {n : Nat} :
    unsigned? limit s = some n ↔
      ∃ digits, digits = unsignedDigits s.toList ∧ digits ≠ [] ∧ isDigits digits = true ∧
        digitsValue digits = n ∧ n ≤ limit := by
  simp only [unsigned?]
  constructor
  · intro h
    split at h
    · next hc =>
      simp only [Option.some.injEq] at h
      exact ⟨_, rfl, hc.1, hc.2.1, h, h ▸ hc.2.2⟩
    · simp at h
  · rintro ⟨digits, rfl, h1, h2, h3, h4⟩
    rw [if_pos ⟨h1, h2, h3.symm ▸ h4⟩, h3]

end ReverseTunnel.Text
