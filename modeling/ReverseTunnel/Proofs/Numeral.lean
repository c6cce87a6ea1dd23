import Mathlib.Data.List.Induction
import Mathlib.Data.Nat.Digits.Defs
import ReverseTunnel.Text.Numeral

/-!
# Decimal numerals as rows of digits

A numeral is described by its digits, which are numbers below ten, and by the sign before them
(`IsNumeral`). Its value is the one that the digits have in base ten, the last of them being the
least significant. The reader adds up characters from the front (`digitsValue_map_digitChar`),
and it accepts the numerals whose value stays within its limit, and no other text
(`unsigned?_eq_some_iff_isNumeral`).
-/

namespace ReverseTunnel.Text

/-- The character of a digit. -/
def digitChar (d : Fin 10) : Char := Nat.digitChar d

/-- The text is a decimal numeral of `n`: at least one digit, the first ones possibly zeros, after
at most one plus sign. -/
def IsNumeral (s : String) (n : Nat) : Prop :=
  ∃ (sign : List Char) (digits : List (Fin 10)), (sign = [] ∨ sign = ['+']) ∧ digits ≠ [] ∧
    s.toList = sign ++ digits.map digitChar ∧ Nat.ofDigits 10 (digits.reverse.map Fin.val) = n

theorem isDigit_digitChar (d : Fin 10) : (digitChar d).isDigit = true := by
  revert d
  decide

theorem toNat_digitChar (d : Fin 10) : (digitChar d).toNat - '0'.toNat = d := by
  revert d
  decide

theorem exists_digitChar {c : Char} (h : c.isDigit = true) : ∃ d, digitChar d = c := by
  obtain ⟨hlow, hhigh⟩ := Char.isDigit_iff_toNat.1 h
  have hall : ∀ n < 58, 48 ≤ n → ∃ d, digitChar d = Char.ofNat n := by decide
  obtain ⟨d, hd⟩ := hall c.toNat (Nat.lt_succ_of_le hhigh) hlow
  exact ⟨d, hd.trans (Char.ofNat_toNat c)⟩

/-- A row of characters is a row of digits if each of them is a digit. -/
theorem isDigits_iff_exists {cs : List Char} :
    isDigits cs = true ↔ ∃ digits : List (Fin 10), cs = digits.map digitChar := by
  constructor
  · intro h
    induction cs with
    | nil => exact ⟨[], rfl⟩
    | cons c rest ih =>
      obtain ⟨hc, hrest⟩ := Bool.and_eq_true_iff.1 h
      obtain ⟨d, rfl⟩ := exists_digitChar hc
      obtain ⟨digits, rfl⟩ := ih hrest
      exact ⟨d :: digits, rfl⟩
  · rintro ⟨digits, rfl⟩
    rw [isDigits, List.all_map, List.all_eq_true]
    exact fun d _ => isDigit_digitChar d

/-- Adding up from the front gives the value in base ten. -/
theorem digitsValue_map_digitChar (digits : List (Fin 10)) :
    digitsValue (digits.map digitChar) = Nat.ofDigits 10 (digits.reverse.map Fin.val) := by
  induction digits using List.reverseRecOn with
  | nil => rfl
  | append_singleton digits d ih =>
    rw [digitsValue] at ih ⊢
    rw [List.map_append, List.foldl_append, ih, List.reverse_append, List.map_append]
    change 10 * _ + ((digitChar d).toNat - '0'.toNat) = _
    rw [toNat_digitChar, List.reverse_singleton, List.map_singleton, List.singleton_append,
      Nat.ofDigits_cons, Nat.add_comm]

/-- The sign is no digit, so it is what stands before the digits. -/
theorem unsignedDigits_append {sign : List Char} (hsign : sign = [] ∨ sign = ['+'])
    (digits : List (Fin 10)) :
    unsignedDigits (sign ++ digits.map digitChar) = digits.map digitChar := by
  rcases hsign with rfl | rfl
  · cases digits with
    | nil => rfl
    | cons d rest =>
      have hplus : digitChar d ≠ '+' := by
        intro heq
        have hdigit := isDigit_digitChar d
        rw [heq] at hdigit
        exact absurd hdigit (by decide)
      rw [List.nil_append, List.map_cons, unsignedDigits]
      exact fun tail htail => hplus (List.cons.inj htail).1
  · rfl

theorem exists_sign (cs : List Char) :
    ∃ sign, (sign = [] ∨ sign = ['+']) ∧ cs = sign ++ unsignedDigits cs := by
  unfold unsignedDigits
  split
  · exact ⟨['+'], Or.inr rfl, rfl⟩
  · exact ⟨[], Or.inl rfl, rfl⟩

/-- A text is read exactly if it is a numeral whose value is within the limit. -/
theorem unsigned?_eq_some_iff_isNumeral {limit : Nat} {s : String} {n : Nat} :
    unsigned? limit s = some n ↔ IsNumeral s n ∧ n ≤ limit := by
  rw [unsigned?_eq_some_iff]
  constructor
  · rintro ⟨cs, rfl, hne, hdigits, hvalue, hle⟩
    obtain ⟨sign, hsign, hs⟩ := exists_sign s.toList
    obtain ⟨digits, hcs⟩ := isDigits_iff_exists.1 hdigits
    rw [hcs] at hne hvalue hs
    refine ⟨⟨sign, digits, hsign, ?_, hs, ?_⟩, hle⟩
    · rintro rfl
      exact hne rfl
    · rw [← digitsValue_map_digitChar, hvalue]
  · rintro ⟨⟨sign, digits, hsign, hne, hs, hvalue⟩, hle⟩
    refine ⟨digits.map digitChar, ?_, ?_, isDigits_iff_exists.2 ⟨digits, rfl⟩, ?_, hle⟩
    · rw [hs, unsignedDigits_append hsign]
    · exact fun hnil => hne (List.map_eq_nil_iff.1 hnil)
    · rw [digitsValue_map_digitChar, hvalue]

end ReverseTunnel.Text
