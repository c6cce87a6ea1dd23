import Mathlib.Algebra.Order.Field.Power
import Mathlib.Algebra.Order.Field.Rat
import Mathlib.Tactic.FieldSimp
import Mathlib.Tactic.Linarith
import Mathlib.Tactic.Positivity
import Mathlib.Tactic.Ring
import ReverseTunnel.Binary64

/-!
# Rounding to 53 binary digits

A rational number lies in one of the intervals on which the numbers of the format are the
multiples of one power of two (`IsExponent`), and it is rounded to the nearest of these
(`Rounds`). `nearest`, `add` and `mul` round the exact quotient, sum and product.

What follows about rounding is what follows from the relation alone. It is monotone
(`Rounds.mono`), a number of the format is its own rounding (`Rounds.eq_of_isFormat`), and no more
is lost than half the distance of the numbers of the format (`Rounds.sub_le`). Beyond `2 ^ 53` all
numbers of the format are even, so that a proper fraction is lost in a sum
(`Rounds.eq_of_add_lt_one`).
-/

namespace ReverseTunnel

/-! ## The nearest whole number -/

/-- No whole number is nearer to `x` than `n` is, and of two nearest ones `n` is the even one. -/
structure IsNearestEven (x : ℚ) (n : ℕ) : Prop where
  sub_half_le : x - 1 / 2 ≤ n
  le_add_half : n ≤ x + 1 / 2
  even_of_tie : x - 1 / 2 = n ∨ n = x + 1 / 2 → Even n

namespace IsNearestEven

variable {x y : ℚ} {m n k : ℕ}

theorem mono (hx : IsNearestEven x n) (hy : IsNearestEven y m) (h : x ≤ y) : n ≤ m := by
  by_contra hlt
  have hsucc : m + 1 ≤ n := Nat.succ_le_of_lt (Nat.lt_of_not_le hlt)
  have hcast : (m : ℚ) + 1 ≤ n := by exact_mod_cast hsucc
  have hn := hx.le_add_half
  have hm := hy.sub_half_le
  -- Both numbers are then half away from one and the same point, and only one of them is even.
  have heq : n = m + 1 := by
    have : (n : ℚ) = m + 1 := by linarith
    exact_mod_cast this
  have hn' : Even n := hx.even_of_tie (Or.inr (by linarith))
  have hm' : Even m := hy.even_of_tie (Or.inl (by linarith))
  rw [heq, Nat.even_add_one] at hn'
  exact hn' hm'

theorem unique (hn : IsNearestEven x n) (hm : IsNearestEven x m) : n = m :=
  Nat.le_antisymm (hn.mono hm le_rfl) (hm.mono hn le_rfl)

theorem le_of_lt (hx : IsNearestEven x n) (h : x < k + 1 / 2) : n ≤ k := by
  have hlt : (n : ℚ) < k + 1 := by linarith [hx.le_add_half]
  exact Nat.lt_succ_iff.1 (by exact_mod_cast hlt)

theorem le_of_gt (hx : IsNearestEven x n) (h : (k : ℚ) - 1 / 2 < x) : k ≤ n := by
  have hlt : (k : ℚ) < n + 1 := by linarith [hx.sub_half_le]
  exact Nat.lt_succ_iff.1 (by exact_mod_cast hlt)

/-- The middle below an even number belongs to it. -/
theorem le_of_even (hx : IsNearestEven x n) (hk : Even k) (h : (k : ℚ) - 1 / 2 ≤ x) : k ≤ n := by
  by_contra hlt
  have hcast : (n : ℚ) + 1 ≤ k := by exact_mod_cast Nat.succ_le_of_lt (Nat.lt_of_not_le hlt)
  have hn := hx.sub_half_le
  have heq : n + 1 = k := by
    have : (n : ℚ) + 1 = k := by linarith
    exact_mod_cast this
  have heven : Even n := hx.even_of_tie (Or.inl (by linarith))
  rw [← heq, Nat.even_add_one] at hk
  exact hk heven

theorem eq_of_natCast (hk : IsNearestEven k n) : n = k :=
  Nat.le_antisymm (hk.le_of_lt (by linarith)) (hk.le_of_gt (by linarith))

end IsNearestEven

namespace Dyadic

theorem natCast_num_div_den {x : ℚ} (hx : 0 ≤ x) : (x.num.toNat : ℚ) / x.den = x := by
  have hnum : (x.num.toNat : ℚ) = x.num := by
    exact_mod_cast Int.toNat_of_nonneg (Rat.num_nonneg.2 hx)
  rw [hnum, Rat.num_div_den]

theorem isNearestEven_roundHalfEven (num : ℕ) {den : ℕ} (hden : 0 < den) :
    IsNearestEven (num / den) (roundHalfEven num den) := by
  have hpos : (0 : ℚ) < den := by exact_mod_cast hden
  have hnum : (num : ℚ) / den = (num / den : ℕ) + (num % den : ℕ) / (den : ℚ) := by
    rw [div_eq_iff hpos.ne', add_mul, div_mul_cancel₀ _ hpos.ne']
    exact_mod_cast (Nat.div_add_mod' num den).symm
  have hrest : (0 : ℚ) ≤ (num % den : ℕ) / (den : ℚ) := by positivity
  have hone : (num % den : ℕ) / (den : ℚ) < 1 := by
    rw [div_lt_one hpos]
    exact_mod_cast Nat.mod_lt num hden
  have hdown : 2 * (num % den) < den ↔ (num % den : ℕ) / (den : ℚ) < 1 / 2 := by
    rw [div_lt_div_iff₀ hpos two_pos, one_mul, mul_comm]
    exact_mod_cast Iff.rfl
  have htie : 2 * (num % den) = den ↔ (num % den : ℕ) / (den : ℚ) = 1 / 2 := by
    rw [div_eq_div_iff hpos.ne' two_ne_zero, one_mul, mul_comm]
    exact_mod_cast Iff.rfl
  rw [hnum]
  unfold roundHalfEven
  dsimp only
  split
  · next h =>
    have hlt := hdown.1 h
    exact ⟨by linarith, by linarith, fun h => by rcases h with h | h <;> linarith⟩
  · next h =>
    have hle := mt hdown.2 h
    split
    · next h =>
      have heq := htie.1 h.1
      exact ⟨by linarith, by linarith, fun _ => Nat.even_iff.2 h.2⟩
    · next h' =>
      refine ⟨by push_cast; linarith, by push_cast; linarith, ?_⟩
      intro hhalf
      have heq : 2 * (num % den) = den := by
        rw [htie]
        push_cast at hhalf
        rcases hhalf with hhalf | hhalf <;> linarith
      rw [Nat.even_add_one, Nat.even_iff]
      exact fun heven => h' ⟨heq, heven⟩

theorem exists_isNearestEven {x : ℚ} (hx : 0 ≤ x) : ∃ n, IsNearestEven x n := by
  have hround := isNearestEven_roundHalfEven x.num.toNat x.pos
  rw [natCast_num_div_den hx] at hround
  exact ⟨_, hround⟩

/-! ## Numbers of the format -/

/-- The magnitude as a rational number. -/
def value (d : Dyadic) : ℚ := d.significand * 2 ^ d.exponent

theorem value_mk (m : ℕ) (e : ℤ) : value ⟨m, e⟩ = m * 2 ^ e := rfl

theorem value_nonneg (d : Dyadic) : 0 ≤ d.value := by
  unfold value
  positivity

theorem zpow_toNat {e : ℤ} (he : 0 ≤ e) : (2 : ℚ) ^ e.toNat = 2 ^ e := by
  rw [← zpow_natCast, Int.toNat_of_nonneg he]

theorem two_zpow_le {a b : ℤ} (h : a ≤ b) : (2 : ℚ) ^ a ≤ 2 ^ b :=
  zpow_le_zpow_right₀ one_le_two h

theorem ratio_snd_pos (d : Dyadic) : 0 < d.ratio.2 := by
  unfold ratio
  split
  · exact Nat.one_pos
  · rw [Nat.shiftLeft_eq]
    positivity

theorem value_eq_ratio (d : Dyadic) : d.value = d.ratio.1 / d.ratio.2 := by
  unfold value ratio
  split
  · next he =>
    rw [Nat.shiftLeft_eq]
    push_cast
    rw [zpow_toNat he, div_one]
  · next he =>
    rw [Nat.shiftLeft_eq]
    push_cast
    rw [zpow_toNat (by omega), zpow_neg, one_mul, div_inv_eq_mul]

theorem le_iff (a b : Dyadic) : Dyadic.le a b = true ↔ a.value ≤ b.value := by
  have ha : (0 : ℚ) < a.ratio.2 := by exact_mod_cast a.ratio_snd_pos
  have hb : (0 : ℚ) < b.ratio.2 := by exact_mod_cast b.ratio_snd_pos
  rw [Dyadic.le, decide_eq_true_eq, value_eq_ratio, value_eq_ratio, div_le_div_iff₀ ha hb]
  exact_mod_cast Iff.rfl

/-- The numbers that the format has, without an upper end of the exponents. -/
def IsFormat (q : ℚ) : Prop :=
  ∃ (m : ℕ) (k : ℤ), m ≤ 2 ^ 53 ∧ minExponent ≤ k ∧ q = m * 2 ^ k

theorem isFormat_natCast {n : ℕ} (hn : n ≤ 2 ^ 53) : IsFormat n :=
  ⟨n, 0, hn, by decide, by rw [zpow_zero, mul_one]⟩

/-- The numbers of the format from `2 ^ 53` on are whole. -/
theorem IsFormat.exists_natCast {q : ℚ} (hq : IsFormat q) (hlarge : 2 ^ 53 ≤ q) :
    ∃ n : ℕ, q = n := by
  obtain ⟨m, k, hm, hk, rfl⟩ := hq
  have hk0 : 0 ≤ k := by
    by_contra hneg
    have hm' : (m : ℚ) ≤ 2 ^ 53 := by exact_mod_cast hm
    have hpow : (2 : ℚ) ^ k ≤ 1 / 2 := by
      calc (2 : ℚ) ^ k ≤ 2 ^ (-1 : ℤ) := two_zpow_le (by omega)
        _ = 1 / 2 := by norm_num
    have hsmall : (m : ℚ) * 2 ^ k ≤ 2 ^ 53 * (1 / 2) := by gcongr
    linarith
  refine ⟨m * 2 ^ k.toNat, ?_⟩
  push_cast
  rw [zpow_toNat hk0]

/-! ## The exponent of a number -/

/-- The numbers of the format around `q` are the multiples of `2 ^ e`. -/
structure IsExponent (q : ℚ) (e : ℤ) : Prop where
  min_le : minExponent ≤ e
  lt_pow : q < 2 ^ (e + 53)
  fits : e = minExponent ∨ (2 : ℚ) ^ (e + 52) ≤ q

theorem IsExponent.le_of_lt {q : ℚ} {e k : ℤ} (he : IsExponent q e) (hk : minExponent ≤ k)
    (hq : q < 2 ^ (k + 53)) : e ≤ k := by
  rcases he.fits with rfl | hfits
  · exact hk
  · by_contra hlt
    have hpow := two_zpow_le (show k + 53 ≤ e + 52 by omega)
    linarith

theorem IsExponent.mono {q r : ℚ} {e f : ℤ} (hq : IsExponent q e) (hr : IsExponent r f)
    (h : q ≤ r) : e ≤ f :=
  hq.le_of_lt hr.min_le (h.trans_lt hr.lt_pow)

/-- A number of the format is a multiple of the distance around it. -/
theorem IsExponent.exists_eq {q : ℚ} {e : ℤ} (he : IsExponent q e) (hq : IsFormat q) :
    ∃ m : ℕ, q = m * 2 ^ e := by
  obtain ⟨m, k, hm, hk, rfl⟩ := hq
  rcases le_or_gt e k with hek | hke
  · refine ⟨m * 2 ^ (k - e).toNat, ?_⟩
    push_cast
    rw [zpow_toNat (by omega), mul_assoc, ← zpow_add₀ two_ne_zero, Int.sub_add_cancel]
  · -- The number reaches the lower end of its interval and does not go beyond it.
    have hlower : (2 : ℚ) ^ (e + 52) ≤ m * 2 ^ k := he.fits.resolve_left (by omega)
    have hm' : (m : ℚ) ≤ 2 ^ (53 : ℤ) := by exact_mod_cast hm
    have hupper : (m : ℚ) * 2 ^ k ≤ 2 ^ (e + 52) := calc
      (m : ℚ) * 2 ^ k ≤ 2 ^ (53 : ℤ) * 2 ^ k := by gcongr
      _ = 2 ^ (53 + k) := (zpow_add₀ two_ne_zero _ _).symm
      _ ≤ 2 ^ (e + 52) := two_zpow_le (by omega)
    refine ⟨2 ^ 52, ?_⟩
    rw [le_antisymm hupper hlower, add_comm, zpow_add₀ two_ne_zero]
    norm_cast

/-- A proper fraction does not lead out of an interval in which all numbers of the format are
whole. -/
theorem IsExponent.of_add_lt_one {f p : ℚ} {e : ℤ} (he : IsExponent (f + p) e) (hf : IsFormat f)
    (hlarge : 2 ^ 53 ≤ f) (hpos : 0 < e) (hp : 0 ≤ p) (hp' : p < 1) : IsExponent f e := by
  refine ⟨he.min_le, by linarith [he.lt_pow], Or.inr ?_⟩
  have hfits : (2 : ℚ) ^ (e + 52) ≤ f + p :=
    he.fits.resolve_left (fun hmin => absurd hpos (by rw [hmin]; decide))
  -- Both `f` and the lower end of the interval are whole, and `p` is not enough to pass it.
  obtain ⟨N, rfl⟩ := hf.exists_natCast hlarge
  rw [← zpow_toNat (by omega)] at hfits ⊢
  have hlt : ((2 ^ (e + 52).toNat : ℕ) : ℚ) < (N + 1 : ℕ) := by
    push_cast
    linarith
  exact_mod_cast Nat.lt_succ_iff.1 (by exact_mod_cast hlt)

theorem scaled_snd_pos (num : ℕ) {den : ℕ} (hden : 0 < den) (e : ℤ) :
    0 < (scaled num den e).2 := by
  unfold scaled
  split
  · rw [Nat.shiftLeft_eq]
    positivity
  · exact hden

theorem scaled_eq (num den : ℕ) (e : ℤ) :
    ((scaled num den e).1 : ℚ) / (scaled num den e).2 = num / den / 2 ^ e := by
  unfold scaled
  split
  · next he =>
    rw [Nat.shiftLeft_eq]
    push_cast
    rw [zpow_toNat he, div_div]
  · next he =>
    rw [Nat.shiftLeft_eq]
    push_cast
    rw [zpow_toNat (by omega), zpow_neg]
    ring

theorem scaled_lt_iff (num : ℕ) {den : ℕ} (hden : 0 < den) (e : ℤ) :
    (scaled num den e).1 < (scaled num den e).2 <<< 53 ↔ (num : ℚ) / den < 2 ^ (e + 53) := by
  have hpos : (0 : ℚ) < (scaled num den e).2 := by exact_mod_cast scaled_snd_pos num hden e
  rw [zpow_add₀ two_ne_zero, mul_comm, ← div_lt_iff₀ (by positivity), ← scaled_eq,
    div_lt_iff₀ hpos, Nat.shiftLeft_eq, mul_comm]
  exact_mod_cast Iff.rfl

/-- The lengths of two numbers bound their quotient from below. -/
theorem two_zpow_le_div {num den : ℕ} (hnum : num ≠ 0) (hden : 0 < den) :
    (2 : ℚ) ^ ((num.log2 : ℤ) - den.log2 - 1) ≤ num / den := by
  have hpos : (0 : ℚ) < den := by exact_mod_cast hden
  have hn : (2 : ℚ) ^ (num.log2 : ℤ) ≤ num := by exact_mod_cast Nat.log2_self_le hnum
  have hd : (den : ℚ) ≤ 2 ^ ((den.log2 : ℤ) + 1) := by exact_mod_cast Nat.lt_log2_self.le
  rw [le_div_iff₀ hpos]
  calc (2 : ℚ) ^ ((num.log2 : ℤ) - den.log2 - 1) * den
      ≤ 2 ^ ((num.log2 : ℤ) - den.log2 - 1) * 2 ^ ((den.log2 : ℤ) + 1) := by gcongr
    _ = 2 ^ (num.log2 : ℤ) := by
      rw [← zpow_add₀ two_ne_zero]
      congr 1
      ring
    _ ≤ num := hn

/-- The lengths of two numbers bound their quotient from above. -/
theorem div_lt_two_zpow (num : ℕ) {den : ℕ} (hden : 0 < den) :
    (num : ℚ) / den < 2 ^ ((num.log2 : ℤ) - den.log2 + 1) := by
  have hpos : (0 : ℚ) < den := by exact_mod_cast hden
  have hn : (num : ℚ) < 2 ^ ((num.log2 : ℤ) + 1) := by exact_mod_cast Nat.lt_log2_self
  have hd : (2 : ℚ) ^ (den.log2 : ℤ) ≤ den := by exact_mod_cast Nat.log2_self_le hden.ne'
  rw [div_lt_iff₀ hpos]
  calc (num : ℚ) < 2 ^ ((num.log2 : ℤ) + 1) := hn
    _ = 2 ^ ((num.log2 : ℤ) - den.log2 + 1) * 2 ^ (den.log2 : ℤ) := by
      rw [← zpow_add₀ two_ne_zero]
      congr 1
      ring
    _ ≤ 2 ^ ((num.log2 : ℤ) - den.log2 + 1) * den := by gcongr

theorem isExponent_exponentOf {num den : ℕ} (hnum : num ≠ 0) (hden : 0 < den) :
    IsExponent (num / den) (exponentOf num den) := by
  have hlower := two_zpow_le_div hnum hden
  have hupper := div_lt_two_zpow num hden
  have hmin := le_max_left minExponent ((num.log2 : ℤ) - den.log2 - 53)
  have hlow := le_max_right minExponent ((num.log2 : ℤ) - den.log2 - 53)
  unfold exponentOf
  dsimp only
  -- The lengths leave two exponents, and one comparison tells which it is.
  split
  · next h =>
    refine ⟨hmin, (scaled_lt_iff num hden _).1 h, ?_⟩
    rcases max_choice minExponent ((num.log2 : ℤ) - den.log2 - 53) with hmax | hmax
    · exact Or.inl hmax
    · refine Or.inr (le_trans (two_zpow_le ?_) hlower)
      omega
  · next h =>
    have hle := not_lt.1 (mt (scaled_lt_iff num hden _).2 h)
    refine ⟨hmin.trans (Int.le_add_one le_rfl), hupper.trans_le (two_zpow_le ?_), ?_⟩
    · omega
    · refine Or.inr (le_trans (two_zpow_le ?_) hle)
      omega

/-! ## Rounding -/

/-- `v` is the number of the format nearest to `q`, of two the one with the even significand. -/
def Rounds (q v : ℚ) : Prop :=
  ∃ (e : ℤ) (n : ℕ), IsExponent q e ∧ IsNearestEven (q / 2 ^ e) n ∧ v = n * 2 ^ e

theorem rounds_nearest (num : ℕ) {den : ℕ} (hden : 0 < den) :
    Rounds (num / den) (nearest num den).value := by
  unfold nearest
  split
  · next hzero =>
    subst hzero
    rw [Nat.cast_zero, zero_div]
    refine ⟨minExponent, 0, ⟨le_rfl, by positivity, Or.inl rfl⟩, ?_, value_mk _ _⟩
    rw [zero_div]
    exact ⟨by norm_num, by norm_num, fun _ => Even.zero⟩
  · next hnum =>
    have he := isExponent_exponentOf hnum hden
    have hn := isNearestEven_roundHalfEven (scaled num den (exponentOf num den)).1
      (scaled_snd_pos num hden (exponentOf num den))
    rw [scaled_eq] at hn
    refine ⟨_, _, he, hn, ?_⟩
    dsimp only
    split
    · next h =>
      -- The carry moves into the exponent.
      rw [value_mk, h, zpow_add₀ two_ne_zero]
      push_cast
      ring
    · exact value_mk _ _

theorem rounds_add (a b : Dyadic) : Rounds (a.value + b.value) (a.add b).value := by
  have ha : (0 : ℚ) < a.ratio.2 := by exact_mod_cast a.ratio_snd_pos
  have hb : (0 : ℚ) < b.ratio.2 := by exact_mod_cast b.ratio_snd_pos
  have hsum := rounds_nearest (a.ratio.1 * b.ratio.2 + b.ratio.1 * a.ratio.2)
    (Nat.mul_pos a.ratio_snd_pos b.ratio_snd_pos)
  have heq : a.value + b.value =
      ((a.ratio.1 * b.ratio.2 + b.ratio.1 * a.ratio.2 : ℕ) : ℚ) /
        (a.ratio.2 * b.ratio.2 : ℕ) := by
    rw [value_eq_ratio, value_eq_ratio, div_add_div _ _ ha.ne' hb.ne']
    push_cast
    ring
  rw [heq]
  exact hsum

theorem rounds_mul (a b : Dyadic) : Rounds (a.value * b.value) (a.mul b).value := by
  have hproduct := rounds_nearest (a.ratio.1 * b.ratio.1)
    (Nat.mul_pos a.ratio_snd_pos b.ratio_snd_pos)
  have heq : a.value * b.value =
      ((a.ratio.1 * b.ratio.1 : ℕ) : ℚ) / (a.ratio.2 * b.ratio.2 : ℕ) := by
    rw [value_eq_ratio, value_eq_ratio, div_mul_div_comm]
    push_cast
    rfl
  rw [heq]
  exact hproduct

theorem exists_rounds {q : ℚ} (hq : 0 ≤ q) : ∃ v, Rounds q v := by
  have hround := rounds_nearest q.num.toNat q.pos
  rw [natCast_num_div_den hq] at hround
  exact ⟨_, hround⟩

section Significand

variable {q : ℚ} {e : ℤ} {n : ℕ} (hn : IsNearestEven (q / 2 ^ e) n)
include hn

theorem significand_le (hq : q < 2 ^ (e + 53)) : n ≤ 2 ^ 53 := by
  refine hn.le_of_lt ?_
  have hlt : q / 2 ^ e < 2 ^ (53 : ℤ) := by
    rw [div_lt_iff₀ (by positivity), ← zpow_add₀ two_ne_zero, add_comm]
    exact hq
  calc q / 2 ^ e < ((2 ^ 53 : ℕ) : ℚ) := by exact_mod_cast hlt
    _ < ((2 ^ 53 : ℕ) : ℚ) + 1 / 2 := lt_add_of_pos_right _ (by norm_num)

theorem le_significand (hq : 2 ^ (e + 52) ≤ q) : 2 ^ 52 ≤ n := by
  refine hn.le_of_gt ?_
  have hle : (2 : ℚ) ^ (52 : ℤ) ≤ q / 2 ^ e := by
    rw [le_div_iff₀ (by positivity), ← zpow_add₀ two_ne_zero, add_comm]
    exact hq
  calc ((2 ^ 52 : ℕ) : ℚ) - 1 / 2 < ((2 ^ 52 : ℕ) : ℚ) := sub_lt_self _ (by norm_num)
    _ ≤ q / 2 ^ e := by exact_mod_cast hle

/-- The middle below `2 ^ 53` belongs to this power, since it is the even one of the two. -/
theorem significand_lt_iff : n < 2 ^ 53 ↔ q < (2 ^ 53 - 1 / 2) * 2 ^ e := by
  have hpos : (0 : ℚ) < 2 ^ e := by positivity
  constructor
  · intro hlt
    by_contra hq
    have hle : ((2 ^ 53 : ℕ) : ℚ) - 1 / 2 ≤ q / 2 ^ e := by
      rw [le_div_iff₀ hpos]
      exact_mod_cast not_lt.1 hq
    exact absurd (hn.le_of_even (by decide) hle) (Nat.not_le_of_lt hlt)
  · intro hq
    have hlt : q / 2 ^ e < ((2 ^ 53 - 1 : ℕ) : ℚ) + 1 / 2 := by
      rw [div_lt_iff₀ hpos]
      refine hq.trans_le (le_of_eq ?_)
      norm_num
    have hle : n ≤ 2 ^ 53 - 1 := hn.le_of_lt hlt
    omega

end Significand

namespace Rounds

variable {q r v w : ℚ}

/-- Rounding gives a number of the format. -/
theorem isFormat (h : Rounds q v) : IsFormat v := by
  obtain ⟨e, n, he, hn, rfl⟩ := h
  exact ⟨n, e, significand_le hn he.lt_pow, he.min_le, rfl⟩

/-- Rounding is monotone. -/
theorem mono (hq : Rounds q v) (hr : Rounds r w) (h : q ≤ r) : v ≤ w := by
  obtain ⟨e, n, he, hn, rfl⟩ := id hq
  obtain ⟨f, m, hf, hm, rfl⟩ := id hr
  rcases (he.mono hf h).eq_or_lt with rfl | hlt
  · -- On one interval the nearest multiple grows with the number.
    have hle : n ≤ m := hn.mono hm (by gcongr)
    gcongr
  · -- The power of two between the two intervals lies between the two results.
    have hn' : (n : ℚ) * 2 ^ e ≤ 2 ^ (f + 52) := by
      have hcast : (n : ℚ) ≤ 2 ^ (53 : ℤ) := by exact_mod_cast significand_le hn he.lt_pow
      calc (n : ℚ) * 2 ^ e ≤ 2 ^ (53 : ℤ) * 2 ^ e := by gcongr
        _ = 2 ^ (53 + e) := (zpow_add₀ two_ne_zero _ _).symm
        _ ≤ 2 ^ (f + 52) := two_zpow_le (by omega)
    have hm' : (2 : ℚ) ^ (f + 52) ≤ m * 2 ^ f := by
      have hfits : (2 : ℚ) ^ (f + 52) ≤ r :=
        hf.fits.resolve_left (fun hmin => absurd he.min_le (by omega))
      have hcast : (2 : ℚ) ^ (52 : ℤ) ≤ m := by exact_mod_cast le_significand hm hfits
      rw [add_comm, zpow_add₀ two_ne_zero]
      gcongr
    exact hn'.trans hm'

/-- A number of the format is its own rounding. -/
theorem eq_of_isFormat (h : Rounds q v) (hq : IsFormat q) : v = q := by
  obtain ⟨e, n, he, hn, rfl⟩ := h
  obtain ⟨m, rfl⟩ := he.exists_eq hq
  rw [mul_div_cancel_right₀ _ (by positivity)] at hn
  rw [hn.eq_of_natCast]

/-- Rounding does not take a number past a number of the format. -/
theorem le_of_isFormat (h : Rounds q v) (hq : 0 ≤ q) (hr : IsFormat r) (hle : q ≤ r) :
    v ≤ r := by
  obtain ⟨w, hw⟩ := exists_rounds (hq.trans hle)
  calc v ≤ w := h.mono hw hle
    _ = r := hw.eq_of_isFormat hr

theorem ge_of_isFormat (h : Rounds q v) (hpos : 0 ≤ r) (hr : IsFormat r) (hle : r ≤ q) :
    r ≤ v := by
  obtain ⟨w, hw⟩ := exists_rounds hpos
  calc r = w := (hw.eq_of_isFormat hr).symm
    _ ≤ v := hw.mono h hle

/-- Up to `2 ^ (k + 53)` rounding takes away at most half of `2 ^ k`. -/
theorem sub_le {k : ℤ} (h : Rounds q v) (hk : minExponent ≤ k) (hq : q < 2 ^ (k + 53)) :
    q - 2 ^ k / 2 ≤ v := by
  obtain ⟨e, n, he, hn, rfl⟩ := h
  have hpow := two_zpow_le (he.le_of_lt hk hq)
  have hpos : (0 : ℚ) < 2 ^ e := by positivity
  calc q - 2 ^ k / 2 ≤ q - 2 ^ e / 2 := by gcongr
    _ = (q / 2 ^ e - 1 / 2) * 2 ^ e := by field_simp
    _ ≤ n * 2 ^ e := by gcongr; exact hn.sub_half_le

/-- A number is rounded up to `2 ^ (k + 53)` from the middle between this power and the number of
the format below it on. -/
theorem lt_two_zpow_iff {k : ℤ} (h : Rounds q v) (hk : minExponent ≤ k) :
    v < 2 ^ (k + 53) ↔ q < (2 ^ 53 - 1 / 2) * 2 ^ k := by
  obtain ⟨e, n, he, hn, rfl⟩ := h
  have hmiddle : (2 : ℚ) ^ (k + 52) ≤ (2 ^ 53 - 1 / 2) * 2 ^ k ∧
      (2 ^ 53 - 1 / 2) * 2 ^ k ≤ (2 : ℚ) ^ (k + 53) := by
    rw [zpow_add₀ two_ne_zero, zpow_add₀ two_ne_zero, mul_comm, mul_comm (2 ^ k)]
    constructor <;> gcongr <;> norm_num
  rcases lt_trichotomy e k with hlt | rfl | hgt
  · -- The whole interval of the number lies below the middle.
    have hcast : (n : ℚ) ≤ 2 ^ (53 : ℤ) := by exact_mod_cast significand_le hn he.lt_pow
    refine iff_of_true ?_ ?_
    · calc (n : ℚ) * 2 ^ e ≤ 2 ^ (53 : ℤ) * 2 ^ e := by gcongr
        _ = 2 ^ (53 + e) := (zpow_add₀ two_ne_zero _ _).symm
        _ < 2 ^ (k + 53) := zpow_lt_zpow_right₀ one_lt_two (by omega)
    · calc q < 2 ^ (e + 53) := he.lt_pow
        _ ≤ 2 ^ (k + 52) := two_zpow_le (by omega)
        _ ≤ _ := hmiddle.1
  · rw [← significand_lt_iff hn, add_comm, zpow_add₀ two_ne_zero,
      mul_lt_mul_iff_of_pos_right (by positivity)]
    exact_mod_cast Iff.rfl
  · -- And here the whole interval lies above it.
    have hfits : (2 : ℚ) ^ (e + 52) ≤ q :=
      he.fits.resolve_left (fun hmin => absurd hk (by omega))
    have hcast : (2 : ℚ) ^ (52 : ℤ) ≤ n := by exact_mod_cast le_significand hn hfits
    have hpow := two_zpow_le (show k + 53 ≤ e + 52 by omega)
    refine iff_of_false (not_lt.2 ?_) (not_lt.2 (hmiddle.2.trans (hpow.trans hfits)))
    calc (2 : ℚ) ^ (k + 53) ≤ 2 ^ (52 + e) := two_zpow_le (by omega)
      _ = 2 ^ (52 : ℤ) * 2 ^ e := zpow_add₀ two_ne_zero _ _
      _ ≤ n * 2 ^ e := by gcongr

/-- From `2 ^ 53` on, a sum with a proper fraction is rounded to its first part. -/
theorem eq_of_add_lt_one {f p : ℚ} (hf : IsFormat f) (hlarge : 2 ^ 53 ≤ f) (hp : 0 ≤ p)
    (hp' : p < 1) (h : Rounds (f + p) v) : v = f := by
  refine le_antisymm ?_ (h.ge_of_isFormat (by linarith) hf (by linarith))
  obtain ⟨e, n, he, hn, rfl⟩ := h
  have hepos : 0 < e := by
    by_contra hneg
    have hpow := two_zpow_le (show e + 53 ≤ 53 by omega)
    have hlt := he.lt_pow
    norm_num at hpow hlarge
    linarith
  obtain ⟨m, rfl⟩ := (he.of_add_lt_one hf hlarge hepos hp hp').exists_eq hf
  have hhalf : p / 2 ^ e < 1 / 2 := by
    have htwo : (2 : ℚ) ≤ 2 ^ e := by
      calc (2 : ℚ) = 2 ^ (1 : ℤ) := (zpow_one 2).symm
        _ ≤ 2 ^ e := two_zpow_le (by omega)
    rw [div_lt_iff₀ (by positivity)]
    linarith
  have hnm : n ≤ m := by
    refine hn.le_of_lt ?_
    rw [add_div, mul_div_cancel_right₀ _ (by positivity)]
    linarith
  gcongr

end Rounds

theorem value_one : one.value = 1 := by
  have hround := rounds_nearest 1 Nat.one_pos
  rw [Nat.cast_one, div_one] at hround
  exact hround.eq_of_isFormat (by exact_mod_cast isFormat_natCast (n := 1) (by norm_num))

end Dyadic

/-- The factor of a policy is not below one. -/
theorem Binary64.one_le_atLeastOne {multiplier : Binary64} {factor : Dyadic}
    (h : multiplier.atLeastOne = some factor) : 1 ≤ factor.value := by
  unfold atLeastOne at h
  split at h
  · cases h
    exact Dyadic.value_one.ge
  · split at h
    · cases h
      exact Dyadic.value_one.ge
    · cases h
  · next negative d =>
    split at h
    · next hle =>
      cases h
      rw [Bool.and_eq_true, Dyadic.le_iff, Dyadic.value_one] at hle
      exact hle.2
    · cases h
      exact Dyadic.value_one.ge

end ReverseTunnel
