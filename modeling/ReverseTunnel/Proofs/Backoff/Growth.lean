import ReverseTunnel.Backoff
import ReverseTunnel.Proofs.Binary64
import ReverseTunnel.Proofs.Duration

/-!
# The growth of a delay

The next delay is the current one in seconds, times the factor, in whole nanoseconds. It is
rounded at five places: the whole seconds, the rest of a second, their sum, the product and the
nanoseconds.

Each rounding is monotone, and so is the whole (`grow_mono`). This is not plain for the sum, since
one part starts again with every second. There the next whole second is a number of the format as
long as the parts are exact, and the rest is lost where they are not (`seconds_mono`).

A factor of at least one does not undo the roundings. Below `2 ^ 23` seconds their errors stay
under half a nanosecond, and a delay does not shrink (`le_grow`). From there on it can.
-/

namespace ReverseTunnel.Backoff

open ReverseTunnel.Dyadic

/-! ## Seconds -/

/-- The whole seconds, rounded. -/
def wholeSeconds (d : Duration) : ℚ := (nearest d.seconds 1).value

/-- The rest of a second, rounded. -/
def partSeconds (d : Duration) : ℚ := (nearest d.subsecond nanosPerSecond).value

theorem rounds_wholeSeconds (d : Duration) : Rounds d.seconds (wholeSeconds d) := by
  have hround := rounds_nearest d.seconds Nat.one_pos
  rw [Nat.cast_one, div_one] at hround
  exact hround

theorem rounds_partSeconds (d : Duration) :
    Rounds (d.subsecond / nanosPerSecond) (partSeconds d) :=
  rounds_nearest d.subsecond (by decide)

theorem rounds_seconds (d : Duration) :
    Rounds (wholeSeconds d + partSeconds d) (seconds d).value :=
  rounds_add _ _

theorem wholeSeconds_eq {d : Duration} (h : d.seconds ≤ 2 ^ 53) : wholeSeconds d = d.seconds :=
  (rounds_wholeSeconds d).eq_of_isFormat (isFormat_natCast h)

theorem partSeconds_nonneg (d : Duration) : 0 ≤ partSeconds d := value_nonneg _

/-- The rest of a second does not round up to a second. -/
theorem partSeconds_lt_one (d : Duration) : partSeconds d < 1 := by
  have hlast : IsFormat (((2 ^ 53 - 1 : ℕ) : ℚ) * 2 ^ (-53 : ℤ)) :=
    ⟨2 ^ 53 - 1, -53, by norm_num, by decide, rfl⟩
  have hsub : (d.subsecond : ℚ) ≤ 999999999 := by
    exact_mod_cast Nat.le_of_lt_succ d.subsecond_lt
  refine lt_of_le_of_lt ((rounds_partSeconds d).le_of_isFormat (by positivity) hlast ?_) ?_
  · rw [nanosPerSecond, div_le_iff₀ (by norm_num)]
    refine hsub.trans ?_
    norm_num
  · norm_num

/-- The seconds of a length of time grow with it, rounded as they are. -/
theorem seconds_mono {a b : Duration} (h : a ≤ b) : (seconds a).value ≤ (seconds b).value := by
  have hnanos : a.nanos ≤ b.nanos := h
  have hwhole : a.seconds ≤ b.seconds := Nat.div_le_div_right hnanos
  rcases hwhole.eq_or_lt with heq | hlt
  · -- Within one second only the rest grows.
    have hpart : partSeconds a ≤ partSeconds b := by
      apply (rounds_partSeconds a).mono (rounds_partSeconds b)
      have hsub : a.subsecond ≤ b.subsecond := by
        rw [a.nanos_eq, b.nanos_eq, heq] at hnanos
        exact Nat.le_of_add_le_add_left hnanos
      gcongr
    apply (rounds_seconds a).mono (rounds_seconds b)
    have hsame : wholeSeconds a = wholeSeconds b := by rw [wholeSeconds, wholeSeconds, heq]
    rw [hsame]
    gcongr
  · have hb : wholeSeconds b ≤ (seconds b).value :=
      (rounds_seconds b).ge_of_isFormat (value_nonneg _) (rounds_wholeSeconds b).isFormat
        (le_add_of_nonneg_right (partSeconds_nonneg b))
    refine le_trans ?_ hb
    have hnonneg : 0 ≤ wholeSeconds a + partSeconds a :=
      add_nonneg (value_nonneg _) (partSeconds_nonneg a)
    by_cases hsmall : a.seconds < 2 ^ 53
    · -- The next whole second is between the two.
      have hnext : IsFormat ((a.seconds + 1 : ℕ) : ℚ) := isFormat_natCast hsmall
      calc (seconds a).value ≤ (a.seconds + 1 : ℕ) := by
            apply (rounds_seconds a).le_of_isFormat hnonneg hnext
            rw [wholeSeconds_eq hsmall.le]
            push_cast
            linarith [partSeconds_lt_one a]
        _ ≤ wholeSeconds b := by
            apply (rounds_wholeSeconds b).ge_of_isFormat (by positivity) hnext
            exact_mod_cast hlt
    · -- The rest of a second is lost.
      have hlarge : (2 : ℚ) ^ 53 ≤ wholeSeconds a := by
        have hformat : IsFormat ((2 ^ 53 : ℕ) : ℚ) := isFormat_natCast le_rfl
        have hle := (rounds_wholeSeconds a).ge_of_isFormat (by positivity) hformat
          (by exact_mod_cast Nat.le_of_not_lt hsmall)
        exact_mod_cast hle
      calc (seconds a).value = wholeSeconds a :=
            (rounds_seconds a).eq_of_add_lt_one (rounds_wholeSeconds a).isFormat hlarge
              (partSeconds_nonneg a) (partSeconds_lt_one a)
        _ ≤ wholeSeconds b :=
            (rounds_wholeSeconds a).mono (rounds_wholeSeconds b) (by exact_mod_cast hwhole)

/-- Below `2 ^ 23` seconds rounding takes away less than half a nanosecond. -/
theorem sub_half_lt_seconds {d : Duration} (h : d.nanos < 2 ^ 23 * nanosPerSecond) :
    (d.nanos : ℚ) - 1 / 2 < (seconds d).value * nanosPerSecond := by
  have hwhole : d.seconds + 1 ≤ 2 ^ 23 := Nat.succ_le_of_lt (Nat.div_lt_of_lt_mul (by
    rw [Nat.mul_comm]
    exact h))
  have hexact : wholeSeconds d = d.seconds := wholeSeconds_eq (by omega)
  have hpos : (0 : ℚ) < nanosPerSecond := by norm_num [nanosPerSecond]
  have hpart : (d.subsecond : ℚ) / nanosPerSecond - 2 ^ (-53 : ℤ) / 2 ≤ partSeconds d := by
    apply (rounds_partSeconds d).sub_le (by decide)
    rw [div_lt_iff₀ hpos]
    norm_num
    exact_mod_cast d.subsecond_lt
  have hsum : wholeSeconds d + partSeconds d - 2 ^ (-30 : ℤ) / 2 ≤ (seconds d).value := by
    apply (rounds_seconds d).sub_le (by decide)
    have hcast : (d.seconds : ℚ) + 1 ≤ 2 ^ 23 := by exact_mod_cast hwhole
    rw [hexact]
    norm_num
    norm_num at hcast
    linarith [partSeconds_lt_one d]
  have hnanos : (d.nanos : ℚ) / nanosPerSecond = d.seconds + d.subsecond / nanosPerSecond := by
    rw [d.nanos_eq]
    push_cast
    field_simp
  have htotal : (d.nanos : ℚ) / nanosPerSecond - (2 ^ (-30 : ℤ) / 2 + 2 ^ (-53 : ℤ) / 2) ≤
      (seconds d).value := by
    rw [hnanos, ← hexact]
    linarith
  have hloss : ((2 : ℚ) ^ (-30 : ℤ) / 2 + 2 ^ (-53 : ℤ) / 2) * nanosPerSecond < 1 / 2 := by
    norm_num [nanosPerSecond]
  calc (d.nanos : ℚ) - 1 / 2
      < d.nanos - (2 ^ (-30 : ℤ) / 2 + 2 ^ (-53 : ℤ) / 2) * nanosPerSecond := by linarith
    _ = (d.nanos / nanosPerSecond - (2 ^ (-30 : ℤ) / 2 + 2 ^ (-53 : ℤ) / 2)) *
          nanosPerSecond := by
        rw [sub_mul, div_mul_cancel₀ _ hpos.ne']
    _ ≤ (seconds d).value * nanosPerSecond := by gcongr

/-! ## The next delay -/

/-- A number of seconds gives the nearest length of time, if it is below `2 ^ 64`. -/
theorem ofSeconds?_eq_some_iff {x : Dyadic} {d : Duration} :
    ofSeconds? x = some d ↔
      x.value < UInt64.size ∧ IsNearestEven (x.value * nanosPerSecond) d.nanos := by
  have hpos : (0 : ℚ) < x.ratio.2 := by exact_mod_cast x.ratio_snd_pos
  have hlimit : x.ratio.1 < x.ratio.2 * UInt64.size ↔ x.value < UInt64.size := by
    rw [value_eq_ratio, div_lt_iff₀ hpos, ← Nat.cast_mul, Nat.cast_lt, Nat.mul_comm]
  have hround := isNearestEven_roundHalfEven (x.ratio.1 * nanosPerSecond) x.ratio_snd_pos
  have hnanos : ((x.ratio.1 * nanosPerSecond : ℕ) : ℚ) / x.ratio.2 =
      x.value * nanosPerSecond := by
    rw [value_eq_ratio]
    push_cast
    ring
  rw [hnanos] at hround
  rw [← hlimit, ofSeconds?]
  split
  · next hlt =>
    rw [and_iff_right hlt, Duration.ofNanos?_eq_some_iff]
    constructor
    · intro hd
      rw [← hd]
      exact hround
    · exact fun hd => hround.unique hd
  · next hle => exact iff_of_false nofun fun hd => hle hd.1

theorem ofSeconds?_mono {x y : Dyadic} (h : x.value ≤ y.value) {g : Duration}
    (hy : ofSeconds? y = some g) : ∃ f, ofSeconds? x = some f ∧ f ≤ g := by
  obtain ⟨hlimit, hg⟩ := ofSeconds?_eq_some_iff.1 hy
  obtain ⟨n, hn⟩ := exists_isNearestEven (mul_nonneg x.value_nonneg nanosPerSecond.cast_nonneg)
  have hle : n ≤ g.nanos := hn.mono hg (by gcongr)
  exact ⟨⟨n, hle.trans_lt g.bounded⟩, ofSeconds?_eq_some_iff.2 ⟨h.trans_lt hlimit, hn⟩, hle⟩

/-- A shorter delay grows to a shorter one. -/
theorem grow_mono {a b g : Duration} {multiplier : Binary64} (h : a ≤ b)
    (hb : grow b multiplier = some g) : ∃ f, grow a multiplier = some f ∧ f ≤ g := by
  unfold grow at hb ⊢
  cases hfactor : multiplier.atLeastOne with
  | none =>
    rw [hfactor] at hb
    cases hb
  | some factor =>
    rw [hfactor] at hb
    refine ofSeconds?_mono ?_ hb
    apply (rounds_mul _ _).mono (rounds_mul _ _)
    have hseconds := seconds_mono h
    have hnonneg := factor.value_nonneg
    gcongr

/-- A delay below `2 ^ 23` seconds does not shrink. -/
theorem le_grow {d g : Duration} {multiplier : Binary64}
    (h : d.nanos < 2 ^ 23 * nanosPerSecond) (hg : grow d multiplier = some g) : d ≤ g := by
  unfold grow at hg
  cases hfactor : multiplier.atLeastOne with
  | none =>
    rw [hfactor] at hg
    cases hg
  | some factor =>
    rw [hfactor] at hg
    have hgrown : (seconds d).value ≤ ((seconds d).mul factor).value := by
      apply (rounds_mul _ _).ge_of_isFormat (value_nonneg _) (rounds_seconds d).isFormat
      exact le_mul_of_one_le_right (value_nonneg _) (Binary64.one_le_atLeastOne hfactor)
    apply (ofSeconds?_eq_some_iff.1 hg).2.le_of_gt
    calc (d.nanos : ℚ) - 1 / 2 < (seconds d).value * nanosPerSecond := sub_half_lt_seconds h
      _ ≤ ((seconds d).mul factor).value * nanosPerSecond := by gcongr

/-- Ten nanoseconds more than `2 ^ 23` seconds lose one of them. -/
example :
    (grow ⟨2 ^ 23 * nanosPerSecond + 10, by decide⟩ (.ofRatio false 1 1)).map Duration.nanos =
      some (2 ^ 23 * nanosPerSecond + 9) := by decide +kernel

end ReverseTunnel.Backoff
