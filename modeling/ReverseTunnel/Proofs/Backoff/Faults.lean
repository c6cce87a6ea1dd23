import Mathlib.Data.List.Pairwise
import ReverseTunnel.Proofs.Backoff.Delays
import ReverseTunnel.TunnelsFile

/-!
# The faults of a run

An attempt has no answer in two cases. The elapsed time and the current delay may have no sum, and
the product from which the next delay is taken may be no length of time. The limit does not help
against the latter, since it is applied to the product.

A product is a length of time exactly if it is below the middle between `2 ^ 64` seconds and the
number of the format before that (`fits_iff`). Whether a run meets one that is not, or a sum that
is none, depends on the delays that the policy may come to (`Due`). They are those that it comes
to when no time passes between the attempts (`Due.exists_afterAll`), and no others
(`due_current`). So the settings of a policy that always answers are known exactly
(`answers_iff_fits`).
-/

namespace ReverseTunnel

namespace Backoff

open ReverseTunnel.Dyadic

/-! ## Products that are lengths of time -/

/-- A delay times the factor, in seconds, does not round to `2 ^ 64` or more. No product of an
infinite factor does. -/
def Fits (delay : Duration) (multiplier : Binary64) : Prop :=
  ∃ factor, multiplier.atLeastOne = some factor ∧
    (seconds delay).value * factor.value < 2 ^ 64 - 2 ^ 10

/-- A number of the format below `2 ^ 64` seconds gives a length of time: rounding to nanoseconds
does not carry it over the limit. -/
theorem exists_ofSeconds?_iff {x : Dyadic} (hx : IsFormat x.value) :
    (∃ d, ofSeconds? x = some d) ↔ x.value < 2 ^ 64 := by
  have hsize : ((UInt64.size : ℕ) : ℚ) = 2 ^ 64 := by norm_num [UInt64.size]
  constructor
  · rintro ⟨d, hd⟩
    exact hsize ▸ (ofSeconds?_eq_some_iff.1 hd).1
  · intro hlt
    have hnonneg : 0 ≤ x.value * nanosPerSecond := mul_nonneg x.value_nonneg (by positivity)
    obtain ⟨n, hn⟩ := exists_isNearestEven hnonneg
    have hle : x.value ≤ 2 ^ 64 - 1 := by
      rcases lt_or_ge x.value (2 ^ 53) with hsmall | hlarge
      · exact hsmall.le.trans (by norm_num)
      · -- From `2 ^ 53` on the numbers of the format are whole.
        obtain ⟨m, hm⟩ := hx.exists_natCast hlarge
        rw [hm] at hlt ⊢
        have hm' : m + 1 ≤ 2 ^ 64 := by exact_mod_cast hlt
        have hcast : (m : ℚ) + 1 ≤ 2 ^ 64 := by exact_mod_cast hm'
        linarith
    have hbound : n < durationLimit := by
      have hlimit : ((durationLimit : ℕ) : ℚ) = 2 ^ 64 * nanosPerSecond := by
        rw [durationLimit, Nat.cast_mul, hsize]
      have hcast : (n : ℚ) < (durationLimit : ℕ) := by
        calc (n : ℚ) ≤ x.value * nanosPerSecond + 1 / 2 := hn.le_add_half
          _ ≤ (2 ^ 64 - 1) * nanosPerSecond + 1 / 2 := by gcongr
          _ < 2 ^ 64 * nanosPerSecond := by norm_num [nanosPerSecond]
          _ = (durationLimit : ℕ) := hlimit.symm
      exact_mod_cast hcast
    exact ⟨⟨n, hbound⟩, ofSeconds?_eq_some_iff.2 ⟨hsize ▸ hlt, hn⟩⟩

theorem fits_iff {delay : Duration} {multiplier : Binary64} :
    Fits delay multiplier ↔ ∃ grown, grow delay multiplier = some grown := by
  unfold Fits grow
  cases multiplier.atLeastOne with
  | none => simp
  | some factor =>
    have hround := rounds_mul (seconds delay) factor
    have hmiddle : ((2 : ℚ) ^ 53 - 1 / 2) * 2 ^ (11 : ℤ) = 2 ^ 64 - 2 ^ 10 := by norm_num
    have hlimit : (2 : ℚ) ^ ((11 : ℤ) + 53) = 2 ^ 64 := by norm_num
    have hlt := hround.lt_two_zpow_iff (k := 11) (by decide)
    rw [hmiddle, hlimit] at hlt
    simp only [Option.some.injEq, exists_eq_left', ← hlt]
    exact (exists_ofSeconds?_iff hround.isFormat).symm

theorem grow_eq_none_iff {delay : Duration} {multiplier : Binary64} :
    grow delay multiplier = none ↔ ¬ Fits delay multiplier := by
  rw [fits_iff, ← Option.isSome_iff_exists, Option.not_isSome_iff_eq_none]

/-- Of a shorter delay the product fits too. -/
theorem Fits.mono {shorter longer : Duration} {multiplier : Binary64}
    (h : Fits longer multiplier) (hle : shorter ≤ longer) : Fits shorter multiplier := by
  obtain ⟨grown, hgrown⟩ := fits_iff.1 h
  obtain ⟨grown', hgrown', -⟩ := grow_mono hle hgrown
  exact fits_iff.2 ⟨grown', hgrown'⟩

/-! ## One attempt -/

/-- The budget, if there is one, is not less than the delay. -/
def Allows (b : Backoff) (delay : Duration) : Prop :=
  ∀ budget, b.maxElapsed = some budget → delay ≤ budget

theorem allows_of_isOverBudget {b : Backoff} {time : Duration}
    (h : b.isOverBudget time = .ok false) : b.Allows b.current := by
  intro budget hbudget
  have hle := add_le_of_isOverBudget hbudget h
  change b.current.nanos ≤ budget.nanos
  omega

/-- A sum overflows only if a budget is to be checked. -/
theorem limit_le_of_isOverBudget {b : Backoff} {time : Duration} {fault : BackoffFault}
    (h : b.isOverBudget time = .error fault) :
    fault = .sumOverflow ∧ b.maxElapsed.isSome ∧ durationLimit ≤ time.nanos + b.current.nanos := by
  unfold isOverBudget at h
  split at h
  · cases h
  · next budget hbudget =>
    split at h
    · cases h
    · next hnone =>
      cases h
      refine ⟨rfl, by rw [hbudget]; rfl, ?_⟩
      by_contra hlt
      have hsum : time.add? b.current = some ⟨_, Nat.lt_of_not_le hlt⟩ :=
        Duration.add?_eq_some_iff.2 rfl
      rw [hnone] at hsum
      cases hsum

/-- The two ways in which an attempt has no answer. -/
theorem of_answer_error {b : Backoff} {opened now : Duration} {fault : BackoffFault}
    (h : (b.nextBetween opened now).1 = .error fault) :
    (fault = .sumOverflow ∧ b.maxElapsed.isSome ∧
      durationLimit ≤ (b.elapsed opened now).nanos + b.current.nanos) ∨
    (fault = .productOverflow ∧ b.Allows b.current ∧ ¬ Fits b.current b.multiplier) := by
  rcases b.nextBetween_cases opened now with
    ⟨fault', hover, hcase⟩ | ⟨-, hcase⟩ | ⟨hover, hgrow, hcase⟩ | ⟨-, grown, -, hcase⟩
  all_goals rw [hcase] at h
  all_goals cases h
  · exact Or.inl (limit_le_of_isOverBudget hover)
  · exact Or.inr ⟨rfl, allows_of_isOverBudget hover, grow_eq_none_iff.1 hgrow⟩

/-- An attempt whose sum overflows has no answer. -/
theorem answer_of_limit_le {b : Backoff} {opened now : Duration} (hbudget : b.maxElapsed.isSome)
    (hlimit : durationLimit ≤ (b.elapsed opened now).nanos + b.current.nanos) :
    (b.nextBetween opened now).1 = .error .sumOverflow := by
  obtain ⟨budget, hbudget⟩ := Option.isSome_iff_exists.1 hbudget
  have hnone : (b.elapsed opened now).add? b.current = none := by
    cases hsum : (b.elapsed opened now).add? b.current with
    | none => rfl
    | some total =>
      have heq := Duration.add?_eq_some_iff.1 hsum
      exact absurd total.bounded (Nat.not_lt.2 (heq ▸ hlimit))
  have hover : b.isOverBudget (b.elapsed opened now) = .error .sumOverflow := by
    rw [isOverBudget, hbudget]
    dsimp only
    rw [hnone]
  rcases b.nextBetween_cases opened now with
    ⟨fault, hcase, h⟩ | ⟨hcase, -⟩ | ⟨hcase, -⟩ | ⟨hcase, -⟩
  all_goals rw [hover] at hcase
  all_goals cases hcase
  rw [h]

/-- An attempt at once whose product is no length of time has no answer. -/
theorem answer_of_not_fits {b : Backoff} (hstart : b.started.getD .zero = .zero)
    (hallows : b.Allows b.current) (hfits : ¬ Fits b.current b.multiplier) :
    (b.nextBetween .zero .zero).1 = .error .productOverflow := by
  have helapsed : b.elapsed .zero .zero = .zero := by rw [elapsed, hstart]; rfl
  rcases b.nextBetween_cases .zero .zero with
    ⟨fault, hover, -⟩ | ⟨hover, -⟩ | ⟨-, -, h⟩ | ⟨-, grown, hgrown, -⟩
  · -- No time has elapsed, so the sum is the current delay.
    obtain ⟨-, -, hlimit⟩ := limit_le_of_isOverBudget hover
    rw [helapsed] at hlimit
    have hbounded := b.current.bounded
    change durationLimit ≤ 0 + _ at hlimit
    omega
  · obtain ⟨budget, hbudget, hlt⟩ := lt_add_of_isOverBudget hover
    rw [helapsed] at hlt
    have hle : b.current.nanos ≤ budget.nanos := hallows budget hbudget
    change budget.nanos < 0 + _ at hlt
    omega
  · rw [h]
  · exact absurd (fits_iff.2 ⟨grown, hgrown⟩) hfits

/-! ## The delays that a policy may come to -/

/-- The delays that a policy may come to: the first one, and after each that the budget allows the
one that follows it. -/
inductive Due (b : Backoff) : Duration → Prop
  | first : Due b b.initial
  | next {delay grown : Duration} (h : Due b delay) (hallows : b.Allows delay)
      (hgrown : grow delay b.multiplier = some grown) : Due b (grown.min b.maxInterval)

/-- Only the first of them may be above the limit. -/
theorem Due.eq_or_le {b : Backoff} {delay : Duration} (h : b.Due delay) :
    delay = b.initial ∨ delay ≤ b.maxInterval := by
  cases h with
  | first => exact Or.inl rfl
  | next _ _ _ => exact Or.inr Duration.min_le_right

/-- A policy that is reset to another one has its settings. -/
theorem settings_of_reset_eq {b c : Backoff} (h : c.reset = b) :
    c.multiplier = b.multiplier ∧ c.maxInterval = b.maxInterval ∧ c.maxElapsed = b.maxElapsed := by
  subst h
  exact ⟨rfl, rfl, rfl⟩

section Fresh

variable {b : Backoff} (hfresh : b.reset = b)
include hfresh

/-- The current delay of a run is always one of them. -/
theorem due_current (calls : List Call) : b.Due (b.afterAll calls).current := by
  have hcurrent : b.current = b.initial := congrArg Backoff.current hfresh.symm
  have hfirst : b.Due b.current := hcurrent ▸ Due.first
  have hboth : (b.afterAll calls).reset = b ∧ b.Due (b.afterAll calls).current := by
    refine holds_afterAll (P := fun c => c.reset = b ∧ b.Due c.current) ⟨hfresh, hfirst⟩ ?_ ?_ calls
    · rw [hfresh]
      exact ⟨hfresh, hfirst⟩
    · rintro c opened now ⟨hsettings, hdue⟩
      refine ⟨(c.reset_nextBetween opened now).trans hsettings, ?_⟩
      -- The settings of `c` are those of `b`, so its next delay follows by the same rule.
      obtain ⟨hmultiplier, hlimit, hbudget⟩ := settings_of_reset_eq hsettings
      rcases c.delay_or_vain opened now with ⟨grown, hanswer, hgrown, hafter⟩ | ⟨-, hafter⟩
      · obtain ⟨-, hover, -⟩ := of_answer_some hanswer
        rw [hafter, hlimit]
        refine hdue.next (fun budget h => ?_) (hmultiplier ▸ hgrown)
        exact allows_of_isOverBudget hover budget (hbudget.trans h)
      · rw [hafter]
        exact hdue
  exact hboth.2

/-- Each of them is the current one after some attempts at once. -/
theorem Due.exists_afterAll {delay : Duration} (h : b.Due delay) :
    ∃ n, (b.afterAll (List.replicate n .atOnce)).current = delay ∧
      (b.afterAll (List.replicate n .atOnce)).started.getD .zero = .zero := by
  induction h with
  | first =>
    have hstart : b.started = none := congrArg Backoff.started hfresh.symm
    refine ⟨0, congrArg Backoff.current hfresh.symm, ?_⟩
    change b.started.getD .zero = .zero
    rw [hstart]
    rfl
  | @next delay grown _ hallows hgrown ih =>
    obtain ⟨n, hcurrent, hstart⟩ := ih
    have hsettings : (b.afterAll (List.replicate n .atOnce)).reset = b :=
      (reset_afterAll _ b).trans hfresh
    refine ⟨n + 1, ?_⟩
    rw [List.replicate_succ', afterAll, List.foldl_append]
    change ((b.afterAll _).nextBetween .zero .zero).2.current = _ ∧
      ((b.afterAll _).nextBetween .zero .zero).2.started.getD .zero = _
    generalize b.afterAll (List.replicate n .atOnce) = c at hcurrent hstart hsettings
    have hmute : ¬ c.IsMute := by
      rintro (⟨budget, hbudget, hlt⟩ | hnone)
      · rw [← hsettings] at hallows
        exact Duration.not_le_of_lt hlt (hcurrent ▸ hallows budget hbudget)
      · rw [← hsettings] at hgrown
        rw [hcurrent] at hnone
        cases hnone.symm.trans hgrown
    obtain ⟨grown', hgrown', hafter⟩ := nextBetween_of_not_isMute hmute .zero hstart
    rw [started_nextBetween, hstart, hafter]
    refine ⟨?_, rfl⟩
    rw [hcurrent] at hgrown'
    rw [← hsettings] at hgrown ⊢
    cases hgrown'.symm.trans hgrown
    rfl

end Fresh

/-! ## Runs -/

/-- The answers of a run are those of its attempts. -/
theorem mem_answers_iff {calls : List Call} {answer : Except BackoffFault (Option Duration)} :
    ∀ {b : Backoff}, answer ∈ b.answers calls ↔
      ∃ made opened now rest, calls = made ++ .next opened now :: rest ∧
        answer = ((b.afterAll made).nextBetween opened now).1 := by
  induction calls with
  | nil => exact fun {b} => iff_of_false List.not_mem_nil (by simp)
  | cons call later ih =>
    intro b
    -- The later attempts are those of the policy after the first call.
    have hlater : answer ∈ (b.after call).answers later ↔
        ∃ made opened now rest, call :: later = call :: made ++ .next opened now :: rest ∧
          answer = ((b.afterAll (call :: made)).nextBetween opened now).1 := by
      rw [ih]
      simp only [List.cons_append, List.cons.injEq, true_and]
      exact Iff.rfl
    constructor
    · intro h
      cases call with
      | reset =>
        obtain ⟨made, opened, now, rest, hcalls, hanswer⟩ := hlater.1 h
        exact ⟨_, opened, now, rest, hcalls, hanswer⟩
      | next opened now =>
        rcases List.mem_cons.1 h with rfl | h
        · exact ⟨[], opened, now, later, rfl, rfl⟩
        · obtain ⟨made, opened', now', rest, hcalls, hanswer⟩ := hlater.1 h
          exact ⟨_, opened', now', rest, hcalls, hanswer⟩
    · rintro ⟨made, opened, now, rest, hcalls, hanswer⟩
      cases made with
      | nil =>
        cases hcalls
        rw [hanswer]
        exact List.mem_cons_self
      | cons first made =>
        cases hcalls
        have h := hlater.2 ⟨made, opened, now, rest, rfl, hanswer⟩
        cases call with
        | reset => exact h
        | next opened' now' => exact List.mem_cons_of_mem _ h

theorem eq_zero_of_mem_readings {n : Nat} {reading : Duration}
    (h : reading ∈ (List.replicate n Call.atOnce).flatMap Call.readings) : reading = .zero := by
  obtain ⟨call, hcall, hreading⟩ := List.mem_flatMap.1 h
  rw [List.eq_of_mem_replicate hcall] at hreading
  rcases List.mem_cons.1 hreading with rfl | hreading
  · rfl
  · exact List.mem_singleton.1 hreading

/-- The clock may stand for a while and then show any time. -/
theorem clocked_atOnce (n : Nat) (time : Duration) :
    Clocked (List.replicate n .atOnce ++ [.next .zero time]) := by
  rw [Clocked, List.flatMap_append, List.pairwise_append]
  refine ⟨?_, ?_, ?_⟩
  · apply List.pairwise_of_forall_mem_list
    intro first hfirst second _
    rw [eq_zero_of_mem_readings hfirst]
    exact Nat.zero_le _
  · exact List.pairwise_pair.2 (Nat.zero_le _)
  · intro first hfirst second _
    rw [eq_zero_of_mem_readings hfirst]
    exact Nat.zero_le _

/-- The policy answers every attempt of every run, as long as the clock does not pass `horizon`. -/
def AlwaysAnswers (b : Backoff) (horizon : Duration) : Prop :=
  ∀ calls, Clocked calls → (∀ reading ∈ calls.flatMap Call.readings, reading ≤ horizon) →
    ∀ answer ∈ b.answers calls, ∃ delay, answer = .ok delay

/-- After attempts at once there is an answer at any time up to the horizon. -/
theorem AlwaysAnswers.after_atOnce {b : Backoff} {horizon : Duration}
    (h : b.AlwaysAnswers horizon) (n : Nat) {time : Duration} (htime : time ≤ horizon) :
    ∃ delay, ((b.afterAll (List.replicate n .atOnce)).nextBetween .zero time).1 = .ok delay := by
  refine h _ (clocked_atOnce n time) ?_ _ (mem_answers_iff.2 ⟨_, _, _, [], rfl, rfl⟩)
  intro reading hreading
  rw [List.flatMap_append, List.mem_append] at hreading
  rcases hreading with hreading | hreading
  · rw [eq_zero_of_mem_readings hreading]
    exact Nat.zero_le _
  · rcases List.mem_pair.1 hreading with rfl | rfl
    · exact Nat.zero_le _
    · exact htime

section Fresh

variable {b : Backoff} (hfresh : b.reset = b)
include hfresh

/-- A policy always answers, as long as the clock does not pass `horizon`, unless it comes to a
delay that it may not wait for. -/
theorem alwaysAnswers_iff (horizon : Duration) :
    b.AlwaysAnswers horizon ↔
      ∀ delay, b.Due delay →
        (b.Allows delay → Fits delay b.multiplier) ∧
        (b.maxElapsed.isSome → horizon.nanos + delay.nanos < durationLimit) := by
  constructor
  · intro h delay hdue
    obtain ⟨n, hcurrent, hstart⟩ := hdue.exists_afterAll hfresh
    have hsettings := (reset_afterAll (List.replicate n .atOnce) b).trans hfresh
    -- One more attempt is made when the delay is the current one, at once or at the horizon.
    have hanswer := fun time (htime : time ≤ horizon) => h.after_atOnce n htime
    generalize b.afterAll (List.replicate n .atOnce) = c at *
    subst hcurrent
    obtain ⟨hmultiplier, -, hbudget⟩ := settings_of_reset_eq hsettings
    constructor
    · intro hallows
      by_contra hfits
      obtain ⟨delay, hok⟩ := hanswer .zero (Nat.zero_le _)
      have hallows' : c.Allows c.current := fun budget h => hallows budget (hbudget ▸ h)
      rw [answer_of_not_fits hstart hallows' (hmultiplier ▸ hfits)] at hok
      cases hok
    · intro hsome
      by_contra hlimit
      obtain ⟨delay, hok⟩ := hanswer horizon (Nat.le_refl _)
      have helapsed : (c.elapsed .zero horizon).nanos = horizon.nanos := by
        rw [elapsed, hstart]
        rfl
      rw [answer_of_limit_le (hbudget ▸ hsome) (helapsed ▸ Nat.not_lt.1 hlimit)] at hok
      cases hok
  · intro h calls _ hreadings answer hanswer
    obtain ⟨made, opened, now, rest, rfl, rfl⟩ := mem_answers_iff.1 hanswer
    have hsettings := (reset_afterAll made b).trans hfresh
    obtain ⟨hproduct, hsum⟩ := h _ (due_current hfresh made)
    have hnow : now ≤ horizon := by
      apply hreadings
      rw [List.flatMap_append, List.flatMap_cons]
      exact List.mem_append_right _ (List.mem_append_left _ (by simp [Call.readings]))
    generalize b.afterAll made = c at *
    obtain ⟨hmultiplier, -, hbudget⟩ := settings_of_reset_eq hsettings
    cases hcase : (c.nextBetween opened now).1 with
    | ok delay => exact ⟨delay, rfl⟩
    | error fault =>
      exfalso
      rcases of_answer_error hcase with ⟨-, hsome, hlimit⟩ | ⟨-, hallows, hfits⟩
      · have hlt := hsum (hbudget ▸ hsome)
        have helapsed : (c.elapsed opened now).nanos ≤ now.nanos := Nat.sub_le _ _
        have hnow' : now.nanos ≤ horizon.nanos := hnow
        omega
      · rw [hmultiplier] at hfits
        exact hfits (hproduct fun budget h => hallows budget (hbudget.trans h))

/-- It is enough that the first delay and the limit fit. -/
theorem productOverflow_notMem_answers (hfirst : Fits b.initial b.multiplier)
    (hlimit : Fits b.maxInterval b.multiplier) (calls : List Call) :
    .error .productOverflow ∉ b.answers calls := by
  intro hmem
  obtain ⟨made, opened, now, rest, rfl, hanswer⟩ := mem_answers_iff.1 hmem
  obtain ⟨hmultiplier, -, -⟩ := settings_of_reset_eq ((reset_afterAll made b).trans hfresh)
  rcases of_answer_error hanswer.symm with ⟨hfault, -⟩ | ⟨-, -, hfits⟩
  · cases hfault
  · rw [hmultiplier] at hfits
    rcases (due_current hfresh made).eq_or_le with heq | hle
    · exact hfits (heq ▸ hfirst)
    · exact hfits (hlimit.mono hle)

end Fresh

end Backoff

/-- The settings with which the policy always answers, whatever the calls and the resets are, as
long as the clock does not pass `horizon`. The product of each delay that the policy may come to
has to fit, unless that delay is not allowed by the budget; and if there is a budget, the sum of
the delay and of any elapsed time has to be a length of time. That the products of the first delay
and of the limit fit is enough for all products. -/
theorem BackoffSettings.answers_iff_fits (s : BackoffSettings) (horizon : Duration) :
    let b := s.toBackoff
    (b.AlwaysAnswers horizon ↔
      ∀ delay, b.Due delay →
        (b.Allows delay → Backoff.Fits delay b.multiplier) ∧
        (b.maxElapsed.isSome → horizon.nanos + delay.nanos < durationLimit)) ∧
    (Backoff.Fits b.initial b.multiplier → Backoff.Fits b.maxInterval b.multiplier →
      ∀ calls, .error .productOverflow ∉ b.answers calls) := by
  intro b
  have hfresh : b.reset = b := rfl
  exact ⟨Backoff.alwaysAnswers_iff hfresh horizon,
    Backoff.productOverflow_notMem_answers hfresh⟩

/-- A file that changes nothing but the factor. The first attempt already has no answer, although
the limit of a minute would follow the first delay of half a second. -/
theorem TunnelsFile.huge_multiplier_faults :
    (TunnelsFile.parse ("tunnels:\n  rpc:\n    protocol: http\n    host: n1.example\n" ++
        "    local_address: http://127.0.0.1:8545\nbackoff:\n  multiplier: 1e300\n")).map
      (fun file => file.backoff.toBackoff.answers [.atOnce]) =
    .ok [.error .productOverflow] := by
  decide +kernel

end ReverseTunnel
