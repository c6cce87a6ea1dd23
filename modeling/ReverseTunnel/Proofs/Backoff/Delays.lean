import ReverseTunnel.Proofs.Backoff
import ReverseTunnel.Proofs.Backoff.Growth

/-!
# The delays of a run

A delay is limited when it grows, and not when it is taken from the settings. So the limit holds
of all delays but the first after a reset, and when the first exceeds it the second is shorter.
Rounding can make the second one shorter too, from `2 ^ 23` seconds on.

Nothing else goes wrong. The step from one delay to the next is monotone, so the delays of a
stretch without a reset rise if the second is not below the first (`Rising.delays`), and fall at
once otherwise. The settings for which all delays are within the limit, and those for which they
never shrink, are then known exactly (`delays_within_limit_and_rising_iff`).
-/

namespace ReverseTunnel.Backoff

/-! ## Delays -/

/-- The delay of an answer. -/
def delay? : Except BackoffFault (Option Duration) → Option Duration
  | .ok answer => answer
  | .error _ => none

/-- The delays that the attempts of a run are answered with. -/
def delays (b : Backoff) (calls : List Call) : List Duration := (b.answers calls).filterMap delay?

section Delays

variable {b : Backoff} {opened now : Duration}

theorem delays_cons_of_some {delay : Duration} (h : (b.nextBetween opened now).1 = .ok (some delay))
    (rest : List Call) :
    b.delays (.next opened now :: rest) = delay :: (b.nextBetween opened now).2.delays rest := by
  rw [delays, answers, h]
  rfl

theorem delays_cons_of_vain (h : ∀ delay, (b.nextBetween opened now).1 ≠ .ok (some delay))
    (rest : List Call) : b.delays (.next opened now :: rest) = (b.begun opened).delays rest := by
  rw [delays, answers, nextBetween_snd_of_vain h, List.filterMap_cons_none ?_]
  · rfl
  · cases hanswer : (b.nextBetween opened now).1 with
    | error fault => rfl
    | ok answer =>
      cases answer with
      | none => rfl
      | some delay => exact absurd hanswer (h delay)

end Delays

/-- Each delay of a run is the current one at some point of it. -/
theorem exists_of_mem_delays {delay : Duration} {calls : List Call} :
    ∀ {b : Backoff}, delay ∈ b.delays calls →
      ∃ made opened now,
        ((b.afterAll made).nextBetween opened now).1 = .ok (some delay) := by
  induction calls with
  | nil =>
    intro b h
    cases h
  | cons call rest ih =>
    intro b h
    have hrest : ∀ {c : Backoff}, b.after call = c → delay ∈ c.delays rest →
        ∃ made opened now,
          ((b.afterAll made).nextBetween opened now).1 = .ok (some delay) := by
      rintro c rfl hmem
      obtain ⟨made, opened, now, hdelay⟩ := ih hmem
      exact ⟨call :: made, opened, now, hdelay⟩
    cases call with
    | reset => exact hrest rfl h
    | next opened now =>
      rcases b.delay_or_vain opened now with ⟨grown, hfirst, -⟩ | ⟨hvain, hafter⟩
      · rw [delays_cons_of_some hfirst] at h
        rcases List.mem_cons.1 h with rfl | h
        · exact ⟨[], opened, now, hfirst⟩
        · exact hrest rfl h
      · rw [delays_cons_of_vain hvain] at h
        exact hrest hafter h

/-- What a reset brings about and every attempt preserves holds throughout a run. -/
theorem holds_afterAll {P : Backoff → Prop} {b : Backoff} (hb : P b) (hreset : P b.reset)
    (hnext : ∀ c opened now, P c → P (c.nextBetween opened now).2) (calls : List Call) :
    P (b.afterAll calls) := by
  induction calls using List.reverseRecOn with
  | nil => exact hb
  | append_singleton calls call ih =>
    rw [afterAll, List.foldl_append]
    cases call with
    | next opened now => exact hnext _ opened now ih
    | reset =>
      change P (b.afterAll calls).reset
      rw [reset_afterAll]
      exact hreset

/-! ## Policies that answer no delay -/

/-- No attempt is answered with a delay, since the current one alone is more than the budget or
since there is no length of time to follow it. -/
def IsMute (b : Backoff) : Prop :=
  (∃ budget, b.maxElapsed = some budget ∧ budget < b.current) ∨ grow b.current b.multiplier = none

theorem IsMute.answer_ne {b : Backoff} (h : b.IsMute) (opened now delay : Duration) :
    (b.nextBetween opened now).1 ≠ .ok (some delay) := by
  intro hanswer
  obtain ⟨rfl, hover, grown, hgrown, -⟩ := of_answer_some hanswer
  rcases h with ⟨budget, hbudget, hlt⟩ | hnone
  · have hlt' : budget.nanos < b.current.nanos := hlt
    have hle := add_le_of_isOverBudget hbudget hover
    omega
  · rw [hgrown] at hnone
    cases hnone

theorem IsMute.nextBetween {b : Backoff} (h : b.IsMute) (opened now : Duration) :
    (b.nextBetween opened now).2.IsMute := by
  rw [nextBetween_snd_of_vain (h.answer_ne opened now)]
  exact h

/-- Unless the policy is mute, its first attempt is answered with the current delay. -/
theorem nextBetween_of_not_isMute {b : Backoff} (h : ¬ b.IsMute) (time : Duration)
    (hstart : b.started.getD time = time) :
    ∃ grown, grow b.current b.multiplier = some grown ∧
      b.nextBetween time time =
        (.ok (some b.current), { b.begun time with current := grown.min b.maxInterval }) := by
  have hzero : (b.elapsed time time).nanos = 0 := by
    rw [elapsed, hstart, Duration.nanos_since, Nat.sub_self]
  rcases b.nextBetween_cases time time with
    ⟨fault, hover, -⟩ | ⟨hover, -⟩ | ⟨-, hgrow, -⟩ | ⟨-, hdelay⟩
  · -- No time has elapsed, so the sum is the current delay.
    unfold isOverBudget at hover
    have htotal : (b.elapsed time time).add? b.current = some b.current := by
      rw [Duration.add?_eq_some_iff, hzero, Nat.zero_add]
    rw [htotal] at hover
    split at hover <;> cases hover
  · obtain ⟨budget, hbudget, hlt⟩ := lt_add_of_isOverBudget hover
    rw [hzero, Nat.zero_add] at hlt
    exact absurd (Or.inl ⟨budget, hbudget, hlt⟩) h
  · exact absurd (Or.inr hgrow) h
  · exact hdelay

/-! ## The limit -/

/-- The limit is kept by every attempt, since it is applied where the delay grows. -/
theorem current_le_maxInterval_nextBetween {b : Backoff} (h : b.current ≤ b.maxInterval)
    (opened now : Duration) :
    (b.nextBetween opened now).2.current ≤ (b.nextBetween opened now).2.maxInterval := by
  rcases b.delay_or_vain opened now with ⟨grown, -, -, hafter⟩ | ⟨-, hafter⟩
  · rw [hafter]
    exact Duration.min_le_right
  · rw [hafter]
    exact h

/-! ## Rising delays -/

/-- The delay that would follow the current one is not below it. -/
def Rising (b : Backoff) : Prop :=
  ∀ grown, grow b.current b.multiplier = some grown → b.current ≤ grown.min b.maxInterval

/-- Once the delays rise they keep rising, since the step from one to the next is monotone. -/
theorem Rising.nextBetween {b : Backoff} (h : b.Rising) (opened now : Duration) :
    (b.nextBetween opened now).2.Rising ∧ b.current ≤ (b.nextBetween opened now).2.current := by
  rcases b.delay_or_vain opened now with ⟨grown, -, hgrown, hafter⟩ | ⟨-, hafter⟩
  · rw [hafter]
    refine ⟨?_, h grown hgrown⟩
    intro further hfurther
    obtain ⟨grown', hgrown', hle⟩ := grow_mono (h grown hgrown) hfurther
    cases hgrown.symm.trans hgrown'
    exact Duration.min_le_min_right hle
  · rw [hafter]
    exact ⟨h, Nat.le_refl _⟩

/-- The delays of a stretch without a reset rise from the current one on. -/
theorem Rising.delays {stretch : List Call} (hnext : ∀ call ∈ stretch, call.isNext = true) :
    ∀ {b : Backoff}, b.Rising →
      (b.delays stretch).Pairwise (· ≤ ·) ∧ ∀ delay ∈ b.delays stretch, b.current ≤ delay := by
  induction stretch with
  | nil => exact fun _ => ⟨List.Pairwise.nil, nofun⟩
  | cons call rest ih =>
    intro b hb
    cases call with
    | reset => exact absurd (hnext _ List.mem_cons_self) (by exact Bool.false_ne_true)
    | next opened now =>
      obtain ⟨hrising, hle⟩ := hb.nextBetween opened now
      obtain ⟨hpairwise, hfrom⟩ :=
        ih (fun call hcall => hnext call (List.mem_cons_of_mem _ hcall)) hrising
      have hfrom' : ∀ delay ∈ (b.nextBetween opened now).2.delays rest, b.current ≤ delay :=
        fun delay hdelay => Duration.le_trans hle (hfrom delay hdelay)
      rcases b.delay_or_vain opened now with ⟨grown, hdelay, -⟩ | ⟨hvain, hafter⟩
      · rw [delays_cons_of_some hdelay]
        refine ⟨List.Pairwise.cons hfrom' hpairwise, ?_⟩
        intro delay hmem
        rcases List.mem_cons.1 hmem with rfl | hmem
        · exact Nat.le_refl _
        · exact hfrom' delay hmem
      · rw [delays_cons_of_vain hvain, ← hafter]
        exact ⟨hpairwise, hfrom'⟩

/-! ## When the limit holds, and when the delays rise -/

/-- An attempt before any time has passed. -/
def Call.atOnce : Call := .next .zero .zero

section Fresh

variable {b : Backoff} (hfresh : b.reset = b)
include hfresh

theorem delays_afterAll_of_isMute (h : b.IsMute) (made calls : List Call) :
    (b.afterAll made).delays calls = [] := by
  rw [List.eq_nil_iff_forall_not_mem]
  intro delay hmem
  obtain ⟨further, opened, now, hdelay⟩ := exists_of_mem_delays hmem
  have hmute : (b.afterAll (made ++ further)).IsMute :=
    holds_afterAll h (hfresh.symm ▸ h) (fun c opened now hc => hc.nextBetween opened now) _
  rw [afterAll, List.foldl_append] at hmute
  exact hmute.answer_ne opened now delay hdelay

/-- The first delay is the one of the settings. -/
theorem delays_atOnce (h : ¬ b.IsMute) : b.delays [.atOnce] = [b.current] := by
  have hstart : b.started.getD .zero = .zero := by
    rw [← hfresh]
    rfl
  obtain ⟨grown, -, hfirst⟩ := nextBetween_of_not_isMute h .zero hstart
  exact delays_cons_of_some (congrArg Prod.fst hfirst) []

/-- If the second delay is below the first, it is answered too. -/
theorem exists_delays_of_not_rising (h : ¬ b.IsMute) (hrising : ¬ b.Rising) :
    ∃ second, second < b.current ∧ b.delays [.atOnce, .atOnce] = [b.current, second] := by
  have hstart : b.started.getD .zero = .zero := by
    rw [← hfresh]
    rfl
  obtain ⟨grown, hgrown, hfirst⟩ := nextBetween_of_not_isMute h .zero hstart
  have hlt : grown.min b.maxInterval < b.current := by
    apply Duration.lt_of_not_le
    intro hle
    apply hrising
    intro grown' hgrown'
    cases hgrown.symm.trans hgrown'
    exact hle
  -- A shorter delay fits into the budget, and it grows as the first one did.
  have hsecond : ¬ (b.nextBetween .zero .zero).2.IsMute := by
    rw [hfirst]
    rintro (⟨budget, hbudget, hover⟩ | hnone)
    · exact h (Or.inl ⟨budget, hbudget, Nat.lt_trans hover hlt⟩)
    · obtain ⟨further, hfurther, -⟩ := grow_mono (Duration.le_of_lt hlt) hgrown
      cases hnone.symm.trans hfurther
  obtain ⟨further, -, hanswer⟩ := nextBetween_of_not_isMute hsecond .zero (by
    rw [started_nextBetween, hstart]
    rfl)
  refine ⟨grown.min b.maxInterval, hlt, ?_⟩
  rw [Call.atOnce, delays_cons_of_some (congrArg Prod.fst hfirst),
    delays_cons_of_some (congrArg Prod.fst hanswer), hfirst]
  rfl

/-- All delays are within the limit unless the first one exceeds it. -/
theorem delays_within_limit_iff :
    (∀ calls, Clocked calls → ∀ delay ∈ b.delays calls, delay ≤ b.maxInterval) ↔
      b.IsMute ∨ b.current ≤ b.maxInterval := by
  constructor
  · intro h
    rw [or_iff_not_imp_left]
    intro hmute
    apply h [.atOnce] (by decide)
    rw [delays_atOnce hfresh hmute]
    exact List.mem_cons_self
  · rintro (hmute | hle) calls - delay hmem
    · rw [← afterAll_nil b, delays_afterAll_of_isMute hfresh hmute] at hmem
      cases hmem
    · obtain ⟨made, opened, now, hdelay⟩ := exists_of_mem_delays hmem
      have hlimit : (b.afterAll made).current ≤ (b.afterAll made).maxInterval :=
        holds_afterAll (P := fun c => c.current ≤ c.maxInterval) hle (by rw [hfresh]; exact hle)
          (fun c opened now hc => current_le_maxInterval_nextBetween hc opened now) made
      have hsame : (b.afterAll made).maxInterval = b.maxInterval := by
        have hreset := congrArg Backoff.maxInterval (reset_afterAll made b)
        exact hreset
      obtain ⟨rfl, -⟩ := of_answer_some hdelay
      rw [← hsame]
      exact hlimit

/-- The delays of all stretches without a reset rise unless the second is below the first. -/
theorem delays_rising_iff :
    (∀ made stretch, Clocked (made ++ stretch) → (∀ call ∈ stretch, call.isNext = true) →
      ((b.afterAll made).delays stretch).Pairwise (· ≤ ·)) ↔
    b.IsMute ∨ b.Rising := by
  constructor
  · intro h
    rw [or_iff_not_imp_left]
    intro hmute
    by_contra hrising
    obtain ⟨second, hlt, hdelays⟩ := exists_delays_of_not_rising hfresh hmute hrising
    have hpairwise := h [] [.atOnce, .atOnce] (by decide) (by decide)
    rw [afterAll_nil, hdelays] at hpairwise
    exact Duration.not_le_of_lt hlt (List.rel_of_pairwise_cons hpairwise List.mem_cons_self)
  · rintro (hmute | hrising) made stretch - hnext
    · rw [delays_afterAll_of_isMute hfresh hmute]
      exact List.Pairwise.nil
    · have hmade : (b.afterAll made).Rising :=
        holds_afterAll hrising (hfresh.symm ▸ hrising)
          (fun c opened now hc => (hc.nextBetween opened now).1) made
      exact (hmade.delays hnext).1

end Fresh

/-- The settings for which the delays are as one expects, whatever the calls and the resets and
whenever they are made. The delays are all within the limit if the first one is, and they do not
shrink between two resets if moreover the first product is not below the first delay. For first
delays below `2 ^ 23` seconds the latter is no condition. A policy that never answers a delay is
excepted. -/
theorem delays_within_limit_and_rising_iff (initial : Duration) (multiplier : Binary64)
    (maxInterval : Duration) (maxElapsed : Option Duration) :
    let fresh := new initial multiplier maxInterval maxElapsed
    ((∀ calls, Clocked calls → ∀ delay ∈ fresh.delays calls, delay ≤ maxInterval) ↔
      fresh.IsMute ∨ initial ≤ maxInterval) ∧
    ((∀ made stretch, Clocked (made ++ stretch) → (∀ call ∈ stretch, call.isNext = true) →
        ((fresh.afterAll made).delays stretch).Pairwise (· ≤ ·)) ↔
      fresh.IsMute ∨
        ∃ grown, grow initial multiplier = some grown ∧ initial ≤ grown ∧ initial ≤ maxInterval) ∧
    (initial.nanos < 2 ^ 23 * nanosPerSecond →
      ∀ grown, grow initial multiplier = some grown → initial ≤ grown) := by
  intro fresh
  have hrising : fresh.IsMute ∨ fresh.Rising ↔ fresh.IsMute ∨
      ∃ grown, grow initial multiplier = some grown ∧ initial ≤ grown ∧ initial ≤ maxInterval := by
    cases hgrow : grow initial multiplier with
    | none => exact iff_of_true (Or.inl (Or.inr hgrow)) (Or.inl (Or.inr hgrow))
    | some grown =>
      apply or_congr_right
      constructor
      · exact fun h => ⟨grown, rfl, Duration.le_min_iff.1 (h grown hgrow)⟩
      · rintro ⟨_, ⟨⟩, hle⟩ grown' hgrown'
        cases hgrow.symm.trans hgrown'
        exact Duration.le_min_iff.2 hle
  exact ⟨delays_within_limit_iff rfl, (delays_rising_iff rfl).trans hrising,
    fun hsmall grown hgrown => le_grow hsmall hgrown⟩

/-- A first delay of two seconds is answered as it is, and only the second one is limited. -/
theorem first_delay_exceeds_limit :
    (new (.ofSeconds 2) (.ofRatio false 2 1) (.ofSeconds 1) none).delays [.atOnce, .atOnce] =
      [.ofSeconds 2, .ofSeconds 1] := by
  decide +kernel

end ReverseTunnel.Backoff
