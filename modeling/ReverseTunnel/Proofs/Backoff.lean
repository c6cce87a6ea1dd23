import Mathlib.Data.List.DropRight
import ReverseTunnel.Backoff
import ReverseTunnel.Proofs.Duration

/-!
# Runs of the reconnect policy

A run is a sequence of attempts and resets, with what the clock shows at each attempt. It starts
over with every reset: the policy then answers as it did when it was constructed
(`answers_append_reset`), and it counts the elapsed time from the first attempt that follows
(`started_afterAll`).

An attempt has three outcomes (`nextBetween_cases`). It is answered with the current delay, with
the end of the budget, or not at all, and only the first of these moves the delay. So a policy
whose budget is spent stays what it is, and with a clock that does not go back the budget stays
spent (`ExhaustedAt.nextBetween`). That the budget is kept (`budget_kept`) puts these together.
-/

namespace ReverseTunnel.Backoff

/-! ## One attempt -/

/-- The policy once an attempt was made that began at some time. -/
def begun (b : Backoff) (opened : Duration) : Backoff :=
  { b with started := some (b.started.getD opened) }

/-- The time that an attempt finds elapsed. -/
def elapsed (b : Backoff) (opened now : Duration) : Duration :=
  now.since (b.started.getD opened)

section Attempt

variable (b : Backoff) (opened now : Duration)

/-- The outcomes of an attempt: a sum that overflows, the end of the budget, a product that is no
length of time, or the current delay. -/
theorem nextBetween_cases :
    (∃ fault, b.isOverBudget (b.elapsed opened now) = .error fault ∧
      b.nextBetween opened now = (.error fault, b.begun opened)) ∨
    (b.isOverBudget (b.elapsed opened now) = .ok true ∧
      b.nextBetween opened now = (.ok none, b.begun opened)) ∨
    (b.isOverBudget (b.elapsed opened now) = .ok false ∧ grow b.current b.multiplier = none ∧
      b.nextBetween opened now = (.error .productOverflow, b.begun opened)) ∨
    (b.isOverBudget (b.elapsed opened now) = .ok false ∧
      ∃ grown, grow b.current b.multiplier = some grown ∧
        b.nextBetween opened now =
          (.ok (some b.current), { b.begun opened with current := grown.min b.maxInterval })) := by
  unfold nextBetween
  dsimp only
  split
  · next fault hover => exact Or.inl ⟨fault, hover, rfl⟩
  · next hover => exact Or.inr (Or.inl ⟨hover, rfl⟩)
  · next hover =>
    split
    · next grown hgrown => exact Or.inr (Or.inr (Or.inr ⟨hover, grown, hgrown, rfl⟩))
    · next hnone => exact Or.inr (Or.inr (Or.inl ⟨hover, hnone, rfl⟩))

/-- Whatever the outcome, the attempt began, and only the current delay may have changed. -/
theorem nextBetween_snd :
    (b.nextBetween opened now).2 =
      { b.begun opened with current := (b.nextBetween opened now).2.current } := by
  rcases b.nextBetween_cases opened now with
    ⟨fault, -, h⟩ | ⟨-, h⟩ | ⟨-, -, h⟩ | ⟨-, grown, -, h⟩
  all_goals rw [h]

/-- No attempt changes what the policy starts over with. -/
theorem reset_nextBetween : (b.nextBetween opened now).2.reset = b.reset := by
  rw [nextBetween_snd]
  rfl

theorem started_nextBetween :
    (b.nextBetween opened now).2.started = some (b.started.getD opened) := by
  rw [nextBetween_snd]
  rfl

end Attempt

section Answers

variable {b : Backoff} {opened now : Duration}

/-- An answered delay is the current one and ends within the budget. The next one has grown, up to
the limit. -/
theorem of_answer_some {delay : Duration} (h : (b.nextBetween opened now).1 = .ok (some delay)) :
    delay = b.current ∧ b.isOverBudget (b.elapsed opened now) = .ok false ∧
      ∃ grown, grow b.current b.multiplier = some grown ∧
        (b.nextBetween opened now).2 =
          { b.begun opened with current := grown.min b.maxInterval } := by
  rcases b.nextBetween_cases opened now with
    ⟨fault, -, hcase⟩ | ⟨-, hcase⟩ | ⟨-, -, hcase⟩ | ⟨hover, grown, hgrow, hcase⟩
  all_goals rw [hcase] at h
  all_goals cases h
  exact ⟨rfl, hover, grown, hgrow, by rw [hcase]⟩

/-- An attempt without a delay leaves the current delay as it is. -/
theorem nextBetween_snd_of_vain (h : ∀ delay, (b.nextBetween opened now).1 ≠ .ok (some delay)) :
    (b.nextBetween opened now).2 = b.begun opened := by
  rcases b.nextBetween_cases opened now with
    ⟨fault, -, hcase⟩ | ⟨-, hcase⟩ | ⟨-, -, hcase⟩ | ⟨-, grown, -, hcase⟩
  · rw [hcase]
  · rw [hcase]
  · rw [hcase]
  · exact absurd (congrArg Prod.fst hcase) (h b.current)

/-- The two cases of an attempt, as far as the delays are concerned. -/
theorem delay_or_vain (b : Backoff) (opened now : Duration) :
    (∃ grown, (b.nextBetween opened now).1 = .ok (some b.current) ∧
      grow b.current b.multiplier = some grown ∧
      (b.nextBetween opened now).2 =
        { b.begun opened with current := grown.min b.maxInterval }) ∨
    ((∀ delay, (b.nextBetween opened now).1 ≠ .ok (some delay)) ∧
      (b.nextBetween opened now).2 = b.begun opened) := by
  by_cases hanswer : ∃ delay, (b.nextBetween opened now).1 = .ok (some delay)
  · obtain ⟨delay, hdelay⟩ := hanswer
    obtain ⟨rfl, -, grown, hgrown, hafter⟩ := of_answer_some hdelay
    exact Or.inl ⟨grown, hdelay, hgrown, hafter⟩
  · have hvain := not_exists.1 hanswer
    exact Or.inr ⟨hvain, nextBetween_snd_of_vain hvain⟩

/-- A policy that gives up is over its budget. -/
theorem of_answer_none (h : (b.nextBetween opened now).1 = .ok none) :
    b.isOverBudget (b.elapsed opened now) = .ok true ∧
      (b.nextBetween opened now).2 = b.begun opened := by
  refine ⟨?_, nextBetween_snd_of_vain fun delay hdelay => ?_⟩
  · rcases b.nextBetween_cases opened now with
      ⟨fault, -, hcase⟩ | ⟨hover, -⟩ | ⟨-, -, hcase⟩ | ⟨-, grown, -, hcase⟩
    · cases h.symm.trans (congrArg Prod.fst hcase)
    · exact hover
    · cases h.symm.trans (congrArg Prod.fst hcase)
    · cases h.symm.trans (congrArg Prod.fst hcase)
  · cases h.symm.trans hdelay

theorem add_le_of_isOverBudget {time budget : Duration} (hbudget : b.maxElapsed = some budget)
    (h : b.isOverBudget time = .ok false) : time.nanos + b.current.nanos ≤ budget.nanos := by
  unfold isOverBudget at h
  rw [hbudget] at h
  dsimp only at h
  split at h
  · next total htotal =>
    have hle : ¬ budget.nanos < total.nanos := of_decide_eq_false (Except.ok.inj h)
    rw [← Duration.add?_eq_some_iff.1 htotal] at hle
    exact Nat.not_lt.1 hle
  · cases h

/-- Only a budget is overrun. -/
theorem lt_add_of_isOverBudget {time : Duration} (h : b.isOverBudget time = .ok true) :
    ∃ budget, b.maxElapsed = some budget ∧ budget.nanos < time.nanos + b.current.nanos := by
  unfold isOverBudget at h
  split at h
  · cases h
  · next budget hbudget =>
    split at h
    · next total htotal =>
      have hlt : budget.nanos < total.nanos := of_decide_eq_true (Except.ok.inj h)
      rw [← Duration.add?_eq_some_iff.1 htotal] at hlt
      exact ⟨budget, hbudget, hlt⟩
    · cases h

end Answers

/-! ## Runs -/

/-- A call of the policy. The clock shows `opened` when an attempt begins and `now` when it
measures the elapsed time. -/
inductive Call where
  | next (opened now : Duration)
  | reset
  deriving DecidableEq

namespace Call

/-- The call is an attempt. -/
def isNext : Call → Bool
  | next .. => true
  | reset => false

/-- When an attempt begins. -/
def opened? : Call → Option Duration
  | next opened _ => some opened
  | reset => none

/-- What the clock shows during the call. -/
def readings : Call → List Duration
  | next opened now => [opened, now]
  | reset => []

end Call

/-- The policy after a call. -/
def after (b : Backoff) : Call → Backoff
  | .next opened now => (b.nextBetween opened now).2
  | .reset => b.reset

/-- The policy after some calls. -/
def afterAll (b : Backoff) (calls : List Call) : Backoff := calls.foldl after b

theorem afterAll_nil (b : Backoff) : b.afterAll [] = b := rfl

/-- The answers to the attempts of a run. -/
def answers (b : Backoff) : List Call → List (Except BackoffFault (Option Duration))
  | [] => []
  | .next opened now :: rest =>
    (b.nextBetween opened now).1 :: answers (b.nextBetween opened now).2 rest
  | .reset :: rest => answers b.reset rest

/-- The clock does not go back during the calls. -/
def Clocked (calls : List Call) : Prop := (calls.flatMap Call.readings).Pairwise (· ≤ ·)

instance (calls : List Call) : Decidable (Clocked calls) :=
  inferInstanceAs (Decidable (List.Pairwise _ _))

/-- When the first attempt since the last reset began. -/
def firstOpened (calls : List Call) : Option Duration :=
  ((calls.rtakeWhile Call.isNext).filterMap Call.opened?).head?

theorem reset_after (b : Backoff) (call : Call) : (b.after call).reset = b.reset := by
  cases call with
  | next opened now => exact b.reset_nextBetween opened now
  | reset => rfl

theorem reset_afterAll (calls : List Call) :
    ∀ b : Backoff, (b.afterAll calls).reset = b.reset := by
  induction calls with
  | nil => exact fun _ => rfl
  | cons call rest ih =>
    intro b
    exact (ih (b.after call)).trans (b.reset_after call)

theorem maxElapsed_afterAll (b : Backoff) (calls : List Call) :
    (b.afterAll calls).maxElapsed = b.maxElapsed := by
  have h := congrArg Backoff.maxElapsed (reset_afterAll calls b)
  exact h

theorem answers_append (calls later : List Call) :
    ∀ b : Backoff,
      b.answers (calls ++ later) = b.answers calls ++ (b.afterAll calls).answers later := by
  induction calls with
  | nil => exact fun _ => rfl
  | cons call rest ih =>
    intro b
    cases call with
    | next opened now => exact congrArg (_ :: ·) (ih _)
    | reset => exact ih b.reset

/-- After a reset the policy answers as it did when it was constructed. -/
theorem answers_append_reset (initial : Duration) (multiplier : Binary64)
    (maxInterval : Duration) (maxElapsed : Option Duration) (calls later : List Call) :
    (new initial multiplier maxInterval maxElapsed).answers (calls ++ .reset :: later) =
      (new initial multiplier maxInterval maxElapsed).answers calls ++
        (new initial multiplier maxInterval maxElapsed).answers later := by
  rw [answers_append]
  exact congrArg (_ ++ Backoff.answers · later) (reset_afterAll calls _)

/-- The elapsed time counts from the first attempt since the last reset. -/
theorem started_afterAll {b : Backoff} (hb : b.started = none) (calls : List Call) :
    (b.afterAll calls).started = firstOpened calls := by
  induction calls using List.reverseRecOn with
  | nil => exact hb
  | append_singleton calls call ih =>
    rw [afterAll, List.foldl_append]
    cases call with
    | reset =>
      rw [firstOpened, List.rtakeWhile_concat_neg _ _ _ (by exact Bool.false_ne_true)]
      rfl
    | next opened now =>
      rw [firstOpened, List.rtakeWhile_concat_pos _ _ _ rfl, List.filterMap_append,
        List.head?_append]
      change ((b.afterAll calls).nextBetween opened now).2.started =
        (firstOpened calls).or (some opened)
      rw [started_nextBetween, ih]
      cases firstOpened calls with
      | none => rfl
      | some first => rfl

/-! ## The budget -/

/-- From some time on the current delay ends after the budget. -/
def ExhaustedAt (b : Backoff) (time : Duration) : Prop :=
  ∃ start budget, b.started = some start ∧ b.maxElapsed = some budget ∧
    budget.nanos < (time.since start).nanos + b.current.nanos

theorem ExhaustedAt.of_answer {b : Backoff} {opened now : Duration}
    (h : (b.nextBetween opened now).1 = .ok none) :
    (b.nextBetween opened now).2.ExhaustedAt now := by
  obtain ⟨hover, hafter⟩ := of_answer_none h
  obtain ⟨budget, hbudget, hlt⟩ := lt_add_of_isOverBudget hover
  rw [hafter]
  exact ⟨_, budget, rfl, hbudget, hlt⟩

/-- An attempt with a spent budget is in vain, and changes nothing. -/
theorem ExhaustedAt.nextBetween {b : Backoff} {time now : Duration} (h : b.ExhaustedAt time)
    (opened : Duration) (hle : time ≤ now) :
    ((b.nextBetween opened now).1 = .ok none ∨
      (b.nextBetween opened now).1 = .error .sumOverflow) ∧
    (b.nextBetween opened now).2 = b := by
  obtain ⟨start, budget, hstart, hbudget, hlt⟩ := h
  have hbegun : b.begun opened = b := by
    cases b
    cases hstart
    rfl
  have hover : b.isOverBudget (b.elapsed opened now) = .ok true ∨
      b.isOverBudget (b.elapsed opened now) = .error .sumOverflow := by
    rw [elapsed, hstart, isOverBudget, hbudget]
    dsimp only
    cases htotal : (now.since ((some start).getD opened)).add? b.current with
    | none => exact Or.inr rfl
    | some total =>
      refine Or.inl (congrArg Except.ok (decide_eq_true ?_))
      -- Since the attempt that gave up, the elapsed time has only grown.
      have hle' : time.nanos ≤ now.nanos := hle
      change budget.nanos < total.nanos
      rw [← Duration.add?_eq_some_iff.1 htotal]
      change budget.nanos < now.nanos - start.nanos + b.current.nanos
      change budget.nanos < time.nanos - start.nanos + b.current.nanos at hlt
      omega
  rcases b.nextBetween_cases opened now with
    ⟨fault, hcase, h⟩ | ⟨-, h⟩ | ⟨hcase, -⟩ | ⟨hcase, -⟩
  · rw [h, hbegun]
    refine ⟨Or.inr ?_, rfl⟩
    rw [hcase] at hover
    rcases hover with hover | hover <;> cases hover
    rfl
  · rw [h, hbegun]
    exact ⟨Or.inl rfl, rfl⟩
  · rw [hcase] at hover
    rcases hover with hover | hover <;> cases hover
  · rw [hcase] at hover
    rcases hover with hover | hover <;> cases hover

/-- A spent budget stays spent until a reset. -/
theorem ExhaustedAt.answers {time : Duration} {calls : List Call}
    (hnext : ∀ call ∈ calls, call.isNext = true)
    (hlater : ∀ reading ∈ calls.flatMap Call.readings, time ≤ reading) :
    ∀ {b : Backoff}, b.ExhaustedAt time →
      ∀ answer ∈ b.answers calls, answer = .ok none ∨ answer = .error .sumOverflow := by
  induction calls with
  | nil =>
    intro b _ answer hanswer
    cases hanswer
  | cons call rest ih =>
    intro b hb answer hanswer
    cases call with
    | reset => exact absurd (hnext _ List.mem_cons_self) (by exact Bool.false_ne_true)
    | next opened now =>
      have hnow : time ≤ now := hlater now (by simp [Call.readings])
      obtain ⟨hin, hsame⟩ := hb.nextBetween opened hnow
      rw [Backoff.answers, hsame] at hanswer
      rcases List.mem_cons.1 hanswer with rfl | hrest
      · exact hin
      · refine ih (fun call hcall => hnext call (List.mem_cons_of_mem _ hcall)) ?_ hb answer hrest
        intro reading hreading
        apply hlater
        rw [List.flatMap_cons]
        exact List.mem_append_right _ hreading

theorem mem_readings_of_firstOpened {calls : List Call} {first : Duration}
    (h : firstOpened calls = some first) : first ∈ calls.flatMap Call.readings := by
  have hmem : first ∈ (calls.rtakeWhile Call.isNext).filterMap Call.opened? :=
    List.mem_of_mem_head? h
  obtain ⟨call, hcall, hopened⟩ := List.mem_filterMap.1 hmem
  refine List.mem_flatMap.2 ⟨call, (List.rtakeWhile_suffix _ _).subset hcall, ?_⟩
  cases call with
  | reset => cases hopened
  | next opened now =>
    cases hopened
    exact List.mem_cons_self

section Clock

variable {made rest : List Call} {opened now : Duration}
  (h : Clocked (made ++ .next opened now :: rest))
include h

/-- The first attempt since the last reset began no later than the clock shows now. -/
theorem firstOpened_le_of_clocked : (firstOpened made).getD opened ≤ now := by
  rw [Clocked, List.flatMap_append, List.flatMap_cons] at h
  obtain ⟨-, hcall, hmade⟩ := List.pairwise_append.1 h
  cases hfirst : firstOpened made with
  | none => exact List.rel_of_pairwise_cons hcall List.mem_cons_self
  | some first =>
    apply hmade first (mem_readings_of_firstOpened hfirst)
    exact List.mem_cons_of_mem _ List.mem_cons_self

theorem le_of_mem_readings_of_clocked {reading : Duration}
    (hreading : reading ∈ rest.flatMap Call.readings) : now ≤ reading := by
  rw [Clocked, List.flatMap_append, List.flatMap_cons] at h
  obtain ⟨-, hcall, -⟩ := List.pairwise_append.1 h
  exact (List.pairwise_append.1 hcall).2.2 now (List.mem_cons_of_mem _ List.mem_cons_self) reading
    hreading

end Clock

/-- With a clock that does not go back, the budget of elapsed time is kept. Every delay ends
within it, counted from the first attempt since the last reset. Once the policy has given up, no
attempt before the next reset is answered with a delay, and the current delay has not changed.
After a reset the policy answers as it did when it was constructed. -/
theorem budget_kept (initial : Duration) (multiplier : Binary64) (maxInterval budget : Duration)
    (calls : List Call) (hclock : Clocked calls) :
    let fresh := new initial multiplier maxInterval (some budget)
    (∀ made opened now rest, calls = made ++ .next opened now :: rest →
      let b := fresh.afterAll made
      let attempt := b.nextBetween opened now
      let start := (firstOpened made).getD opened
      (∀ delay, attempt.1 = .ok (some delay) →
        start ≤ now ∧ (now.since start).nanos + delay.nanos ≤ budget.nanos) ∧
      (attempt.1 = .ok none →
        attempt.2.current = b.current ∧
        ∀ answer ∈ attempt.2.answers (rest.takeWhile Call.isNext),
          answer = .ok none ∨ answer = .error .sumOverflow)) ∧
    ∀ made later, fresh.answers (made ++ .reset :: later) =
      fresh.answers made ++ fresh.answers later := by
  intro fresh
  refine ⟨?_, answers_append_reset initial multiplier maxInterval (some budget)⟩
  rintro made opened now rest rfl b attempt start
  have hbudget : b.maxElapsed = some budget := maxElapsed_afterAll fresh made
  have hstarted : b.started = firstOpened made := started_afterAll rfl made
  refine ⟨?_, ?_⟩
  · intro delay hdelay
    obtain ⟨rfl, hover, -⟩ := of_answer_some hdelay
    rw [elapsed, hstarted] at hover
    exact ⟨firstOpened_le_of_clocked hclock, add_le_of_isOverBudget hbudget hover⟩
  · intro hnone
    have hcurrent := congrArg Backoff.current (of_answer_none hnone).2
    refine ⟨hcurrent, ?_⟩
    apply (ExhaustedAt.of_answer hnone).answers
    · exact fun call hcall => List.mem_takeWhile_imp hcall
    · intro reading hreading
      obtain ⟨call, hcall, hin⟩ := List.mem_flatMap.1 hreading
      apply le_of_mem_readings_of_clocked hclock
      exact List.mem_flatMap.2 ⟨call, (List.takeWhile_sublist _).subset hcall, hin⟩

/-- After ten milliseconds and twenty the next forty are more than a budget of a hundred leaves
when the third attempt comes after seventy. -/
theorem budget_kept_spent :
    let fresh := new (.ofMillis 10) (.ofRatio false 2 1) (.ofMillis 100) (some (.ofMillis 100))
    let made := [Call.next (.ofMillis 0) (.ofMillis 0), .next (.ofMillis 30) (.ofMillis 30)]
    let rest := [Call.next (.ofMillis 80) (.ofMillis 80), .reset]
    let b := fresh.afterAll made
    let attempt := b.nextBetween (.ofMillis 70) (.ofMillis 70)
    attempt.1 = .ok none ∧ attempt.2.current = b.current ∧
      ∀ answer ∈ attempt.2.answers (rest.takeWhile Call.isNext),
        answer = .ok none ∨ answer = .error .sumOverflow := by
  intro fresh made rest b attempt
  have hclock : Clocked (made ++ .next (.ofMillis 70) (.ofMillis 70) :: rest) := by
    decide +kernel
  have hnone : attempt.1 = .ok none := by decide +kernel
  have hkept := budget_kept (.ofMillis 10) (.ofRatio false 2 1) (.ofMillis 100) (.ofMillis 100) _
    hclock
  have hspent := (hkept.1 made (.ofMillis 70) (.ofMillis 70) rest rfl).2 hnone
  dsimp only [attempt, b, fresh] at hnone ⊢
  exact ⟨hnone, hspent⟩

end ReverseTunnel.Backoff
