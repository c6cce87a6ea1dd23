import Mathlib.Data.List.DropRight
import ReverseTunnel.Client.DialLoop
import ReverseTunnel.Proofs.Backoff

/-!
# The course of a client's dials

The policy outlives the calls of a client, and the time of the last lost connection does not. So
a round of the loop depends on two histories: on the failed dials since the last successful one,
in whichever call they were made, and on the connections that this call lost.

The loop keeps both (`called_run`, `lastClosed_of_running`). From them follows what each round
does (`round_of_running`): which ends are final, when a lost connection is one too many, and which
delay a failed dial is answered with. The policy is called once for each dial, and no call ends as
stopped unless the client was told to stop (`tellsStop_of_run`). Together they are the course of
every call (`course_of_start`).

A policy answers as it does after its last reset, or as it was built, when it is asked as many
times as dials have failed since. For the exponential policy the two are the same
(`restarted_exponential`).
-/

namespace ReverseTunnel

namespace Client

/-! ## Histories of dials -/

namespace DialResult

/-- The dial failed. -/
def isFailed : DialResult → Bool
  | .failed .. => true
  | .served .. => false

/-- The time at which a dial failed. -/
def failedAt? : DialResult → Option Duration
  | .failed _ time => some time
  | .served .. => none

/-- The time at which a connection was lost. -/
def closedAt? : DialResult → Option Duration
  | .served .closed time => some time
  | _ => none

/-- What the loop asks of the policy after a dial. -/
def policyCall : DialResult → PolicyCall
  | .failed .. => .next
  | .served .. => .reset

end DialResult

/-- The times of the failed dials since the last successful one. -/
def failuresSince (dials : List DialResult) : List Duration :=
  (dials.rtakeWhile DialResult.isFailed).filterMap DialResult.failedAt?

/-- The time of the last lost connection. -/
def lastLost (dials : List DialResult) : Option Duration :=
  (dials.filterMap DialResult.closedAt?).getLast?

namespace Policy

variable {σ : Type} (p : Policy σ)

/-- The policy after a dial. -/
def afterDial (state : σ) : DialResult → σ
  | .failed _ time => (p.next state time).2
  | .served .. => p.reset state

/-- The policy after it was asked at some times. -/
def asked (state : σ) (times : List Duration) : σ :=
  times.foldl (fun state time => (p.next state time).2) state

/-- The policy as it was when it last started over: after the reset that the last successful
dial brought, or as it was built. -/
def restarted (fresh : σ) (dials : List DialResult) : σ :=
  (dials.rdropWhile DialResult.isFailed).foldl p.afterDial fresh

theorem foldl_afterDial_of_isFailed {dials : List DialResult} :
    ∀ {state : σ}, (∀ dial ∈ dials, dial.isFailed = true) →
      dials.foldl p.afterDial state = p.asked state (dials.filterMap DialResult.failedAt?) := by
  induction dials with
  | nil => exact fun _ => rfl
  | cons dial rest ih =>
    intro state hfailed
    cases dial with
    | served ending time => exact nomatch hfailed _ List.mem_cons_self
    | failed fault time =>
      apply ih
      intro dial hdial
      exact hfailed dial (List.mem_cons_of_mem _ hdial)

/-- A policy is where it started over, asked once for each failed dial since. -/
theorem foldl_afterDial (fresh : σ) (dials : List DialResult) :
    dials.foldl p.afterDial fresh = p.asked (p.restarted fresh dials) (failuresSince dials) := by
  have hfailed : ∀ dial ∈ dials.rtakeWhile DialResult.isFailed, dial.isFailed = true :=
    fun dial hdial => List.mem_rtakeWhile_imp hdial
  calc dials.foldl p.afterDial fresh
      = (dials.rdropWhile DialResult.isFailed ++ dials.rtakeWhile DialResult.isFailed).foldl
          p.afterDial fresh := by rw [List.rdropWhile_append_rtakeWhile]
    _ = (dials.rtakeWhile DialResult.isFailed).foldl p.afterDial (p.restarted fresh dials) :=
        List.foldl_append
    _ = p.asked (p.restarted fresh dials) (failuresSince dials) :=
        p.foldl_afterDial_of_isFailed hfailed

/-- The answer to a dial that failed after some others: the policy was asked once for each failed
dial since it last started over, and is asked once more. -/
def answer (fresh : σ) (past : List DialResult) (time : Duration) :
    Except BackoffFault (Option Duration) :=
  (p.next (p.asked (p.restarted fresh past) (failuresSince past)) time).1

theorem restarted_append_failed (fresh : σ) (dials : List DialResult) (fault : Fault)
    (time : Duration) :
    p.restarted fresh (dials ++ [.failed fault time]) = p.restarted fresh dials := by
  rw [restarted, List.rdropWhile_concat_pos _ _ _ rfl]
  rfl

theorem restarted_append_served (fresh : σ) (dials : List DialResult) (ending : ConnectionEnd)
    (time : Duration) :
    p.restarted fresh (dials ++ [.served ending time]) =
      p.reset (dials.foldl p.afterDial fresh) := by
  rw [restarted, List.rdropWhile_concat_neg _ _ _ (by exact Bool.false_ne_true),
    List.foldl_append]
  rfl

/-- The exponential policy starts over as it was made. -/
theorem restarted_exponential (initial : Duration) (multiplier : Binary64)
    (maxInterval : Duration) (maxElapsed : Option Duration) (dials : List DialResult) :
    exponential.restarted (.new initial multiplier maxInterval maxElapsed) dials =
      .new initial multiplier maxInterval maxElapsed := by
  have hreset : ∀ dials : List DialResult,
      (dials.foldl exponential.afterDial
        (.new initial multiplier maxInterval maxElapsed)).reset =
          .new initial multiplier maxInterval maxElapsed := by
    intro dials
    induction dials using List.reverseRecOn with
    | nil => rfl
    | append_singleton dials dial ih =>
      rw [List.foldl_append]
      cases dial with
      | failed fault time => exact (Backoff.reset_nextBetween _ time time).trans ih
      | served ending time => exact ih
  induction dials using List.reverseRecOn with
  | nil => rfl
  | append_singleton dials dial ih =>
    cases dial with
    | failed fault time => rw [restarted_append_failed, ih]
    | served ending time =>
      rw [restarted_append_served]
      exact hreset dials

end Policy

/-! ## Calls of the client -/

namespace Attempt

/-- The round comes to a dial, and this is its result. -/
def Dials (a : Attempt) (result : DialResult) : Prop := a.stopBefore = false ∧ a.result = result

/-- The client is told to stop at some time of the round. -/
def TellsStop (a : Attempt) : Prop :=
  a.stopBefore = true ∨ (∃ time, a.result = .served .stopped time) ∨ a.stopInWait = true

end Attempt

namespace DialLoop

variable {σ : Type} (p : Policy σ)

/-- The dials that a call makes. -/
def dials (l : DialLoop σ) : List Attempt → List DialResult
  | [] => []
  | a :: rest =>
    if a.stopBefore then []
    else
      a.result ::
        match step p l a with
        | (_, some _) => []
        | (l, none) => dials l rest

/-- The policy after some calls of the client, and the dials that they made. -/
def afterCalls (fresh : σ) (calls : List (List Attempt)) : σ × List DialResult :=
  calls.foldl
    (fun (state, past) script =>
      ((run p (start state) script).1.policy, past ++ dials p (start state) script))
    (fresh, [])

/-! ## Single rounds -/

theorem step_of_stopBefore (l : DialLoop σ) {a : Attempt} (h : a.stopBefore = true) :
    step p l a = (l, some .stopped) :=
  if_pos h

theorem step_of_served (l : DialLoop σ) {a : Attempt} {ending : ConnectionEnd} {time : Duration}
    (h : a.Dials (.served ending time)) : step p l a = afterServing p l ending time := by
  rw [step, h.1, h.2]
  rfl

theorem step_of_failed (l : DialLoop σ) {a : Attempt} {fault : Fault} {time : Duration}
    (h : a.Dials (.failed fault time)) :
    step p l a = afterFailure p l fault time a.stopInWait := by
  rw [step, h.1, h.2]
  rfl

/-- The loop after a call of the policy. -/
def calling (l : DialLoop σ) (policy : σ) (call : PolicyCall) : DialLoop σ :=
  { l with policy, calls := call :: l.calls }

theorem step_of_cut {l : DialLoop σ} {a : Attempt} {time : Duration}
    (h : a.Dials (.served .closed time)) (hrecent : l.closedRecently time = true) :
    step p l a = (l.calling (p.reset l.policy) .reset, some (.failed .connectionCut)) := by
  rw [step_of_served p l h]
  exact if_pos hrecent

theorem step_of_lost {l : DialLoop σ} {a : Attempt} {time : Duration}
    (h : a.Dials (.served .closed time)) (hrecent : ¬ l.closedRecently time = true) :
    step p l a =
      ({ l.calling (p.reset l.policy) .reset with lastClosed := some time }, none) := by
  rw [step_of_served p l h]
  exact if_neg hrecent

section Failed

variable {p} {l : DialLoop σ} {a : Attempt} {fault : Fault} {time : Duration}
  (h : a.Dials (.failed fault time))
include h

theorem step_of_delay {delay : Duration} (hnext : (p.next l.policy time).1 = .ok (some delay)) :
    step p l a =
      ({ l.calling (p.next l.policy time).2 .next with waits := delay :: l.waits },
        if a.stopInWait then some .stopped else none) := by
  rw [step_of_failed p l h, afterFailure]
  dsimp only
  rw [hnext]
  rfl

theorem step_of_giveUp (hnext : (p.next l.policy time).1 = .ok none) :
    step p l a = (l.calling (p.next l.policy time).2 .next,
      some (.failed (.backoffExhausted fault.message))) := by
  rw [step_of_failed p l h, afterFailure]
  dsimp only
  rw [hnext]
  rfl

theorem step_of_crash {crash : BackoffFault}
    (hnext : (p.next l.policy time).1 = .error crash) :
    step p l a = (l.calling (p.next l.policy time).2 .next, some (.crashed crash)) := by
  rw [step_of_failed p l h, afterFailure]
  dsimp only
  rw [hnext]
  rfl

end Failed

/-- A round that the loop survives comes to a dial, and the loop notes a connection that was
lost in it. -/
theorem noted_of_step {l l' : DialLoop σ} {a : Attempt} (h : step p l a = (l', none)) :
    a.stopBefore = false ∧ l'.lastClosed = a.result.closedAt?.or l.lastClosed := by
  cases hstop : a.stopBefore with
  | true =>
    rw [step_of_stopBefore p l hstop] at h
    cases h
  | false =>
    cases hresult : a.result with
    | failed fault time =>
      rw [step_of_failed p l ⟨hstop, hresult⟩] at h
      unfold afterFailure at h
      dsimp only at h
      split at h
      · cases h
      · cases h
      · obtain ⟨rfl, -⟩ := Prod.mk.inj h
        exact ⟨rfl, rfl⟩
    | served ending time =>
      rw [step_of_served p l ⟨hstop, hresult⟩] at h
      cases ending with
      | stopped => cases h
      | rejected reason => cases h
      | closed =>
        unfold afterServing at h
        dsimp only at h
        split at h
        · cases h
        · cases h
          exact ⟨rfl, rfl⟩

/-- Whether or not the loop survives a dial, the policy was called once for it. -/
theorem called_of_step (l : DialLoop σ) {a : Attempt} (h : a.stopBefore = false) :
    (step p l a).1.policy = p.afterDial l.policy a.result ∧
      (step p l a).1.calls = a.result.policyCall :: l.calls := by
  cases hresult : a.result with
  | failed fault time =>
    rw [step_of_failed p l ⟨h, hresult⟩]
    unfold afterFailure
    dsimp only
    split
    · exact ⟨rfl, rfl⟩
    · exact ⟨rfl, rfl⟩
    · exact ⟨rfl, rfl⟩
  | served ending time =>
    rw [step_of_served p l ⟨h, hresult⟩]
    cases ending with
    | stopped => exact ⟨rfl, rfl⟩
    | rejected reason => exact ⟨rfl, rfl⟩
    | closed =>
      unfold afterServing
      dsimp only
      split
      · exact ⟨rfl, rfl⟩
      · exact ⟨rfl, rfl⟩

/-- A round ends the loop as stopped only if the client is told to stop in it. -/
theorem tellsStop_of_step {l : DialLoop σ} {a : Attempt}
    (h : (step p l a).2 = some .stopped) : a.TellsStop := by
  cases hstop : a.stopBefore with
  | true => exact .inl hstop
  | false =>
    cases hresult : a.result with
    | failed fault time =>
      rw [step_of_failed p l ⟨hstop, hresult⟩] at h
      unfold afterFailure at h
      dsimp only at h
      split at h
      · cases h
      · cases h
      · cases hwait : a.stopInWait with
        | true => exact .inr (.inr hwait)
        | false =>
          rw [hwait] at h
          cases h
    | served ending time =>
      cases ending with
      | stopped => exact .inr (.inl ⟨time, hresult⟩)
      | rejected reason =>
        rw [step_of_served p l ⟨hstop, hresult⟩] at h
        cases h
      | closed =>
        rw [step_of_served p l ⟨hstop, hresult⟩] at h
        unfold afterServing at h
        dsimp only at h
        split at h
        · cases h
        · cases h

/-! ## Whole calls -/

theorem run_cons_of_none {l l' : DialLoop σ} {a : Attempt} (h : step p l a = (l', none))
    (rest : List Attempt) : run p l (a :: rest) = run p l' rest := by
  rw [run, h]

theorem run_cons_of_some {l l' : DialLoop σ} {a : Attempt} {ending : LoopEnd}
    (h : step p l a = (l', some ending)) (rest : List Attempt) :
    run p l (a :: rest) = (l', some ending) := by
  rw [run, h]

theorem dials_cons_of_none {l l' : DialLoop σ} {a : Attempt} (h : step p l a = (l', none))
    (rest : List Attempt) : dials p l (a :: rest) = a.result :: dials p l' rest := by
  rw [dials, (noted_of_step p h).1, h]
  rfl

theorem dials_cons_of_some {l l' : DialLoop σ} {a : Attempt} {ending : LoopEnd}
    (hdial : a.stopBefore = false) (h : step p l a = (l', some ending)) (rest : List Attempt) :
    dials p l (a :: rest) = [a.result] := by
  rw [dials, hdial, h]
  rfl

/-- What follows rounds that the loop survives starts where they left it, and each of them made
its dial. -/
theorem run_append_of_running {made : List Attempt} :
    ∀ {l l' : DialLoop σ}, run p l made = (l', none) → ∀ rest,
      run p l (made ++ rest) = run p l' rest ∧
        dials p l (made ++ rest) = made.map Attempt.result ++ dials p l' rest := by
  induction made with
  | nil =>
    intro l l' h rest
    cases h
    exact ⟨rfl, rfl⟩
  | cons a made ih =>
    intro l l' h rest
    cases hstep : step p l a with
    | mk next ending =>
      cases ending with
      | some ending =>
        rw [run_cons_of_some p hstep] at h
        cases h
      | none =>
        rw [run_cons_of_none p hstep] at h
        obtain ⟨hrun, hdials⟩ := ih h rest
        rw [List.cons_append, run_cons_of_none p hstep, dials_cons_of_none p hstep, hrun, hdials]
        exact ⟨rfl, rfl⟩

/-- A call that goes on noted the last connection that it lost. -/
theorem lastClosed_of_running {made : List Attempt} :
    ∀ {l l' : DialLoop σ}, run p l made = (l', none) →
      l'.lastClosed = (lastLost (made.map Attempt.result)).or l.lastClosed := by
  induction made with
  | nil =>
    intro l l' h
    cases h
    rfl
  | cons a made ih =>
    intro l l' h
    cases hstep : step p l a with
    | mk next ending =>
      cases ending with
      | some ending =>
        rw [run_cons_of_some p hstep] at h
        cases h
      | none =>
        rw [run_cons_of_none p hstep] at h
        rw [ih h, (noted_of_step p hstep).2, lastLost, lastLost, List.map_cons,
          List.filterMap_cons]
        cases hclosed : a.result.closedAt? with
        | none => rfl
        | some time =>
          dsimp only
          rw [List.getLast?_cons, Option.some_or]
          cases (List.filterMap DialResult.closedAt? (List.map Attempt.result made)).getLast? with
          | none => rfl
          | some last => rfl

/-- A call leaves the policy as its dials make it, and called it once for each of them. -/
theorem called_run (script : List Attempt) :
    ∀ l : DialLoop σ,
      (run p l script).1.policy = (dials p l script).foldl p.afterDial l.policy ∧
        (run p l script).1.calls.reverse =
          l.calls.reverse ++ (dials p l script).map DialResult.policyCall := by
  induction script with
  | nil =>
    intro l
    exact ⟨rfl, (List.append_nil _).symm⟩
  | cons a rest ih =>
    intro l
    cases hstop : a.stopBefore with
    | true =>
      rw [run_cons_of_some p (step_of_stopBefore p l hstop), dials, if_pos hstop]
      exact ⟨rfl, (List.append_nil _).symm⟩
    | false =>
      obtain ⟨hpolicy, hcalls⟩ := called_of_step p l hstop
      cases hstep : step p l a with
      | mk next ending =>
        rw [hstep] at hpolicy hcalls
        dsimp only at hpolicy hcalls
        cases ending with
        | some ending =>
          rw [run_cons_of_some p hstep, dials_cons_of_some p hstop hstep]
          refine ⟨hpolicy, ?_⟩
          rw [hcalls, List.reverse_cons]
          rfl
        | none =>
          obtain ⟨hpolicy', hcalls'⟩ := ih next
          rw [run_cons_of_none p hstep, dials_cons_of_none p hstep]
          refine ⟨?_, ?_⟩
          · rw [hpolicy', hpolicy]
            rfl
          · rw [hcalls', hcalls, List.reverse_cons, List.append_assoc]
            rfl

/-- No call ends as stopped unless the client was told to stop. -/
theorem tellsStop_of_run {script : List Attempt} :
    ∀ {l : DialLoop σ}, (run p l script).2 = some .stopped → ∃ a ∈ script, a.TellsStop := by
  induction script with
  | nil =>
    intro l h
    cases h
  | cons a rest ih =>
    intro l h
    cases hstep : step p l a with
    | mk next ending =>
      cases ending with
      | some ending =>
        rw [run_cons_of_some p hstep] at h
        refine ⟨a, List.mem_cons_self, tellsStop_of_step p (l := l) ?_⟩
        rw [hstep]
        exact h
      | none =>
        rw [run_cons_of_none p hstep] at h
        obtain ⟨b, hb, htells⟩ := ih h
        exact ⟨b, List.mem_cons_of_mem _ hb, htells⟩

/-- Some calls leave the policy as their dials make it. -/
theorem afterCalls_fst (fresh : σ) (calls : List (List Attempt)) :
    (afterCalls p fresh calls).1 = (afterCalls p fresh calls).2.foldl p.afterDial fresh := by
  induction calls using List.reverseRecOn with
  | nil => rfl
  | append_singleton calls script ih =>
    rw [afterCalls, List.foldl_append]
    change (run p (start (afterCalls p fresh calls).1) script).1.policy =
      ((afterCalls p fresh calls).2 ++ dials p (start (afterCalls p fresh calls).1) script).foldl
        p.afterDial fresh
    rw [List.foldl_append, ← ih]
    exact (called_run p script _).1

/-! ## The course of a call -/

/-- A connection that is lost at `now` is one too many if the last one was lost less than five
seconds before. -/
theorem closedRecently_iff {l : DialLoop σ} {now : Duration} :
    l.closedRecently now = true ↔ ∃ previous, l.lastClosed = some previous ∧
      now.nanos < previous.nanos + 5 * nanosPerSecond := by
  have hgrace : gracePeriod.nanos = 5 * nanosPerSecond := rfl
  rw [closedRecently]
  cases l.lastClosed with
  | none => simp
  | some previous =>
    simp only [decide_eq_true_eq, Option.some.injEq, exists_eq_left']
    change now.nanos - previous.nanos < gracePeriod.nanos ↔ _
    rw [hgrace]
    have hpositive : 0 < 5 * nanosPerSecond := by decide
    omega

/-- What becomes of a call at one of its rounds. The client has made the dials `past` since it
was built, and the dials `made` in this call; `rest` are the attempts after the round, and
`outcome` and `dialed` come of the call as a whole. -/
structure Round (fresh : σ) (past made : List DialResult) (l : DialLoop σ) (a : Attempt)
    (rest : List Attempt) (outcome : DialLoop σ × Option LoopEnd) (dialed : List DialResult) :
    Prop where
  /-- A stop is noticed before the dial. -/
  stopped : a.stopBefore = true → outcome = (l, some .stopped) ∧ dialed = made
  /-- A stop ends a connection, and the call with it. -/
  left : ∀ time, a.Dials (.served .stopped time) →
    outcome.2 = some .stopped ∧ dialed = made ++ [a.result]
  /-- A rejection is final. -/
  rejected : ∀ reason time, a.Dials (.served (.rejected reason) time) →
    outcome.2 = some (.failed (.rejected reason)) ∧ dialed = made ++ [a.result]
  /-- The second connection that is lost within five seconds is the last. -/
  cut : ∀ previous time, a.Dials (.served .closed time) → lastLost made = some previous →
    time.nanos < previous.nanos + 5 * nanosPerSecond →
    outcome.2 = some (.failed .connectionCut) ∧ dialed = made ++ [a.result]
  /-- After any other lost connection the next round follows without a wait. -/
  redialed : ∀ time, a.Dials (.served .closed time) →
    (∀ previous, lastLost made = some previous →
      previous.nanos + 5 * nanosPerSecond ≤ time.nanos) →
    ∃ l', l'.waits = l.waits ∧ l'.calls = .reset :: l.calls ∧ outcome = run p l' rest ∧
      dialed = made ++ a.result :: dials p l' rest
  /-- A failed dial is followed by the wait that the policy answers, unless a stop ends it. -/
  waited : ∀ fault time delay, a.Dials (.failed fault time) →
    p.answer fresh past time = .ok (some delay) →
    ∃ l', l'.waits = delay :: l.waits ∧ l'.calls = .next :: l.calls ∧
      if a.stopInWait then outcome = (l', some .stopped) ∧ dialed = made ++ [a.result]
      else outcome = run p l' rest ∧ dialed = made ++ a.result :: dials p l' rest
  /-- Without a wait the call ends with the fault of the dial. -/
  gaveUp : ∀ fault time, a.Dials (.failed fault time) → p.answer fresh past time = .ok none →
    outcome.2 = some (.failed (.backoffExhausted fault.message)) ∧ outcome.1.waits = l.waits ∧
      dialed = made ++ [a.result]
  /-- Nor does a call survive a policy that has no answer. -/
  crashed : ∀ fault time crash, a.Dials (.failed fault time) →
    p.answer fresh past time = .error crash →
    outcome.2 = some (.crashed crash) ∧ dialed = made ++ [a.result]

section Running

variable {p} {first l : DialLoop σ} {made : List Attempt} (hrunning : run p first made = (l, none))
include hrunning

theorem ended_of_step {l' : DialLoop σ} {a : Attempt} {ending : LoopEnd}
    (hdial : a.stopBefore = false) (h : step p l a = (l', some ending)) (rest : List Attempt) :
    run p first (made ++ a :: rest) = (l', some ending) ∧
      dials p first (made ++ a :: rest) = made.map Attempt.result ++ [a.result] := by
  obtain ⟨hrun, hdials⟩ := run_append_of_running p hrunning (a :: rest)
  rw [hrun, hdials, run_cons_of_some p h, dials_cons_of_some p hdial h]
  exact ⟨rfl, rfl⟩

theorem goesOn_of_step {l' : DialLoop σ} {a : Attempt} (h : step p l a = (l', none))
    (rest : List Attempt) :
    run p first (made ++ a :: rest) = run p l' rest ∧
      dials p first (made ++ a :: rest) =
        made.map Attempt.result ++ a.result :: dials p l' rest := by
  obtain ⟨hrun, hdials⟩ := run_append_of_running p hrunning (a :: rest)
  rw [hrun, hdials, run_cons_of_none p h, dials_cons_of_none p h]
  exact ⟨rfl, rfl⟩

/-- A round does what the two histories say. -/
theorem round_of_running {fresh : σ} {past : List DialResult}
    (hpolicy : l.policy = p.asked (p.restarted fresh past) (failuresSince past))
    (hclosed : l.lastClosed = lastLost (made.map Attempt.result)) (a : Attempt)
    (rest : List Attempt) :
    Round p fresh past (made.map Attempt.result) l a rest (run p first (made ++ a :: rest))
      (dials p first (made ++ a :: rest)) := by
  have hanswer : ∀ {time answer}, p.answer fresh past time = answer →
      (p.next l.policy time).1 = answer := by
    intro time answer h
    rw [hpolicy]
    exact h
  constructor
  case stopped =>
    intro hstop
    obtain ⟨hrun, hdials⟩ := run_append_of_running p hrunning (a :: rest)
    rw [hrun, hdials, run_cons_of_some p (step_of_stopBefore p l hstop), dials, if_pos hstop]
    exact ⟨rfl, List.append_nil _⟩
  case left =>
    intro time h
    obtain ⟨hrun, hdials⟩ := ended_of_step hrunning h.1 (step_of_served p l h) rest
    rw [hrun, hdials]
    exact ⟨rfl, rfl⟩
  case rejected =>
    intro reason time h
    obtain ⟨hrun, hdials⟩ := ended_of_step hrunning h.1 (step_of_served p l h) rest
    rw [hrun, hdials]
    exact ⟨rfl, rfl⟩
  case cut =>
    intro previous time h hlast hrecent
    have hcut : l.closedRecently time = true :=
      closedRecently_iff.2 ⟨previous, hclosed.trans hlast, hrecent⟩
    obtain ⟨hrun, hdials⟩ := ended_of_step hrunning h.1 (step_of_cut p h hcut) rest
    rw [hrun, hdials]
    exact ⟨rfl, rfl⟩
  case redialed =>
    intro time h hlater
    have hlost : ¬ l.closedRecently time = true := by
      intro hrecent
      obtain ⟨previous, hlast, hlt⟩ := closedRecently_iff.1 hrecent
      exact Nat.not_le.2 hlt (hlater previous (hclosed.symm.trans hlast))
    obtain ⟨hrun, hdials⟩ := goesOn_of_step hrunning (step_of_lost p h hlost) rest
    exact ⟨{ l.calling (p.reset l.policy) .reset with lastClosed := some time }, rfl, rfl, hrun,
      hdials⟩
  case waited =>
    intro fault time delay h hdelay
    have hstep := step_of_delay h (hanswer hdelay)
    refine ⟨{ l.calling (p.next l.policy time).2 .next with waits := delay :: l.waits }, rfl, rfl,
      ?_⟩
    split
    · next hstop =>
      rw [if_pos hstop] at hstep
      exact ended_of_step hrunning h.1 hstep rest
    · next hstop =>
      rw [if_neg hstop] at hstep
      exact goesOn_of_step hrunning hstep rest
  case gaveUp =>
    intro fault time h hnone
    obtain ⟨hrun, hdials⟩ :=
      ended_of_step hrunning h.1 (step_of_giveUp h (hanswer hnone)) rest
    rw [hrun, hdials]
    exact ⟨rfl, rfl, rfl⟩
  case crashed =>
    intro fault time crash h hcrash
    obtain ⟨hrun, hdials⟩ :=
      ended_of_step hrunning h.1 (step_of_crash h (hanswer hcrash)) rest
    rw [hrun, hdials]
    exact ⟨rfl, rfl⟩

end Running

/-- The course of every call of a client, whatever policy it has, whatever calls came before and
however the world plays its part. Each round that the call comes to does what the dials so far
say; the policy is called once for each dial of the call; and a call that ends as stopped was told
to stop. -/
theorem course_of_start (fresh : σ) (calls : List (List Attempt)) (script : List Attempt) :
    let first := start (afterCalls p fresh calls).1
    (∀ made a rest l, script = made ++ a :: rest → run p first made = (l, none) →
      Round p fresh ((afterCalls p fresh calls).2 ++ made.map Attempt.result)
        (made.map Attempt.result) l a rest (run p first script) (dials p first script)) ∧
    (run p first script).1.calls.reverse = (dials p first script).map DialResult.policyCall ∧
    ((run p first script).2 = some .stopped → ∃ a ∈ script, a.TellsStop) := by
  intro first
  refine ⟨?_, (called_run p script first).2, tellsStop_of_run p⟩
  rintro made a rest l rfl hrunning
  apply round_of_running hrunning
  · -- Across its calls the policy is where the dials since the client was made leave it.
    have hmade : dials p first made = made.map Attempt.result := by
      have hdials := (run_append_of_running p hrunning []).2
      rw [List.append_nil] at hdials
      rw [hdials]
      exact List.append_nil _
    have hpolicy := (called_run p made first).1
    rw [hrunning, hmade] at hpolicy
    rw [← p.foldl_afterDial, List.foldl_append, ← afterCalls_fst]
    exact hpolicy
  · rw [lastClosed_of_running p hrunning]
    exact Option.or_none

/-- A failed dial between two lost connections does not make them any further apart. -/
example :
    (run .scripted (start [some (.ofMillis 1)])
      [⟨false, .served .closed (.ofSeconds 10), false⟩,
        ⟨false, .failed (.dial "server:80" "timed out") (.ofSeconds 11), false⟩,
        ⟨false, .served .closed (.ofSeconds 14), false⟩]).2 =
      some (.failed .connectionCut) := by decide

end DialLoop

end Client

end ReverseTunnel
