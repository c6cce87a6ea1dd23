import ReverseTunnel.Binary64
import ReverseTunnel.Duration

/-!
# The reconnect policy

The delay between two attempts to connect grows by a factor up to a limit, and
the policy gives up when the next delay would end after the budget of elapsed
time. The budget counts from the first attempt after a reset.

The next delay is computed in floating point before it is limited. A product that
is no length of time is a fault, and so is a sum of times that overflows; the
current delay then stays as it was.
-/

namespace ReverseTunnel

/-- A reconnect policy and where it stands. -/
structure Backoff where
  initial : Duration
  multiplier : Binary64
  maxInterval : Duration
  /-- The budget of elapsed time; without one the policy never gives up. -/
  maxElapsed : Option Duration
  /-- The next delay. -/
  current : Duration
  /-- The time of the first attempt since the last reset. -/
  started : Option Duration
  deriving DecidableEq

/-- Why the policy has no answer. -/
inductive BackoffFault where
  | sumOverflow
  | productOverflow
  deriving DecidableEq

/-- The wording of a fault. -/
def BackoffFault.message : BackoffFault → String
  | .sumOverflow => "overflow when adding durations"
  | .productOverflow =>
    "cannot convert float seconds to Duration: value is either too big or NaN"

namespace Backoff

/-- The policy with these settings, before the first attempt. -/
def new (initial : Duration) (multiplier : Binary64) (maxInterval : Duration)
    (maxElapsed : Option Duration) : Backoff :=
  ⟨initial, multiplier, maxInterval, maxElapsed, initial, none⟩

/-- Half a second at first, half as long again each time, at most a minute, for a
quarter of an hour. -/
def default : Backoff :=
  new (.ofMillis 500) (.ofRatio false 3 2) (.ofSeconds 60) (some (.ofSeconds 900))

/-- A length of time in seconds, rounded part by part. -/
def seconds (d : Duration) : Dyadic :=
  (Dyadic.nearest d.seconds 1).add (Dyadic.nearest d.subsecond nanosPerSecond)

/-- The length of time nearest to a number of seconds. -/
def ofSeconds? (d : Dyadic) : Option Duration :=
  if d.ratio.1 < d.ratio.2 * UInt64.size then
    Duration.ofNanos? (Dyadic.roundHalfEven (d.ratio.1 * nanosPerSecond) d.ratio.2)
  else none

/-- A delay times the factor. -/
def grow (delay : Duration) (multiplier : Binary64) : Option Duration :=
  match multiplier.atLeastOne with
  | some factor => ofSeconds? ((seconds delay).mul factor)
  | none => none

/-- The wait for the current delay would end after the budget, when some time has elapsed since
the first attempt. -/
def isOverBudget (b : Backoff) (elapsed : Duration) : Except BackoffFault Bool :=
  match b.maxElapsed with
  | none => .ok false
  | some budget =>
    match elapsed.add? b.current with
    | some total => .ok (decide (budget < total))
    | none => .error .sumOverflow

/-- The delay before the next attempt, `none` to give up, and the policy after it. The clock
shows `opened` when the call begins and `now` when it measures the elapsed time; the first
attempt after a reset is the only one for which the former counts. -/
def nextBetween (b : Backoff) (opened now : Duration) :
    Except BackoffFault (Option Duration) × Backoff :=
  let start := b.started.getD opened
  let b := { b with started := some start }
  match b.isOverBudget (now.since start) with
  | .error fault => (.error fault, b)
  | .ok true => (.ok none, b)
  | .ok false =>
    match grow b.current b.multiplier with
    | some next => (.ok (some b.current), { b with current := next.min b.maxInterval })
    | none => (.error .productOverflow, b)

/-- The same in a call during which the clock stands. -/
def next (b : Backoff) (now : Duration) : Except BackoffFault (Option Duration) × Backoff :=
  b.nextBetween now now

/-- The policy after a successful connection. -/
def reset (b : Backoff) : Backoff := { b with current := b.initial, started := none }

end Backoff

end ReverseTunnel
