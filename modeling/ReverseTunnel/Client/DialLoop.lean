import ReverseTunnel.Client.Basic

/-!
# Dialing again and again

A client dials until it is stopped, turned down, or out of patience. A failed
dial is followed by a wait that the reconnect policy chooses. A connection that
was lost is followed by a dial at once, unless another one was lost less than
the grace period before.

The loop is a machine that takes one attempt per step. An attempt says what the
world does: how the dial goes, how and when the connection ends, and when the
client is told to stop.
-/

namespace ReverseTunnel.Client

/-- Two lost connections less than this apart end the loop. -/
def gracePeriod : Duration := .ofSeconds 5

/-- How a control connection ends. -/
inductive ConnectionEnd where
  | stopped
  | rejected (reason : String)
  | closed
  deriving DecidableEq

/-- How a dial goes, with the time at which the matter is settled. -/
inductive DialResult where
  | failed (fault : Fault) (time : Duration)
  | served (ending : ConnectionEnd) (time : Duration)

/-- One round of the loop as the world plays it. -/
structure Attempt where
  /-- The client was told to stop before the dial. -/
  stopBefore : Bool
  result : DialResult
  /-- The client was told to stop before the end of the wait. -/
  stopInWait : Bool

/-- A reconnect policy: the delay before the next dial or `none` to give up, and
what a successful dial does to it. -/
structure Policy (σ : Type) where
  next : σ → Duration → Except BackoffFault (Option Duration) × σ
  reset : σ → σ

/-- The exponential policy. -/
def Policy.exponential : Policy Backoff := ⟨Backoff.next, Backoff.reset⟩

/-- The policy that takes its delays from a list. -/
def Policy.scripted : Policy (List (Option Duration)) where
  next delays _ := (.ok (delays.head?.join), delays.tail)
  reset delays := delays

/-- A call of the reconnect policy. -/
inductive PolicyCall where
  | reset
  | next
  deriving DecidableEq

/-- The loop between two attempts. -/
structure DialLoop (σ : Type) where
  policy : σ
  /-- The time of the last lost connection. -/
  lastClosed : Option Duration
  /-- The calls of the policy so far, the last first. -/
  calls : List PolicyCall
  /-- The waits so far, the last first. -/
  waits : List Duration

/-- How the loop ends. -/
inductive LoopEnd where
  | stopped
  | failed (fault : Fault)
  | crashed (fault : BackoffFault)
  deriving DecidableEq

namespace DialLoop

variable {σ : Type}

/-- The loop before the first attempt. -/
def start (policy : σ) : DialLoop σ := ⟨policy, none, [], []⟩

/-- A connection was lost less than the grace period before `now`. -/
def closedRecently (l : DialLoop σ) (now : Duration) : Bool :=
  match l.lastClosed with
  | some previous => decide (now.since previous < gracePeriod)
  | none => false

/-- The loop after a successful dial whose connection ended. -/
def afterServing (p : Policy σ) (l : DialLoop σ) (ending : ConnectionEnd) (time : Duration) :
    DialLoop σ × Option LoopEnd :=
  let l := { l with policy := p.reset l.policy, calls := .reset :: l.calls }
  match ending with
  | .stopped => (l, some .stopped)
  | .rejected reason => (l, some (.failed (.rejected reason)))
  | .closed =>
    if l.closedRecently time then (l, some (.failed .connectionCut))
    else ({ l with lastClosed := some time }, none)

/-- The loop after a failed dial. -/
def afterFailure (p : Policy σ) (l : DialLoop σ) (fault : Fault) (time : Duration)
    (stopInWait : Bool) : DialLoop σ × Option LoopEnd :=
  let (answer, policy) := p.next l.policy time
  let l := { l with policy, calls := .next :: l.calls }
  match answer with
  | .error crash => (l, some (.crashed crash))
  | .ok none => (l, some (.failed (.backoffExhausted fault.message)))
  | .ok (some delay) =>
    ({ l with waits := delay :: l.waits }, if stopInWait then some .stopped else none)

/-- One attempt; the second part tells how the loop ended, if it did. -/
def step (p : Policy σ) (l : DialLoop σ) (a : Attempt) : DialLoop σ × Option LoopEnd :=
  if a.stopBefore then (l, some .stopped)
  else
    match a.result with
    | .served ending time => afterServing p l ending time
    | .failed fault time => afterFailure p l fault time a.stopInWait

/-- The loop after some attempts; those that follow its end are not made. -/
def run (p : Policy σ) (l : DialLoop σ) : List Attempt → DialLoop σ × Option LoopEnd
  | [] => (l, none)
  | a :: rest =>
    match step p l a with
    | (l, some ending) => (l, some ending)
    | (l, none) => run p l rest

end DialLoop

end ReverseTunnel.Client
