import ReverseTunnel.Client.DialLoop
import ReverseTunnel.SocketAddress

/-!
# A client on an isolated host

The host has no network, so every dial fails, and it fails soon. What remains of a
client is its loop of dials and waits, which ends when the policy gives up or when
the client is stopped in a wait.

This is part of the thin outer layer: sessions and the command line run the loop of
`Client.DialLoop` here with outcomes that are fixed. The results are about the loop
itself, whichever its outcomes are.
-/

namespace ReverseTunnel.Client

/-- Why a dial fails on a host without a network. -/
def dialError (address : String) : SystemError :=
  match SocketAddress.resolve address with
  | .error .invalidSocketAddress => .invalidSocketAddress
  | .error .invalidPort => .invalidPort
  | .error _ | .ok _ => .networkUnreachable

/-- The failed dial of a client. -/
def failedDial (c : Client) : Fault := .dial c.serverAddress (dialError c.serverAddress).message

/-- How long a failing dial takes. -/
def dialTime : Duration := .ofMillis 1

/-- The round that begins at a time. The client is stopped in the wait if the delay
before the next dial is one in which `heeds` holds. -/
def failedAttempt (c : Client) (heeds : Duration → Bool) (now : Duration)
    (l : DialLoop Backoff) : Attempt :=
  let stops :=
    match (l.policy.next now).1 with
    | .ok (some delay) => heeds delay
    | .ok none | .error _ => false
  ⟨false, .failed c.failedDial now, stops⟩

/-- The time after a wait and the dial that follows it. -/
def afterWait (now delay : Duration) : Duration :=
  ((now.add? delay).bind (·.add? dialTime)).getD now

/-- The end of the loop within some rounds, if it ends so soon. -/
def dialInVain (c : Client) (heeds : Duration → Bool) :
    Nat → Duration → DialLoop Backoff → Option LoopEnd
  | 0, _, _ => none
  | rounds + 1, now, l =>
    match DialLoop.step .exponential l (c.failedAttempt heeds now l) with
    | (_, some ending) => some ending
    | (l, none) => dialInVain c heeds rounds (afterWait now (l.waits.headD .zero)) l

/-- The rounds after which a client counts as one that dials for ever. -/
def manyRounds : Nat := 100000

/-- How a client ends that cannot reach its server, if it ends. -/
def isolatedEnd (c : Client) (heeds : Duration → Bool) : Option LoopEnd :=
  c.dialInVain heeds manyRounds .zero (.start c.backoff)

end ReverseTunnel.Client
