import ReverseTunnel.Client.IsolatedHost
import ReverseTunnel.ConnectionPool

/-!
# Scripted use of a client on an isolated host

A session runs a client whose server cannot be reached: the host has no network,
so every dial fails. The reconnect policy takes its delays from a script. Before
its first step the session lets the client run to its end or to its first long
wait, and after its last step it stops a client that still waits.

Sessions are part of the thin outer layer, like the command line. This one only fixes
what the network does, runs the loop of `Client.DialLoop`, and words the outcome; no
result is about it.
-/

namespace ReverseTunnel.Session.Client

open Http ReverseTunnel.Client

/-- A wait from which on a client counts as waiting. -/
def longWait : Duration := .ofSeconds 1

/-- The rounds of a client's loop that a script of delays leads to: one failed
dial per delay, and one more. A client in a long wait is stopped in it. -/
def attempts (fault : Fault) : List (Option Duration) → List Attempt
  | [] => [⟨false, .failed fault .zero, false⟩]
  | some delay :: rest =>
    ⟨false, .failed fault .zero, decide (longWait ≤ delay)⟩ :: attempts fault rest
  | none :: _ => [⟨false, .failed fault .zero, false⟩]

/-- One step of a session. -/
inductive Step where
  /-- Waits for the client's next dial. -/
  | accept
  /-- Sends a request over the client's connection. -/
  | request
  /-- Opens an exchange for a control message. -/
  | exchange (message : ControlMessage)
  | drop
  | closeListener
  | stop
  deriving DecidableEq

/-- What a step answers. -/
inductive Answer where
  | noDial
  | noListener
  | fault (fault : ConnectionFault)
  | flag (value : Bool)
  | closed
  | stopped
  /-- After the last step the client was still waiting. -/
  | running

/-- The key of the connection that the session would accept. -/
def peerKey : String := "peer"

/-- What a step answers, given whether the listener was closed. -/
def answer (listenerClosed : Bool) : Step → Answer
  | .accept => if listenerClosed then .noListener else .noDial
  | .request => .fault (.notFound peerKey)
  | .exchange message =>
    match ConnectionPool.empty.openExchange peerKey message with
    | .error fault => .fault fault
    | .ok _ => .fault (.notFound peerKey)
  | .drop => .flag false
  | .closeListener => .closed
  | .stop => .stopped

/-- What the steps of a session answer. -/
def answers (listenerClosed : Bool) : List Step → List Answer
  | [] => []
  | s :: rest => answer listenerClosed s :: answers (listenerClosed || s == .closeListener) rest

/-- What a session shows. -/
structure Report where
  answers : List Answer
  ending : LoopEnd
  calls : List PolicyCall

/-- What a session with a client shows. -/
def report (c : Client) (delays : List (Option Duration)) (steps : List Step)
    (refused : Bool) : Report :=
  let (loop, ending) :=
    DialLoop.run .scripted (.start delays) (attempts (failedDial c) delays)
  let waiting := ending == some .stopped && !steps.contains .stop
  { answers := answers refused steps ++ if waiting then [.running] else []
    ending := ending.getD .stopped
    calls := loop.calls.reverse }

/-- What a session shows, unless its client is refused. -/
def run (config : Config) (delays : List (Option Duration)) (steps : List Step) (refused : Bool) :
    Except Fault Report := do
  let c ← ofConfig config
  return report c delays steps refused

end ReverseTunnel.Session.Client
