import ReverseTunnel.ConnectionPool
import ReverseTunnel.Text.Numeral

/-!
# Scripted use of a connection pool

A session works a pool step by step. The far side of every connection is an
echo: it gives an exchange its own body back, unless the tunnel name asks for a
status, or no control message can be read.

Sessions are part of the thin outer layer, like the command line. This one only fixes
what the far sides answer and calls the operations of `ConnectionPool`; no result is
about it.
-/

namespace ReverseTunnel.Session.Pool

open Http

/-- The status that a tunnel name of the form `status-N` asks for. -/
def requestedStatus? (tunnel : String) : Option Status :=
  if tunnel.toList.take 7 = "status-".toList then
    (Text.unsigned? 65535 (String.ofList (tunnel.toList.drop 7))).bind Status.ofCode?
  else none

/-- What the echo answers. -/
def echo (request : Request) : Response :=
  match ControlMessage.read request.headers with
  | .error _ => ⟨.badRequest, .empty, []⟩
  | .ok m =>
    match requestedStatus? m.tunnel with
    | some status => ⟨status, .empty, []⟩
    | none => ⟨.ok, .empty, request.body⟩

/-- One step of a session. -/
inductive Step where
  | add (key : String)
  | delete (key : String)
  | closeAll
  /-- The far side of a connection goes away. -/
  | peerClose (key : String)
  | contains (key : String)
  | sender (key : String)
  | stream (key : String) (message : ControlMessage) (send : Body)
  | request (key : String) (headers : Headers) (body : Body)
  | bridge (incoming : Body) (send : Body)
  | copyBody (body : Body)

/-- What a step answers. -/
inductive Answer where
  | done
  | flag (value : Bool)
  | registered (result : Except ConnectionFault Unit)
  | received (result : Except ConnectionFault Bytes)
  | response (result : Except ConnectionFault Response)
  | bridged (read sent : Bytes)
  | copied (bytes source : Bytes)

/-- What comes back over a stream to which a body was sent. -/
def talk (p : ConnectionPool) (key : String) (message : ControlMessage) (send : Body) :
    Except ConnectionFault Bytes := do
  let (_, request) ← p.openExchange key message
  let body ← ConnectionPool.exchangeBody (echo { request with body := send })
  return body.bytes

/-- The response to a request that names no key in its target. -/
def sendRequest (p : ConnectionPool) (key : String) (headers : Headers) (body : Body) :
    Except ConnectionFault Response := do
  let _ ← p.sender key
  return echo ⟨"PUT", ⟨none, none, "/"⟩, headers, body⟩

/-- One step, before the drivers that were told to end have ended. -/
def act (p : ConnectionPool) : Step → ConnectionPool × Answer
  | .add key =>
    match p.register key with
    | .ok p => (p, .registered (.ok ()))
    | .error e => (p, .registered (.error e))
  | .delete key =>
    let (found, p) := p.delete key
    (p, .flag found)
  | .closeAll => (p.closeAll, .done)
  | .peerClose key => (p.peerClosed key, .done)
  | .contains key => (p, .flag (p.contains key))
  | .sender key => (p, .registered ((p.sender key).map fun _ => ()))
  | .stream key message send => (p, .received (talk p key message send))
  | .request key headers body => (p, .response (sendRequest p key headers body))
  | .bridge incoming send =>
    let (read, sent) := Http.bridge incoming send
    (p, .bridged read sent.bytes)
  | .copyBody body => (p, .copied (Http.copyBody body) body.bytes)

/-- One step of a session; the keys that it caused to be reported are the ones
that the pool holds afterwards. -/
def step (p : ConnectionPool) (s : Step) : ConnectionPool × Answer :=
  let (p, answer) := act { p with reported := [] } s
  (p.settle, answer)

/-- The keys reported in the last step, in ascending order. -/
def reportedKeys (p : ConnectionPool) : List String :=
  p.reported.mergeSort fun a b => decide (a ≤ b)

end ReverseTunnel.Session.Pool
