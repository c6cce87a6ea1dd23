import ReverseTunnel.Http.Headers
import ReverseTunnel.Protocol
import ReverseTunnel.ProtocolError

/-!
# The control message of an exchange

Every exchange on a control connection says in five header fields which tunnel
it belongs to and who called. Writing stops at the first field that forms no
header value; the fields written before it stay.
-/

namespace ReverseTunnel

open Http

/-- Which tunnel an exchange belongs to, and who called. The action is always
to proxy. -/
structure ControlMessage where
  protocol : Protocol
  /-- The host or address that the caller asked for. -/
  host : String
  /-- The name of the tunnel. -/
  tunnel : String
  /-- The address of the caller. -/
  remote : String
  deriving DecidableEq

namespace ControlMessage

/-- The field that holds the action. -/
def actionField : String := "x-action"

/-- The field that holds the protocol. -/
def protocolField : String := "x-forwarded-proto"

/-- The field that holds the host. -/
def hostField : String := "x-forwarded-host"

/-- The field that holds the tunnel name. -/
def tunnelField : String := "x-forwarded-id"

/-- The field that holds the caller's address. -/
def remoteField : String := "x-remote-addr"

/-- The value of a protocol field. -/
def protocolValue (p : Protocol) : FieldValue :=
  match p with
  | .http => .literal "http"
  | .tcp => .literal "tcp"
  | .tcp4 => .literal "tcp4"
  | .tcp6 => .literal "tcp6"
  | .unix => .literal "unix"
  | .sni => .literal "sni"

/-- The headers with a text as the value of a field. -/
def writeField (name text : String) (h : Headers) : Except ProtocolError Headers :=
  match FieldValue.ofText? text with
  | some value => .ok (h.insert (.ofText name) value)
  | none => .error (.invalidHeader name)

/-- The headers after writing the message, and whether it was written whole. -/
def write (m : ControlMessage) (h : Headers) : Headers × Except ProtocolError Unit :=
  let h := (h.insert (.ofText actionField) (.literal "proxy")).insert (.ofText protocolField)
    (protocolValue m.protocol)
  match writeField hostField m.host h with
  | .error e => (h, .error e)
  | .ok h =>
    match writeField tunnelField m.tunnel h with
    | .error e => (h, .error e)
    | .ok h =>
      match writeField remoteField m.remote h with
      | .error e => (h, .error e)
      | .ok h => (h, .ok ())

/-- The text of a field's first value, if it has one. -/
def readField (name : String) (h : Headers) : Except ProtocolError (Option String) :=
  match h.get? (.ofText name) with
  | none => .ok none
  | some value =>
    match value.text? with
    | some text => .ok (some text)
    | none => .error (.invalidHeader name)

/-- The text of a field that has to be there. -/
def requireField (name : String) (h : Headers) : Except ProtocolError String :=
  match readField name h with
  | .ok (some text) => .ok text
  | .ok none => .error (.missingHeader name)
  | .error e => .error e

/-- The text of a field; one that is left out is empty. -/
def fieldOrEmpty (name : String) (h : Headers) : Except ProtocolError String :=
  (readField name h).map fun text => text.getD ""

/-- The message that headers carry. -/
def read (h : Headers) : Except ProtocolError ControlMessage := do
  let action ← requireField actionField h
  if action ≠ "proxy" then throw (.unknownAction action)
  let protocolName ← requireField protocolField h
  let protocol ←
    match Protocol.parse? protocolName with
    | some protocol => pure protocol
    | none => throw (.unknownProtocol (Text.lower protocolName))
  let host ← fieldOrEmpty hostField h
  let tunnel ← fieldOrEmpty tunnelField h
  let remote ← fieldOrEmpty remoteField h
  return ⟨protocol, host, tunnel, remote⟩

end ControlMessage

end ReverseTunnel
