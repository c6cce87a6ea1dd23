import ReverseTunnel.ClientHello
import ReverseTunnel.ControlMessage
import ReverseTunnel.Registry

/-!
# Public byte streams

A stream that comes in at a public listener belongs to the listener's tunnel. A TLS stream
comes in at an entrance that all clients share: it is routed by the server name of its
ClientHello, and the bytes that were read for that go on to the client first. A stream that
names no TLS tunnel is dropped without an answer.

Either way the exchange with the client opens with a control message, which names the tunnel
and the host or address that the caller asked for.
-/

namespace ReverseTunnel.Server

/-- The message for a caller of a listener, which was opened for a tunnel of this protocol. -/
def listenerMessage (protocol : Protocol) (l : Listener) (remote : String) : ControlMessage :=
  ⟨protocol, l.address, l.name, remote⟩

/-- What becomes of a TLS stream. -/
inductive StreamRouting where
  | dropped
  /-- It goes to the client of a route, after the bytes that were read of it. -/
  | routed (route : HostRoute) (message : ControlMessage) (opening : Bytes)

/-- The route of the server name in a record, with the message for the client. -/
def routeRecord (registry : Registry) (record : Bytes) (remote : String) : StreamRouting :=
  match ClientHello.serverName record with
  | .error _ => .dropped
  | .ok name =>
    match registry.resolve name with
    | none => .dropped
    | some route =>
      if route.protocol = .sni then .routed route ⟨.sni, name, route.tunnel, remote⟩ record
      else .dropped

/-- What becomes of a TLS stream, given what the reads from it bring. -/
def routeStream (registry : Registry) (reads : List Bytes) (remote : String) : StreamRouting :=
  match ClientHello.readRecord [] reads with
  | .complete record _ => routeRecord registry record remote
  | .tooLarge | .ended => .dropped

end ReverseTunnel.Server
