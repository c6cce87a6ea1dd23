import ReverseTunnel.Bytes.Lossy
import ReverseTunnel.Client.Basic
import ReverseTunnel.Client.LocalService
import ReverseTunnel.ControlMessage

/-!
# Answering the server

On a control connection the server makes the requests. A rejection is known by
its header field, the hello by its method; every other request has to carry a
control message, which names the tunnel of an exchange.
-/

namespace ReverseTunnel.Client

open Http

/-- The field in which a server gives the reason of a rejection. -/
def rejectionField : FieldName := .ofText "x-error-header"

/-- What a client does with a request of the server. -/
inductive Dispatched where
  /-- The server turned the client down. -/
  | rejection (reason : String)
  /-- The response to the hello, and the document sent after it. -/
  | hello (response : Response) (document : Bytes)
  /-- The request is answered with a fault. -/
  | refused (response : Response)
  /-- HTTP requests for a host. -/
  | http (message : ControlMessage)
  /-- A byte stream to a local address. -/
  | stream (message : ControlMessage) (target : StreamTarget)

/-- A response without header fields and with one line of text. -/
def lineResponse (status : Status) (line : String) : Response :=
  ⟨status, .empty, [utf8 (line ++ "\n")]⟩

/-- The response in place of a stream that cannot be opened. -/
def unreachableResponse : Response := lineResponse .badGateway "local service unreachable"

/-- What the client does with a request. -/
def dispatch (c : Client) (method : String) (headers : Headers) : Dispatched :=
  match headers.get? rejectionField with
  | some reason => .rejection (lossyText reason.bytes)
  | none =>
    if method = "CONNECT" then
      .hello ⟨.ok, Headers.empty.insert tokenField c.token, []⟩ c.hello
    else
      match ControlMessage.read headers with
      | .error fault => .refused (lineResponse .badRequest fault.message)
      | .ok message =>
        if message.protocol = .http then .http message
        else
          match c.routes.streams.get? message.tunnel with
          | some address => .stream message (.ofAddress address)
          | none => .refused (lineResponse .notFound "unknown tunnel")

end ReverseTunnel.Client
