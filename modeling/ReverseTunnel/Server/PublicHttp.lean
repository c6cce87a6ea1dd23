import ReverseTunnel.ControlMessage
import ReverseTunnel.Http.Forwarded
import ReverseTunnel.Http.HopByHop
import ReverseTunnel.Http.Message
import ReverseTunnel.Registry

/-!
# Public HTTP requests

A public request is routed by its host. It is answered by the server itself when
it names no host, when no HTTP tunnel has that host, or when the host's token is
not presented; otherwise it goes, with its headers changed, to the client of the
tunnel.
-/

namespace ReverseTunnel.Server

open Http

/-- Who sent a public request. -/
structure Caller where
  ip : String
  address : String
  deriving DecidableEq

/-- The caller behind a socket address. -/
def Caller.ofAddress (address : String) : Caller :=
  match Text.splitLast ':' address with
  | some (host, _) =>
    ⟨if Text.startsWith '[' host then String.ofList (host.toList.drop 1).dropLast else host,
      address⟩
  | none => ⟨address, address⟩

/-- The field name `content-type`. -/
def contentTypeField : FieldName := .ofText "content-type"

/-- The field name `x-forwarded-host`. -/
def forwardedHostField : FieldName := .ofText "x-forwarded-host"

/-- The field name `x-forwarded-proto`. -/
def forwardedProtoField : FieldName := .ofText "x-forwarded-proto"

/-- The host by which a request is routed: a `Host` value that can be read, or
else the authority of the URI; never a blank one. -/
def requestHost (headers : Headers) (uri : Uri) : Option String :=
  (((headers.get? hostField).bind FieldValue.text?).or uri.authority).filter
    fun host => !Text.isBlankText host

/-- An answer of the server itself. -/
def ownResponse (status : Status) (text : String) : Response :=
  ⟨status, Headers.empty.insert contentTypeField (.literal "text/plain; charset=utf-8"),
    [utf8 text]⟩

/-- The request lacks a host. -/
def missingHostResponse : Response := ownResponse .badRequest "missing host"

/-- The host has no HTTP tunnel. -/
def noTunnelResponse : Response := ownResponse .notFound "no tunnel for host"

/-- The host's token was not presented. -/
def unauthorizedResponse : Response := ownResponse .unauthorized "unauthorized"

/-- The client of the tunnel gave no answer. -/
def unavailableResponse : Response := ownResponse .badGateway "tunnel unavailable"

/-- The headers that name the host to the next hop, if it forms a field value. -/
def nameHost (headers : Headers) (host : String) : Headers :=
  match FieldValue.ofText? host with
  | some value => (headers.insert forwardedHostField value).insertIfAbsent hostField value
  | none => headers

/-- The headers of a request as the client gets them. -/
def forwardedHeaders (headers : Headers) (host : String) (caller : Caller) (hasAuth : Bool) :
    Headers :=
  let headers := if hasAuth then headers.remove .authorization else headers
  let headers := headers.removeHopByHop.appendForwardedFor caller.ip
  (nameHost headers host).insertIfAbsent forwardedProtoField (ControlMessage.protocolValue .http)

/-- The path and query of a URI as a target of their own; `/` for a bare authority. -/
def originForm (uri : Uri) : Uri :=
  if uri.scheme.isSome || uri.authority.isNone then ⟨none, none, uri.target⟩ else ⟨none, none, "/"⟩

/-- What becomes of a public request. -/
inductive Forwarding where
  | answered (response : Response)
  /-- The request goes to the client of a route; the caller may be waiting for a
  protocol switch. -/
  | forwarded (route : HostRoute) (message : ControlMessage) (request : Request) (upgrade : Bool)

/-- The presented token is the one that a route asks for, if it asks for one. -/
def isAuthorized (route : HostRoute) (headers : Headers) : Bool :=
  match route.auth with
  | some expected => headers.bearerToken == some expected
  | none => true

/-- The request to the client of a route. -/
def forwardRequest (route : HostRoute) (host : String) (request : Request) (caller : Caller) :
    Forwarding :=
  .forwarded route ⟨.http, host, route.tunnel, caller.address⟩
    { request with
      uri := originForm request.uri
      headers := forwardedHeaders request.headers host caller route.auth.isSome }
    request.headers.upgradeProtocol.isSome

/-- What becomes of a public request. -/
def routeRequest (registry : Registry) (request : Request) (caller : Caller) : Forwarding :=
  match requestHost request.headers request.uri with
  | none => .answered missingHostResponse
  | some host =>
    match registry.resolve host with
    | none => .answered noTunnelResponse
    | some route =>
      if route.protocol ≠ .http then .answered noTunnelResponse
      else if !isAuthorized route request.headers then .answered unauthorizedResponse
      else forwardRequest route host request caller

/-- What the caller gets of the client's response. A protocol switch that the
caller did not ask for counts as no answer. -/
def returnedResponse (upgrade : Bool) (response : Response) : Response :=
  if response.status = .switchingProtocols ∧ !upgrade then unavailableResponse
  else { response with headers := response.headers.removeHopByHop }

end ReverseTunnel.Server
