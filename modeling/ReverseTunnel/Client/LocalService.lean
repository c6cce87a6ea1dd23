import ReverseTunnel.Http.HopByHop
import ReverseTunnel.Http.Message
import ReverseTunnel.Routes
import ReverseTunnel.SystemError

/-!
# Local services

The client takes a byte stream to a TCP address or a Unix socket, and an HTTP
request to the local URL of its host. The request target is joined to the path
of that URL, `Host` becomes the URL's authority, and connection-scoped fields
are dropped in both directions.
-/

namespace ReverseTunnel.Client

open Http

/-- Where a byte stream goes. -/
inductive StreamTarget where
  | unixSocket (path : String)
  | tcp (address : String)
  deriving DecidableEq

/-- The target of a local address: paths, and addresses that start with `unix:`,
are Unix sockets. -/
def StreamTarget.ofAddress (address : String) : StreamTarget :=
  let cs := address.toList
  if cs.take 5 = "unix:".toList then .unixSocket (String.ofList (cs.drop 5))
  else if Text.startsWith '/' address then .unixSocket address
  else .tcp address

/-- Why an HTTP request gets no answer from a local service. -/
inductive ProxyFault where
  | connectionFailed (authority : String) (error : SystemError)
  | badTarget (target : String)
  | badAuthority
  | requestFailed
  | noRoute (host : String)
  deriving DecidableEq

/-- The wording of a fault. -/
def ProxyFault.message : ProxyFault → String
  | .connectionFailed authority error =>
    "Connection failed: Failed to connect to " ++ authority ++ ": " ++ error.message
  | .badTarget target => "Invalid request: Bad request target " ++ Text.quoted target
  | .badAuthority => "Invalid request"
  | .requestFailed => "Request failed"
  | .noRoute host => "No local target for host " ++ Text.quoted host

/-- The text of a local target: the URL's path without the slashes at its end,
and then the request's path and query, with a slash between if it has none. -/
def joinedTarget (url requested : Uri) : String :=
  let base := String.ofList (Text.dropEndWhile (· == '/') url.path.toList)
  let target := requested.pathAndQuery?.getD "/"
  if Text.startsWith '/' target then base ++ target else base ++ "/" ++ target

/-- The request target for a local service. -/
def localTarget (url requested : Uri) : Except ProxyFault Uri :=
  match Uri.parse? (joinedTarget url requested) with
  | some uri => .ok uri
  | none => .error (.badTarget (joinedTarget url requested))

/-- The host by which a request is routed: the one that the server forwarded, or
else the request's own. -/
def routingHost (forwarded : String) (headers : Headers) : String :=
  if forwarded = "" then ((headers.get? hostField).bind FieldValue.text?).getD "" else forwarded

/-- The request that a local service gets. -/
def localRequest (url : Uri) (request : Request) : Except ProxyFault Request := do
  let authority ←
    match url.authority with
    | some authority => pure authority
    | none => throw .badAuthority
  let uri ← localTarget url request.uri
  let host ←
    match FieldValue.ofText? authority with
    | some host => pure host
    | none => throw .badAuthority
  return { request with uri, headers := request.headers.removeHopByHop.insert hostField host }

/-- The request that the local service of a host gets. -/
def routedRequest (routes : HttpRoutes) (forwarded : String) (request : Request) :
    Except ProxyFault Request :=
  match routes.lookup (routingHost forwarded request.headers) with
  | some url => localRequest url request
  | none => .error (.noRoute (routingHost forwarded request.headers))

/-- What the server gets of a local service's response. -/
def forwardedResponse (response : Response) : Response :=
  { response with headers := response.headers.removeHopByHop }

/-- The response in place of one that a local service did not give. -/
def faultResponse (fault : ProxyFault) : Response :=
  ⟨.badGateway, .empty, [utf8 (fault.message ++ "\n")]⟩

end ReverseTunnel.Client
