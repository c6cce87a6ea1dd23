import ReverseTunnel.Backoff
import ReverseTunnel.Client.Fault
import ReverseTunnel.Handshake
import ReverseTunnel.Http.Field

/-!
# Tunnel clients

A client is made from a configuration that was checked as a whole: afterwards it
holds its token as a header value, its handshake document ready to be sent, and
the tables of its local services.
-/

namespace ReverseTunnel.Client

open Http

/-- How the control connection is secured. -/
inductive Security where
  /-- TLS, with the name that the server's certificate must match. -/
  | tls (serverName : String)
  /-- No encryption, for development. -/
  | plaintext
  deriving DecidableEq

/-- The written form of the security. -/
def Security.text : Security → String
  | .tls serverName => "Rustls \x7b server_name: " ++ Text.quoted serverName ++ " \x7d"
  | .plaintext => "Insecure"

/-- What a client is made from. -/
structure Config where
  serverAddress : String
  declarations : NameMap Declaration
  token : String
  security : Option Security
  clientName : String
  backoff : Backoff

end ReverseTunnel.Client

namespace ReverseTunnel

/-- A tunnel client. -/
structure Client where
  serverAddress : String
  security : Client.Security
  clientName : String
  token : Http.FieldValue
  /-- The handshake document. -/
  hello : Bytes
  routes : Routes
  backoff : Backoff

end ReverseTunnel

namespace ReverseTunnel.Client

open Http

/-- The handshake that a configuration leads to. -/
def Config.handshake (c : Config) : Handshake :=
  ⟨Text.trim c.clientName, c.declarations.map Declaration.toTunnel⟩

/-- The client of a configuration. -/
def ofConfig (c : Config) : Except Fault Client := do
  if Text.isBlankText c.serverAddress then throw (.config .missingServer)
  if c.token = "" then throw (.config .missingToken)
  let token ←
    match FieldValue.ofText? c.token with
    | some value => pure value
    | none => throw (.config .invalidToken)
  let security ←
    match c.security with
    | some security => pure security
    | none => throw (.config .missingSecurity)
  if c.declarations.isEmpty then throw (.config .noTunnels)
  if Text.isBlankText c.clientName then throw (.config .missingName)
  let routes ← (Routes.build c.declarations).mapError fun fault => .config (.route fault)
  let hello ← c.handshake.encode.mapError .protocol
  return { serverAddress := Text.trim c.serverAddress, security,
           clientName := Text.trim c.clientName,
           token, hello, routes, backoff := c.backoff }

end ReverseTunnel.Client
