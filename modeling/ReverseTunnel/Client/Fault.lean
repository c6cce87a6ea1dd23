import ReverseTunnel.ProtocolError
import ReverseTunnel.Routes
import ReverseTunnel.SystemError

/-!
# Faults of a tunnel client

Why a client cannot be made from its configuration, and why it ends.
-/

namespace ReverseTunnel.Client

/-- Why a configuration is refused. -/
inductive ConfigFault where
  | missingServer
  | missingToken
  | invalidToken
  | missingSecurity
  | noTunnels
  | missingName
  | route (fault : RouteFault)
  deriving DecidableEq

/-- The wording of a refused configuration. -/
def ConfigFault.message : ConfigFault → String
  | .missingServer => "server address is required"
  | .missingToken => "auth token is required"
  | .invalidToken => "auth token is not a valid header value"
  | .missingSecurity => "TLS material is required"
  | .noTunnels => "at least one tunnel is required"
  | .missingName => "client id is required"
  | .route fault => fault.message

/-- What is wrong with the material for TLS. -/
inductive TlsFault where
  | invalidPem
  | noCertificates
  | invalidRoot
  | invalidServerName
  deriving DecidableEq

/-- The wording of a TLS fault. -/
def TlsFault.message : TlsFault → String
  | .invalidPem => "Invalid CA PEM"
  | .noCertificates => "CA PEM holds no certificates"
  | .invalidRoot => "Invalid root cert"
  | .invalidServerName => "Invalid server name"

/-- Why a client cannot be made, or ends. -/
inductive Fault where
  | config (fault : ConfigFault)
  /-- The server turned the client down. -/
  | rejected (reason : String)
  | dial (address reason : String)
  /-- The reconnect policy gave up. -/
  | backoffExhausted (lastError : String)
  /-- Two connections were lost within the grace period. -/
  | connectionCut
  | tls (fault : TlsFault)
  | io (error : SystemError)
  | protocol (fault : ProtocolError)
  deriving DecidableEq

/-- The wording of a fault. -/
def Fault.message : Fault → String
  | .config fault => "Configuration error: " ++ fault.message
  | .rejected reason => "Rejected by server: " ++ reason
  | .dial address reason => "Failed to dial " ++ address ++ ": " ++ reason
  | .backoffExhausted lastError => "Gave up reconnecting: " ++ lastError
  | .connectionCut => "Connection cut twice within the grace window"
  | .tls fault => "TLS error: " ++ fault.message
  | .io error => "IO error: " ++ error.message
  | .protocol fault => "Protocol error: " ++ fault.message

/-- The fault beneath a fault, where it is one of its own. -/
def Fault.cause : Fault → Option String
  | .io error => some error.message
  | .protocol fault => some fault.message
  | .config _ | .rejected _ | .dial .. | .backoffExhausted _ | .connectionCut | .tls _ => none

end ReverseTunnel.Client
