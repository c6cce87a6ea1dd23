import ReverseTunnel.ConnectionPool
import ReverseTunnel.PortPool
import ReverseTunnel.Registry
import ReverseTunnel.SystemError

/-!
# Faults of a tunnel server

Why a server cannot be started, and why a client is turned down.
-/

namespace ReverseTunnel.Server

/-- Why a setting is refused. -/
inductive ConfigFault where
  | missingListenAddress
  | missingAuth
  | zeroHandshakeTimeout
  | missingSocketPath
  deriving DecidableEq

/-- The wording of a refused setting. -/
def ConfigFault.message : ConfigFault → String
  | .missingListenAddress => "listen address is required"
  | .missingAuth => "auth handler is required"
  | .zeroHandshakeTimeout => "handshake timeout must be positive"
  | .missingSocketPath => "unix tunnel needs a socket path"

/-- What is wrong with the answer to a hello. -/
inductive HelloFault where
  | status (code : Http.Status)
  | missingToken
  deriving DecidableEq

/-- The wording of a faulty answer. -/
def HelloFault.message : HelloFault → String
  | .status code => "hello answered with " ++ code.text
  | .missingToken => "missing auth header"

/-- Why a server cannot be started, or turns a client down. -/
inductive Fault where
  | config (fault : ConfigFault)
  | handshake (fault : HelloFault)
  | unauthorized
  | registry (error : RegistryError)
  | pool (error : PoolError)
  | bind (address : String) (error : SystemError)
  | io (error : SystemError)
  | transport (fault : ConnectionFault)
  | protocol (fault : ProtocolError)
  | helloTimeout
  | alreadyStarted
  deriving DecidableEq

/-- The wording of a fault. -/
def Fault.message : Fault → String
  | .config fault => "Configuration error: " ++ fault.message
  | .handshake fault => "Handshake failed: " ++ fault.message
  | .unauthorized => "Authentication rejected"
  | .registry error => "Registry error: " ++ error.message
  | .pool error => "Address pool error: " ++ error.message
  | .bind address error => "Failed to bind " ++ address ++ ": " ++ error.message
  | .io error => "IO error: " ++ error.message
  | .transport fault => "Transport error: " ++ fault.message
  | .protocol fault => "Protocol error: " ++ fault.message
  | .helloTimeout => "Timed out during hello exchange"
  | .alreadyStarted => "Server already started"

/-- The fault beneath a fault, where it is one of its own. -/
def Fault.cause : Fault → Option String
  | .registry error => some error.message
  | .pool error => some error.message
  | .bind _ error => some error.message
  | .io error => some error.message
  | .transport fault => some fault.message
  | .protocol fault => some fault.message
  | .config _ | .handshake _ | .unauthorized | .helloTimeout | .alreadyStarted => none

end ReverseTunnel.Server
