import ReverseTunnel.Duration
import ReverseTunnel.Server.Fault

/-!
# Server settings

The settings are checked in a fixed order before the server binds anything. In
logs they are written without the secrets that they hold.
-/

namespace ReverseTunnel.Server

/-- The settings of a server. -/
structure Config where
  /-- The address of the control listener. -/
  listenAddress : String
  /-- The ports of the pool, as `first:last`. -/
  portRange : String
  /-- Which tokens a client may present. -/
  accepts : Option (String → Bool)
  /-- The control listener speaks TLS. -/
  usesTls : Bool
  handshakeTimeout : Duration
  /-- The time between two pings of a control connection, if there are any. -/
  keepAliveInterval : Option Duration
  keepAliveTimeout : Duration

namespace Config

/-- The settings for an address and a range, the others as they usually are. -/
def new (listenAddress portRange : String) : Config :=
  { listenAddress, portRange, accepts := none, usesTls := false,
    handshakeTimeout := .ofSeconds 10, keepAliveInterval := some (.ofSeconds 30),
    keepAliveTimeout := .ofSeconds 20 }

/-- The settings under which exactly one token is accepted. -/
def withToken (c : Config) (token : String) : Config :=
  { c with accepts := some fun presented => presented == token }

/-- Whether a server can run with these settings. -/
def validate (c : Config) : Except Fault Unit :=
  if Text.isBlankText c.listenAddress then .error (.config .missingListenAddress)
  else if c.accepts.isNone then .error (.config .missingAuth)
  else if c.handshakeTimeout.nanos = 0 then .error (.config .zeroHandshakeTimeout)
  else .ok ()

/-- A client that presents this token is let in. -/
def authorizes (c : Config) (token : String) : Bool :=
  match c.accepts with
  | some accepts => accepts token
  | none => false

/-- The written form of the settings. -/
def text (c : Config) : String :=
  let interval :=
    match c.keepAliveInterval with
    | some d => "Some(" ++ d.text ++ ")"
    | none => "None"
  "ServerConfig \x7b listen_addr: " ++ Text.quoted c.listenAddress ++
    ", port_range: " ++ Text.quoted c.portRange ++
    ", auth: " ++ toString c.accepts.isSome ++ ", tls: " ++ toString c.usesTls ++
    ", handshake_timeout: " ++ c.handshakeTimeout.text ++
    ", keep_alive_interval: " ++ interval ++
    ", keep_alive_timeout: " ++ c.keepAliveTimeout.text ++ " \x7d"

end Config

end ReverseTunnel.Server
