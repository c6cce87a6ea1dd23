import ReverseTunnel.Client.IsolatedHost
import ReverseTunnel.Client.TrustedRoots
import ReverseTunnel.CommandLine.Arguments
import ReverseTunnel.CommandLine.Report
import ReverseTunnel.Server.Identity
import ReverseTunnel.Server.State
import ReverseTunnel.TunnelsFile

/-!
# What a command leads to

A server reads its identity, binds its control listener and then its public
entrypoints; what cannot be read or bound ends it. Otherwise it runs until it is
interrupted. A client reads its tunnels file and the certificates it trusts, is made
from its configuration and then dials; the host being isolated, it dials in vain.

A run is interrupted when a line of its log holds a certain text. Of the log only
those lines are modelled that come before a wait of the client.
-/

namespace ReverseTunnel.CommandLine

/-- The surroundings of a run. -/
structure Scene where
  sockets : Server.SocketScene
  environment : NameMap String
  /-- The run is interrupted at a line of the log that holds this text. -/
  interruptOn : Option String

/-- How a run ends. -/
inductive Outcome where
  /-- A text about the program was printed. -/
  | informed
  /-- The words of the command line break a rule. -/
  | misused
  /-- The run was interrupted. -/
  | stopped
  | failed (report : Report)
  /-- The reconnect policy had no answer. -/
  | crashed (fault : BackoffFault)
  deriving DecidableEq

/-- The exit code that tells of an outcome. -/
def Outcome.exitCode : Outcome → UInt8
  | .informed | .stopped => 0
  | .failed _ => 1
  | .misused => 2
  | .crashed _ => 101

/-- What is said on the error stream about an outcome that failed. -/
def Outcome.report? : Outcome → Option Report
  | .failed report => some report
  | .informed | .misused | .stopped | .crashed _ => none

/-- A text occurs in another. -/
def occursIn (text : List Char) : List Char → Bool
  | [] => text.isEmpty
  | c :: rest => text.isPrefixOf (c :: rest) || occursIn text rest

/-! ## Servers -/

/-- Binds an entrypoint, whose address is taken from then on. -/
def bindEntrypoint (kind : String) (address : Option String) (s : Server.SocketScene) :
    Except Report Server.SocketScene :=
  match address with
  | none => .ok s
  | some address =>
    match s.bindOwn address with
    | .ok a => .ok { s with taken := a :: s.taken }
    | .error e => .error ⟨"Failed to bind " ++ kind ++ " listener " ++ address, [e.message]⟩

/-- Starts a server with its entrypoints. -/
def startServer (sockets : Server.SocketScene) (a : ServerArguments) :
    Except Report Server.State := do
  let config := (Server.Config.new a.listen a.portRange).withToken a.token
  let config ←
    match a.identity with
    | none => pure config
    | some (certificate, key) =>
      match Server.Identity.load sockets.tree certificate key with
      | .ok _ => pure { config with usesTls := true }
      | .error e => throw ⟨e.message, e.cause.toList⟩
  let (server, address) ← (Server.State.start config sockets.bindOwn).mapError fun e =>
    ⟨"Failed to start server", e.message :: e.cause.toList⟩
  let sockets := { sockets with taken := address :: sockets.taken }
  let sockets ← bindEntrypoint "HTTP" a.httpListen sockets
  let _ ← bindEntrypoint "SNI" a.sniListen sockets
  return server

/-- How a server ends. -/
def runServer (scene : Scene) (a : ServerArguments) : Outcome :=
  match startServer scene.sockets a with
  | .ok _ => .stopped
  | .error report => .failed report

/-! ## Clients -/

/-- Reads a tunnels file. -/
def loadTunnels (tree : FileTree) (path : String) : Except Report TunnelsFile := do
  let text ← (tree.readText path).mapError fun e =>
    ⟨"Failed to read tunnels file " ++ path, [e.message]⟩
  (TunnelsFile.parse text).mapError fun e => ⟨"Invalid tunnels file " ++ path, [e.message]⟩

/-- Makes the security that a client of this server is told to use. -/
def loadSecurity (tree : FileTree) (server : String) :
    SecurityArguments → Except Report Client.Security
  | .plaintext => .ok .plaintext
  | .tls roots serverName =>
    let name := serverName.getD (SocketAddress.hostOf server)
    match roots with
    | none => .ok (.tls name)
    | some path =>
      (Client.Security.ofFile tree path name).mapError fun e =>
        ⟨"Failed to load CA bundle " ++ path, e.message :: e.cause.toList⟩

/-- Makes a client. -/
def makeClient (a : ClientArguments) (file : TunnelsFile) (security : Client.Security) :
    Except Report Client :=
  (Client.ofConfig {
    serverAddress := a.server, declarations := file.tunnels, token := a.token,
    security := some security, clientName := a.clientName,
    backoff := file.backoff.toBackoff }).mapError fun e =>
      ⟨"Invalid client configuration", e.message :: e.cause.toList⟩

/-- The client that is started, with the tunnels file behind it. -/
def startClient (tree : FileTree) (a : ClientArguments) : Except Report (Client × TunnelsFile) := do
  let file ← loadTunnels tree a.tunnels
  let security ← loadSecurity tree a.server a.security
  let client ← makeClient a file security
  return (client, file)

/-- The lines of the log before the wait for the next dial. -/
def linesBeforeWait (client : Client) (file : TunnelsFile) (verbose : Bool) (delay : Duration) :
    List String :=
  (if client.security = .plaintext then
      ["⚠️  Control connection is not encrypted (insecure mode)"] else []) ++
    file.tunnels.entries.map (fun (name, d) =>
      "Declared tunnel tunnel=" ++ name ++ " protocol=" ++ d.protocol.name) ++
    [client.failedDial.message] ++
    if verbose then ["Redialing in " ++ delay.text] else []

/-- The run is interrupted in the wait before the next dial. -/
def interrupts (scene : Scene) (client : Client) (file : TunnelsFile) (verbose : Bool)
    (delay : Duration) : Bool :=
  match scene.interruptOn with
  | some text =>
    (linesBeforeWait client file verbose delay).any fun line => occursIn text.toList line.toList
  | none => false

/-- How a client ends. One that dials for ever is interrupted at last. -/
def runClient (scene : Scene) (a : ClientArguments) (verbose : Bool) : Outcome :=
  match startClient scene.sockets.tree a with
  | .error report => .failed report
  | .ok (client, file) =>
    match client.isolatedEnd (interrupts scene client file verbose) with
    | none | some .stopped => .stopped
    | some (.failed fault) =>
      .failed ⟨"Tunnel client stopped", fault.message :: fault.cause.toList⟩
    | some (.crashed fault) => .crashed fault

/-! ## The program -/

/-- How the program ends when it is called with these words. -/
def run (scene : Scene) (words : List String) : Outcome :=
  match Command.parse scene.environment words with
  | .error .information => .informed
  | .error .misuse => .misused
  | .ok ⟨.server arguments, _⟩ => runServer scene arguments
  | .ok ⟨.client arguments, verbose⟩ => runClient scene arguments verbose

end ReverseTunnel.CommandLine
