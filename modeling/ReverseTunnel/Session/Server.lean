import ReverseTunnel.Client.Basic
import ReverseTunnel.Server.PublicHttp
import ReverseTunnel.Server.Run

/-!
# Scripted use of a server on an isolated host

A session starts a server and works it step by step on a host without a network:
every TCP connection that the session opens fails, while sockets of the file
system, the port pool and requests made in the same process work. A tunnel
client that joins is made and keeps dialing in vain. The first such client is
waited for until the waiting gives up; a second wait would outlast the session.

Sessions are part of the thin outer layer, like the command line. This one only fixes
what the network does and calls the operations of `Server`; no result is about it.
-/

namespace ReverseTunnel.Session.Server

open Http ReverseTunnel.Server

/-- One step of a session. -/
inductive Step where
  /-- A tunnel client with these settings joins. -/
  | join (config : Client.Config)
  /-- A client, peer or connection that never came to be is to end. -/
  | leave
  /-- The session connects to the server itself: as a scripted client, to its
  public entrances, or with bytes of no meaning. -/
  | connect
  | unsubscribe (key name : String)
  | http (request : Request) (caller : Caller)
  /-- The session connects to a public TCP address. -/
  | tcp
  /-- The session connects to a Unix socket and sends some bytes. -/
  | unixSocket (path : String) (send : Body)
  | lookup (hosts owners : List String)
  | acquire (owner tunnel : String)
  | release (owner : String)
  | startAgain
  | stop

/-- What a step answers. -/
inductive Answer where
  | refusedConfig (fault : Client.Fault)
  /-- The client did not join before the waiting gave up. -/
  | joinTimeout
  | noSuchClient
  | flag (value : Bool)
  | response (response : Response)
  | unconnected
  /-- No socket answered; tells whether something stands at the path. -/
  | noSocket (present : Bool)
  | received (bytes : Bytes)
  | found (routes : List (Option HostRoute)) (ports : List (Except PoolError UInt16))
  | port (result : Except PoolError UInt16)
  | released (result : Except PoolError Unit)
  | fault (fault : Fault)
  | stopped

/-- Why a session has no answer. -/
inductive Abort where
  /-- The server could not be started. -/
  | fault (fault : Fault)
  /-- A connection of the session itself failed. -/
  | unreachable (error : SystemError)
  /-- The session waited too long. -/
  | overdue

/-- A session: its server, the file tree with its echo socket, and whether it has
waited for a client. -/
structure Run where
  server : State
  tree : FileTree
  echoSocket : String
  waited : Bool

/-- Connects to a Unix socket. -/
def unixAnswer (r : Run) (path : String) (send : Body) : Answer :=
  if path = r.echoSocket then .received send.bytes else .noSocket (r.tree.exists? path)

/-- One step of a session. -/
def step (r : Run) : Step → Except Abort (Run × Answer)
  | .join config =>
    match Client.ofConfig config with
    | .error fault => .ok (r, .refusedConfig fault)
    | .ok _ => if r.waited then .error .overdue else .ok ({ r with waited := true }, .joinTimeout)
  | .leave => .ok (r, .noSuchClient)
  | .connect => .error (.unreachable .networkUnreachable)
  | .unsubscribe key name =>
    let (removed, server) := r.server.unsubscribe key name
    .ok ({ r with server }, .flag removed)
  | .http request caller =>
    match routeRequest r.server.registry request caller with
    | .answered response => .ok (r, .response response)
    | .forwarded .. => .ok (r, .response unavailableResponse)
  | .tcp => .ok (r, .unconnected)
  | .unixSocket path send => .ok (r, unixAnswer r path send)
  | .lookup hosts owners =>
    .ok (r, .found (hosts.map r.server.registry.resolve) (owners.map r.server.pool.portOf))
  | .acquire owner tunnel =>
    match r.server.pool.acquire owner tunnel with
    | .ok (port, pool) => .ok ({ r with server := { r.server with pool } }, .port (.ok port))
    | .error e => .ok (r, .port (.error e))
  | .release owner =>
    match r.server.pool.release owner with
    | .ok pool => .ok ({ r with server := { r.server with pool } }, .released (.ok ()))
    | .error e => .ok (r, .released (.error e))
  | .startAgain => .ok (r, .fault .alreadyStarted)
  | .stop => .ok ({ r with server := r.server.stop }, .stopped)

/-- The session before its first step. -/
def start (config : Config) (scene : SocketScene) (echoSocket : String) : Except Abort Run :=
  match State.start config scene.bindOwn with
  | .error fault => .error (.fault fault)
  | .ok (server, _) => .ok ⟨server, scene.tree, echoSocket, false⟩

/-- What the steps of a session answer, each with the server after it. -/
def answers (r : Run) : List Step → Except Abort (List (Answer × State))
  | [] => .ok []
  | s :: rest =>
    match step r s with
    | .error abort => .error abort
    | .ok (r, answer) => (answers r rest).map fun later => (answer, r.server) :: later

/-- What a session answers. -/
def run (config : Config) (scene : SocketScene) (echoSocket : String) (steps : List Step) :
    Except Abort (List (Answer × State)) := do
  let r ← start config scene echoSocket
  answers r steps

end ReverseTunnel.Session.Server
