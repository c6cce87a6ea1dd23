import ReverseTunnel.BindAddress
import ReverseTunnel.Server.Config
import ReverseTunnel.Server.PublicSocket

/-!
# The state of a running server

The stores that the tasks of a server share, and the single steps in which they
change. Freeing the port of a listener looks the port up by client and tunnel
name. A listener is bound from the moment its socket is opened until its owner
drops it; being told to close comes earlier.
-/

namespace ReverseTunnel.Server

/-- What the tasks of a server share. -/
structure State where
  config : Config
  registry : Registry
  pool : PortPool
  connections : ConnectionPool
  /-- The listeners that were told to close. -/
  closed : ClosedListeners
  /-- The listeners whose sockets are bound. -/
  bound : List Listener
  nextHandle : Nat
  /-- The server was told to stop. -/
  stopping : Bool

namespace State

/-- A fresh server. -/
def fresh (config : Config) (pool : PortPool) : State :=
  { config, registry := .empty, pool, connections := .empty, closed := .empty, bound := [],
    nextHandle := 0, stopping := false }

/-- The fresh server of checked settings. What `listen` answers is the outcome of
binding the control listener. -/
def start (config : Config) (listen : String → Except SystemError SocketAddress) :
    Except Fault (State × SocketAddress) := do
  config.validate
  let pool ← (PortPool.parse config.portRange).mapError .pool
  let address ← (listen config.listenAddress).mapError (.bind config.listenAddress)
  return (fresh config pool, address)

/-- Frees the port that a client holds for a tunnel, if it holds one. -/
def releasePort (s : State) (client tunnel : String) : State :=
  match s.pool.releaseTunnel client tunnel with
  | .ok (_, pool) => { s with pool }
  | .error _ => s

/-- Frees the port behind a listener of a client. -/
def releaseListener (s : State) (client : String) (l : Listener) : State :=
  if l.poolPort.isSome then s.releasePort client l.name else s

/-- Opens a listener whose socket was bound. -/
def openListener (s : State) (name address : String) (poolPort : Option UInt16) :
    Listener × State :=
  let l : Listener := ⟨name, address, poolPort, s.nextHandle⟩
  (l, { s with bound := s.bound ++ [l], nextHandle := s.nextHandle + 1 })

/-- The sockets of some listeners are gone. -/
def dropListeners (s : State) (ls : List Listener) : State :=
  { s with bound := s.bound.filter fun l => !ls.contains l }

/-- The accept loop of a listener that was told to close ends. -/
def endAcceptLoop (s : State) (l : Listener) : State :=
  if s.closed.isClosed l then s.dropListeners [l] else s

/-- Tells a listener of a removed client to close, and frees its port. -/
def tearDown (s : State) (client : String) (l : Listener) : State :=
  { s with closed := s.closed.close l }.releaseListener client l

/-- Clears what a connection registered. -/
def clear (s : State) (key : String) : Option Holdings × State :=
  let (removed, registry) := s.registry.clear key
  (removed, { s with registry })

/-- The channel of a connection is removed. -/
def deleteChannel (s : State) (key : String) : State :=
  { s with connections := (s.connections.delete key).2 }

/-- The names of the subscribed clients. -/
def clientNames (s : State) : List String := s.registry.clientNames

end State

end ReverseTunnel.Server
