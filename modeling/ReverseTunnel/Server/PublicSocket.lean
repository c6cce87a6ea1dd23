import ReverseTunnel.FileTree
import ReverseTunnel.Server.Fault
import ReverseTunnel.SocketAddress

/-!
# Public sockets

A TCP tunnel binds an address of its family, where an address without a host
stands for all addresses of this host. A Unix tunnel binds a path that must not
exist yet, and removes it again when its socket is closed.
-/

namespace ReverseTunnel.Server

/-- The address with the host that an address without one stands for. -/
def withDefaultHost (address : String) (protocol : Protocol) : String :=
  if Text.startsWith ':' address then
    (if protocol = .tcp6 then "[::]" else "0.0.0.0") ++ address
  else address

/-- What decides how an attempt to bind ends: the addresses that are taken, and
the file tree. -/
structure SocketScene where
  taken : List SocketAddress
  tree : FileTree

/-- The address belongs to this host: a loopback address, or all addresses. -/
def isLocal (a : SocketAddress) : Bool :=
  match a.family with
  | .v4 => a.host == "0.0.0.0" || (Text.pieces '.' a.host).head? == some "127"
  | .v6 => a.host == "::" || a.host == "::1"

/-- The resolved address may be bound by a tunnel of this protocol. -/
def admitsFamily (protocol : Protocol) (a : SocketAddress) : Bool :=
  match protocol with
  | .tcp4 => a.family == .v4
  | .tcp6 => a.family == .v6
  | .http | .tcp | .unix | .sni => true

/-- The host stands for all addresses of its family. -/
def isAnyHost (a : SocketAddress) : Bool :=
  match a.family with
  | .v4 => a.host == "0.0.0.0"
  | .v6 => a.host == "::"

/-- Two sockets cannot be bound to both addresses: one port, and a host that is the
same or stands for all. -/
def collide (a b : SocketAddress) : Bool :=
  a.family == b.family && a.port == b.port && (a.host == b.host || isAnyHost a || isAnyHost b)

/-- Binds a resolved address. Port 0 is any free port. -/
def SocketScene.bindAddress (s : SocketScene) (a : SocketAddress) :
    Except SystemError SocketAddress :=
  if !isLocal a then .error .addressNotAvailable
  else if a.port ≠ 0 ∧ s.taken.any (collide a) then .error .addressInUse
  else .ok a

/-- Binds the address of a TCP tunnel. -/
def SocketScene.bindTcp (s : SocketScene) (address : String) (protocol : Protocol) :
    Except Fault SocketAddress :=
  let address := withDefaultHost address protocol
  match SocketAddress.resolve address with
  | .error e => .error (.bind address e)
  | .ok a =>
    if !admitsFamily protocol a then .error (.bind address (.noAddressOfFamily protocol address))
    else (s.bindAddress a).mapError fun e => .bind address e

/-- Binds the address of one of the server's own listeners. -/
def SocketScene.bindOwn (s : SocketScene) (address : String) : Except SystemError SocketAddress :=
  match SocketAddress.resolve address with
  | .error e => .error e
  | .ok a => s.bindAddress a

/-- The longest path of a socket. -/
def maxSocketPath : Nat := 107

/-- Whether a socket can be bound at a path. -/
def SocketScene.checkPath (s : SocketScene) (path : String) : Except SystemError Unit :=
  if path.utf8ByteSize > maxSocketPath then .error .pathTooLong
  else if s.tree.exists? path then .error .addressInUse
  else if s.tree.hasDirectory (FileTree.parent path) then .ok ()
  else .error (s.tree.missing (FileTree.parent path))

/-- Binds the path of a Unix tunnel. -/
def SocketScene.bindUnix (s : SocketScene) (path : String) : Except Fault Unit :=
  if Text.isBlankText path then .error (.config .missingSocketPath)
  else (s.checkPath path).mapError fun e => .bind path e

end ReverseTunnel.Server
