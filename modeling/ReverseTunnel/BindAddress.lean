import ReverseTunnel.Text.Split

/-!
# Public bind addresses

A tunnel names the public address that it wants bound. `AUTO` in place of the
port, in any ASCII case, asks for a port of the server's pool.
-/

namespace ReverseTunnel

/-- Where a public listener is bound. -/
inductive BindAddress where
  /-- Exactly this address. -/
  | fixed (address : String)
  /-- This host, on a port of the pool. -/
  | auto (host : String)
  deriving DecidableEq

namespace BindAddress

/-- The word that asks for a port of the pool. -/
def autoPort : String := "AUTO"

/-- The bind address that a tunnel's address stands for. -/
def parse (address : String) : BindAddress :=
  match Text.splitLast ':' address with
  | some (host, port) => if Text.sameIgnoringCase port autoPort then .auto host else .fixed address
  | none => .fixed address

/-- The address to bind once the port of the pool is known. -/
def withPort (b : BindAddress) (port : UInt16) : String :=
  match b with
  | .fixed address => address
  | .auto host => host ++ ":" ++ toString port.toNat

end BindAddress

end ReverseTunnel
