import ReverseTunnel.Text.Ascii

/-!
# Forwarding protocols

What a tunnel carries: HTTP requests routed by host, TLS streams routed by the
server name of their ClientHello, or the byte streams of a public TCP or Unix
socket. Every protocol is known by its name (`parse_name`).
-/

namespace ReverseTunnel

/-- What a tunnel carries. -/
inductive Protocol where
  /-- HTTP requests routed by host. -/
  | http
  /-- Byte streams of a public TCP port. -/
  | tcp
  /-- Byte streams of a TCP port on an IPv4 address. -/
  | tcp4
  /-- Byte streams of a TCP port on an IPv6 address. -/
  | tcp6
  /-- Byte streams of a public Unix domain socket. -/
  | unix
  /-- TLS streams routed by server name. -/
  | sni
  deriving DecidableEq, Inhabited

namespace Protocol

/-- The name of a protocol. -/
def name : Protocol → String
  | http => "http"
  | tcp => "tcp"
  | tcp4 => "tcp4"
  | tcp6 => "tcp6"
  | unix => "unix"
  | sni => "sni"

/-- The protocol with exactly this name. -/
def ofName? (s : String) : Option Protocol :=
  if s = "http" then some http
  else if s = "tcp" then some tcp
  else if s = "tcp4" then some tcp4
  else if s = "tcp6" then some tcp6
  else if s = "unix" then some unix
  else if s = "sni" then some sni
  else none

/-- The protocol with this name in any ASCII case. -/
def parse? (s : String) : Option Protocol := ofName? (Text.lower s)

/-- The server picks the tunnel by a host name instead of by a listener. -/
def isHostRouted : Protocol → Bool
  | http | sni => true
  | tcp | tcp4 | tcp6 | unix => false

/-- The public side is a TCP listener. -/
def isTcp : Protocol → Bool
  | tcp | tcp4 | tcp6 => true
  | http | unix | sni => false

theorem ofName?_name (p : Protocol) : ofName? p.name = some p := by cases p <;> rfl

theorem parse?_name (p : Protocol) : parse? p.name = some p := by cases p <;> decide

end Protocol

end ReverseTunnel
