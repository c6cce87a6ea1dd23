import ReverseTunnel.SystemError
import ReverseTunnel.Text.Numeral
import ReverseTunnel.Text.Split

/-!
# Socket addresses

An address text is a host and, after its last colon, a port. The host has to be
an IPv4 address in dotted form, an IPv6 address in brackets or without, or the
name of this host; other names would need a name server.
-/

namespace ReverseTunnel

/-- The family of a resolved address. -/
inductive AddressFamily where
  | v4
  | v6
  deriving DecidableEq

/-- A resolved address. -/
structure SocketAddress where
  family : AddressFamily
  host : String
  port : UInt16
  deriving DecidableEq

namespace SocketAddress

/-- The written form of an address. -/
def text (a : SocketAddress) : String :=
  match a.family with
  | .v4 => a.host ++ ":" ++ toString a.port.toNat
  | .v6 => "[" ++ a.host ++ "]:" ++ toString a.port.toNat

/-- One of the four numbers of a dotted address: no zeros in front, at most 255. -/
def isOctet (s : String) : Bool :=
  let cs := s.toList
  cs != [] && Text.isDigits cs && cs.length ≤ 3 && Text.digitsValue cs ≤ 255 &&
    (cs.length == 1 || cs.head? != some '0')

/-- The text is an IPv4 address in dotted form. -/
def isV4 (host : String) : Bool :=
  let parts := Text.pieces '.' host
  parts.length == 4 && parts.all isOctet

/-- The text looks like an IPv6 address: hexadecimal digits, dots and colons, of
which there are at least two. -/
def isV6 (host : String) : Bool :=
  let cs := host.toList
  2 ≤ cs.countP (· == ':') &&
    cs.all fun c => c == ':' || c == '.' || c.isDigit || "abcdefABCDEF".toList.contains c

/-- The host and port that an address text gives. -/
def resolve (address : String) : Except SystemError SocketAddress :=
  match Text.splitLast ':' address with
  | none => .error .invalidSocketAddress
  | some (host, port) =>
    match Text.unsigned? 65535 port with
    | none => .error .invalidPort
    | some port =>
      let port := port.toUInt16
      let inner := String.ofList (host.toList.drop 1).dropLast
      if isV4 host then .ok ⟨.v4, host, port⟩
      else if host = "localhost" then .ok ⟨.v4, "127.0.0.1", port⟩
      else if isV6 host then .ok ⟨.v6, host, port⟩
      else if Text.startsWith '[' host && host.toList.getLast? == some ']' && isV6 inner then
        .ok ⟨.v6, inner, port⟩
      else if host = "" then .error .unknownHost
      else .error .unresolvedHost

/-- The host that an address text names: what stands before a port, without the
brackets around it. A port may be an empty text. -/
def hostOf (address : String) : String :=
  let host :=
    match Text.splitLast ':' address with
    | some (host, port) => if Text.isDigits port.toList then host else address
    | none => address
  let inner := host.toList.dropWhile (· == '[')
  String.ofList (inner.reverse.dropWhile (· == ']')).reverse

end SocketAddress

end ReverseTunnel
