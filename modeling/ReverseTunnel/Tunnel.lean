import ReverseTunnel.Protocol
import ReverseTunnel.Json.Record
import ReverseTunnel.Json.Writer

/-!
# Tunnels and their declarations

A client declares tunnels; the server learns of a declaration only its `Tunnel`:
the local address stays with the client. Both have a JSON form. Reading accepts
the record forms of `Json.Value.fields?`, in which only the protocol (and the
local address of a declaration) has to be there.
-/

namespace ReverseTunnel

/-- A tunnel as the server knows it. -/
structure Tunnel where
  protocol : Protocol
  /-- The routing key of an HTTP or SNI tunnel. -/
  host : String
  /-- The token that callers of this host must present. -/
  auth : Option String
  /-- The public address of a TCP or Unix tunnel. -/
  address : String
  deriving DecidableEq

/-- A tunnel as the client declares it. -/
structure Declaration where
  protocol : Protocol
  /-- The routing key of an HTTP or SNI tunnel. -/
  host : String
  /-- Where the client takes matched traffic. -/
  localAddress : String
  /-- The public address of a TCP or Unix tunnel. -/
  remoteAddress : String
  /-- The token that callers of this host must present. -/
  auth : Option String
  deriving DecidableEq

/-- The protocol that a JSON value names. -/
def Protocol.ofJson? (value : Json.Value) : Option Protocol :=
  value.alternative?.bind Protocol.ofName?

namespace Tunnel

/-- The field names of a tunnel's JSON form, in the order of the array form. -/
def fieldNames : List String := ["Protocol", "Host", "Auth", "Addr"]

/-- The tunnel of a JSON value. -/
def ofJson? (value : Json.Value) : Option Tunnel := do
  let fields ← value.fields? fieldNames
  let protocol ← (← fields.lookup "Protocol") |> Protocol.ofJson?
  let host ← Json.textFieldOr "" "Host" fields
  let auth ← Json.optionalTextField "Auth" fields
  let address ← Json.textFieldOr "" "Addr" fields
  return ⟨protocol, host, auth, address⟩

/-- The tunnel of a JSON text. -/
def decode? (bytes : Bytes) : Option Tunnel := (Json.parse? bytes).bind ofJson?

/-- The JSON form of a tunnel; without a token it has no `Auth`. -/
def write (t : Tunnel) : List Char :=
  Json.writeObject <|
    [("Protocol", Json.writeText t.protocol.name), ("Host", Json.writeText t.host)] ++
    (t.auth.map fun a => ("Auth", Json.writeText a)).toList ++
    [("Addr", Json.writeText t.address)]

end Tunnel

namespace Declaration

/-- An HTTP tunnel for a host. -/
def http (host localUrl : String) : Declaration := ⟨.http, host, localUrl, "", none⟩

/-- A TCP tunnel on a public address. -/
def tcp (localAddress remoteAddress : String) : Declaration :=
  ⟨.tcp, "", localAddress, remoteAddress, none⟩

/-- A TLS tunnel for a server name. -/
def sni (host localAddress : String) : Declaration := ⟨.sni, host, localAddress, "", none⟩

/-- What the server learns of a declaration. -/
def toTunnel (d : Declaration) : Tunnel := ⟨d.protocol, d.host, d.auth, d.remoteAddress⟩

/-- The field names of a declaration's JSON form, in the order of the array form. -/
def fieldNames : List String :=
  ["protocol", "host", "local_address", "remote_address", "auth_token"]

/-- The declaration of a JSON value. -/
def ofJson? (value : Json.Value) : Option Declaration := do
  let fields ← value.fields? fieldNames
  let protocol ← (← fields.lookup "protocol") |> Protocol.ofJson?
  let host ← Json.textFieldOr "" "host" fields
  let localAddress ← Json.textField "local_address" fields
  let remoteAddress ← Json.textFieldOr "" "remote_address" fields
  let auth ← Json.optionalTextField "auth_token" fields
  return ⟨protocol, host, localAddress, remoteAddress, auth⟩

/-- The declaration of a JSON text. -/
def decode? (bytes : Bytes) : Option Declaration := (Json.parse? bytes).bind ofJson?

/-- The JSON form of a declaration; without a token it has no `auth_token`. -/
def write (d : Declaration) : List Char :=
  Json.writeObject <|
    [("protocol", Json.writeText d.protocol.name), ("host", Json.writeText d.host),
      ("local_address", Json.writeText d.localAddress),
      ("remote_address", Json.writeText d.remoteAddress)] ++
    (d.auth.map fun a => ("auth_token", Json.writeText a)).toList

end Declaration

end ReverseTunnel
