import ReverseTunnel.Http.Field
import ReverseTunnel.NameMap
import ReverseTunnel.ProtocolError
import ReverseTunnel.Text.Blank
import ReverseTunnel.Tunnel

/-!
# The handshake document

Once per control connection the client tells its name and its tunnels in a JSON
document of at most `maxHandshakeBytes` bytes. The size is checked before the
text is read; a document without a client name or without tunnels is refused.
The client presents its token in a header field beside the document.
-/

namespace ReverseTunnel

/-- The field in which a client presents its token. -/
def tokenField : Http.FieldName := .ofText "x-auth-header"

/-- A client's name and its tunnels. -/
structure Handshake where
  clientName : String
  tunnels : NameMap Tunnel

namespace Handshake

/-- The field names of the document, in the order of the array form. -/
def fieldNames : List String := ["IdName", "Tunnels"]

/-- The tunnels of a JSON object. Every member has to be a tunnel; of a repeated
name the last counts. -/
def tunnelsOfJson? : Json.Value → Option (NameMap Tunnel)
  | .object members =>
    members.foldlM (fun tunnels member => do
      let name ← member.1
      let tunnel ← Tunnel.ofJson? member.2
      return tunnels.insert name tunnel) NameMap.empty
  | .null | .bool _ | .number | .text _ | .array _ => none

/-- The handshake of a JSON value. -/
def ofJson? (value : Json.Value) : Option Handshake := do
  let fields ← value.fields? fieldNames
  let clientName ← Json.textField "IdName" fields
  let tunnels ← (← fields.lookup "Tunnels") |> tunnelsOfJson?
  return ⟨clientName, tunnels⟩

/-- The handshake of a document. -/
def decode (bytes : Bytes) : Except ProtocolError Handshake :=
  if bytes.length > maxHandshakeBytes then .error .documentTooLarge
  else
    match (Json.parse? bytes).bind ofJson? with
    | none => .error .malformedDocument
    | some handshake =>
      if Text.isBlankText handshake.clientName then .error .missingClientName
      else if handshake.tunnels.isEmpty then .error .noTunnels
      else .ok handshake

/-- The JSON form of a handshake. -/
def write (h : Handshake) : List Char :=
  Json.writeObject
    [("IdName", Json.writeText h.clientName),
      ("Tunnels", Json.writeObject (h.tunnels.entries.map fun e => (e.1, e.2.write)))]

/-- The document of a handshake. -/
def encode (h : Handshake) : Except ProtocolError Bytes :=
  let bytes := utf8 (String.ofList h.write)
  if bytes.length > maxHandshakeBytes then .error .documentTooLarge else .ok bytes

end Handshake

end ReverseTunnel
