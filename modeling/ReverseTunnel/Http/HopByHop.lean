import ReverseTunnel.Http.Headers
import ReverseTunnel.Text.Split

/-!
# Connection-scoped header fields

Some header fields describe one connection and must not cross a hop: a fixed
list, and every name that a readable `Connection` value lists. A request to
switch protocols is the exception. It crosses the hop as `Connection: upgrade`
together with its first `Upgrade` value.
-/

namespace ReverseTunnel.Http

/-- The field name `connection`. -/
def FieldName.connection : FieldName := .ofText "connection"

/-- The field name `upgrade`. -/
def FieldName.upgrade : FieldName := .ofText "upgrade"

/-- The fields that always belong to one connection. The framing fields
`content-length` and `transfer-encoding` are not among them: each side frames
its body from them anew. -/
def hopByHopNames : List FieldName :=
  [.connection, .ofText "keep-alive", .ofText "proxy-connection", .ofText "proxy-authenticate",
    .ofText "proxy-authorization", .ofText "te", .ofText "trailer", .upgrade]

namespace Headers

/-- The trimmed elements of all readable `Connection` values, in order. -/
def connectionTokens (h : Headers) : List String :=
  (h.getAll .connection).flatMap fun value =>
    match value.text? with
    | some text => (Text.pieces ',' text).map Text.trim
    | none => []

/-- The protocol that the message asks to switch to. -/
def upgradeProtocol (h : Headers) : Option FieldValue :=
  if h.connectionTokens.any fun token => Text.sameIgnoringCase token "upgrade" then
    h.get? .upgrade
  else none

/-- The names that the message lists as belonging to this connection. -/
def listedNames (h : Headers) : List FieldName :=
  (h.connectionTokens.filter fun token => token != "").map FieldName.ofText

/-- The headers that may cross a hop. -/
def removeHopByHop (h : Headers) : Headers :=
  let kept := (h.removeAll h.listedNames).removeAll hopByHopNames
  match h.upgradeProtocol with
  | some protocol =>
    (kept.insert .connection (.literal "upgrade")).insert .upgrade protocol
  | none => kept

end Headers

end ReverseTunnel.Http
