import ReverseTunnel.Handshake
import ReverseTunnel.Http.Message
import ReverseTunnel.Server.Config

/-!
# The hello of a control connection

Once per connection the server asks the client for its token and its handshake
document. What the client answers is checked in a fixed order. A client that is
turned down is told why, in characters that a header value can hold.
-/

namespace ReverseTunnel.Server

open Http

/-- What comes back for a hello. -/
inductive HelloAnswer where
  /-- Nothing, before the time was over. -/
  | timedOut
  /-- The exchange failed. -/
  | failed (fault : Fault)
  /-- A response, and the bytes of the document that followed it. -/
  | answered (status : Status) (headers : Headers) (document : Bytes)

/-- The most of a document that is read. One byte more than is allowed shows that
a document is too large. -/
def readLimit : Nat := maxHandshakeBytes + 1

/-- The token and the handshake of an answer. -/
def readHello : HelloAnswer → Except Fault (String × Handshake)
  | .timedOut => .error .helloTimeout
  | .failed fault => .error fault
  | .answered status headers document =>
    if status ≠ .ok then .error (.handshake (.status status))
    else
      match (headers.get? tokenField).bind FieldValue.text? with
      | none => .error (.handshake .missingToken)
      | some token =>
        match Handshake.decode (document.take readLimit) with
        | .error fault => .error (.protocol fault)
        | .ok handshake => .ok (token, handshake)

/-- The handshake of an answer whose token is accepted. -/
def authorizedHandshake (config : Config) (answer : HelloAnswer) : Except Fault Handshake :=
  match readHello answer with
  | .error fault => .error fault
  | .ok (token, handshake) =>
    if config.authorizes token then .ok handshake else .error .unauthorized

/-- The text with blanks in place of what a header value may not hold. -/
def headerSafe (reason : String) : String :=
  String.ofList (reason.toList.map fun c => if 0x20 ≤ c.toNat ∧ c.toNat ≤ 0x7E then c else ' ')

/-- The reason that a client is given for its rejection. -/
def rejectionReason (fault : Fault) : String := headerSafe fault.message

end ReverseTunnel.Server
