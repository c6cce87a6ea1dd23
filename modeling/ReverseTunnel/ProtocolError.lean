/-!
# Faults in what the two sides send each other

The causes for which a handshake document, a control message or a protocol name
is refused, and their wording.
-/

namespace ReverseTunnel

/-- The largest handshake document in bytes. -/
def maxHandshakeBytes : Nat := 126976

/-- Why a document or message of the other side is refused. -/
inductive ProtocolError where
  | unknownProtocol (name : String)
  | unknownAction (name : String)
  | missingHeader (name : String)
  | invalidHeader (name : String)
  | documentTooLarge
  | noTunnels
  | missingClientName
  | malformedDocument
  deriving DecidableEq

/-- The wording of a refusal. -/
def ProtocolError.message : ProtocolError → String
  | .unknownProtocol name => "Unknown protocol: " ++ name
  | .unknownAction name => "Unknown action: " ++ name
  | .missingHeader name => "Missing header: " ++ name
  | .invalidHeader name => "Invalid value for header " ++ name
  | .documentTooLarge => "Handshake body exceeds " ++ toString maxHandshakeBytes ++ " bytes"
  | .noTunnels => "Handshake declares no tunnels"
  | .missingClientName => "Handshake is missing the client name"
  | .malformedDocument => "Invalid handshake document"

end ReverseTunnel
