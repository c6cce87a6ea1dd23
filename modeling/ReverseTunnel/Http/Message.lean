import ReverseTunnel.Http.Headers
import ReverseTunnel.Http.Status
import ReverseTunnel.Http.Uri

/-!
# Requests, responses and bodies

A body arrives in chunks; what counts is the bytes they hold together. Bridging
a body to a byte stream keeps the bytes of both directions (`bridge`).
-/

namespace ReverseTunnel.Http

/-- A body in the chunks in which it arrives. -/
abbrev Body := List Bytes

/-- All bytes of a body. -/
def Body.bytes (b : Body) : Bytes := b.flatten

/-- A request. -/
structure Request where
  method : String
  uri : Uri
  headers : Headers
  body : Body

/-- A response. -/
structure Response where
  status : Status
  headers : Headers
  body : Body

/-- A duplex stream in place of a body: what reading it to the end yields, and
the body that comes out of what is written to it. -/
def bridge (incoming : Body) (written : List Bytes) : Bytes × Body := (incoming.bytes, written)

/-- The bytes that a writer gets when a body is copied to it. -/
def copyBody (body : Body) : Bytes := body.bytes

end ReverseTunnel.Http
