import ReverseTunnel.Http.Headers
import ReverseTunnel.Text.Split

/-!
# Caller address and bearer token

A proxy hop adds the caller's IP address to `X-Forwarded-For`, and the server
reads the token of an `Authorization: Bearer` field.
-/

namespace ReverseTunnel.Http

/-- The field name `x-forwarded-for`. -/
def FieldName.forwardedFor : FieldName := .ofText "x-forwarded-for"

/-- The field name `authorization`. -/
def FieldName.authorization : FieldName := .ofText "authorization"

namespace Headers

/-- The list of callers with one more address at its end: the first value of
the field counts as the list so far, unless it is empty or cannot be read. -/
def callersWith (h : Headers) (ip : String) : String :=
  match (h.get? .forwardedFor).bind FieldValue.text? with
  | some callers => if callers = "" then ip else callers ++ ", " ++ ip
  | none => ip

/-- The headers with one more caller in `X-Forwarded-For`; an address that
forms no field value changes nothing. -/
def appendForwardedFor (h : Headers) (ip : String) : Headers :=
  match FieldValue.ofText? (h.callersWith ip) with
  | some value => h.insert .forwardedFor value
  | none => h

/-- The token of the first `Authorization` value, when its scheme is `Bearer`
in any ASCII case. Blanks around the token do not belong to it, and it is never
empty. -/
def bearerToken (h : Headers) : Option String := do
  let value ← h.get? .authorization
  let text ← value.text?
  let (scheme, rest) ← Text.splitFirst ' ' text
  let token := Text.trim rest
  if Text.sameIgnoringCase scheme "bearer" && token != "" then some token else none

end Headers

end ReverseTunnel.Http
