import ReverseTunnel.Json.Token

/-!
# JSON values

A value is built from its tokens with an explicit stack of the arrays and
objects that are still open, so that nesting has no limit. Objects keep their
members in the order of the text, repeated keys included: which of them counts
is for the reader of a document to say.
-/

namespace ReverseTunnel.Json

/-- A JSON value. A string without text is one that no text can stand for. -/
inductive Value where
  | null
  | bool (value : Bool)
  | number
  | text (value : Option String)
  | array (items : List Value)
  | object (members : List (Option String × Value))

/-- An open array, an open object, or an open object with the key whose value is
awaited. What was read so far is kept with the last first. -/
inductive Frame where
  | array (items : List Value)
  | object (members : List (Option String × Value))
  | member (members : List (Option String × Value)) (key : Option String)

/-- What may come next. -/
inductive Awaiting where
  | value
  | firstItem
  | firstKey
  | key
  | colon
  | separator
  deriving DecidableEq

/-- A value that is being built, or is complete. -/
inductive Builder where
  | open (frames : List Frame) (awaiting : Awaiting)
  | complete (value : Value)

/-- The builder before the first token. -/
def Builder.start : Builder := .open [] .value

/-- A finished value takes its place in the innermost open frame. -/
def Builder.place (frames : List Frame) (value : Value) : Option Builder :=
  match frames with
  | [] => some (.complete value)
  | .array items :: rest => some (.open (.array (value :: items) :: rest) .separator)
  | .member members key :: rest =>
    some (.open (.object ((key, value) :: members) :: rest) .separator)
  | .object _ :: _ => none

/-- The builder at a place where a value begins. -/
def Builder.beginValue (frames : List Frame) (token : Token) : Option Builder :=
  match token with
  | .null => place frames .null
  | .bool b => place frames (.bool b)
  | .number => place frames .number
  | .text s => place frames (.text s)
  | .openArray => some (.open (.array [] :: frames) .firstItem)
  | .openObject => some (.open (.object [] :: frames) .firstKey)
  | .closeArray | .closeObject | .comma | .colon => none

/-- The builder at a place where a key begins. -/
def Builder.beginKey (frames : List Frame) (token : Token) : Option Builder :=
  match frames, token with
  | .object members :: rest, .text key => some (.open (.member members key :: rest) .colon)
  | _, _ => none

/-- The builder at a place where the innermost frame may end. -/
def Builder.close (frames : List Frame) (token : Token) : Option Builder :=
  match frames, token with
  | .array items :: rest, .closeArray => place rest (.array items.reverse)
  | .object members :: rest, .closeObject => place rest (.object members.reverse)
  | _, _ => none

/-- One step of the builder; `none` when the token may not come here. -/
def Builder.step (b : Builder) (token : Token) : Option Builder :=
  match b with
  | .complete _ => none
  | .open frames .value => beginValue frames token
  | .open frames .firstItem =>
    match token with
    | .closeArray => close frames token
    | token => beginValue frames token
  | .open frames .firstKey =>
    match token with
    | .closeObject => close frames token
    | token => beginKey frames token
  | .open frames .key => beginKey frames token
  | .open frames .colon =>
    match token with
    | .colon => some (.open frames .value)
    | _ => none
  | .open frames .separator =>
    match frames, token with
    | .array _ :: _, .comma => some (.open frames .value)
    | .object _ :: _, .comma => some (.open frames .key)
    | frames, token => close frames token

/-- The builder after a row of tokens. -/
def buildFrom (b : Builder) (tokens : List Token) : Option Builder := tokens.foldlM Builder.step b

/-- The value of a complete build. -/
def Builder.value? : Builder → Option Value
  | .complete value => some value
  | .open .. => none

/-- The value of a JSON text. -/
def parse? (bytes : Bytes) : Option Value := do
  let tokens ← tokens? bytes
  let built ← buildFrom .start tokens
  built.value?

theorem buildFrom_append (b : Builder) (s t : List Token) :
    buildFrom b (s ++ t) = (buildFrom b s).bind fun b' => buildFrom b' t := by
  simp [buildFrom]

end ReverseTunnel.Json
