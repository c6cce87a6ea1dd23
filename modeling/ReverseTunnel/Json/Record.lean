import ReverseTunnel.Json.Value

/-!
# Records in JSON

A record is an object with the record's field names as keys, or an array of the
field values in the order of the names. In an object, other keys are skipped, a
field that comes twice is refused, and every key has to be a text. In an array
the last fields may be left out, and nothing may follow the last field.
-/

namespace ReverseTunnel.Json

/-- The fields that an object gives to the names of a record, in the order of
the object. -/
def knownMembers? (names : List String) :
    List (Option String × Value) → Option (List (String × Value))
  | [] => some []
  | (none, _) :: _ => none
  | (some key, value) :: rest =>
    (knownMembers? names rest).bind fun fields =>
      if names.contains key then
        if fields.any fun f => f.1 == key then none else some ((key, value) :: fields)
      else some fields

/-- The fields that a value gives to a record with these field names. -/
def Value.fields? (names : List String) : Value → Option (List (String × Value))
  | .object members => knownMembers? names members
  | .array items => if items.length ≤ names.length then some (names.zip items) else none
  | .null | .bool _ | .number | .text _ => none

/-- The text of a string value. -/
def Value.text? : Value → Option String
  | .text s => s
  | .null | .bool _ | .number | .array _ | .object _ => none

/-- A text field; one that is left out has the text `default`. -/
def textFieldOr (default name : String) (fields : List (String × Value)) : Option String :=
  match fields.lookup name with
  | none => some default
  | some value => value.text?

/-- A text field that has to be there. -/
def textField (name : String) (fields : List (String × Value)) : Option String :=
  (fields.lookup name).bind Value.text?

/-- A field that is a text or null; one that is left out counts as null. -/
def optionalTextField (name : String) (fields : List (String × Value)) :
    Option (Option String) :=
  match fields.lookup name with
  | none => some none
  | some .null => some none
  | some value => value.text?.map some

/-- The name of an alternative without content: a string, or an object that
gives null to that name alone. -/
def Value.alternative? : Value → Option String
  | .text s => s
  | .object [(key, .null)] => key
  | .null | .bool _ | .number | .array _ | .object _ => none

end ReverseTunnel.Json
