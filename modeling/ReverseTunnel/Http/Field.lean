import ReverseTunnel.Bytes
import ReverseTunnel.Text.Ascii

/-!
# Header fields

A field name is kept in lower case, so that equal names are names that differ
at most in ASCII case. A field value is a row of bytes: tabs and all bytes from
the space up, without DEL. A value can be read as a text when it holds printable
ASCII and tabs only.
-/

namespace ReverseTunnel.Http

/-- The name of a header field. -/
structure FieldName where
  text : String
  lowered : Text.lower text = text
  deriving DecidableEq

/-- The field name that a text stands for in any ASCII case. -/
def FieldName.ofText (s : String) : FieldName := ⟨Text.lower s, Text.lower_lower s⟩

/-- The field name `host`. -/
def hostField : FieldName := .ofText "host"

/-- A byte that may stand in a field value. -/
def isFieldByte (b : UInt8) : Bool := (0x20 ≤ b && b != 0x7F) || b == 0x09

/-- A byte of a value that can be read as a text. -/
def isReadableByte (b : UInt8) : Bool := (0x20 ≤ b && b < 0x7F) || b == 0x09

/-- The value of a header field. -/
structure FieldValue where
  bytes : Bytes
  valid : bytes.all isFieldByte = true
  deriving DecidableEq

namespace FieldValue

/-- The value with these bytes, if they may stand in one. -/
def ofBytes? (bytes : Bytes) : Option FieldValue :=
  if h : bytes.all isFieldByte = true then some ⟨bytes, h⟩ else none

/-- The value with the UTF-8 bytes of a text, if they may stand in one. -/
def ofText? (s : String) : Option FieldValue := ofBytes? (utf8 s)

/-- The value can be read as a text. -/
def isReadable (v : FieldValue) : Bool := v.bytes.all isReadableByte

/-- The text of a value that can be read as one. -/
def text? (v : FieldValue) : Option String :=
  if v.isReadable then some (asciiText v.bytes) else none

theorem isFieldByte_of_isReadableByte {b : UInt8} (h : isReadableByte b = true) :
    isFieldByte b = true := by
  simp only [isReadableByte, isFieldByte, Bool.or_eq_true, Bool.and_eq_true,
    decide_eq_true_eq] at h ⊢
  rcases h with ⟨h1, h2⟩ | h
  · refine .inl ⟨h1, ?_⟩
    simp only [bne_iff_ne, ne_eq]
    rintro rfl
    exact absurd h2 (by decide)
  · exact .inr h

/-- The value of a literal text. -/
def literal (s : String) (h : (utf8 s).all isFieldByte = true := by decide) : FieldValue :=
  ⟨utf8 s, h⟩

end FieldValue

end ReverseTunnel.Http
