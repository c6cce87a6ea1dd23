import ReverseTunnel.Bytes

/-!
# Tokens of a JSON text

The scanner reads one byte per step and keeps the tokens found so far. It stands
between two tokens, inside one of the words `null`, `true` and `false`, inside a
number, or inside a string. Since a run over `a ++ b` is a run over `a` followed
by one over `b` (`scanFrom_append`), facts about parts of a text combine.

A string whose escapes form no text (a surrogate without its partner) or whose
bytes are no UTF-8 is still a token; it carries no text. Numbers carry nothing,
for no document of this library has a numeric field.
-/

namespace ReverseTunnel.Json

/-- A lexical unit of a JSON text. -/
inductive Token where
  | openArray
  | closeArray
  | openObject
  | closeObject
  | comma
  | colon
  | null
  | bool (value : Bool)
  | number
  | text (value : Option String)
  deriving DecidableEq

/-- The part of a number that was read last. -/
inductive NumberPart where
  | sign
  | zero
  | whole
  | point
  | fraction
  | exponentMark
  | exponentSign
  | exponent
  deriving DecidableEq

/-- What an escape sequence inside a string still needs. -/
inductive Escape where
  | outside
  | afterBackslash
  | digits (left value : Nat)
  deriving DecidableEq

/-- A string that is being read: its content so far with the last byte first, a
leading surrogate that waits for its partner, and whether the content can still
be a text. -/
structure TextScan where
  content : Bytes
  lead : Option Nat
  sound : Bool
  escape : Escape
  deriving DecidableEq

/-- Where the scanner stands. -/
inductive Mode where
  | between
  | word (left : Bytes) (token : Token)
  | number (part : NumberPart)
  | text (scan : TextScan)
  deriving DecidableEq

/-- The scanner: its place and the tokens found, the last one first. -/
structure Scanner where
  mode : Mode
  found : List Token
  deriving DecidableEq

/-- The scanner before the first byte. -/
def Scanner.start : Scanner := ⟨.between, []⟩

/-- Space, tab, line feed and carriage return. -/
def isSpaceByte (b : UInt8) : Bool := b == 0x20 || b == 0x09 || b == 0x0A || b == 0x0D

/-- An ASCII digit. -/
def isDigitByte (b : UInt8) : Bool := 0x30 ≤ b && b ≤ 0x39

/-- The value of a hexadecimal digit. -/
def hexDigit? (b : UInt8) : Option Nat :=
  if 0x30 ≤ b && b ≤ 0x39 then some (b.toNat - 0x30)
  else if 0x61 ≤ b && b ≤ 0x66 then some (b.toNat - 0x57)
  else if 0x41 ≤ b && b ≤ 0x46 then some (b.toNat - 0x37)
  else none

/-- The part of a number that a byte opens or goes on with. -/
def NumberPart.next? (part : NumberPart) (b : UInt8) : Option NumberPart :=
  match part with
  | .sign => if b == 0x30 then some .zero else if isDigitByte b then some .whole else none
  | .zero => if b == 0x2E then some .point else if b == 0x65 || b == 0x45 then some .exponentMark
      else none
  | .whole => if isDigitByte b then some .whole else if b == 0x2E then some .point
      else if b == 0x65 || b == 0x45 then some .exponentMark else none
  | .point => if isDigitByte b then some .fraction else none
  | .fraction => if isDigitByte b then some .fraction
      else if b == 0x65 || b == 0x45 then some .exponentMark else none
  | .exponentMark => if b == 0x2B || b == 0x2D then some .exponentSign
      else if isDigitByte b then some .exponent else none
  | .exponentSign => if isDigitByte b then some .exponent else none
  | .exponent => if isDigitByte b then some .exponent else none

/-- A number may end after this part, given the byte that follows. A zero in
front of another digit is no number. -/
def NumberPart.endsBefore (part : NumberPart) (b : UInt8) : Bool :=
  match part with
  | .zero => !isDigitByte b
  | .whole | .fraction | .exponent => true
  | .sign | .point | .exponentMark | .exponentSign => false

/-- A number may end after this part at the end of the text. -/
def NumberPart.isComplete (part : NumberPart) : Bool :=
  match part with
  | .zero | .whole | .fraction | .exponent => true
  | .sign | .point | .exponentMark | .exponentSign => false

/-- The code point of a surrogate pair. -/
def pairCodePoint (lead trail : Nat) : Nat := 0x10000 + (lead - 0xD800) * 0x400 + (trail - 0xDC00)

/-- The string goes on with bytes that stand for themselves. -/
def TextScan.push (scan : TextScan) (bytes : Bytes) : TextScan :=
  { content := bytes.reverse ++ scan.content, lead := none,
    sound := scan.sound && scan.lead.isNone, escape := .outside }

/-- The string goes on with an escaped UTF-16 unit. -/
def TextScan.pushUnit (scan : TextScan) (unit : Nat) : TextScan :=
  match scan.lead with
  | some lead =>
    if 0xDC00 ≤ unit && unit ≤ 0xDFFF then
      { scan with
        content := (String.utf8EncodeChar (Char.ofNat (pairCodePoint lead unit))).reverse ++
          scan.content
        lead := none
        escape := .outside }
    else { scan with lead := none, sound := false, escape := .outside }
  | none =>
    if 0xD800 ≤ unit && unit ≤ 0xDBFF then { scan with lead := some unit, escape := .outside }
    else if 0xDC00 ≤ unit && unit ≤ 0xDFFF then { scan with sound := false, escape := .outside }
    else scan.push (String.utf8EncodeChar (Char.ofNat unit))

/-- The token of a string whose closing quote was read. -/
def TextScan.token (scan : TextScan) : Token :=
  .text (if scan.sound && scan.lead.isNone then text? scan.content.reverse else none)

/-- What a one-letter escape stands for. -/
def shortEscape? (b : UInt8) : Option UInt8 :=
  if b == 0x22 || b == 0x5C || b == 0x2F then some b
  else if b == 0x62 then some 0x08
  else if b == 0x66 then some 0x0C
  else if b == 0x6E then some 0x0A
  else if b == 0x72 then some 0x0D
  else if b == 0x74 then some 0x09
  else none

/-- One byte inside a string: the string goes on, ends, or is malformed. -/
def TextScan.step (scan : TextScan) (b : UInt8) : Option (TextScan ⊕ Token) :=
  match scan.escape with
  | .outside =>
    if b == 0x22 then some (.inr scan.token)
    else if b == 0x5C then some (.inl { scan with escape := .afterBackslash })
    else if b < 0x20 then none
    else some (.inl (scan.push [b]))
  | .afterBackslash =>
    if b == 0x75 then some (.inl { scan with escape := .digits 3 0 })
    else (shortEscape? b).map fun c => .inl (scan.push [c])
  | .digits left value =>
    (hexDigit? b).map fun d =>
      match left with
      | 0 => .inl (scan.pushUnit (value * 16 + d))
      | left + 1 => .inl { scan with escape := .digits left (value * 16 + d) }

/-- One byte between two tokens. -/
def stepBetween (found : List Token) (b : UInt8) : Option Scanner :=
  if isSpaceByte b then some ⟨.between, found⟩
  else if b == 0x5B then some ⟨.between, .openArray :: found⟩
  else if b == 0x5D then some ⟨.between, .closeArray :: found⟩
  else if b == 0x7B then some ⟨.between, .openObject :: found⟩
  else if b == 0x7D then some ⟨.between, .closeObject :: found⟩
  else if b == 0x2C then some ⟨.between, .comma :: found⟩
  else if b == 0x3A then some ⟨.between, .colon :: found⟩
  else if b == 0x22 then some ⟨.text ⟨[], none, true, .outside⟩, found⟩
  else if b == 0x6E then some ⟨.word [0x75, 0x6C, 0x6C] .null, found⟩
  else if b == 0x74 then some ⟨.word [0x72, 0x75, 0x65] (.bool true), found⟩
  else if b == 0x66 then some ⟨.word [0x61, 0x6C, 0x73, 0x65] (.bool false), found⟩
  else if b == 0x2D then some ⟨.number .sign, found⟩
  else if b == 0x30 then some ⟨.number .zero, found⟩
  else if isDigitByte b then some ⟨.number .whole, found⟩
  else none

/-- One step of the scanner; `none` when the text is malformed. -/
def Scanner.step (s : Scanner) (b : UInt8) : Option Scanner :=
  match s.mode with
  | .between => stepBetween s.found b
  | .word left token =>
    match left with
    | [] => none
    | [c] => if b == c then some ⟨.between, token :: s.found⟩ else none
    | c :: left => if b == c then some ⟨.word left token, s.found⟩ else none
  | .number part =>
    match part.next? b with
    | some part => some ⟨.number part, s.found⟩
    | none => if part.endsBefore b then stepBetween (.number :: s.found) b else none
  | .text scan =>
    (scan.step b).map fun
      | .inl scan => ⟨.text scan, s.found⟩
      | .inr token => ⟨.between, token :: s.found⟩

/-- The scanner after a row of bytes. -/
def scanFrom (s : Scanner) (bytes : Bytes) : Option Scanner := bytes.foldlM Scanner.step s

/-- The tokens of a text that ends where the scanner stands. -/
def Scanner.tokens? (s : Scanner) : Option (List Token) :=
  match s.mode with
  | .between => some s.found.reverse
  | .number part => if part.isComplete then some (Token.number :: s.found).reverse else none
  | .word .. | .text .. => none

/-- The tokens of a JSON text. -/
def tokens? (bytes : Bytes) : Option (List Token) :=
  (scanFrom .start bytes).bind Scanner.tokens?

theorem scanFrom_append (s : Scanner) (a b : Bytes) :
    scanFrom s (a ++ b) = (scanFrom s a).bind fun s' => scanFrom s' b := by
  simp [scanFrom]

end ReverseTunnel.Json
