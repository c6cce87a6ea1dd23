import ReverseTunnel.Yaml.Token.Plain

/-!
# Quoted scalars

Between single quotes only the quote itself is written specially, twice. Between
double quotes a backslash begins an escape, and at the end of a line takes the
break away. Gaps that hold a line break are folded as in plain scalars.
-/

namespace ReverseTunnel.Yaml

/-- Where the reading of a quoted scalar stands. -/
inductive QuotedPhase where
  | text
  /-- After a quote within single quotes. -/
  | quote
  /-- After a backslash. -/
  | escape
  /-- In a code of which some digits are missing; `value` is that of the others. -/
  | code (missing value : Nat)

/-- A quoted scalar on its way: the text so far, the last character first, and the
gap after it. -/
structure Quoted where
  text : List Char
  gap : Gap
  phase : QuotedPhase

/-- The scalar with the gap folded, and one more character. -/
def Quoted.push (q : Quoted) (c : Char) : Quoted :=
  ⟨c :: (q.gap.folded ++ q.text), .none, .text⟩

/-- The characters of one letter escapes. -/
def escapedChar : Char → Option Char
  | '0' => some '\x00'
  | 'a' => some '\x07'
  | 'b' => some '\x08'
  | 't' | '\t' => some '\t'
  | 'n' => some '\n'
  | 'v' => some '\x0b'
  | 'f' => some '\x0c'
  | 'r' => some '\r'
  | 'e' => some '\x1b'
  | ' ' => some ' '
  | '"' => some '"'
  | '/' => some '/'
  | '\\' => some '\\'
  | 'N' => some '\u0085'
  | '_' => some '\u00a0'
  | 'L' => some '\u2028'
  | 'P' => some '\u2029'
  | _ => none

/-- The number of digits of the codes that a letter begins. -/
def codeLength : Char → Option Nat
  | 'x' => some 2
  | 'u' => some 4
  | 'U' => some 8
  | _ => none

/-- The number is the code of a character. -/
def isCharCode (n : Nat) : Bool := decide (n.isValidChar)

/-- The character after a backslash, which stands before `place`. -/
def readEscape (since : Mark) (q : Quoted) (place : Mark) (c : Char) : Except Fault Quoted :=
  if isBreak c then .ok { q with gap := { q.gap with broken := true }, phase := .text }
  else
    match escapedChar c, codeLength c with
    | some x, _ => .ok (q.push x)
    | none, some n => .ok { q with phase := .code n 0 }
    | none, none => .error (.grammar .unknownEscape place (some (.quotedEscape, since)))

/-- One more digit of a code. -/
def readCodeDigit (since : Mark) (q : Quoted) (missing value : Nat) (m : Mark) (c : Char) :
    Except Fault Quoted :=
  match hexValue? c with
  | none => .error (.grammar .missingHexDigit m (some (.quotedEscape, since)))
  | some digit =>
    let value := 16 * value + digit
    if missing > 1 then .ok { q with phase := .code (missing - 1) value }
    else if isCharCode value then .ok (q.push (Char.ofNat value))
    else .error (.grammar .badCharacterCode m (some (.quotedEscape, since)))

/-- Reads on a quoted scalar that began at `since`. The answer holds the place after
the closing quote. -/
def readQuoted (isDouble : Bool) (since : Mark) (q : Quoted) (m : Mark) :
    List Char → Except Fault (Quoted × Cursor)
  | [] =>
    match q.phase with
    | .quote => .ok (q, ⟨m, []⟩)
    | .text | .escape | .code .. =>
      .error (.grammar .endInQuotes m (some (.quotedScalar, since)))
  | c :: rest =>
    match q.phase with
    | .quote =>
      if c == '\'' then readQuoted isDouble since (q.push c) (m.next c) rest
      else .ok (q, ⟨m, c :: rest⟩)
    | .escape =>
      match readEscape since q m c with
      | .ok q => readQuoted isDouble since q (m.next c) rest
      | .error e => .error e
    | .code missing value =>
      match readCodeDigit since q missing value m c with
      | .ok q => readQuoted isDouble since q (m.next c) rest
      | .error e => .error e
    | .text =>
      if isGap c then readQuoted isDouble since { q with gap := q.gap.add c } (m.next c) rest
      else if m.column == 0 &&
          (isDocumentMark '-' (c :: rest) || isDocumentMark '.' (c :: rest)) then
        .error (.grammar .documentMarkInQuotes m (some (.quotedScalar, since)))
      else if c == (if isDouble then '"' else '\'') then
        let q : Quoted := ⟨q.gap.folded ++ q.text, .none, .quote⟩
        if isDouble then .ok (q, ⟨m.next c, rest⟩)
        else readQuoted isDouble since q (m.next c) rest
      else if isDouble && c == '\\' then
        let q : Quoted := ⟨q.gap.folded ++ q.text, .none, .escape⟩
        readQuoted isDouble since q (m.next c) rest
      else readQuoted isDouble since (q.push c) (m.next c) rest

end ReverseTunnel.Yaml
