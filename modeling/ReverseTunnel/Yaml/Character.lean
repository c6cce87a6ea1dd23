/-!
# Characters of YAML documents

The classes of characters that the grammar speaks of, and the position of a
character in a text. Line ends are unified before a document is read
(`unifyBreaks`), so that every line break is a single character from then on.
-/

namespace ReverseTunnel.Yaml

/-- A line break. -/
def isBreak (c : Char) : Bool := c == '\n' || c == '\u2028' || c == '\u2029'

/-- A space or a tab. -/
def isBlank (c : Char) : Bool := c == ' ' || c == '\t'

/-- A character between words. -/
def isGap (c : Char) : Bool := isBlank c || isBreak c

/-- A character of the names of anchors, tag handles and directives. -/
def isNameChar (c : Char) : Bool := c.isAlphanum || c == '_' || c == '-'

/-- A character that a document may hold. -/
def isAllowed (c : Char) : Bool :=
  let n := c.toNat
  n == 0x09 || n == 0x0A || n == 0x0D || (0x20 ≤ n && n ≤ 0x7E) || n == 0x85 ||
    (0xA0 ≤ n && n ≤ 0xFFFD) || 0x10000 ≤ n

/-- The value of a hexadecimal digit. -/
def hexValue? (c : Char) : Option Nat :=
  if c.isDigit then some (c.toNat - '0'.toNat)
  else if 'a' ≤ c ∧ c ≤ 'f' then some (c.toNat - 'a'.toNat + 10)
  else if 'A' ≤ c ∧ c ≤ 'F' then some (c.toNat - 'A'.toNat + 10)
  else none

/-- No word goes on here: the text ends, or a gap follows. -/
def isWordEnd (cs : List Char) : Bool :=
  match cs with
  | [] => true
  | c :: _ => isGap c

/-- One of the marks between documents, `---` or `...`, stands here. -/
def isDocumentMark (mark : Char) (cs : List Char) : Bool :=
  match cs with
  | a :: b :: c :: rest => a == mark && b == mark && c == mark && isWordEnd rest
  | _ => false

/-- The line break that a character begins, if it begins one. -/
def unifiedBreak (c : Char) : Char := if c == '\r' || c == '\u0085' then '\n' else c

/-- One character on the way through `unifyBreaks`: the text so far, the last
character first, and whether a carriage return came just before. -/
def unifyStep (state : List Char × Bool) (c : Char) : List Char × Bool :=
  if state.2 && c == '\n' then (state.1, false) else (unifiedBreak c :: state.1, c == '\r')

/-- The text with a line feed for every line end; the separators U+2028 and
U+2029 stay. -/
def unifyBreaks (cs : List Char) : List Char := (cs.foldl unifyStep ([], false)).1.reverse

/-- The position of a character: how many characters, line breaks, and characters
of its line come before it. -/
structure Mark where
  index : Nat
  line : Nat
  column : Nat
  deriving DecidableEq

namespace Mark

/-- The position of the first character. -/
def start : Mark := ⟨0, 0, 0⟩

/-- The position after a character. -/
def next (m : Mark) (c : Char) : Mark :=
  if isBreak c then ⟨m.index + 1, m.line + 1, 0⟩ else ⟨m.index + 1, m.line, m.column + 1⟩

/-- The position as messages give it, counted from one. -/
def text (m : Mark) : String :=
  "line " ++ toString (m.line + 1) ++ " column " ++ toString (m.column + 1)

/-- The position is on the first line and in the first column. -/
def isOrigin (m : Mark) : Bool := m.line == 0 && m.column == 0

/-- Two positions on the same place of a page. -/
def samePlace (a b : Mark) : Bool := a.line == b.line && a.column == b.column

end Mark

/-- The unread part of a text and the position where it begins. -/
structure Cursor where
  mark : Mark
  rest : List Char

namespace Cursor

/-- The whole of a text. -/
def ofText (cs : List Char) : Cursor := ⟨.start, cs⟩

/-- The cursor after its next characters. -/
def drop (c : Cursor) (n : Nat) : Cursor :=
  ⟨(c.rest.take n).foldl Mark.next c.mark, c.rest.drop n⟩

/-- The next characters that satisfy `p`. -/
def word (c : Cursor) (p : Char → Bool) : List Char := c.rest.takeWhile p

/-- The cursor after the next characters that satisfy `p`. -/
def skipWhile (c : Cursor) (p : Char → Bool) : Cursor :=
  ⟨(c.word p).foldl Mark.next c.mark, c.rest.dropWhile p⟩

/-- The next character is `x`. -/
def isAt (c : Cursor) (x : Char) : Bool := c.rest.head? == some x

/-- The cursor stands where a word may end. -/
def isWordEnd (c : Cursor) : Bool := Yaml.isWordEnd c.rest

/-- The cursor at the end of its line. -/
def skipLine (c : Cursor) : Cursor := c.skipWhile fun x => !isBreak x

end Cursor

end ReverseTunnel.Yaml
