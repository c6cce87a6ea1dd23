import ReverseTunnel.Yaml.Fault

/-!
# Plain scalars

A plain scalar ends before a comment, before a colon that a gap follows, before a
mark between documents, where a line is not indented enough, and in a flow
collection before the characters of the collection. A gap within it is folded: one
line break becomes a space, and of more breaks the first is dropped.
-/

namespace ReverseTunnel.Yaml

/-- A gap in a scalar: the blanks of its line, or its line breaks. -/
structure Gap where
  /-- The blanks before the first break, the last first. -/
  blanks : List Char
  /-- A line was ended in the gap. -/
  broken : Bool
  /-- The first break, unless it was escaped. -/
  first : Option Char
  /-- The breaks after the first, the last first. -/
  others : List Char

namespace Gap

/-- No gap. -/
def none : Gap := ⟨[], false, .none, []⟩

/-- The gap with one more blank or break. Blanks count only on the first line. -/
def add (g : Gap) (c : Char) : Gap :=
  if isBreak c then
    if g.broken then { g with others := c :: g.others }
    else { g with blanks := [], broken := true, first := some c }
  else if g.broken then g
  else { g with blanks := c :: g.blanks }

/-- What a gap is folded to, the last character first. -/
def folded (g : Gap) : List Char :=
  if g.broken then
    match g.first with
    | some '\n' => if g.others.isEmpty then [' '] else g.others
    | some c => g.others ++ [c]
    | .none => g.others
  else g.blanks

end Gap

/-- A plain scalar on its way: the text so far, the last character first, and the
gap after it. -/
structure Plain where
  text : List Char
  gap : Gap

/-- A plain scalar ends before these characters. In a flow collection the
characters of the collection end it too. -/
def endsPlain (inFlow : Bool) (c : Char) (rest : List Char) : Bool :=
  (c == ':' && isWordEnd rest) || (inFlow && [',', '[', ']', '\x7b', '\x7d'].contains c)

/-- A colon that may not stand in the plain scalars of a flow collection. -/
def isStrayColon (c : Char) (rest : List Char) : Bool :=
  c == ':' && [',', '?', '[', ']', '\x7b', '\x7d'].any fun x => rest.head? == some x

/-- Reads on a plain scalar that began at `since` and whose lines are indented by at
least `indent`. The answer holds the place where the reading stopped. -/
def readPlain (inFlow : Bool) (indent : Int) (since : Mark) (p : Plain) (m : Mark) :
    List Char → Except Fault (Plain × Cursor)
  | [] => .ok (p, ⟨m, []⟩)
  | c :: rest =>
    if isGap c then
      if p.gap.broken && decide ((m.column : Int) < indent) && c == '\t' then
        .error (.grammar .tabBeforeText m (some (.plainScalar, since)))
      else readPlain inFlow indent since { p with gap := p.gap.add c } (m.next c) rest
    else
      let afterGap := p.gap.broken || !p.gap.blanks.isEmpty
      let leaves :=
        (afterGap && !inFlow && decide ((m.column : Int) < indent)) ||
          (m.column == 0 && (isDocumentMark '-' (c :: rest) || isDocumentMark '.' (c :: rest))) ||
          (afterGap && c == '#')
      if leaves then .ok (p, ⟨m, c :: rest⟩)
      else if inFlow && isStrayColon c rest then
        .error (.grammar .unexpectedColon m (some (.plainScalar, since)))
      else if endsPlain inFlow c rest then .ok (p, ⟨m, c :: rest⟩)
      else
        readPlain inFlow indent since ⟨c :: (p.gap.folded ++ p.text), .none⟩ (m.next c) rest

end ReverseTunnel.Yaml
