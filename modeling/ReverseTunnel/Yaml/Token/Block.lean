import ReverseTunnel.Yaml.Fault

/-!
# Block scalars

A block scalar begins with `|` or `>` and holds the lines below that are indented
at least as far as its first line with text. In a literal scalar every line break
stays; in a folded one a single break between two lines becomes a space, unless one
of them begins with a blank. The header says what becomes of the breaks at the end.
-/

namespace ReverseTunnel.Yaml

/-- What becomes of the line breaks at the end of a block scalar. -/
inductive Chomping where
  | strip
  | clip
  | keep
  deriving DecidableEq

/-- The header of a block scalar. -/
structure BlockHeader where
  chomping : Chomping
  /-- How much further the lines are indented than their surroundings, if it is said. -/
  indentation : Option Nat

/-- The chomping that a character stands for. -/
def chompingOf? (c : Char) : Option Chomping :=
  if c == '+' then some .keep else if c == '-' then some .strip else none

/-- The indentation that a digit stands for. -/
def indentationOf? (c : Char) : Option Nat :=
  if c.isDigit then some (c.toNat - '0'.toNat) else none

/-- The header that the characters after the indicator form, and how many they are. -/
def blockHeader (cs : List Char) : BlockHeader × Nat :=
  match cs with
  | [] => (⟨.clip, none⟩, 0)
  | a :: rest =>
    match chompingOf? a, indentationOf? a with
    | some chomping, _ =>
      match rest.head?.bind indentationOf? with
      | some n => (⟨chomping, some n⟩, 2)
      | none => (⟨chomping, none⟩, 1)
    | none, some n =>
      match rest.head?.bind chompingOf? with
      | some chomping => (⟨chomping, some n⟩, 2)
      | none => (⟨.clip, some n⟩, 1)
    | none, none => (⟨.clip, none⟩, 0)

/-- The cursor after the blanks, the comment and the break that may end a line. -/
def skipLineEnd (activity : Activity) (since : Mark) (c : Cursor) : Except Fault Cursor :=
  let c := c.skipWhile isBlank
  let c := if c.isAt '#' then c.skipLine else c
  if c.isWordEnd then .ok (c.drop 1)
  else .error (.grammar .missingLineEnd c.mark (some (activity, since)))

/-- The empty lines before a line: their breaks, the last first; the column of the
deepest line; and the place after the indentation. An indentation of zero is one
that is not known yet. -/
def blockBreaks (since : Mark) (indent : Nat) (breaks : List Char) (deepest : Nat) (m : Mark) :
    List Char → Except Fault (List Char × Nat × Cursor)
  | [] => .ok (breaks, max deepest m.column, ⟨m, []⟩)
  | c :: rest =>
    let outside := indent == 0 || decide (m.column < indent)
    if c == ' ' && outside then blockBreaks since indent breaks deepest (m.next c) rest
    else if c == '\t' && outside then
      .error (.grammar .tabInIndentation m (some (.blockScalar, since)))
    else if isBreak c then
      blockBreaks since indent (c :: breaks) (max deepest m.column) (m.next c) rest
    else .ok (breaks, max deepest m.column, ⟨m, c :: rest⟩)

/-- A block scalar on its way. -/
structure BlockText where
  /-- The text so far, the last character first. -/
  text : List Char
  /-- The break that ended the last line. -/
  leading : Option Char
  /-- The breaks of the empty lines after it, the last first. -/
  trailing : List Char
  /-- The last line began with a blank. -/
  startsBlank : Bool

/-- What stands for the break between the last line and the next. -/
def BlockText.joint (b : BlockText) (literal blank : Bool) : List Char :=
  if !literal && b.leading == some '\n' && !b.startsBlank && !blank then
    if b.trailing.isEmpty then [' '] else []
  else b.leading.toList

/-- The text with what the chomping leaves of its end. -/
def BlockText.chomped (b : BlockText) : Chomping → List Char
  | .strip => b.text
  | .clip => b.leading.toList ++ b.text
  | .keep => b.trailing ++ (b.leading.toList ++ b.text)

/-- Reads the lines of a block scalar, at most as many as `fuel` says. -/
def blockLines (since : Mark) (literal : Bool) (indent : Nat) :
    Nat → BlockText → Cursor → Except Fault (BlockText × Cursor)
  | 0, b, c => .ok (b, c)
  | fuel + 1, b, c =>
    if c.mark.column == indent && !c.rest.isEmpty then
      let blank := (c.rest.head?.map isBlank).getD false
      let line := c.word fun x => !isBreak x
      let after := c.skipLine
      let next := after.drop 1
      match blockBreaks since indent [] 0 next.mark next.rest with
      | .error e => .error e
      | .ok (breaks, _, c) =>
        let text := line.reverse ++ (b.trailing ++ (b.joint literal blank ++ b.text))
        blockLines since literal indent fuel ⟨text, after.rest.head?, breaks, blank⟩ c
    else .ok (b, c)

/-- Reads a block scalar at its indicator; `parent` is the indentation around it. -/
def readBlock (literal : Bool) (parent : Int) (c : Cursor) :
    Except Fault (List Char × Cursor) := do
  let since := c.mark
  let (header, length) := blockHeader (c.rest.drop 1)
  if header.indentation == some 0 then
    throw (.grammar .zeroIndentation c.mark (some (.blockScalar, since)))
  let body ← skipLineEnd .blockScalar since (c.drop (1 + length))
  let given := (header.indentation.map fun n => (max parent 0).toNat + n).getD 0
  let (breaks, deepest, c) ← blockBreaks since given [] 0 body.mark body.rest
  let indent := if given == 0 then max deepest (max (parent + 1).toNat 1) else given
  let (b, c) ← blockLines since literal indent (c.rest.length + 1) ⟨[], none, breaks, false⟩ c
  return (b.chomped header.chomping, c)

end ReverseTunnel.Yaml
