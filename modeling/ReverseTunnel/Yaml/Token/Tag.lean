import ReverseTunnel.Bytes
import ReverseTunnel.Yaml.Fault

/-!
# Tags, anchors and directives

The words after `!`, `&`, `*` and `%`. A tag is a text within angle brackets, or a
handle such as `!` or `!!` and a text for which a directive may give the handle a
meaning.
-/

namespace ReverseTunnel.Yaml

/-- A character of the text of a tag. Within brackets and directives it may be one
of those of flow collections too. -/
def isTagChar (bracketed : Bool) (c : Char) : Bool :=
  isNameChar c ||
    ";/?:@&=+$.%!~*'()".toList.contains c ||
    (bracketed && [',', '[', ']'].contains c)

/-- The value of two hexadecimal digits. -/
def hexByte? (a b : Char) : Option UInt8 :=
  match hexValue? a, hexValue? b with
  | some high, some low => some (UInt8.ofNat (16 * high + low))
  | _, _ => none

/-- The bytes of a tag's text, in which `%` and two digits stand for a byte. -/
def tagBytes : List Char → Option Bytes
  | '%' :: a :: b :: rest =>
    match hexByte? a b, tagBytes rest with
    | some byte, some bytes => some (byte :: bytes)
    | _, _ => none
  | '%' :: _ => none
  | c :: rest => (tagBytes rest).map (utf8 (String.singleton c) ++ ·)
  | [] => some []

/-- Reads the text of a tag, of which the characters of `head` are known. -/
def readTagText (bracketed : Bool) (activity : Activity) (since : Mark) (head : List Char)
    (c : Cursor) : Except Fault (String × Cursor) :=
  let word := c.word (isTagChar bracketed)
  if head.isEmpty && word.isEmpty then
    .error (.grammar .missingTagText c.mark (some (activity, since)))
  else
    match (tagBytes word).bind text? with
    | some text => .ok (String.ofList (head.drop 1) ++ text, c.drop word.length)
    | none => .error (.grammar .badTagEscape c.mark (some (activity, since)))

/-- Reads a tag handle, up to and with a second exclamation mark if there is one. -/
def readTagHandle (activity : Activity) (since : Mark) (c : Cursor) :
    Except Fault (List Char × Cursor) :=
  if c.isAt '!' then
    let name := '!' :: (c.drop 1).word isNameChar
    let c := c.drop name.length
    if c.isAt '!' then .ok (name ++ ['!'], c.drop 1) else .ok (name, c)
  else .error (.grammar .missingExclamationMark c.mark (some (activity, since)))

/-- A tag as it is written: a handle and a text. Without a handle the text is the
whole tag. -/
def readTag (inFlow : Bool) (c : Cursor) : Except Fault (String × String × Cursor) := do
  let since := c.mark
  let (handle, text, c) ←
    if (c.drop 1).isAt '<' then do
      let (text, c) ← readTagText true .tag since [] (c.drop 2)
      if !c.isAt '>' then throw (.grammar .unclosedTag c.mark (some (.tag, since)))
      pure ("", text, c.drop 1)
    else do
      let (handle, c) ← readTagHandle .tag since c
      if handle.length > 1 && handle.getLast? == some '!' then
        let (text, c) ← readTagText false .tag since [] c
        pure (String.ofList handle, text, c)
      else
        let (text, c) ← readTagText false .tag since handle c
        pure (if text == "" then ("", "!", c) else ("!", text, c))
  if c.isWordEnd || (inFlow && c.isAt ',') then return (handle, text, c)
  else throw (.grammar .missingBlankOrBreak c.mark (some (.tag, since)))

/-- The characters that may follow the name of an anchor or alias at once. -/
def endsAnchor (c : Cursor) : Bool :=
  c.isWordEnd || ['?', ':', ',', ']', '\x7d', '%', '@', '\x60'].any c.isAt

/-- Reads the name of an anchor or alias at its indicator. -/
def readAnchor (activity : Activity) (c : Cursor) : Except Fault (String × Cursor) :=
  let name := (c.drop 1).word isNameChar
  let after := c.drop (1 + name.length)
  if name.isEmpty || !endsAnchor after then
    .error (.grammar .badAnchorName after.mark (some (activity, c.mark)))
  else .ok (String.ofList name, after)

/-- The longest numbers in versions. -/
def maxVersionDigits : Nat := 9

/-- Reads a number of a version. -/
def readVersionNumber (since : Mark) (c : Cursor) : Except Fault (Nat × Cursor) :=
  let digits := c.word Char.isDigit
  if digits.length > maxVersionDigits then
    .error (.grammar .longVersionNumber c.mark (some (.versionDirective, since)))
  else if digits.isEmpty then
    .error (.grammar .missingVersionNumber c.mark (some (.versionDirective, since)))
  else .ok (digits.foldl (fun n d => 10 * n + (d.toNat - '0'.toNat)) 0, c.drop digits.length)

/-- Reads the version that a directive names. -/
def readVersion (since : Mark) (c : Cursor) : Except Fault (Nat × Nat × Cursor) := do
  let (major, c) ← readVersionNumber since (c.skipWhile isBlank)
  if !c.isAt '.' then throw (.grammar .missingVersionDigit c.mark (some (.versionDirective, since)))
  let (minor, c) ← readVersionNumber since (c.drop 1)
  return (major, minor, c)

/-- Reads the handle and the meaning that a directive gives it. -/
def readTagMeaning (since : Mark) (c : Cursor) : Except Fault (String × String × Cursor) := do
  let (handle, c) ← readTagHandle .tagDirective since (c.skipWhile isBlank)
  if handle.length > 1 && handle.getLast? != some '!' then
    throw (.grammar .missingExclamationMark c.mark (some (.tagDirective, since)))
  if !(c.rest.head?.map isBlank).getD false then
    throw (.grammar .missingBlank c.mark (some (.tagDirective, since)))
  let (meaning, c) ← readTagText true .tagDirective since [] (c.skipWhile isBlank)
  if c.isWordEnd then return (String.ofList handle, meaning, c)
  else throw (.grammar .missingBlankOrBreak c.mark (some (.tagDirective, since)))

end ReverseTunnel.Yaml
