import ReverseTunnel.Yaml.Token
import ReverseTunnel.Yaml.Token.Block
import ReverseTunnel.Yaml.Token.Quoted
import ReverseTunnel.Yaml.Token.Tag

/-!
# Cutting a document into tokens

The scanner holds the indentations of the open block collections and, for the block
context and each open flow collection, the simple key that a colon may still turn
out to end: such a key must end on the line where it began, within 1024
characters. When the colon comes, the tokens that announce the key are inserted
before it.
-/

namespace ReverseTunnel.Yaml

/-- What may turn out to be a key. -/
structure SimpleKey where
  /-- Nothing but a key can stand here. -/
  required : Bool
  /-- The number of tokens before it. -/
  number : Nat
  mark : Mark

/-- A document on its way to tokens. -/
structure Scanner where
  cursor : Cursor
  /-- The tokens so far, the last first. -/
  tokens : List Token
  /-- The number of tokens so far. -/
  count : Nat
  /-- The column of the innermost open block collection, -1 without one. -/
  indent : Int
  /-- The columns around it, the innermost first. -/
  outer : List Int
  /-- A simple key may begin here. -/
  keyAllowed : Bool
  /-- The possible simple key of the innermost context. -/
  possibleKey : Option SimpleKey
  /-- Those of the contexts around it; there is one context per open flow
  collection, besides that of blocks. -/
  outerKeys : List (Option SimpleKey)

namespace Scanner

/-- The longest simple keys. -/
def maxKeyLength : Nat := 1024

/-- The scanner at the beginning of a text. -/
def start (cs : List Char) : Scanner := ⟨.ofText cs, [], 0, -1, [], true, none, []⟩

/-- The scanner is within a flow collection. -/
def inFlow (s : Scanner) : Bool := !s.outerKeys.isEmpty

/-- The place of the next character. -/
def mark (s : Scanner) : Mark := s.cursor.mark

/-- A grammar fault at the next character. -/
def fault (s : Scanner) (problem : Problem) (context : Option (Activity × Mark)) : Fault :=
  .grammar problem s.mark context

/-- The scanner with one more token. -/
def emit (s : Scanner) (kind : TokenKind) (start stop : Mark) : Scanner :=
  { s with tokens := ⟨kind, start, stop⟩ :: s.tokens, count := s.count + 1 }

/-- The scanner with a token before the token of a number. -/
def insert (s : Scanner) (number : Nat) (kind : TokenKind) (place : Mark) : Scanner :=
  let after := s.count - number
  { s with
    tokens := s.tokens.take after ++ ⟨kind, place, place⟩ :: s.tokens.drop after
    count := s.count + 1 }

/-- The scanner after the next `n` characters, which form a token. -/
def emitNext (s : Scanner) (kind : TokenKind) (n : Nat) : Scanner :=
  let cursor := s.cursor.drop n
  { s.emit kind s.mark cursor.mark with cursor }

/-- The fault of a key without a colon. -/
def missingColon (s : Scanner) (k : SimpleKey) : Fault :=
  s.fault .missingColon (some (.simpleKey, k.mark))

/-- The key when the scanner has come further: too late for a colon, it is none. -/
def expire (s : Scanner) (key : Option SimpleKey) : Except Fault (Option SimpleKey) :=
  match key with
  | none => .ok none
  | some k =>
    if k.mark.line < s.mark.line || k.mark.index + maxKeyLength < s.mark.index then
      if k.required then .error (s.missingColon k) else .ok none
    else .ok (some k)

/-- Gives up the keys for which a colon would come too late. -/
def expireKeys (s : Scanner) : Except Fault Scanner := do
  let possibleKey ← s.expire s.possibleKey
  let outerKeys ← s.outerKeys.mapM s.expire
  return { s with possibleKey, outerKeys }

/-- Gives up the possible key of the innermost context. -/
def removeKey (s : Scanner) : Except Fault Scanner :=
  match s.possibleKey with
  | some k => if k.required then .error (s.missingColon k) else .ok { s with possibleKey := none }
  | none => .ok s

/-- Notes that the next token may be a key. -/
def saveKey (s : Scanner) : Except Fault Scanner :=
  if s.keyAllowed then do
    let required := !s.inFlow && s.indent == (s.mark.column : Int)
    let t ← s.removeKey
    return { t with possibleKey := some ⟨required, s.count, s.mark⟩ }
  else .ok s

/-- Opens a block collection at a column, unless one is open there; its token comes
before the token of a number, or next. -/
def rollIndent (s : Scanner) (column : Nat) (number : Option Nat) (kind : TokenKind)
    (place : Mark) : Scanner :=
  if !s.inFlow && decide (s.indent < column) then
    let s := { s with outer := s.indent :: s.outer, indent := column }
    match number with
    | some n => s.insert n kind place
    | none => s.emit kind place place
  else s

/-- Closes block collections as long as their columns lie right of `column`. -/
def closeBlocks (column : Int) : List Int → Scanner → Scanner
  | [], s => s
  | around :: outer, s =>
    if column < s.indent then
      closeBlocks column outer
        { s.emit .blockEnd s.mark s.mark with indent := around, outer }
    else s

/-- Closes the block collections whose columns lie right of `column`. -/
def unrollIndent (s : Scanner) (column : Int) : Scanner :=
  if s.inFlow then s else closeBlocks column s.outer s

/-- Skips blanks, comments and line breaks, at most as many lines as `fuel` says. A
tab is skipped only where no simple key may begin. -/
def skipGap : Nat → Scanner → Scanner
  | 0, s => s
  | fuel + 1, s =>
    let c := s.cursor
    let c := if c.mark.index == 0 && c.isAt '\ufeff' then c.drop 1 else c
    let tabs := s.inFlow || !s.keyAllowed
    let c := c.skipWhile fun x => x == ' ' || (tabs && x == '\t')
    let c := if c.isAt '#' then c.skipLine else c
    if (c.rest.head?.map isBreak).getD false then
      skipGap fuel { s with cursor := c.drop 1, keyAllowed := s.keyAllowed || !s.inFlow }
    else { s with cursor := c }

/-- Scans a directive. -/
def scanDirective (s : Scanner) : Except Fault Scanner := do
  let s ← (s.unrollIndent (-1)).removeKey
  let since := s.mark
  let name := (s.cursor.drop 1).word isNameChar
  let c := s.cursor.drop (1 + name.length)
  if name.isEmpty then
    throw (.grammar .missingDirectiveName c.mark (some (.directive, since)))
  if !c.isWordEnd then throw (.grammar .badDirectiveName c.mark (some (.directive, since)))
  let (kind, c) ←
    match String.ofList name with
    | "YAML" => do
      let (major, minor, c) ← readVersion since c
      pure (TokenKind.version major minor, c)
    | "TAG" => do
      let (handle, meaning, c) ← readTagMeaning since c
      pure (TokenKind.tagHandle handle meaning, c)
    | _ => throw (.grammar .unknownDirective s.mark (some (.directive, since)))
  let after ← skipLineEnd .directive since c
  return { s.emit kind since c.mark with cursor := after, keyAllowed := false }

/-- Scans a mark between documents. -/
def scanDocumentMark (s : Scanner) (kind : TokenKind) : Except Fault Scanner := do
  let s ← (s.unrollIndent (-1)).removeKey
  return { s.emitNext kind 3 with keyAllowed := false }

/-- Scans the start of a flow collection. -/
def scanFlowStart (s : Scanner) (kind : TokenKind) : Except Fault Scanner := do
  let s ← s.saveKey
  return { s.emitNext kind 1 with
    outerKeys := s.possibleKey :: s.outerKeys, possibleKey := none, keyAllowed := true }

/-- Scans the end of a flow collection. -/
def scanFlowEnd (s : Scanner) (kind : TokenKind) : Except Fault Scanner := do
  let s ← s.removeKey
  let s := { s.emitNext kind 1 with keyAllowed := false }
  match s.outerKeys with
  | key :: outer => return { s with possibleKey := key, outerKeys := outer }
  | [] => return s

/-- Scans the comma of a flow collection. -/
def scanFlowEntry (s : Scanner) : Except Fault Scanner := do
  let s ← s.removeKey
  return { s.emitNext .flowEntry 1 with keyAllowed := true }

/-- Scans the dash of a block sequence. -/
def scanBlockEntry (s : Scanner) : Except Fault Scanner := do
  if !s.inFlow && !s.keyAllowed then throw (s.fault .misplacedBlockEntry none)
  let s := s.rollIndent s.mark.column none .blockSequenceStart s.mark
  let s ← s.removeKey
  return { s.emitNext .blockEntry 1 with keyAllowed := true }

/-- Scans the question mark before a key. -/
def scanKey (s : Scanner) : Except Fault Scanner := do
  if !s.inFlow && !s.keyAllowed then throw (s.fault .misplacedKey none)
  let s := s.rollIndent s.mark.column none .blockMappingStart s.mark
  let s ← s.removeKey
  return { s.emitNext .key 1 with keyAllowed := !s.inFlow }

/-- Scans the colon before a value. -/
def scanValue (s : Scanner) : Except Fault Scanner :=
  match s.possibleKey with
  | some k =>
    let s := s.insert k.number .key k.mark
    let s := s.rollIndent k.mark.column (some k.number) .blockMappingStart k.mark
    .ok { s.emitNext .value 1 with possibleKey := none, keyAllowed := false }
  | none => do
    if !s.inFlow && !s.keyAllowed then throw (s.fault .misplacedValue none)
    let s := s.rollIndent s.mark.column none .blockMappingStart s.mark
    return { s.emitNext .value 1 with keyAllowed := !s.inFlow }

/-- Scans an anchor or alias. -/
def scanAnchor (s : Scanner) (activity : Activity) (kind : String → TokenKind) :
    Except Fault Scanner := do
  let s ← s.saveKey
  let (name, c) ← readAnchor activity s.cursor
  return { s.emit (kind name) s.mark c.mark with cursor := c, keyAllowed := false }

/-- Scans a tag. -/
def scanTag (s : Scanner) : Except Fault Scanner := do
  let s ← s.saveKey
  let (handle, text, c) ← readTag s.inFlow s.cursor
  return { s.emit (.tag handle text) s.mark c.mark with cursor := c, keyAllowed := false }

/-- Scans a block scalar. -/
def scanBlock (s : Scanner) (literal : Bool) : Except Fault Scanner := do
  let s ← s.removeKey
  let (text, c) ← readBlock literal s.indent s.cursor
  return { s.emit (.scalar (String.ofList text.reverse) false) s.mark c.mark with
    cursor := c, keyAllowed := true }

/-- Scans a quoted scalar. -/
def scanQuoted (s : Scanner) (isDouble : Bool) : Except Fault Scanner := do
  let s ← s.saveKey
  let body := s.cursor.drop 1
  let (q, c) ← readQuoted isDouble s.mark ⟨[], .none, .text⟩ body.mark body.rest
  return { s.emit (.scalar (String.ofList q.text.reverse) false) s.mark c.mark with
    cursor := c, keyAllowed := false }

/-- Scans a plain scalar. -/
def scanPlain (s : Scanner) : Except Fault Scanner := do
  let s ← s.saveKey
  let (p, c) ← readPlain s.inFlow (s.indent + 1) s.mark ⟨[], .none⟩ s.mark s.cursor.rest
  return { s.emit (.scalar (String.ofList p.text.reverse) true) s.mark c.mark with
    cursor := c, keyAllowed := p.gap.broken }

/-- The characters that stand for something else at the start of a scalar. -/
def indicators : List Char :=
  ['-', '?', ':', ',', '[', ']', '\x7b', '\x7d', '#', '&', '*', '!', '|', '>',
    '\'', '"', '%', '@', '\x60']

/-- A plain scalar may begin with `c`. -/
def startsPlain (s : Scanner) (c : Char) (rest : List Char) : Bool :=
  !(isGap c || indicators.contains c) ||
    (c == '-' && !(rest.head?.map isBlank).getD false) ||
    (!s.inFlow && (c == '?' || c == ':') && !isWordEnd rest)

/-- Scans the token that begins with `c`. -/
def scanToken (s : Scanner) (c : Char) (rest : List Char) : Except Fault Scanner :=
  let first := s.mark.column == 0
  let bare := s.inFlow || isWordEnd rest
  if first && c == '%' then s.scanDirective
  else if first && isDocumentMark '-' (c :: rest) then s.scanDocumentMark .documentStart
  else if first && isDocumentMark '.' (c :: rest) then s.scanDocumentMark .documentEnd
  else if c == '[' then s.scanFlowStart .flowSequenceStart
  else if c == '\x7b' then s.scanFlowStart .flowMappingStart
  else if c == ']' then s.scanFlowEnd .flowSequenceEnd
  else if c == '\x7d' then s.scanFlowEnd .flowMappingEnd
  else if c == ',' then s.scanFlowEntry
  else if c == '-' && isWordEnd rest then s.scanBlockEntry
  else if c == '?' && bare then s.scanKey
  else if c == ':' && bare then s.scanValue
  else if c == '*' then s.scanAnchor .alias .alias
  else if c == '&' then s.scanAnchor .anchor .anchor
  else if c == '!' then s.scanTag
  else if c == '|' && !s.inFlow then s.scanBlock true
  else if c == '>' && !s.inFlow then s.scanBlock false
  else if c == '\'' then s.scanQuoted false
  else if c == '"' then s.scanQuoted true
  else if s.startsPlain c rest then s.scanPlain
  else .error (s.fault .unexpectedCharacter (some (.nextToken, s.mark)))

/-- Closes what is open at the end of the text. -/
def finish (s : Scanner) : Except Fault Scanner := do
  let m := s.mark
  let m := if m.column == 0 then m else ⟨m.index, m.line + 1, 0⟩
  let s := { s with cursor := ⟨m, []⟩ }
  let s ← (s.unrollIndent (-1)).removeKey
  return s.emit .streamEnd s.mark s.mark

/-- Scans the rest of the text, at most as many tokens as `fuel` says. -/
def scan : Nat → Scanner → Except Fault (List Token)
  | 0, s => .ok s.tokens.reverse
  | fuel + 1, s => do
    let s ← (skipGap (s.cursor.rest.length + 1) s).expireKeys
    let s := s.unrollIndent s.mark.column
    match s.cursor.rest with
    | [] => (·.tokens.reverse) <$> s.finish
    | c :: rest => scan fuel (← s.scanToken c rest)

end Scanner

/-- The tokens of a text. The last one is the end of the stream. -/
def tokens (text : String) : Except Fault (List Token) :=
  let cs := text.toList
  if cs.all isAllowed then
    let cs := unifyBreaks cs
    Scanner.scan (cs.length + 1) (.start cs)
  else .error .forbiddenCharacter

end ReverseTunnel.Yaml
