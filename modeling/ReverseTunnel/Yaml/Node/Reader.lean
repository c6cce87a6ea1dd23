import ReverseTunnel.Yaml.Node
import ReverseTunnel.Yaml.Token.Scanner

/-!
# From tokens to trees

The reader follows the grammar of block and flow collections. Where a key or value
is missing, an empty plain scalar stands in its place. Aliases get the numbers of
the nodes that their names were given to last.
-/

namespace ReverseTunnel.Yaml

/-- A stream of tokens on its way to a document. -/
structure Reader where
  tokens : List Token
  /-- The names of the anchors so far, the last first, with the numbers of their
  nodes. -/
  anchors : List (String × Nat)
  /-- The anchored nodes that are complete. -/
  anchored : List (Nat × Node)
  /-- What the tag handles stand for. -/
  handles : List (String × String)

/-- A step of reading, which may fail. -/
abbrev Reading := StateT Reader (Except Fault)

namespace Reading

/-- The next token; behind the last one the stream ends. -/
def peek : Reading Token := do
  return (← get).tokens.head?.getD ⟨.streamEnd, .start, .start⟩

/-- Goes on behind the next token. -/
def skip : Reading Unit := modify fun r => { r with tokens := r.tokens.tail }

/-- A grammar fault at a token. -/
def fail {α : Type} (problem : Problem) (t : Token) (context : Option (Activity × Mark)) :
    Reading α :=
  throw (.grammar problem t.start context)

/-- An empty scalar. -/
def emptyScalar (place : Mark) : Node := .scalar place none true ""

/-- The properties before a node. -/
structure Properties where
  anchor : Option String
  tag : Option (String × String)
  /-- Where the properties begin. -/
  place : Option Mark

/-- Reads an anchor and a tag, in any order. -/
def properties : Reading Properties := do
  let t ← peek
  match t.kind with
  | .anchor name => do
    skip
    let u ← peek
    match u.kind with
    | .tag handle text => do
      skip
      return ⟨some name, some (handle, text), some t.start⟩
    | _ => return ⟨some name, none, some t.start⟩
  | .tag handle text => do
    skip
    let u ← peek
    match u.kind with
    | .anchor name => do
      skip
      return ⟨some name, some (handle, text), some t.start⟩
    | _ => return ⟨none, some (handle, text), some t.start⟩
  | _ => return ⟨none, none, none⟩

/-- The whole tag that a handle and a text form. -/
def wholeTag (p : Properties) : Reading (Option String) := do
  match p.tag with
  | none => return none
  | some (handle, text) =>
    if handle == "" then return some text
    else
      match (← get).handles.lookup handle with
      | some meaning => return some (meaning ++ text)
      | none =>
        let since := p.place.getD .start
        throw (.grammar .undefinedTagHandle since (some (.node, since)))

/-- Gives the next free number to the name of an anchor. -/
def openAnchor (name : Option String) : Reading (Option Nat) := do
  match name with
  | none => return none
  | some name =>
    let r ← get
    set { r with anchors := (name, r.anchors.length) :: r.anchors }
    return some r.anchors.length

/-- Notes that an anchored node is complete. -/
def closeAnchor (number : Option Nat) (n : Node) : Reading Node := do
  match number with
  | none => return n
  | some k =>
    modify fun r => { r with anchored := (k, n) :: r.anchored }
    return n

/-- A scalar; a lone exclamation mark is no tag for it. -/
def scalarNode (place : Mark) (tag : Option String) (plain : Bool) (text : String) : Node :=
  .scalar place (if tag == some "!" then none else tag) plain text

mutual

/-- Reads a node. In the block context it may be a block collection, and where
`indentless` holds a sequence that is indented no further than its key. -/
def node (fuel : Nat) (block indentless : Bool) : Reading Node := do
  match fuel with
  | 0 => fail .missingContent (← peek) none
  | fuel + 1 =>
    let first ← peek
    match first.kind with
    | .alias name =>
      skip
      match (← get).anchors.lookup name with
      | some number => return .alias first.start number
      | none => throw (.unknownAnchor first.start)
    | _ =>
      let p ← properties
      let tag ← wholeTag p
      let t ← peek
      let place := p.place.getD t.start
      let number ← openAnchor p.anchor
      match t.kind, indentless, block with
      | .blockEntry, true, _ =>
        let items ← indentlessItems fuel []
        closeAnchor number (.sequence place tag items)
      | .scalar text plain, _, _ =>
        skip
        closeAnchor number (scalarNode place tag plain text)
      | .flowSequenceStart, _, _ =>
        skip
        let items ← flowItems fuel t.start true []
        closeAnchor number (.sequence place tag items)
      | .flowMappingStart, _, _ =>
        skip
        let entries ← flowEntries fuel t.start true []
        closeAnchor number (.mapping place tag entries)
      | .blockSequenceStart, _, true =>
        skip
        let items ← blockItems fuel t.start []
        closeAnchor number (.sequence place tag items)
      | .blockMappingStart, _, true =>
        skip
        let entries ← blockEntries fuel t.start []
        closeAnchor number (.mapping place tag entries)
      | _, _, _ =>
        if p.place.isSome then closeAnchor number (scalarNode place tag true "")
        else fail .missingContent t (some (if block then .blockNode else .flowNode, place))

/-- Reads the items of a block sequence that began at `since`. -/
def blockItems (fuel : Nat) (since : Mark) (items : List Node) : Reading (List Node) := do
  match fuel with
  | 0 => fail .missingContent (← peek) none
  | fuel + 1 =>
    let t ← peek
    match t.kind with
    | .blockEntry =>
      skip
      let u ← peek
      match u.kind with
      | .blockEntry | .blockEnd => blockItems fuel since (emptyScalar t.stop :: items)
      | _ =>
        let n ← node fuel true false
        blockItems fuel since (n :: items)
    | .blockEnd =>
      skip
      return items.reverse
    | _ => fail .missingDash t (some (.blockSequence, since))

/-- Reads the items of a sequence that is indented no further than its key. -/
def indentlessItems (fuel : Nat) (items : List Node) : Reading (List Node) := do
  match fuel with
  | 0 => fail .missingContent (← peek) none
  | fuel + 1 =>
    let t ← peek
    match t.kind with
    | .blockEntry =>
      skip
      let u ← peek
      match u.kind with
      | .blockEntry | .key | .value | .blockEnd =>
        indentlessItems fuel (emptyScalar t.stop :: items)
      | _ =>
        let n ← node fuel true false
        indentlessItems fuel (n :: items)
    | _ => return items.reverse

/-- Reads the key or value of a block mapping behind its token. -/
def blockPart (fuel : Nat) (t : Token) : Reading Node := do
  match fuel with
  | 0 => fail .missingContent (← peek) none
  | fuel + 1 =>
    skip
    let u ← peek
    match u.kind with
    | .key | .value | .blockEnd => return emptyScalar t.stop
    | _ => node fuel true true

/-- Reads the entries of a block mapping that began at `since`. -/
def blockEntries (fuel : Nat) (since : Mark) (entries : List (Node × Node)) :
    Reading (List (Node × Node)) := do
  match fuel with
  | 0 => fail .missingContent (← peek) none
  | fuel + 1 =>
    let t ← peek
    match t.kind with
    | .key =>
      let k ← blockPart fuel t
      let u ← peek
      match u.kind with
      | .value =>
        let v ← blockPart fuel u
        blockEntries fuel since ((k, v) :: entries)
      | _ => blockEntries fuel since ((k, emptyScalar u.start) :: entries)
    | .blockEnd =>
      skip
      return entries.reverse
    | _ => fail .missingKey t (some (.blockMapping, since))

/-- Reads the value behind a key in a flow collection, if there is one. -/
def flowValue (fuel : Nat) (isEnd : TokenKind → Bool) : Reading Node := do
  match fuel with
  | 0 => fail .missingContent (← peek) none
  | fuel + 1 =>
    let t ← peek
    if t.kind = .value then
      skip
      let u ← peek
      if isEnd u.kind then return emptyScalar u.start else node fuel false false
    else return emptyScalar t.start

/-- Reads the items of a flow sequence that began at `since`. An item with a key is a
mapping of one entry; behind a lone question mark the next token is passed over. -/
def flowItems (fuel : Nat) (since : Mark) (first : Bool) (items : List Node) :
    Reading (List Node) := do
  match fuel with
  | 0 => fail .missingContent (← peek) none
  | fuel + 1 =>
    let t ← peek
    if t.kind = .flowSequenceEnd then
      skip
      return items.reverse
    if !first then
      if t.kind = .flowEntry then skip
      else fail .missingCommaOrBracket t (some (.flowSequence, since))
    let t ← peek
    match t.kind with
    | .flowSequenceEnd =>
      skip
      return items.reverse
    | .key =>
      skip
      let isEnd (k : TokenKind) : Bool := k = .flowEntry || k = .flowSequenceEnd
      let u ← peek
      let k ←
        if u.kind = .value || isEnd u.kind then do
          skip
          pure (emptyScalar u.stop)
        else node fuel false false
      let v ← flowValue fuel isEnd
      flowItems fuel since false (.mapping t.start none [(k, v)] :: items)
    | _ =>
      let n ← node fuel false false
      flowItems fuel since false (n :: items)

/-- Reads the entries of a flow mapping that began at `since`. -/
def flowEntries (fuel : Nat) (since : Mark) (first : Bool) (entries : List (Node × Node)) :
    Reading (List (Node × Node)) := do
  match fuel with
  | 0 => fail .missingContent (← peek) none
  | fuel + 1 =>
    let isEnd (k : TokenKind) : Bool := k = .flowEntry || k = .flowMappingEnd
    let t ← peek
    if t.kind = .flowMappingEnd then
      skip
      return entries.reverse
    if !first then
      if t.kind = .flowEntry then skip
      else fail .missingCommaOrBrace t (some (.flowMapping, since))
    let t ← peek
    match t.kind with
    | .flowMappingEnd =>
      skip
      return entries.reverse
    | .key =>
      skip
      let u ← peek
      let k ←
        if u.kind = .value || isEnd u.kind then pure (emptyScalar u.start)
        else node fuel false false
      let v ← flowValue fuel isEnd
      flowEntries fuel since false ((k, v) :: entries)
    | _ =>
      let k ← node fuel false false
      flowEntries fuel since false ((k, emptyScalar (← peek).start) :: entries)

end

/-- What tag handles stand for in every document. -/
def defaultHandles : List (String × String) := [("!", "!"), ("!!", "tag:yaml.org,2002:")]

/-- Reads the directives before a document, at most as many as `fuel` says. -/
def directives : Nat → Bool → List (String × String) → Reading (List (String × String))
  | 0, _, handles => return handles
  | fuel + 1, versioned, handles => do
    let t ← peek
    match t.kind with
    | .version major minor =>
      if versioned then fail .repeatedVersion t none
      else if major ≠ 1 ∨ (minor ≠ 1 ∧ minor ≠ 2) then fail .unsupportedVersion t none
      else
        skip
        directives fuel true handles
    | .tagHandle handle meaning =>
      if (handles.lookup handle).isSome then fail .repeatedTagHandle t none
      else
        skip
        directives fuel versioned ((handle, meaning) :: handles)
    | _ => return handles

/-- The token is a directive. -/
def isDirective : TokenKind → Bool
  | .version .. | .tagHandle .. => true
  | _ => false

/-- Reads the directives and the content of a document, which needs a start mark only
behind directives. -/
def documentContent (fuel : Nat) : Reading Node := do
  let directed := isDirective (← peek).kind
  let handles ← directives fuel false []
  modify fun r => { r with handles := handles ++ defaultHandles }
  let t ← peek
  match t.kind with
  | .documentStart =>
    skip
    let u ← peek
    match u.kind with
    | .documentStart | .documentEnd | .streamEnd => return emptyScalar t.stop
    | k => if isDirective k then return emptyScalar t.stop else node fuel true false
  | _ => if directed then fail .missingDocumentStart t none else node fuel true false

/-- Skips the end marks behind a document, at most as many as `fuel` says. -/
def skipEnds : Nat → Reading Unit
  | 0 => return
  | fuel + 1 => do
    if (← peek).kind = .documentEnd then
      skip
      skipEnds fuel

/-- Reads the only document of a stream. -/
def document (fuel : Nat) : Reading Node := do
  if (← peek).kind = .streamEnd then throw .noDocument
  let root ← documentContent fuel
  skipEnds fuel
  let t ← peek
  match t.kind with
  | .streamEnd => return root
  | .documentStart => throw .manyDocuments
  | _ => fail .missingDocumentStart t none

end Reading

/-- The document that a text holds. -/
def Document.parse (text : String) : Except Fault Document := do
  let tokens ← tokens text
  let fuel := 4 * tokens.length + 4
  let (root, r) ← (Reading.document fuel).run ⟨tokens, [], [], []⟩
  return ⟨root, r.anchored⟩

end ReverseTunnel.Yaml
