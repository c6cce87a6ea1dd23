import ReverseTunnel.Yaml.Character

/-!
# Faults of YAML documents

What can be wrong with a text that is to be a YAML document: what was found, what
was being read, and where.
-/

namespace ReverseTunnel.Yaml

/-- What is wrong. -/
inductive Problem where
  | missingColon
  | unexpectedCharacter
  | misplacedBlockEntry
  | misplacedKey
  | misplacedValue
  | unknownDirective
  | missingDirectiveName
  | badDirectiveName
  | missingVersionDigit
  | longVersionNumber
  | missingVersionNumber
  | missingLineEnd
  | missingBlank
  | missingBlankOrBreak
  | badAnchorName
  | unclosedTag
  | missingExclamationMark
  | missingTagText
  | badTagEscape
  | zeroIndentation
  | tabInIndentation
  | documentMarkInQuotes
  | endInQuotes
  | unknownEscape
  | missingHexDigit
  | badCharacterCode
  | unexpectedColon
  | tabBeforeText
  | missingDocumentStart
  | repeatedVersion
  | unsupportedVersion
  | repeatedTagHandle
  | undefinedTagHandle
  | missingContent
  | missingDash
  | missingKey
  | missingCommaOrBracket
  | missingCommaOrBrace
  deriving DecidableEq

/-- The wording of a problem. -/
def Problem.message : Problem → String
  | .missingColon => "could not find expected ':'"
  | .unexpectedCharacter => "found character that cannot start any token"
  | .misplacedBlockEntry => "block sequence entries are not allowed in this context"
  | .misplacedKey => "mapping keys are not allowed in this context"
  | .misplacedValue => "mapping values are not allowed in this context"
  | .unknownDirective => "found unknown directive name"
  | .missingDirectiveName => "could not find expected directive name"
  | .badDirectiveName => "found unexpected non-alphabetical character"
  | .missingVersionDigit => "did not find expected digit or '.' character"
  | .longVersionNumber => "found extremely long version number"
  | .missingVersionNumber => "did not find expected version number"
  | .missingLineEnd => "did not find expected comment or line break"
  | .missingBlank => "did not find expected whitespace"
  | .missingBlankOrBreak => "did not find expected whitespace or line break"
  | .badAnchorName => "did not find expected alphabetic or numeric character"
  | .unclosedTag => "did not find the expected '>'"
  | .missingExclamationMark => "did not find expected '!'"
  | .missingTagText => "did not find expected tag URI"
  | .badTagEscape => "did not find URI escaped octet"
  | .zeroIndentation => "found an indentation indicator equal to 0"
  | .tabInIndentation => "found a tab character where an indentation space is expected"
  | .documentMarkInQuotes => "found unexpected document indicator"
  | .endInQuotes => "found unexpected end of stream"
  | .unknownEscape => "found unknown escape character"
  | .missingHexDigit => "did not find expected hexdecimal number"
  | .badCharacterCode => "found invalid Unicode character escape code"
  | .unexpectedColon => "found unexpected ':'"
  | .tabBeforeText => "found a tab character that violates indentation"
  | .missingDocumentStart => "did not find expected <document start>"
  | .repeatedVersion => "found duplicate %YAML directive"
  | .unsupportedVersion => "found incompatible YAML document"
  | .repeatedTagHandle => "found duplicate %TAG directive"
  | .undefinedTagHandle => "found undefined tag handle"
  | .missingContent => "did not find expected node content"
  | .missingDash => "did not find expected '-' indicator"
  | .missingKey => "did not find expected key"
  | .missingCommaOrBracket => "did not find expected ',' or ']'"
  | .missingCommaOrBrace => "did not find expected ',' or '\x7d'"

/-- What is being read. -/
inductive Activity where
  | simpleKey
  | nextToken
  | directive
  | versionDirective
  | tagDirective
  | anchor
  | alias
  | tag
  | blockScalar
  | quotedScalar
  | quotedEscape
  | plainScalar
  | node
  | blockNode
  | flowNode
  | blockSequence
  | blockMapping
  | flowSequence
  | flowMapping
  deriving DecidableEq

/-- The wording of an activity. -/
def Activity.message : Activity → String
  | .simpleKey => "while scanning a simple key"
  | .nextToken => "while scanning for the next token"
  | .directive => "while scanning a directive"
  | .versionDirective => "while scanning a %YAML directive"
  | .tagDirective => "while scanning a %TAG directive"
  | .anchor => "while scanning an anchor"
  | .alias => "while scanning an alias"
  | .tag => "while scanning a tag"
  | .blockScalar => "while scanning a block scalar"
  | .quotedScalar => "while scanning a quoted scalar"
  | .quotedEscape => "while parsing a quoted scalar"
  | .plainScalar => "while scanning a plain scalar"
  | .node => "while parsing a node"
  | .blockNode => "while parsing a block node"
  | .flowNode => "while parsing a flow node"
  | .blockSequence => "while parsing a block collection"
  | .blockMapping => "while parsing a block mapping"
  | .flowSequence => "while parsing a flow sequence"
  | .flowMapping => "while parsing a flow mapping"

/-- Why a text is no YAML document that can be used. -/
inductive Fault where
  | forbiddenCharacter
  /-- A problem at a place, and what was being read since which place. -/
  | grammar (problem : Problem) (place : Mark) (context : Option (Activity × Mark))
  | noDocument
  | manyDocuments
  | unknownAnchor (place : Mark)
  deriving DecidableEq

/-- A message with a place, unless the place is the very beginning. -/
def withPlace (message : String) (place : Mark) : String :=
  if place.isOrigin then message else message ++ " at " ++ place.text

/-- The wording of a fault. -/
def Fault.message : Fault → String
  | .forbiddenCharacter => "control characters are not allowed"
  | .grammar problem place none => withPlace problem.message place
  | .grammar problem place (some (activity, since)) =>
    withPlace problem.message place ++ ", " ++
      if since.samePlace place then activity.message else withPlace activity.message since
  | .noDocument => "EOF while parsing a value"
  | .manyDocuments =>
    "deserializing from YAML containing more than one document is not supported"
  | .unknownAnchor place => withPlace "unknown anchor" place

end ReverseTunnel.Yaml
