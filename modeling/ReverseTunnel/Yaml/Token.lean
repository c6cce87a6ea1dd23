import ReverseTunnel.Yaml.Fault

/-!
# Tokens of YAML documents

A document is first cut into tokens. Indentation becomes explicit in them: a block
collection begins with a start token and ends with a `blockEnd`, and a key is
announced by a `key` token even where the text shows only the colon behind it.
-/

namespace ReverseTunnel.Yaml

/-- The kinds of tokens. -/
inductive TokenKind where
  | streamEnd
  /-- The directive that names the version of YAML. -/
  | version (major minor : Nat)
  /-- The directive that says what a tag handle stands for. -/
  | tagHandle (handle meaning : String)
  | documentStart
  | documentEnd
  | blockSequenceStart
  | blockMappingStart
  | blockEnd
  | flowSequenceStart
  | flowSequenceEnd
  | flowMappingStart
  | flowMappingEnd
  | blockEntry
  | flowEntry
  | key
  | value
  | alias (name : String)
  | anchor (name : String)
  | tag (handle text : String)
  /-- A scalar; it is plain if it stands without quotes in the text of a line. -/
  | scalar (text : String) (plain : Bool)
  deriving DecidableEq

/-- A token and the places where it begins and ends. -/
structure Token where
  kind : TokenKind
  start : Mark
  stop : Mark
  deriving DecidableEq

end ReverseTunnel.Yaml
