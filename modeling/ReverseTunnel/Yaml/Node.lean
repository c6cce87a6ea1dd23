import ReverseTunnel.Yaml.Character

/-!
# Trees of YAML documents

A document is a tree of scalars, sequences and mappings. An alias stands for a node
that was anchored before it; the document holds the anchored nodes by number, and
`Document.resolve` replaces an alias by its node.
-/

namespace ReverseTunnel.Yaml

/-- A node and the place where it begins. -/
inductive Node where
  /-- A scalar; it is plain if it is written without quotes in the text of a line. -/
  | scalar (place : Mark) (tag : Option String) (plain : Bool) (text : String)
  | sequence (place : Mark) (tag : Option String) (items : List Node)
  | mapping (place : Mark) (tag : Option String) (entries : List (Node × Node))
  /-- The anchored node of a number. -/
  | alias (place : Mark) (target : Nat)

/-- The place where a node begins. -/
def Node.place : Node → Mark
  | .scalar place .. | .sequence place .. | .mapping place .. | .alias place _ => place

/-- A document. -/
structure Document where
  root : Node
  /-- The anchored nodes by their numbers. -/
  anchored : List (Nat × Node)

/-- The node that an alias stands for; other nodes stand for themselves, and so does
an alias within the node that it stands for. -/
def Document.resolve (d : Document) (n : Node) : Node :=
  match n with
  | .alias _ target => (d.anchored.lookup target).getD n
  | .scalar .. | .sequence .. | .mapping .. => n

end ReverseTunnel.Yaml
