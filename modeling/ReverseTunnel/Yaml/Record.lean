import ReverseTunnel.NameMap
import ReverseTunnel.Text.Quoted
import ReverseTunnel.Yaml.Node.Reader
import ReverseTunnel.Yaml.Scalar

/-!
# Typed reading of YAML trees

Readers for the kinds of values that a settings file holds. Where a text is wanted
every scalar will do, as it is written; a number must be written as one, without
quotes. A value that may be missing is missing if it is empty or null. A record is a
mapping with certain keys, none of them twice; an empty value is an empty mapping.

A reader that fails tells what it found, where, and under which keys.
-/

namespace ReverseTunnel.Yaml

/-- What stands where something else is wanted. -/
inductive Found where
  | unit
  | bool (value : Bool)
  | int (value : Int)
  | float (written : String)
  | text (value : String)
  | sequence
  | mapping
  deriving DecidableEq

/-- The wording of what was found. -/
def Found.message : Found → String
  | .unit => "unit value"
  | .bool value => "boolean `" ++ toString value ++ "`"
  | .int value => "integer `" ++ toString value ++ "`"
  | .float written => "floating point `" ++ written ++ "`"
  | .text value => "string " ++ Text.quoted value
  | .sequence => "sequence"
  | .mapping => "map"

/-- Why a value cannot be used. -/
inductive Mismatch where
  | wrongKind (found : Found) (wanted : String)
  | wrongValue (found : Found) (wanted : String)
  | missingField (name : String)
  | repeatedField (name : String)
  | unknownField (name : String) (known : List String)
  | unknownAlternative (name : String) (known : List String)
  deriving DecidableEq

/-- A list of names in a message. -/
def nameChoice (names : List String) : String :=
  let quoted := names.map fun n => "`" ++ n ++ "`"
  match quoted with
  | [a] => a
  | [a, b] => a ++ " or " ++ b
  | _ => "one of " ++ ", ".intercalate quoted

/-- The wording of a mismatch. -/
def Mismatch.message : Mismatch → String
  | .wrongKind found wanted => "invalid type: " ++ found.message ++ ", expected " ++ wanted
  | .wrongValue found wanted => "invalid value: " ++ found.message ++ ", expected " ++ wanted
  | .missingField name => "missing field `" ++ name ++ "`"
  | .repeatedField name => "duplicate field `" ++ name ++ "`"
  | .unknownField name known =>
    "unknown field `" ++ name ++ "`, expected " ++ nameChoice known
  | .unknownAlternative name known =>
    "unknown variant `" ++ name ++ "`, expected " ++ nameChoice known

/-- Why a document cannot be read as what it should be. -/
inductive ReadFault where
  | document (fault : Fault)
  /-- A mismatch at a place, under certain keys. -/
  | mismatch (path : List String) (place : Mark) (why : Mismatch)
  deriving DecidableEq

/-- The wording of a fault in reading. -/
def ReadFault.message : ReadFault → String
  | .document fault => fault.message
  | .mismatch path place why =>
    let message := withPlace why.message place
    if path.isEmpty then message else ".".intercalate path ++ ": " ++ message

/-- Where a value stands: its document and the keys that lead to it, the innermost
first. -/
structure Site where
  document : Document
  path : List String

namespace Site

/-- The site of a value under a key. -/
def under (s : Site) (key : String) : Site := { s with path := key :: s.path }

/-- A mismatch at a node. -/
def fail {α : Type} (s : Site) (n : Node) (m : Mismatch) : Except ReadFault α :=
  .error (.mismatch s.path.reverse (s.document.resolve n).place m)

/-- What stands at a node. -/
def found (s : Site) (n : Node) : Found :=
  match s.document.resolve n with
  | .sequence .. => .sequence
  | .mapping .. => .mapping
  | .alias .. => .unit
  | .scalar _ tag plain text =>
    match ScalarValue.ofTagged? tag plain text with
    | some .null => .unit
    | some (.bool b) => .bool b
    | some (.int n) => .int n
    | some (.float _ written) => .float written
    | some (.text t) => .text t
    | none => .text text

/-- A node is of the wrong kind. -/
def wrongKind {α : Type} (s : Site) (n : Node) (wanted : String) : Except ReadFault α :=
  s.fail n (.wrongKind (s.found n) wanted)

/-- Reads a text. -/
def text (s : Site) (n : Node) (wanted : String) : Except ReadFault String :=
  match s.document.resolve n with
  | .scalar _ _ _ text => .ok text
  | .sequence .. | .mapping .. | .alias .. => s.wrongKind n wanted

/-- The value of a scalar. -/
def scalarValue (s : Site) (n : Node) : Option ScalarValue :=
  match s.document.resolve n with
  | .scalar _ tag plain text => ScalarValue.ofTagged? tag plain text
  | .sequence .. | .mapping .. | .alias .. => none

/-- Reads a whole number of 64 bits without a sign. -/
def unsigned64 (s : Site) (n : Node) : Except ReadFault UInt64 :=
  match s.scalarValue n with
  | some (.int i) =>
    if 0 ≤ i ∧ i < UInt64.size then .ok i.toNat.toUInt64
    else s.fail n (.wrongValue (.int i) "u64")
  | _ => s.wrongKind n "u64"

/-- Reads a number in floating point; whole numbers of 64 bits will do. -/
def binary64 (s : Site) (n : Node) : Except ReadFault Binary64 :=
  match s.scalarValue n with
  | some (.float x _) => .ok x
  | some (.int i) =>
    if Int64.minValue.toInt ≤ i ∧ i < UInt64.size then .ok (.ofRatio (decide (i < 0)) i.natAbs 1)
    else s.wrongKind n "f64"
  | _ => s.wrongKind n "f64"

/-- The scalar stands for a missing value; none if its tag asks for null and it is
something else. -/
def isMissing? (tag : Option String) (plain : Bool) (text : String) : Option Bool :=
  if !plain then some false
  else
    match tag with
    | none => some (text == "" || isNullText text)
    | some "tag:yaml.org,2002:null" => if isNullText text then some true else none
    | some _ => some false

/-- Reads a value that may be missing. -/
def optional {α : Type} (s : Site) (read : Site → Node → Except ReadFault α) (n : Node) :
    Except ReadFault (Option α) :=
  match s.document.resolve n with
  | .scalar _ tag plain text =>
    match isMissing? tag plain text with
    | some true => .ok none
    | some false => some <$> read s n
    | none => s.fail n (.wrongValue (.text text) "null")
  | .sequence .. | .mapping .. | .alias .. => some <$> read s n

/-- Reads one of some alternatives. A tag names an alternative too, and then the
scalar must be empty or null. -/
def alternative {α : Type} (s : Site) (names : List String) (ofName? : String → Option α)
    (n : Node) : Except ReadFault α :=
  match s.document.resolve n with
  | .scalar _ tag plain text =>
    let name :=
      match tag with
      | some t => if Text.startsWith '!' t then String.ofList (t.toList.drop 1) else t
      | none => text
    match ofName? name with
    | none => s.fail n (.unknownAlternative name names)
    | some a =>
      if tag.isNone || (plain && (text == "" || isNullText text)) then .ok a
      else s.fail n (.wrongValue (.text text) "null")
  | .sequence .. | .mapping .. | .alias .. =>
    s.wrongKind n "a YAML tag starting with '!'"

/-- The entries of a mapping. -/
def entries (s : Site) (n : Node) (wanted : String) : Except ReadFault (List (Node × Node)) :=
  match s.document.resolve n with
  | .mapping _ _ entries => .ok entries
  | .scalar _ _ plain text => if plain && text == "" then .ok [] else s.wrongKind n wanted
  | .sequence .. | .alias .. => s.wrongKind n wanted

/-- Reads a mapping from names; of two entries with one name the later one counts. -/
def nameMap {α : Type} (s : Site) (read : Site → Node → Except ReadFault α) (n : Node) :
    Except ReadFault (NameMap α) := do
  let entries ← s.entries n "a map"
  entries.foldlM (fun m e => do
    let name ← s.text e.1 "a string"
    return m.insert name (← read (s.under name) e.2)) .empty

/-- The keys of a record. -/
structure RecordKind where
  name : String
  fields : List String
  /-- Other keys are passed over. -/
  isOpen : Bool

/-- The fields of a record. -/
def fields (s : Site) (kind : RecordKind) (n : Node) : Except ReadFault (List (String × Node)) := do
  let entries ← s.entries n kind.name
  entries.foldlM (fun fields e => do
    let name ← s.text e.1 "field identifier"
    if !kind.fields.contains name then
      if kind.isOpen then return fields
      else s.fail e.1 (.unknownField name kind.fields)
    else if (fields.lookup name).isSome then s.fail n (.repeatedField name)
    else return fields ++ [(name, e.2)]) []

/-- Reads a field that must be there. -/
def field {α : Type} (s : Site) (record : Node) (fields : List (String × Node)) (name : String)
    (read : Site → Node → Except ReadFault α) : Except ReadFault α :=
  match fields.lookup name with
  | some n => read (s.under name) n
  | none => s.fail record (.missingField name)

/-- Reads a field that has a default. -/
def fieldOr {α : Type} (s : Site) (fields : List (String × Node)) (name : String)
    (read : Site → Node → Except ReadFault α) (default : α) : Except ReadFault α :=
  match fields.lookup name with
  | some n => read (s.under name) n
  | none => .ok default

end Site

end ReverseTunnel.Yaml
