import ReverseTunnel.Bytes
import ReverseTunnel.Text.Split

/-!
# URIs and request targets

A URI is absolute (`scheme://authority/path?query`), in origin form (`/path?query`),
a bare authority, or an asterisk. The scheme keeps its spelling, only `http` and
`https` are written in small letters; ports are not checked. A fragment is
dropped. Paths and queries may hold any character outside ASCII, and an authority
none.
-/

namespace ReverseTunnel.Http

/-- A URI in its parts. -/
structure Uri where
  scheme : Option String
  authority : Option String
  /-- Path and query as they were written; empty when there is neither. -/
  target : String
  deriving DecidableEq

namespace Uri

/-- The longest URI in bytes. -/
def maxLength : Nat := 65534

/-- The longest scheme. -/
def maxSchemeLength : Nat := 64

/-- A character that may stand in a scheme. -/
def isSchemeChar (c : Char) : Bool := c.isAlphanum || "+-.~".toList.contains c

/-- A character that may stand in an authority outside its brackets' rules. -/
def isAuthorityChar (c : Char) : Bool := c.isAlphanum || "!$&'()*+,-.;=_~".toList.contains c

/-- A character that ends an authority. -/
def endsAuthority (c : Char) : Bool := c == '/' || c == '?' || c == '#'

/-- A character that may stand in a path. -/
def isPathChar (c : Char) : Bool :=
  let n := c.toNat
  n == 0x21 || (0x24 ≤ n && n ≤ 0x3B) || n == 0x3D || (0x40 ≤ n && n ≤ 0x5F) ||
    (0x61 ≤ n && n ≤ 0x7A) || n == 0x7C || 0x7E ≤ n || c == '"' || c == '\x7b' || c == '\x7d'

/-- A character that may stand in a query. -/
def isQueryChar (c : Char) : Bool :=
  let n := c.toNat
  n == 0x21 || (0x24 ≤ n && n ≤ 0x3B) || n == 0x3D || 0x3F ≤ n

/-- What the check of an authority has seen: the colons since the last bracket or
at sign, whether a bracket was opened and closed, and whether a percent sign
stands outside the user part. -/
structure AuthorityScan where
  colons : Nat
  opened : Bool
  closed : Bool
  percent : Bool

/-- One character of an authority. -/
def AuthorityScan.step (s : AuthorityScan) (c : Char) : Option AuthorityScan :=
  if c = ':' then if s.colons ≥ 8 then none else some { s with colons := s.colons + 1 }
  else if c = '[' then if s.percent || s.opened then none else some { s with opened := true }
  else if c = ']' then
    if !s.opened || s.closed then none
    else some { s with closed := true, colons := 0, percent := false }
  else if c = '@' then some { s with colons := 0, percent := false }
  else if c = '%' then some { s with percent := true }
  else if isAuthorityChar c then some s
  else none

/-- The characters form an authority, possibly an empty one: at most one colon
outside brackets and user part, brackets in a pair, something after the last at
sign, and percent signs in the user part or in brackets only. -/
def isAuthority (cs : List Char) : Bool :=
  match cs.foldlM AuthorityScan.step ⟨0, false, false, false⟩ with
  | none => false
  | some s =>
    s.opened == s.closed && s.colons ≤ 1 && cs.getLast? != some '@' && !s.percent

/-- The path and the query with its question mark, without the fragment. -/
def splitTarget (cs : List Char) : List Char × List Char :=
  let path := cs.takeWhile fun c => c != '?' && c != '#'
  let rest := cs.dropWhile fun c => c != '?' && c != '#'
  (path, if rest.head? == some '?' then rest.takeWhile (· != '#') else [])

/-- The target that characters stand for, its fragment dropped. -/
def target? (cs : List Char) : Option String :=
  let (path, query) := splitTarget cs
  if path.all isPathChar && query.all isQueryChar then some (String.ofList (path ++ query))
  else none

/-- The scheme that an absolute URI opens with, and what follows `://`. -/
def splitScheme (cs : List Char) : Except Unit (Option (String × List Char)) :=
  if (cs.take 7).map Char.toLower = "http://".toList then .ok (some ("http", cs.drop 7))
  else if (cs.take 8).map Char.toLower = "https://".toList then .ok (some ("https", cs.drop 8))
  else
    let scheme := cs.takeWhile isSchemeChar
    match cs.dropWhile isSchemeChar with
    | ':' :: '/' :: '/' :: rest =>
      if cs.length ≤ 3 then .ok none
      else if scheme.length > maxSchemeLength then .error ()
      else .ok (some (String.ofList scheme, rest))
    | _ => .ok none

/-- The URI that is only an authority. -/
def authority? (s : String) : Option Uri :=
  if s ≠ "" ∧ isAuthority s.toList ∧ !s.toList.any endsAuthority then some ⟨none, some s, ""⟩
  else none

/-- The absolute URI of a scheme and what follows it. -/
def absolute? (scheme : String) (rest : List Char) : Option Uri := do
  let authority := rest.takeWhile fun c => !endsAuthority c
  if authority.isEmpty || !isAuthority authority then none
  let target ← target? (rest.dropWhile fun c => !endsAuthority c)
  return ⟨some scheme, some (String.ofList authority), target⟩

/-- The URI that a text stands for. -/
def parse? (s : String) : Option Uri :=
  if s.utf8ByteSize > maxLength then none
  else if s = "*" then some ⟨none, none, "*"⟩
  else
    match s.toList with
    | '/' :: rest => (target? ('/' :: rest)).map fun target => ⟨none, none, target⟩
    | cs =>
      match splitScheme cs with
      | .error () => none
      | .ok none => authority? s
      | .ok (some (scheme, rest)) => absolute? scheme rest

/-- The path; an empty one is written `/`, except in a bare authority. -/
def path (u : Uri) : String :=
  if u.scheme.isNone && u.target == "" then ""
  else
    let path := (splitTarget u.target.toList).1
    if path.isEmpty then "/" else String.ofList path

/-- The query with its question mark, or nothing. -/
def queryPart (u : Uri) : String := String.ofList (splitTarget u.target.toList).2

/-- Path and query as one text, if the URI is more than a bare authority. Without
a path the text starts with the question mark. -/
def pathAndQuery? (u : Uri) : Option String :=
  if u.scheme.isSome || u.authority.isNone then
    some (if u.target = "" then "/" else u.target)
  else none

/-- The written form of a URI. -/
def text (u : Uri) : String :=
  (match u.scheme with
    | some scheme => scheme ++ "://"
    | none => "") ++
  u.authority.getD "" ++ u.path ++ u.queryPart

end Uri

end ReverseTunnel.Http
