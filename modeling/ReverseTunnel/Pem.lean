import ReverseTunnel.Base64
import ReverseTunnel.Bytes.Lossy
import ReverseTunnel.Text.Quoted

/-!
# PEM files

A PEM file holds sections of Base64 between a line that begins a section and one
that ends it, both with the section's label. Lines outside of sections count for
nothing, and so do sections whose labels are not known. Reading stops at the first
fault; the sections before it have been read by then.
-/

namespace ReverseTunnel.Pem

/-- A section: its label and the bytes that it holds. -/
structure Section where
  label : String
  content : Bytes
  deriving DecidableEq

/-- Why a file is no PEM file. -/
inductive Fault where
  /-- The file ends within a section. -/
  | missingEnd (marker : Bytes)
  | illegalStart (line : Bytes)
  | base64 (fault : Base64.Fault)
  deriving DecidableEq

/-- The wording of a fault. -/
def Fault.message : Fault → String
  | .missingEnd marker => "section end " ++ Text.quoted (lossyText marker) ++ " missing"
  | .illegalStart line => "illegal section start: " ++ Text.quoted (lossyText line)
  | .base64 fault => fault.message

/-- What a file holds: the sections up to the first fault, and that fault. -/
structure Contents where
  sections : List Section
  fault : Option Fault

/-- The label of certificates. -/
def certificateLabel : String := "CERTIFICATE"

/-- The labels of private keys. -/
def keyLabels : List String := ["PRIVATE KEY", "RSA PRIVATE KEY", "EC PRIVATE KEY"]

/-- The labels of the sections that count. -/
def knownLabels : List String :=
  [certificateLabel, "PUBLIC KEY", "X509 CRL", "CERTIFICATE REQUEST", "ECHCONFIG"] ++ keyLabels

/-- A byte that ends a line. -/
def endsLine (b : UInt8) : Bool := b == 10 || b == 13

/-- One byte on the way to lines: the finished lines, and the bytes of the next one,
each with the last first. -/
def lineStep (state : List Bytes × Bytes) (b : UInt8) : List Bytes × Bytes :=
  if endsLine b then ((b :: state.2).reverse :: state.1, []) else (state.1, b :: state.2)

/-- The lines of a file, each with the byte that ends it. -/
def lines (file : Bytes) : List Bytes :=
  let (finished, last) := file.foldl lineStep ([], [])
  (if last.isEmpty then finished else last.reverse :: finished).reverse

/-- The front of a line that begins a section. -/
def beginMarker : Bytes := utf8 "-----BEGIN "

/-- The front of the line that ends a section. -/
def endMarker (label : Bytes) : Bytes := utf8 "-----END " ++ label ++ utf8 "-----"

/-- A dash. -/
def dash : UInt8 := 45

/-- The label in a line that begins a section. The line must end with exactly five
dashes, between and after which blanks and line ends may stand. -/
def beginLabel? (line : Bytes) : Option Bytes :=
  let tail := (line.reverse.takeWhile fun b => b == dash || endsLine b || b == 32).reverse
  let dashes := tail.dropWhile (· != dash)
  if dashes.count dash = 5 then
    some ((line.take (line.length - dashes.length)).drop beginMarker.length)
  else none

/-- A file on its way: the sections so far, the last first; the label of the open
section; and the bytes of the lines that were gathered, the last first. -/
structure Progress where
  sections : List Section
  label : Option Bytes
  body : Bytes

/-- One line of a file. A section that begins within another one takes its place,
and keeps the lines that were gathered. -/
def readLine (p : Progress) (line : Bytes) : Except (Progress × Fault) Progress :=
  if beginMarker.isPrefixOf line then
    match beginLabel? line with
    | some label => .ok { p with label := some label }
    | none => .error (p, .illegalStart line)
  else
    match p.label with
    | none => .ok p
    | some label =>
      if (endMarker label).isPrefixOf line then
        match text? label with
        | some name =>
          if knownLabels.contains name then
            match Base64.decode p.body.reverse with
            | .ok content => .ok ⟨⟨name, content⟩ :: p.sections, none, []⟩
            | .error e => .error (p, .base64 e)
          else .ok { p with label := none, body := [] }
        | none => .ok { p with label := none, body := [] }
      else .ok { p with body := line.reverse ++ p.body }

/-- What a file holds. -/
def read (file : Bytes) : Contents :=
  match (lines file).foldlM readLine ⟨[], none, []⟩ with
  | .error (p, fault) => ⟨p.sections.reverse, some fault⟩
  | .ok p => ⟨p.sections.reverse, p.label.map fun label => .missingEnd (endMarker label)⟩

/-- The certificates of a file. -/
def certificates (file : Bytes) : Except Fault (List Bytes) :=
  let contents := read file
  match contents.fault with
  | some fault => .error fault
  | none =>
    .ok ((contents.sections.filter (·.label == certificateLabel)).map Section.content)

/-- The first private key of a file. What follows it is not looked at. -/
def privateKey (file : Bytes) : Except Fault (Option Section) :=
  let contents := read file
  match contents.sections.find? (fun s => keyLabels.contains s.label), contents.fault with
  | some s, _ => .ok (some s)
  | none, some fault => .error fault
  | none, none => .ok none

end ReverseTunnel.Pem
