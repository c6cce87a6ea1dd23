import ReverseTunnel.Binary64
import ReverseTunnel.Text.Numeral
import ReverseTunnel.Yaml.Node

/-!
# The values of scalars

A plain scalar is the null value, a truth value or a number if it is written like
one, and else a text. Whole numbers may be hexadecimal, octal or binary; a number
with a zero in front is a text. A tag can ask for one of these kinds.
-/

namespace ReverseTunnel.Yaml

/-- What a scalar stands for. -/
inductive ScalarValue where
  | null
  | bool (value : Bool)
  | int (value : Int)
  | float (value : Binary64) (written : String)
  | text (value : String)

/-- The scalar is a spelling of the null value. -/
def isNullText (s : String) : Bool := s == "null" || s == "Null" || s == "NULL" || s == "~"

/-- The truth value that a scalar spells. -/
def boolOfText? (s : String) : Option Bool :=
  if s == "true" || s == "True" || s == "TRUE" then some true
  else if s == "false" || s == "False" || s == "FALSE" then some false
  else none

/-- The value of a digit in a base up to 16. -/
def digitValue? (base : Nat) (c : Char) : Option Nat :=
  (hexValue? c).filter fun d => decide (d < base)

/-- The value of a row of at least one digit. -/
def digitsOf? (base : Nat) (cs : List Char) : Option Nat :=
  if cs.isEmpty then none
  else (cs.mapM (digitValue? base)).map (·.foldl (fun n d => base * n + d) 0)

/-- The value of a whole number without a sign, in the base that its front names. -/
def magnitude? (cs : List Char) : Option Nat :=
  match cs with
  | '0' :: 'x' :: digits => digitsOf? 16 digits
  | '0' :: 'o' :: digits => digitsOf? 8 digits
  | '0' :: 'b' :: digits => digitsOf? 2 digits
  | digits => digitsOf? 10 digits

/-- The characters without one sign in front. -/
def unsigned (cs : List Char) : List Char :=
  match cs with
  | '+' :: rest | '-' :: rest => rest
  | rest => rest

/-- The scalar is a row of digits that begins with a zero, and so no number. -/
def isZeroPadded (cs : List Char) : Bool :=
  match unsigned cs with
  | '0' :: c :: rest => Text.isDigits (c :: rest)
  | _ => false

/-- A whole number that fits into 128 bits, with or without a sign. -/
def fitsWord (n : Int) : Bool :=
  decide (-((1 <<< 127 : Nat) : Int) ≤ n ∧ n < ((1 <<< 128 : Nat) : Int))

/-- The whole number that a scalar spells. -/
def intOf? (cs : List Char) : Option Int :=
  if isZeroPadded cs then none
  else
    let value : Option Int :=
      match cs with
      | '-' :: rest => (magnitude? rest).map fun n => -(n : Int)
      | '+' :: rest => (magnitude? rest).map Int.ofNat
      | rest => (magnitude? rest).map Int.ofNat
    value.filter fitsWord

/-- The exponent that the characters behind a mantissa form. -/
def exponentOf? (cs : List Char) : Option Int :=
  match cs with
  | [] => some 0
  | e :: rest =>
    if e == 'e' || e == 'E' then
      match rest with
      | '-' :: digits => (digitsOf? 10 digits).map fun n => -(n : Int)
      | '+' :: digits => (digitsOf? 10 digits).map Int.ofNat
      | digits => (digitsOf? 10 digits).map Int.ofNat
    else none

/-- Decimal exponents beyond which a number is infinite or zero. -/
def exponentLimit : Int := 400

/-- The number nearest to `digits * 10 ^ exponent`, where `digits` has `length`
digits; none if it is out of range. -/
def floatOfDecimal? (negative : Bool) (digits length : Nat) (exponent : Int) : Option Binary64 :=
  if digits = 0 || exponent + length < -exponentLimit then some (.ofRatio negative 0 1)
  else if exponent > exponentLimit then none
  else
    match Binary64.ofDecimal negative digits exponent with
    | .infinity _ | .nan => none
    | number => some number

/-- The finite number that digits, a point and an exponent form. -/
def decimalOf? (negative : Bool) (cs : List Char) : Option Binary64 :=
  let whole := cs.takeWhile Char.isDigit
  let rest := cs.dropWhile Char.isDigit
  let (part, rest) :=
    match rest with
    | '.' :: rest => (rest.takeWhile Char.isDigit, rest.dropWhile Char.isDigit)
    | rest => ([], rest)
  let digits := whole ++ part
  if digits.isEmpty then none
  else
    match exponentOf? rest with
    | none => none
    | some exponent =>
      floatOfDecimal? negative (Text.digitsValue digits) digits.length (exponent - part.length)

/-- The number in floating point that a scalar spells. -/
def floatOf? (s : String) : Option Binary64 :=
  let infinity (cs : List Char) : Bool := [".inf", ".Inf", ".INF"].contains (String.ofList cs)
  if s == ".nan" || s == ".NaN" || s == ".NAN" then some .nan
  else
    match s.toList with
    | '-' :: cs => if infinity cs then some (.infinity true) else decimalOf? true cs
    | '+' :: cs => if infinity cs then some (.infinity false) else decimalOf? false cs
    | cs => if infinity cs then some (.infinity false) else decimalOf? false cs

/-- What a plain scalar without a tag stands for. -/
def ScalarValue.ofPlain (s : String) : ScalarValue :=
  if s == "" || isNullText s then .null
  else
    match boolOfText? s, intOf? s.toList with
    | some b, _ => .bool b
    | none, some n => .int n
    | none, none =>
      if isZeroPadded s.toList then .text s
      else
        match floatOf? s with
        | some x => .float x s
        | none => .text s

/-- What a scalar with this tag stands for; none if the tag asks for another kind. -/
def ScalarValue.ofTagged? (tag : Option String) (plain : Bool) (s : String) :
    Option ScalarValue :=
  match tag with
  | none => some (if plain then .ofPlain s else .text s)
  | some "tag:yaml.org,2002:bool" => (boolOfText? s).map .bool
  | some "tag:yaml.org,2002:int" => (intOf? s.toList).map .int
  | some "tag:yaml.org,2002:float" => (floatOf? s).map fun x => .float x s
  | some "tag:yaml.org,2002:null" => if isNullText s then some .null else none
  | some t => some (if plain && Text.startsWith '!' t then .ofPlain s else .text s)

end ReverseTunnel.Yaml
