/-!
# Binary floating point with 53 digits

The numbers of the 64-bit binary interchange format, in exact arithmetic on
natural numbers: a finite magnitude is a significand times a power of two, and an
operation rounds its exact result to the nearest such number, a tie to the even
significand. Only what the reconnect policy needs is here: reading a decimal or
a bit pattern, sums, products and quotients of magnitudes, and comparison.
-/

namespace ReverseTunnel

/-- The magnitude `significand * 2 ^ exponent`. -/
structure Dyadic where
  significand : Nat
  exponent : Int
  deriving DecidableEq

namespace Dyadic

/-- The magnitude as a quotient of natural numbers. -/
def ratio (d : Dyadic) : Nat × Nat :=
  if 0 ≤ d.exponent then (d.significand <<< d.exponent.toNat, 1)
  else (d.significand, 1 <<< (-d.exponent).toNat)

/-- The whole number nearest to `num / den`, of two the even one. -/
def roundHalfEven (num den : Nat) : Nat :=
  let quotient := num / den
  let double := 2 * (num % den)
  if double < den then quotient
  else if double = den ∧ quotient % 2 = 0 then quotient
  else quotient + 1

/-- `num / den` in units of `2 ^ exponent`, as a quotient. -/
def scaled (num den : Nat) (exponent : Int) : Nat × Nat :=
  if 0 ≤ exponent then (num, den <<< exponent.toNat) else (num <<< (-exponent).toNat, den)

/-- The smallest exponent of the format. -/
def minExponent : Int := -1074

/-- The exponent at which `num / den` has 53 binary digits, or the smallest one. -/
def exponentOf (num den : Nat) : Int :=
  let low := max minExponent ((Nat.log2 num : Int) - Nat.log2 den - 53)
  let parts := scaled num den low
  if parts.1 < parts.2 <<< 53 then low else low + 1

/-- The number of the format nearest to `num / den`. The range of exponents has
no upper end here. -/
def nearest (num den : Nat) : Dyadic :=
  if num = 0 then ⟨0, minExponent⟩
  else
    let exponent := exponentOf num den
    let parts := scaled num den exponent
    let significand := roundHalfEven parts.1 parts.2
    if significand = 1 <<< 53 then ⟨1 <<< 52, exponent + 1⟩ else ⟨significand, exponent⟩

/-- The rounded sum. -/
def add (a b : Dyadic) : Dyadic :=
  nearest (a.ratio.1 * b.ratio.2 + b.ratio.1 * a.ratio.2) (a.ratio.2 * b.ratio.2)

/-- The rounded product. -/
def mul (a b : Dyadic) : Dyadic :=
  nearest (a.ratio.1 * b.ratio.1) (a.ratio.2 * b.ratio.2)

/-- Comparison of magnitudes. -/
def le (a b : Dyadic) : Bool := decide (a.ratio.1 * b.ratio.2 ≤ b.ratio.1 * a.ratio.2)

/-- The magnitude lies within the exponents of the format. -/
def isInRange (d : Dyadic) : Bool := decide (d.ratio.1 < d.ratio.2 <<< 1024)

/-- One. -/
def one : Dyadic := nearest 1 1

end Dyadic

/-- A number of the format. -/
inductive Binary64 where
  | nan
  | infinity (negative : Bool)
  | finite (negative : Bool) (magnitude : Dyadic)
  deriving DecidableEq

namespace Binary64

/-- The number nearest to `num / den`; an infinity when that is out of range. -/
def ofRatio (negative : Bool) (num den : Nat) : Binary64 :=
  let d := Dyadic.nearest num den
  if d.isInRange then .finite negative d else .infinity negative

/-- The number nearest to `digits * 10 ^ exponent`. -/
def ofDecimal (negative : Bool) (digits : Nat) (exponent : Int) : Binary64 :=
  if 0 ≤ exponent then ofRatio negative (digits * Nat.pow 10 exponent.toNat) 1
  else ofRatio negative digits (Nat.pow 10 (-exponent).toNat)

/-- The number of a bit pattern. -/
def ofBits (bits : UInt64) : Binary64 :=
  let negative := bits.toNat >>> 63 == 1
  let exponent : Nat := (bits.toNat >>> 52) % 2048
  let fraction := bits.toNat % (1 <<< 52)
  if exponent = 2047 then
    if fraction = 0 then .infinity negative else .nan
  else if exponent = 0 then .finite negative ⟨fraction, Dyadic.minExponent⟩
  else .finite negative ⟨(1 <<< 52) + fraction, (exponent : Int) - 1075⟩

/-- The bit pattern of a number. -/
def toBits : Binary64 → UInt64
  | .nan => 0x7FF8000000000000
  | .infinity negative => ((if negative then 1 <<< 63 else 0) + (2047 <<< 52) : Nat).toUInt64
  | .finite negative d =>
    let sign : Nat := if negative then 1 <<< 63 else 0
    if d.significand < 1 <<< 52 then (sign + d.significand).toUInt64
    else (sign + ((d.exponent + 1075).toNat <<< 52) + (d.significand - (1 <<< 52))).toUInt64

/-- A factor of at least one: the number itself, or one in place of smaller
numbers and of NaN; `none` is infinity. -/
def atLeastOne : Binary64 → Option Dyadic
  | .nan => some .one
  | .infinity negative => if negative then some .one else none
  | .finite negative d => if !negative && Dyadic.le .one d then some d else some .one

end Binary64

end ReverseTunnel
