/-!
# Lengths of time

A length of time is a whole number of nanoseconds below 2^64 seconds. In messages
it is written in the largest of the units s, ms, µs and ns that leaves a whole
part, with as many decimals as it needs.
-/

namespace ReverseTunnel

/-- The nanoseconds of a second. -/
def nanosPerSecond : Nat := 1000000000

/-- The nanoseconds of a millisecond. -/
def nanosPerMilli : Nat := 1000000

/-- The nanoseconds of a microsecond. -/
def nanosPerMicro : Nat := 1000

/-- The nanoseconds of 2^64 seconds. -/
def durationLimit : Nat := UInt64.size * nanosPerSecond

/-- A length of time. -/
structure Duration where
  nanos : Nat
  bounded : nanos < durationLimit
  deriving DecidableEq

namespace Duration

/-- No time. -/
def zero : Duration := ⟨0, by decide⟩

instance : Inhabited Duration := ⟨zero⟩

instance : LE Duration := ⟨fun a b => a.nanos ≤ b.nanos⟩

instance : LT Duration := ⟨fun a b => a.nanos < b.nanos⟩

instance (a b : Duration) : Decidable (a ≤ b) := inferInstanceAs (Decidable (a.nanos ≤ b.nanos))

instance (a b : Duration) : Decidable (a < b) := inferInstanceAs (Decidable (a.nanos < b.nanos))

/-- The length of some nanoseconds, if there is one. -/
def ofNanos? (n : Nat) : Option Duration :=
  if h : n < durationLimit then some ⟨n, h⟩ else none

/-- The length of some seconds. -/
def ofSeconds (n : UInt64) : Duration :=
  ⟨n.toNat * nanosPerSecond, by
    have h := n.toNat_lt
    simp only [durationLimit, nanosPerSecond, UInt64.size]
    omega⟩

/-- The length of some milliseconds. -/
def ofMillis (n : UInt64) : Duration :=
  ⟨n.toNat * nanosPerMilli, by
    have h := n.toNat_lt
    simp only [durationLimit, nanosPerSecond, nanosPerMilli, UInt64.size]
    omega⟩

/-- The whole seconds. -/
def seconds (d : Duration) : Nat := d.nanos / nanosPerSecond

/-- The nanoseconds beside the whole seconds. -/
def subsecond (d : Duration) : Nat := d.nanos % nanosPerSecond

/-- The sum, if it is a length of time. -/
def add? (a b : Duration) : Option Duration := ofNanos? (a.nanos + b.nanos)

/-- The shorter of two lengths. -/
def min (a b : Duration) : Duration := if a ≤ b then a else b

/-- The time from `start` to `now`; none when the clock stands before `start`. -/
def since (now start : Duration) : Duration :=
  ⟨now.nanos - start.nanos, Nat.lt_of_le_of_lt (Nat.sub_le _ _) now.bounded⟩

/-- A number `n / 10 ^ places`, without zeros at its end. -/
def decimalText (n places : Nat) : String :=
  let digits := (toString (n % Nat.pow 10 places)).toList
  let padded := List.replicate (places - digits.length) '0' ++ digits
  let shown := (padded.reverse.dropWhile (· == '0')).reverse
  toString (n / Nat.pow 10 places) ++ if shown.isEmpty then "" else "." ++ String.ofList shown

/-- The written form of a length of time. -/
def text (d : Duration) : String :=
  if d.nanos ≥ nanosPerSecond then decimalText d.nanos 9 ++ "s"
  else if d.nanos ≥ nanosPerMilli then decimalText d.nanos 6 ++ "ms"
  else if d.nanos ≥ nanosPerMicro then decimalText d.nanos 3 ++ "µs"
  else decimalText d.nanos 0 ++ "ns"

end Duration

end ReverseTunnel
