import ReverseTunnel.Duration

/-!
# Lengths of time as numbers

A length of time is its nanoseconds. Comparison, sums and the shorter of two are those of numbers,
as far as there is a length of the result.
-/

namespace ReverseTunnel.Duration

variable {a b c : Duration}

theorem eq_of_nanos_eq (h : a.nanos = b.nanos) : a = b := by
  cases a
  cases b
  cases h
  rfl

theorem ofNanos?_eq_some_iff {n : Nat} {d : Duration} : ofNanos? n = some d ↔ n = d.nanos := by
  unfold ofNanos?
  split
  · next h =>
    rw [Option.some.injEq]
    constructor
    · rintro rfl
      rfl
    · exact fun heq => eq_of_nanos_eq heq
  · next h =>
    refine iff_of_false nofun fun heq => h ?_
    rw [heq]
    exact d.bounded

theorem add?_eq_some_iff : a.add? b = some c ↔ a.nanos + b.nanos = c.nanos :=
  ofNanos?_eq_some_iff

theorem nanos_since (now start : Duration) : (now.since start).nanos = now.nanos - start.nanos :=
  rfl

theorem le_trans (hab : a ≤ b) (hbc : b ≤ c) : a ≤ c := Nat.le_trans hab hbc

theorem lt_of_not_le (h : ¬ a ≤ b) : b < a := Nat.lt_of_not_le h

theorem le_of_lt (h : a < b) : a ≤ b := Nat.le_of_lt h

theorem not_le_of_lt (h : a < b) : ¬ b ≤ a := Nat.not_le_of_lt h

theorem min_le_left : a.min b ≤ a := by
  unfold min
  split
  · exact Nat.le_refl _
  · next h => exact le_of_lt (lt_of_not_le h)

theorem min_le_right : a.min b ≤ b := by
  unfold min
  split
  · assumption
  · exact Nat.le_refl _

theorem le_min_iff : a ≤ b.min c ↔ a ≤ b ∧ a ≤ c := by
  unfold min
  split
  · next h => exact ⟨fun hab => ⟨hab, le_trans hab h⟩, And.left⟩
  · next h => exact ⟨fun hac => ⟨le_trans hac (le_of_lt (lt_of_not_le h)), hac⟩, And.right⟩

theorem min_le_min_right (h : a ≤ b) : a.min c ≤ b.min c := by
  rw [le_min_iff]
  exact ⟨le_trans min_le_left h, min_le_right⟩

theorem subsecond_lt (d : Duration) : d.subsecond < nanosPerSecond := Nat.mod_lt _ (by decide)

theorem nanos_eq (d : Duration) : d.nanos = d.seconds * nanosPerSecond + d.subsecond :=
  (Nat.div_add_mod' d.nanos nanosPerSecond).symm

end ReverseTunnel.Duration
