import ReverseTunnel.Text.Ascii

/-!
# Blank characters

A blank character is one with the Unicode property `White_Space`. `trim` drops
the blanks at both ends of a text and nothing else: its result neither starts
nor ends with one (`trimList_eq_self_iff`), and trimming twice changes nothing
more (`trimList_trimList`).
-/

namespace ReverseTunnel.Text

/-- The Unicode property `White_Space`. -/
def isBlank (c : Char) : Bool :=
  let n := c.toNat
  (9 ≤ n && n ≤ 13) || n == 0x20 || n == 0x85 || n == 0xA0 || n == 0x1680 ||
    (0x2000 ≤ n && n ≤ 0x200A) || n == 0x2028 || n == 0x2029 || n == 0x202F ||
    n == 0x205F || n == 0x3000

/-- The list without the blanks at its start. -/
def dropBlanks (cs : List Char) : List Char := cs.dropWhile isBlank

/-- The list without its last characters that satisfy `p`. -/
def dropEndWhile (p : Char → Bool) (cs : List Char) : List Char :=
  (cs.reverse.dropWhile p).reverse

/-- The list without the blanks at its start and at its end. -/
def trimList (cs : List Char) : List Char := dropEndWhile isBlank (dropBlanks cs)

/-- The text without the blanks at its start and at its end. -/
def trim (s : String) : String := String.ofList (trimList s.toList)

/-- The text holds nothing but blanks. -/
def isBlankText (s : String) : Bool := s.toList.all isBlank

@[simp]
theorem toList_trim (s : String) : (trim s).toList = trimList s.toList := by simp [trim]

theorem dropWhile_dropWhile (p : Char → Bool) (cs : List Char) :
    (cs.dropWhile p).dropWhile p = cs.dropWhile p := by
  induction cs with
  | nil => rfl
  | cons c r ih => by_cases h : p c <;> simp [List.dropWhile, h, ih]

/-- What `dropEndWhile` leaves is a front part of the list. -/
theorem dropEndWhile_append (p : Char → Bool) (cs : List Char) :
    ∃ tail, cs = dropEndWhile p cs ++ tail ∧ tail.all p = true := by
  refine ⟨(cs.reverse.takeWhile p).reverse, ?_, ?_⟩
  · rw [dropEndWhile, ← List.reverse_append, List.takeWhile_append_dropWhile, List.reverse_reverse]
  · rw [List.all_reverse, List.all_takeWhile]

theorem dropEndWhile_dropEndWhile (p : Char → Bool) (cs : List Char) :
    dropEndWhile p (dropEndWhile p cs) = dropEndWhile p cs := by
  simp [dropEndWhile, dropWhile_dropWhile]

theorem dropWhile_eq_self_of_head (p : Char → Bool) (cs : List Char)
    (h : ∀ c, cs.head? = some c → p c = false) : cs.dropWhile p = cs := by
  cases cs with
  | nil => rfl
  | cons c r => simp [List.dropWhile, h c rfl]

theorem head_dropWhile (p : Char → Bool) (cs : List Char) (c : Char)
    (h : (cs.dropWhile p).head? = some c) : p c = false := by
  induction cs with
  | nil => simp at h
  | cons d r ih =>
    by_cases hd : p d
    · rw [List.dropWhile_cons_of_pos hd] at h
      exact ih h
    · rw [List.dropWhile_cons_of_neg hd] at h
      simp only [List.head?_cons, Option.some.injEq] at h
      subst h
      simpa using hd

theorem trimList_trimList (cs : List Char) : trimList (trimList cs) = trimList cs := by
  have hhead : dropBlanks (trimList cs) = trimList cs := by
    apply dropWhile_eq_self_of_head
    intro c hc
    obtain ⟨tail, htail, -⟩ := dropEndWhile_append isBlank (dropBlanks cs)
    have hc' : (dropBlanks cs).head? = some c := by
      rw [htail, List.head?_append]
      simp only [trimList] at hc
      simp [hc]
    exact head_dropWhile isBlank cs c hc'
  rw [trimList, hhead, trimList, dropEndWhile_dropEndWhile]

theorem trimList_cons_of_isBlank {c : Char} (hc : isBlank c = true) (cs : List Char) :
    trimList (c :: cs) = trimList cs := by
  rw [trimList, dropBlanks, List.dropWhile_cons_of_pos hc]
  rfl

theorem dropWhile_eq_self_iff (p : Char → Bool) (cs : List Char) :
    cs.dropWhile p = cs ↔ ∀ c, cs.head? = some c → p c = false := by
  constructor
  · intro h c hc
    apply head_dropWhile p cs
    rw [h, hc]
  · exact dropWhile_eq_self_of_head p cs

theorem dropEndWhile_eq_self_iff (p : Char → Bool) (cs : List Char) :
    dropEndWhile p cs = cs ↔ ∀ c, cs.getLast? = some c → p c = false := by
  rw [dropEndWhile, List.reverse_eq_iff, dropWhile_eq_self_iff, List.head?_reverse]

/-- Nothing is trimmed off a list exactly if neither of its ends is blank. -/
theorem trimList_eq_self_iff (cs : List Char) :
    trimList cs = cs ↔ (∀ c, cs.head? = some c → isBlank c = false) ∧
      ∀ c, cs.getLast? = some c → isBlank c = false := by
  constructor
  · intro h
    have hfront : dropBlanks cs = cs := by
      -- What is trimmed is no longer than what has lost its front only.
      obtain ⟨tail, htail, -⟩ := dropEndWhile_append isBlank (dropBlanks cs)
      rw [← trimList, h] at htail
      have hshort : (dropBlanks cs).length ≤ cs.length := (List.dropWhile_sublist isBlank).length_le
      rw [htail, List.length_append] at hshort
      have hnil : tail = [] := List.eq_nil_of_length_eq_zero (by omega)
      rw [htail, hnil, List.append_nil]
    refine ⟨(dropWhile_eq_self_iff isBlank cs).1 hfront, ?_⟩
    rw [trimList, hfront] at h
    exact (dropEndWhile_eq_self_iff isBlank cs).1 h
  · rintro ⟨hhead, hlast⟩
    rw [trimList, dropBlanks, (dropWhile_eq_self_iff isBlank cs).2 hhead]
    exact (dropEndWhile_eq_self_iff isBlank cs).2 hlast

/-- What satisfies the test at the end of a list is dropped as a whole. -/
theorem dropEndWhile_append_of_all {p : Char → Bool} {tail : List Char} (cs : List Char)
    (h : tail.all p = true) : dropEndWhile p (cs ++ tail) = dropEndWhile p cs := by
  have hreverse : ∀ c ∈ tail.reverse, p c = true := by
    intro c hc
    exact List.all_eq_true.1 h c (List.mem_reverse.1 hc)
  rw [dropEndWhile, List.reverse_append, List.dropWhile_append_of_pos hreverse, dropEndWhile]

/-- The blanks around a list do not count. -/
theorem trimList_between {before after : List Char} (cs : List Char)
    (hbefore : before.all isBlank = true) (hafter : after.all isBlank = true) :
    trimList (before ++ cs ++ after) = trimList cs := by
  have hdrop : dropBlanks (before ++ cs ++ after) = dropBlanks (cs ++ after) := by
    rw [dropBlanks, List.append_assoc, List.dropWhile_append_of_pos (List.all_eq_true.1 hbefore),
      dropBlanks]
  have hnone : dropBlanks (after ++ []) = dropBlanks [] :=
    List.dropWhile_append_of_pos (List.all_eq_true.1 hafter)
  rw [List.append_nil] at hnone
  rw [trimList, hdrop, trimList, dropBlanks, List.dropWhile_append]
  split
  · next hempty =>
    have hblank : dropBlanks cs = [] := List.isEmpty_iff.1 hempty
    rw [hblank, ← dropBlanks, hnone, dropBlanks, List.dropWhile_nil]
  · exact dropEndWhile_append_of_all _ hafter

/-- What follows a trimmed list without a blank leaves it trimmed. -/
theorem trimList_append_eq_self {cs tail : List Char} (h : trimList cs = cs)
    (htail : ∀ c ∈ tail, isBlank c = false) : trimList (cs ++ tail) = cs ++ tail := by
  obtain ⟨hhead, hlast⟩ := (trimList_eq_self_iff cs).1 h
  apply (trimList_eq_self_iff _).2
  constructor
  · intro c hc
    rw [List.head?_append, Option.or_eq_some_iff] at hc
    rcases hc with hc | ⟨-, hc⟩
    · exact hhead c hc
    · exact htail c (List.mem_of_head? hc)
  · intro c hc
    rw [List.getLast?_append, Option.or_eq_some_iff] at hc
    rcases hc with hc | ⟨-, hc⟩
    · exact htail c (List.mem_of_getLast? hc)
    · exact hlast c hc

/-- Nothing is trimmed off characters that are no blanks. -/
theorem trimList_eq_self {cs : List Char} (h : ∀ c ∈ cs, isBlank c = false) :
    trimList cs = cs := by
  apply (trimList_eq_self_iff cs).2
  constructor
  · intro c hc
    exact h c (List.mem_of_head? hc)
  · intro c hc
    exact h c (List.mem_of_getLast? hc)

end ReverseTunnel.Text
