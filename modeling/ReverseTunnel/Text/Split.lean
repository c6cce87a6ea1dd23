import ReverseTunnel.Text.Blank

/-!
# Cutting a text at a character

A text is cut at the first or at the last place where a character stands, or
at every place. The parts and the character between them give the text back
(`eq_of_cutFirst`, `eq_of_cutLast`), and the part that was searched through
does not hold the character. Joined by the separator, the pieces give the text
back too, so all its other characters stand in them (`mem_pieces`).
-/

namespace ReverseTunnel.Text

/-- The parts before and after the first `sep`. -/
def cutFirst (sep : Char) (cs : List Char) : Option (List Char × List Char) :=
  match cs.dropWhile (· != sep) with
  | [] => none
  | _ :: rest => some (cs.takeWhile (· != sep), rest)

/-- The parts before and after the last `sep`. -/
def cutLast (sep : Char) (cs : List Char) : Option (List Char × List Char) :=
  (cutFirst sep cs.reverse).map fun parts => (parts.2.reverse, parts.1.reverse)

/-- The parts of a text before and after its first `sep`. -/
def splitFirst (sep : Char) (s : String) : Option (String × String) :=
  (cutFirst sep s.toList).map fun parts => (String.ofList parts.1, String.ofList parts.2)

/-- The parts of a text before and after its last `sep`. -/
def splitLast (sep : Char) (s : String) : Option (String × String) :=
  (cutLast sep s.toList).map fun parts => (String.ofList parts.1, String.ofList parts.2)

/-- The parts between all places where `sep` stands; there is always at least one. -/
def pieces (sep : Char) (s : String) : List String :=
  (s.toList.splitOn sep).map String.ofList

theorem cutFirst_cons_self (sep : Char) (r : List Char) :
    cutFirst sep (sep :: r) = some ([], r) := by
  simp [cutFirst, List.dropWhile, List.takeWhile]

theorem cutFirst_cons_of_ne {sep c : Char} (h : c ≠ sep) (r : List Char) :
    cutFirst sep (c :: r) = (cutFirst sep r).map fun p => (c :: p.1, p.2) := by
  have hb : (c != sep) = true := by simp [h]
  simp only [cutFirst, List.dropWhile_cons_of_pos (p := fun x => x != sep) hb,
    List.takeWhile_cons_of_pos (p := fun x => x != sep) hb]
  cases List.dropWhile (fun x => x != sep) r <;> rfl

theorem cutFirst_eq_some_iff {sep : Char} {cs a b : List Char} :
    cutFirst sep cs = some (a, b) ↔ cs = a ++ sep :: b ∧ sep ∉ a := by
  induction cs generalizing a with
  | nil => simp [cutFirst]
  | cons c r ih =>
    by_cases hc : c = sep
    · subst hc
      rw [cutFirst_cons_self]
      cases a with
      | nil => simp
      | cons d a => simp; grind
    · rw [cutFirst_cons_of_ne hc]
      cases a with
      | nil => simp; grind
      | cons d a =>
        simp only [Option.map_eq_some_iff, Prod.mk.injEq, List.cons.injEq, Prod.exists,
          List.cons_append, List.mem_cons, not_or]
        constructor
        · rintro ⟨x, y, hxy, ⟨rfl, rfl⟩, rfl⟩
          obtain ⟨h1, h2⟩ := ih.1 hxy
          exact ⟨⟨rfl, h1⟩, fun h => hc h.symm, h2⟩
        · rintro ⟨⟨rfl, h1⟩, -, h2⟩
          exact ⟨a, b, ih.2 ⟨h1, h2⟩, ⟨rfl, rfl⟩, rfl⟩

theorem cutFirst_eq_none_iff {sep : Char} {cs : List Char} :
    cutFirst sep cs = none ↔ sep ∉ cs := by
  induction cs with
  | nil => simp [cutFirst]
  | cons c r ih =>
    by_cases hc : c = sep
    · subst hc
      simp [cutFirst_cons_self]
    · rw [cutFirst_cons_of_ne hc, Option.map_eq_none_iff, ih]
      grind

theorem cutLast_eq_some_iff {sep : Char} {cs a b : List Char} :
    cutLast sep cs = some (a, b) ↔ cs = a ++ sep :: b ∧ sep ∉ b := by
  simp only [cutLast, Option.map_eq_some_iff, Prod.mk.injEq, Prod.exists]
  constructor
  · rintro ⟨x, y, hxy, rfl, rfl⟩
    obtain ⟨h1, h2⟩ := cutFirst_eq_some_iff.1 hxy
    have h3 := congrArg List.reverse h1
    simp only [List.reverse_reverse, List.reverse_append, List.reverse_cons, List.append_assoc,
      List.singleton_append] at h3
    exact ⟨h3, by simpa using h2⟩
  · rintro ⟨rfl, h⟩
    exact ⟨b.reverse, a.reverse, cutFirst_eq_some_iff.2 ⟨by simp, by simpa using h⟩, by simp,
      by simp⟩

theorem cutLast_eq_none_iff {sep : Char} {cs : List Char} :
    cutLast sep cs = none ↔ sep ∉ cs := by
  simp [cutLast, cutFirst_eq_none_iff]

theorem eq_of_splitFirst {sep : Char} {s a b : String} (h : splitFirst sep s = some (a, b)) :
    s.toList = a.toList ++ sep :: b.toList ∧ sep ∉ a.toList := by
  simp only [splitFirst, Option.map_eq_some_iff, Prod.mk.injEq] at h
  obtain ⟨⟨x, y⟩, hxy, rfl, rfl⟩ := h
  simpa using cutFirst_eq_some_iff.1 hxy

theorem splitFirst_eq_some_iff {sep : Char} {s a b : String} :
    splitFirst sep s = some (a, b) ↔ s.toList = a.toList ++ sep :: b.toList ∧ sep ∉ a.toList := by
  constructor
  · exact eq_of_splitFirst
  · intro h
    rw [splitFirst, cutFirst_eq_some_iff.2 h, Option.map_some, String.ofList_toList,
      String.ofList_toList]

theorem eq_of_splitLast {sep : Char} {s a b : String} (h : splitLast sep s = some (a, b)) :
    s.toList = a.toList ++ sep :: b.toList ∧ sep ∉ b.toList := by
  simp only [splitLast, Option.map_eq_some_iff, Prod.mk.injEq] at h
  obtain ⟨⟨x, y⟩, hxy, rfl, rfl⟩ := h
  simpa using cutLast_eq_some_iff.1 hxy

theorem intercalate_cons (sep : Char) (first : List Char) (rest : List (List Char)) :
    [sep].intercalate (first :: rest) = first ++ rest.flatMap fun cs => sep :: cs := by
  induction rest generalizing first with
  | nil => simp
  | cons second rest ih =>
    rw [List.intercalate_cons_cons, ih, List.flatMap_cons, List.append_assoc]
    rfl

/-- A character of a text is the separator or stands in one of the pieces. -/
theorem mem_pieces (sep : Char) {c : Char} {s : String} (hc : c ∈ s.toList) :
    c = sep ∨ ∃ p ∈ pieces sep s, c ∈ p.toList := by
  have hpiece : ∀ part ∈ s.toList.splitOn sep, c ∈ part → ∃ p ∈ pieces sep s, c ∈ p.toList := by
    intro part hpart hmem
    refine ⟨String.ofList part, List.mem_map_of_mem hpart, ?_⟩
    rwa [String.toList_ofList]
  have hjoined : [sep].intercalate (s.toList.splitOn sep) = s.toList := List.intercalate_splitOn sep
  rw [← hjoined] at hc
  cases hparts : s.toList.splitOn sep with
  | nil => simp [hparts] at hc
  | cons first rest =>
    rw [hparts] at hpiece
    rw [hparts, intercalate_cons, List.mem_append, List.mem_flatMap] at hc
    rcases hc with hfirst | ⟨part, hpart, hmem⟩
    · exact .inr (hpiece first List.mem_cons_self hfirst)
    · rcases List.mem_cons.1 hmem with hsep | hmem
      · exact .inl hsep
      · exact .inr (hpiece part (List.mem_cons_of_mem _ hpart) hmem)

/-- The last piece of a text is what follows the last separator. -/
theorem getLast?_pieces_append {sep : Char} (s : List Char) {t : List Char} (ht : sep ∉ t) :
    (pieces sep (String.ofList (s ++ sep :: t))).getLast? = some (String.ofList t) := by
  rw [pieces, String.toList_ofList, List.splitOn_append_cons_self, List.splitOn_eq_singleton ht,
    List.map_append, List.getLast?_append]
  rfl

theorem pieces_of_notMem {sep : Char} {t : String} (ht : sep ∉ t.toList) :
    pieces sep t = [t] := by
  rw [pieces, List.splitOn_eq_singleton ht, List.map_singleton, String.ofList_toList]

end ReverseTunnel.Text
