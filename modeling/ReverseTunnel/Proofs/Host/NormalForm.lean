import ReverseTunnel.Proofs.Host

/-!
# Whether a normal form is one

The normal form of a host is taken in one pass: blanks, then a port, then dots, then ASCII case.
What a later step leaves may be something that an earlier step would have taken off. The dots at
the end of `a:80.` hide a port, and a port hides the blank at the end of the name before it.

Most of it cannot come back. A normal form does not start with a blank or end with a dot, and a
host in brackets is cut at its bracket once and for all. What remains is said by `IsSettled`: a
normal form is its own normal form exactly if it ends neither in a blank nor in a port
(`normalHost_normalHost_iff`).
-/

namespace ReverseTunnel

open Text

/-- A name without colons and a port after it. -/
def EndsInPort (host : List Char) : Prop :=
  ∃ name port, host = name ++ ':' :: port ∧ ':' ∉ name ∧ isDigits port = true

/-- The host ends neither in a blank nor, outside brackets, in a port. -/
structure IsSettled (host : String) : Prop where
  last : ∀ c, host.toList.getLast? = some c → isBlank c = false
  port : host.toList.head? = some '[' ∨ ¬ EndsInPort host.toList

/-! ## One pass without the change of case -/

/-- The name that one pass leaves, in the case in which it was written. -/
def stem (host : List Char) : List Char :=
  dropEndWhile (· == '.') (hostWithoutPort (trimList host))

theorem normalHostList_eq (host : List Char) : normalHostList host = (stem host).map Char.toLower :=
  rfl

theorem stem_map_toLower (host : List Char) :
    stem (host.map Char.toLower) = (stem host).map Char.toLower := by
  have hdot : IgnoresCase fun c => c == '.' := ignoresCase_eq (by decide)
  rw [stem, trimList_map_toLower, hostWithoutPort_map_toLower, dropEndWhile_map_toLower _ hdot]
  rfl

/-- A host in brackets ends at the first bracket that closes. -/
theorem hostWithoutPort_bracket {cs : List Char} (h : cs.head? = some '[') :
    hostWithoutPort cs =
      match cutFirst ']' cs with
      | some (name, _) => name ++ [']']
      | none => cs := by
  obtain ⟨rest, rfl⟩ := List.head?_eq_some_iff.1 h
  rfl

/-- Each step leaves a part of what it gets, and those after the first leave its front. -/
theorem isPrefix_dropEndWhile (p : Char → Bool) (cs : List Char) : dropEndWhile p cs <+: cs := by
  obtain ⟨tail, htail, -⟩ := dropEndWhile_append p cs
  exact ⟨tail, htail.symm⟩

theorem isPrefix_hostWithoutPort (cs : List Char) : hostWithoutPort cs <+: cs := by
  by_cases hhead : cs.head? = some '['
  · rw [hostWithoutPort_bracket hhead]
    split
    · next name rest hcut =>
      obtain ⟨hparts, -⟩ := cutFirst_eq_some_iff.1 hcut
      exact ⟨rest, by rw [hparts, List.append_assoc, List.singleton_append]⟩
    · exact List.prefix_refl cs
  · rw [hostWithoutPort_plain hhead]
    split
    · next name port hcut =>
      obtain ⟨hparts, -⟩ := cutLast_eq_some_iff.1 hcut
      split
      · exact ⟨':' :: port, hparts.symm⟩
      · exact List.prefix_refl cs
    · exact List.prefix_refl cs

theorem isPrefix_stem (host : List Char) : stem host <+: trimList host :=
  (isPrefix_dropEndWhile _ _).trans (isPrefix_hostWithoutPort _)

theorem sublist_trimList (cs : List Char) : (trimList cs).Sublist cs :=
  (isPrefix_dropEndWhile isBlank (dropBlanks cs)).sublist.trans (List.dropWhile_sublist isBlank)

/-- A pass changes nothing exactly if none of its steps does. -/
theorem stem_eq_self_iff (host : List Char) :
    stem host = host ↔ trimList host = host ∧ hostWithoutPort host = host ∧
      dropEndWhile (· == '.') host = host := by
  constructor
  · intro h
    -- No step adds anything, so none of them may take anything away.
    have htrim : trimList host = host := by
      apply (sublist_trimList host).eq_of_length_le
      have hlength := (isPrefix_stem host).length_le
      rwa [h] at hlength
    have hport : hostWithoutPort host = host := by
      apply (isPrefix_hostWithoutPort host).eq_of_length_le
      have hlength := (isPrefix_dropEndWhile (· == '.') (hostWithoutPort (trimList host))).length_le
      rwa [← stem, h, htrim] at hlength
    rw [stem, htrim, hport] at h
    exact ⟨htrim, hport, h⟩
  · rintro ⟨htrim, hport, hdots⟩
    rw [stem, htrim, hport, hdots]

/-! ## What one pass settles -/

theorem dropEndWhile_stem (host : List Char) :
    dropEndWhile (· == '.') (stem host) = stem host :=
  dropEndWhile_dropEndWhile _ _

/-- The front of a host is trimmed once and for all. -/
theorem isBlank_head_stem {host : List Char} {c : Char} (h : (stem host).head? = some c) :
    isBlank c = false := by
  obtain ⟨rest, hrest⟩ := isPrefix_stem host
  have htrimmed : (trimList host).head? = some c := by
    rw [← hrest, List.head?_append, h, Option.some_or]
  exact ((trimList_eq_self_iff _).1 (trimList_trimList host)).1 c htrimmed

/-- A host outside brackets keeps all of itself exactly if it does not end in a port. -/
theorem hostWithoutPort_eq_self_iff {cs : List Char} (h : cs.head? ≠ some '[') :
    hostWithoutPort cs = cs ↔ ¬ EndsInPort cs := by
  rw [hostWithoutPort_plain h]
  constructor
  · rintro hsame ⟨name, port, rfl, hname, hdigits⟩
    have hport : ':' ∉ port := not_mem_of_isDigits hdigits rfl
    have hcut : cutLast ':' (name ++ ':' :: port) = some (name, port) :=
      cutLast_eq_some_iff.2 ⟨rfl, hport⟩
    simp [hcut, hname, hdigits] at hsame
  · intro hends
    split
    · next name port hcut =>
      obtain ⟨hparts, -⟩ := cutLast_eq_some_iff.1 hcut
      rw [if_neg]
      intro hport
      rw [Bool.and_eq_true, Bool.not_eq_true', ← Bool.not_eq_true, List.contains_iff_mem] at hport
      exact hends ⟨name, port, hparts, hport⟩
    · rfl

/-- A host in brackets is cut once and for all. -/
theorem hostWithoutPort_stem_of_bracket {host : List Char} (h : (stem host).head? = some '[') :
    hostWithoutPort (stem host) = stem host := by
  obtain ⟨rest, hrest⟩ := isPrefix_stem host
  have hbracket : (trimList host).head? = some '[' := by
    rw [← hrest, List.head?_append, h, Option.some_or]
  rw [hostWithoutPort_bracket h]
  cases hcut : cutFirst ']' (trimList host) with
  | none =>
    -- Without a bracket that closes there is none in the front either.
    have hopen : ']' ∉ stem host := by
      intro hmem
      exact cutFirst_eq_none_iff.1 hcut ((isPrefix_stem host).subset hmem)
    rw [cutFirst_eq_none_iff.2 hopen]
  | some parts =>
    obtain ⟨name, rest⟩ := parts
    obtain ⟨-, hname⟩ := cutFirst_eq_some_iff.1 hcut
    have hstem : stem host = name ++ [']'] := by
      rw [stem, hostWithoutPort_bracket hbracket, hcut, dropEndWhile_eq_self_iff]
      intro c hc
      rw [List.getLast?_concat] at hc
      cases hc
      rfl
    rw [hstem, cutFirst_eq_some_iff.2 ⟨rfl, hname⟩]

theorem hostWithoutPort_stem_iff (host : List Char) :
    hostWithoutPort (stem host) = stem host ↔
      (stem host).head? = some '[' ∨ ¬ EndsInPort (stem host) := by
  by_cases hhead : (stem host).head? = some '['
  · exact iff_of_true (hostWithoutPort_stem_of_bracket hhead) (.inl hhead)
  · rw [hostWithoutPort_eq_self_iff hhead, or_iff_right hhead]

/-- What one pass leaves is left by a second one exactly if no blank and no port has come to
light. -/
theorem stem_stem_iff (host : List Char) :
    stem (stem host) = stem host ↔
      (∀ c, (stem host).getLast? = some c → isBlank c = false) ∧
        ((stem host).head? = some '[' ∨ ¬ EndsInPort (stem host)) := by
  rw [stem_eq_self_iff, trimList_eq_self_iff, hostWithoutPort_stem_iff]
  constructor
  · rintro ⟨⟨-, hlast⟩, hport, -⟩
    exact ⟨hlast, hport⟩
  · rintro ⟨hlast, hport⟩
    exact ⟨⟨fun c => isBlank_head_stem, hlast⟩, hport, dropEndWhile_stem host⟩

/-- The normal form is what one pass leaves of the host in lower case. -/
theorem toList_normalHost (host : String) :
    (normalHost host).toList = stem (host.toList.map Char.toLower) := by
  rw [normalHost, String.toList_ofList, normalHostList_eq, stem_map_toLower]

/-- The normal form of a host is its own normal form exactly if it is settled. -/
theorem normalHost_normalHost_iff (host : String) :
    normalHost (normalHost host) = normalHost host ↔ IsSettled (normalHost host) := by
  have hcomp : Char.toLower ∘ Char.toLower = Char.toLower := funext toLower_toLower
  have htwice : (normalHost (normalHost host)).toList = stem (normalHost host).toList := by
    rw [toList_normalHost, toList_normalHost, ← stem_map_toLower, List.map_map, hcomp]
  rw [← String.toList_inj, htwice, toList_normalHost, stem_stem_iff, ← toList_normalHost]
  constructor
  · rintro ⟨hlast, hport⟩
    exact ⟨hlast, hport⟩
  · intro h
    exact ⟨h.last, h.port⟩

/-- Dots hide the port before them, and a port hides the blank before it. -/
example : normalHost "a:80." = "a:80" ∧ normalHost "a :80" = "a " := by decide

end ReverseTunnel
