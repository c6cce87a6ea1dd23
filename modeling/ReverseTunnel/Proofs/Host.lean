import ReverseTunnel.Host
import ReverseTunnel.Routes

/-!
# Two ways to read a host

A server knows a host by its normal form, a client by its key. The key keeps the
port and the dots at the end, so it tells more hosts apart: hosts with one key
have one normal form (`normalHost_eq_of_hostKey_eq`).

The port of a key, as a client splits it off, does not count for the server
either, unless the brackets around the name are broken
(`normalHost_of_splitPort`): what follows a `]` is no port for the server when
no `[` comes first, and a `[` that is never closed keeps the port in the name.
-/

namespace ReverseTunnel

namespace Text

/-! ## Tests that do not see ASCII case -/

/-- The test does not tell a capital from its small letter. -/
def IgnoresCase (p : Char → Bool) : Prop := ∀ c : Char, p c.toLower = p c

theorem toNat_toLower (c : Char) :
    c.toLower.toNat = if 65 ≤ c.toNat ∧ c.toNat ≤ 90 then c.toNat + 32 else c.toNat := by
  have hA : ('A'.val).toNat = 65 := rfl
  have hZ : ('Z'.val).toNat = 90 := rfl
  have ha : ('a'.val - 'A'.val).toNat = 32 := rfl
  delta Char.toLower
  split
  · next h =>
    have hrange : 65 ≤ c.toNat ∧ c.toNat ≤ 90 := by
      have h1 := h.1
      have h2 := h.2
      simp only [ge_iff_le, UInt32.le_iff_toNat_le, hA, hZ] at h1 h2
      exact ⟨h1, h2⟩
    rw [if_pos hrange]
    change (c.val + ('a'.val - 'A'.val)).toNat = c.val.toNat + 32
    have hsmall : c.val.toNat ≤ 90 := hrange.2
    rw [UInt32.toNat_add, ha]
    omega
  · next h =>
    rw [if_neg]
    rintro ⟨h1, h2⟩
    apply h
    simp only [ge_iff_le, UInt32.le_iff_toNat_le, hA, hZ]
    exact ⟨h1, h2⟩

/-- Neither a capital nor a small letter is blank. -/
theorem ignoresCase_isBlank : IgnoresCase isBlank := by
  intro c
  simp only [isBlank, toNat_toLower]
  split
  · rw [Bool.eq_iff_iff]
    simp only [Bool.or_eq_true, Bool.and_eq_true, beq_iff_eq, decide_eq_true_eq]
    omega
  · rfl

theorem isDigit_iff (c : Char) : c.isDigit = true ↔ 48 ≤ c.toNat ∧ c.toNat ≤ 57 := by
  have h0 : ('0'.val).toNat = 48 := rfl
  have h9 : ('9'.val).toNat = 57 := rfl
  simp only [Char.isDigit, ge_iff_le, Bool.and_eq_true, decide_eq_true_eq,
    UInt32.le_iff_toNat_le, h0, h9]
  rfl

theorem ignoresCase_isDigit : IgnoresCase Char.isDigit := by
  intro c
  rw [Bool.eq_iff_iff, isDigit_iff, isDigit_iff, toNat_toLower]
  split
  · omega
  · rfl

/-- The character is no ASCII letter. -/
def IsCaseless (x : Char) : Prop := x.toNat < 65 ∨ 90 < x.toNat ∧ x.toNat < 97

instance (x : Char) : Decidable (IsCaseless x) := inferInstanceAs (Decidable (_ ∨ _))

theorem ignoresCase_eq {x : Char} (h : IsCaseless x) : IgnoresCase fun c => c == x := by
  intro c
  rw [Bool.eq_iff_iff]
  simp only [beq_iff_eq, ← Char.toNat_inj, toNat_toLower]
  rcases h with h | h
  · split
    · omega
    · rfl
  · split
    · omega
    · rfl

theorem ignoresCase_ne {x : Char} (h : IsCaseless x) : IgnoresCase fun c => c != x :=
  fun c => congrArg (!·) (ignoresCase_eq h c)

section Lists

variable {p : Char → Bool} {sep : Char} (cs : List Char)

theorem dropWhile_map_toLower (hp : IgnoresCase p) :
    (cs.map Char.toLower).dropWhile p = (cs.dropWhile p).map Char.toLower := by
  have hcomp : p ∘ Char.toLower = p := funext hp
  rw [List.dropWhile_map, hcomp]

theorem takeWhile_map_toLower (hp : IgnoresCase p) :
    (cs.map Char.toLower).takeWhile p = (cs.takeWhile p).map Char.toLower := by
  have hcomp : p ∘ Char.toLower = p := funext hp
  rw [List.takeWhile_map, hcomp]

theorem isDigits_map_toLower : isDigits (cs.map Char.toLower) = isDigits cs := by
  have hcomp : Char.isDigit ∘ Char.toLower = Char.isDigit := funext ignoresCase_isDigit
  rw [isDigits, isDigits, List.all_map, hcomp]

theorem dropEndWhile_map_toLower (hp : IgnoresCase p) :
    dropEndWhile p (cs.map Char.toLower) = (dropEndWhile p cs).map Char.toLower := by
  simp only [dropEndWhile, ← List.map_reverse, dropWhile_map_toLower _ hp]

theorem trimList_map_toLower : trimList (cs.map Char.toLower) = (trimList cs).map Char.toLower := by
  simp only [trimList, dropBlanks, dropWhile_map_toLower _ ignoresCase_isBlank,
    dropEndWhile_map_toLower _ ignoresCase_isBlank]

theorem contains_map_toLower (h : IsCaseless sep) :
    (cs.map Char.toLower).contains sep = cs.contains sep := by
  have hcomp : (fun c => sep == c) ∘ Char.toLower = fun c => sep == c := by
    funext c
    rw [Function.comp, BEq.comm]
    exact (ignoresCase_eq h c).trans BEq.comm
  rw [List.contains_eq_any_beq, List.contains_eq_any_beq, List.any_map, hcomp]

theorem head?_map_toLower_eq_iff (h : IsCaseless sep) :
    (cs.map Char.toLower).head? = some sep ↔ cs.head? = some sep := by
  have hsame : ∀ c : Char, c.toLower = sep ↔ c = sep := by
    intro c
    have hbeq : (c.toLower == sep) = (c == sep) := ignoresCase_eq h c
    rw [← beq_iff_eq, hbeq, beq_iff_eq]
  rw [List.head?_map, Option.map_eq_some_iff]
  constructor
  · rintro ⟨c, hc, hlower⟩
    rw [hc, (hsame c).1 hlower]
  · intro hc
    exact ⟨sep, hc, (hsame sep).2 rfl⟩

theorem cutFirst_map_toLower (h : IsCaseless sep) :
    cutFirst sep (cs.map Char.toLower) =
      (cutFirst sep cs).map fun parts =>
        (parts.1.map Char.toLower, parts.2.map Char.toLower) := by
  simp only [cutFirst, dropWhile_map_toLower _ (ignoresCase_ne h),
    takeWhile_map_toLower _ (ignoresCase_ne h)]
  cases cs.dropWhile fun c => c != sep <;> rfl

theorem cutLast_map_toLower (h : IsCaseless sep) :
    cutLast sep (cs.map Char.toLower) =
      (cutLast sep cs).map fun parts =>
        (parts.1.map Char.toLower, parts.2.map Char.toLower) := by
  simp only [cutLast, ← List.map_reverse, cutFirst_map_toLower _ h]
  cases cutFirst sep cs.reverse <;> simp

end Lists

end Text

open Text

/-! ## The key of a host tells its normal form -/

theorem toList_hostKey (host : String) :
    (hostKey host).toList = (trimList host.toList).map Char.toLower := by
  rw [hostKey, toList_lower, toList_trim]

theorem trimList_hostKey (host : String) :
    trimList (hostKey host).toList = (hostKey host).toList := by
  rw [toList_hostKey, trimList_map_toLower, trimList_trimList]

/-- A host that does not start with a bracket ends at the port after its one colon. -/
theorem hostWithoutPort_plain {cs : List Char} (h : cs.head? ≠ some '[') :
    hostWithoutPort cs =
      match cutLast ':' cs with
      | some (name, port) => if !name.contains ':' && isDigits port then name else cs
      | none => cs := by
  unfold hostWithoutPort
  split
  · exact absurd rfl h
  · rfl

theorem hostWithoutPort_map_toLower (cs : List Char) :
    hostWithoutPort (cs.map Char.toLower) = (hostWithoutPort cs).map Char.toLower := by
  have hbracket : IsCaseless '[' := by decide
  have hclose : IsCaseless ']' := by decide
  have hcolon : IsCaseless ':' := by decide
  by_cases hhead : cs.head? = some '['
  · obtain ⟨r, rfl⟩ := List.head?_eq_some_iff.1 hhead
    have hcut := cutFirst_map_toLower ('[' :: r) hclose
    have hlower : '['.toLower = '[' := by decide
    rw [List.map_cons, hlower] at hcut ⊢
    simp only [hostWithoutPort, hcut]
    cases cutFirst ']' ('[' :: r) with
    | none => simp
    | some parts => simp
  · have hhead' : (cs.map Char.toLower).head? ≠ some '[' := by
      rwa [ne_eq, head?_map_toLower_eq_iff cs hbracket]
    rw [hostWithoutPort_plain hhead, hostWithoutPort_plain hhead', cutLast_map_toLower _ hcolon]
    cases cutLast ':' cs with
    | none => rfl
    | some parts =>
      simp only [Option.map_some, contains_map_toLower _ hcolon, isDigits_map_toLower]
      rw [apply_ite (List.map Char.toLower)]

/-- The normal form of a host can be read off its key. -/
theorem normalHost_hostKey (host : String) : normalHost (hostKey host) = normalHost host := by
  have hdot : IgnoresCase fun c => c == '.' := ignoresCase_eq (by decide)
  have hcomp : Char.toLower ∘ Char.toLower = Char.toLower := funext toLower_toLower
  simp only [normalHost, normalHostList, trimList_hostKey]
  rw [toList_hostKey, hostWithoutPort_map_toLower, dropEndWhile_map_toLower _ hdot, List.map_map,
    hcomp]

/-- Hosts with one key have one normal form. -/
theorem normalHost_eq_of_hostKey_eq {a b : String} (h : hostKey a = hostKey b) :
    normalHost a = normalHost b := by
  rw [← normalHost_hostKey a, h, normalHost_hostKey]

/-! ## Ports that both cut off -/

/-- The brackets around a name are whole. -/
structure WholeBrackets (name : String) : Prop where
  /-- A bracket at its start is closed. -/
  closed : name.toList.head? = some '[' → ']' ∈ name.toList
  /-- A bracket at the end of a name with colons was opened at its start. -/
  opened : ':' ∈ name.toList → name.toList.getLast? = some ']' → name.toList.head? = some '['

/-- A port is at least one digit, and a name with colons before it ends in a bracket. -/
theorem splitPort_eq_some {key name port : String} (h : splitPort key = some (name, port)) :
    key.toList = name.toList ++ ':' :: port.toList ∧ port ≠ "" ∧ isDigits port.toList = true ∧
      (':' ∈ name.toList → name.toList.getLast? = some ']') := by
  simp only [splitPort] at h
  split at h
  · next name' port' hsplit =>
    split at h
    · cases h
    · next hport =>
      split at h
      · cases h
      · next hname =>
        cases h
        simp only [Bool.or_eq_true, decide_eq_true_eq, not_or, Bool.not_eq_true',
          Bool.not_eq_false] at hport
        refine ⟨(eq_of_splitLast hsplit).1, hport.1, hport.2, fun hcolon => ?_⟩
        simpa [hcolon] using hname
  · cases h

/-- A digit is no bracket and no colon. -/
theorem not_mem_of_isDigits {cs : List Char} {c : Char} (h : isDigits cs = true)
    (hc : c.isDigit = false) : c ∉ cs := by
  intro hmem
  rw [isDigits, List.all_eq_true] at h
  rw [h c hmem] at hc
  cases hc

/-- The server does not see a port that a client splits off a whole name. -/
theorem hostWithoutPort_of_splitPort {key name port : String}
    (h : splitPort key = some (name, port)) (hwhole : WholeBrackets name) :
    hostWithoutPort key.toList = hostWithoutPort name.toList := by
  obtain ⟨hkey, -, hdigits, hname⟩ := splitPort_eq_some h
  rw [hkey]
  by_cases hhead : name.toList.head? = some '['
  · -- Both end at the first closing bracket, which stands before the port.
    obtain ⟨rest, hrest⟩ := List.head?_eq_some_iff.1 hhead
    have hsome : cutFirst ']' name.toList ≠ none := fun hnone =>
      cutFirst_eq_none_iff.1 hnone (hwhole.closed hhead)
    obtain ⟨⟨before, after⟩, hcut⟩ := Option.ne_none_iff_exists'.1 hsome
    obtain ⟨hparts, hfirst⟩ := cutFirst_eq_some_iff.1 hcut
    have hcut' : cutFirst ']' (name.toList ++ ':' :: port.toList) =
        some (before, after ++ ':' :: port.toList) :=
      cutFirst_eq_some_iff.2 ⟨by rw [hparts, List.append_assoc, List.cons_append], hfirst⟩
    rw [hrest, List.cons_append] at hcut'
    rw [hrest] at hcut ⊢
    simp only [List.cons_append, hostWithoutPort, hcut, hcut']
  · have hcolon : ':' ∉ name.toList := fun hmem => hhead (hwhole.opened hmem (hname hmem))
    have hhead' : (name.toList ++ ':' :: port.toList).head? ≠ some '[' := by
      cases hcs : name.toList with
      | nil => simp
      | cons c cs => simpa [hcs] using hhead
    have hcut : cutLast ':' (name.toList ++ ':' :: port.toList) =
        some (name.toList, port.toList) :=
      cutLast_eq_some_iff.2 ⟨rfl, not_mem_of_isDigits hdigits rfl⟩
    have hnone : cutLast ':' name.toList = none := cutLast_eq_none_iff.2 hcolon
    rw [hostWithoutPort_plain hhead, hostWithoutPort_plain hhead', hcut, hnone]
    simp [hcolon, hdigits]

/-- Without its port, the key of a host names the same host. -/
theorem normalHost_of_splitPort {host other port : String}
    (h : splitPort (hostKey host) = some (hostKey other, port))
    (hwhole : WholeBrackets (hostKey other)) : normalHost other = normalHost host := by
  have hcut := hostWithoutPort_of_splitPort h hwhole
  have hkeys : normalHost (hostKey other) = normalHost (hostKey host) := by
    simp only [normalHost, normalHostList, trimList_hostKey, hcut]
  calc normalHost other = normalHost (hostKey other) := (normalHost_hostKey other).symm
    _ = normalHost (hostKey host) := hkeys
    _ = normalHost host := normalHost_hostKey host

end ReverseTunnel
