import ReverseTunnel.Proofs.Host.NormalForm

/-!
# The spellings of a name

A host is named in any ASCII case, with dots and a port after the name and blanks around it. All
these spellings of a name have one normal form: the name in lower case, without the dots at its
end (`Spelling.normalHost_text`).

Colons and brackets in a host are another matter. A name in brackets is taken with its brackets
and without all that follows (`normalHost_bracketed`). A host with two colons or more is an
address and keeps what stands after the last of them (`normalHost_of_colons`).
-/

namespace ReverseTunnel

open Text

/-- The text without the dots at its end. -/
def withoutDots (name : String) : String :=
  String.ofList (dropEndWhile (· == '.') name.toList)

/-- A name without a port, without brackets and without blanks around it. -/
structure IsName (name : String) : Prop where
  colon : ':' ∉ name.toList
  bracket : name.toList.head? ≠ some '['
  trimmed : trim name = name

/-- One way to write a name: some blanks, the name in any ASCII case, some dots, a port or none,
and blanks again. The digits of a port may be missing. -/
structure Spelling (name : String) where
  before : List Char
  letters : String
  dots : Nat
  port : Option (List Char)
  after : List Char
  blankBefore : before.all isBlank = true
  sameLetters : lower letters = lower name
  digits : ∀ digits ∈ port, isDigits digits = true
  blankAfter : after.all isBlank = true

/-- A port as it follows a name. -/
def portText : Option (List Char) → List Char
  | some digits => ':' :: digits
  | none => []

/-- The name as it is spelled. -/
def Spelling.text {name : String} (s : Spelling name) : String :=
  String.ofList (s.before ++ (s.letters.toList ++ List.replicate s.dots '.' ++ portText s.port) ++
    s.after)

/-- The spelling that adds nothing. -/
def Spelling.plain (name : String) : Spelling name where
  before := []
  letters := name
  dots := 0
  port := none
  after := []
  blankBefore := rfl
  sameLetters := rfl
  digits := nofun
  blankAfter := rfl

theorem Spelling.text_plain (name : String) : (plain name).text = name := by
  simp [text, plain, portText]

/-! ## Names in another case -/

theorem toList_withoutDots (name : String) :
    (withoutDots name).toList = dropEndWhile (· == '.') name.toList :=
  String.toList_ofList

theorem withoutDots_lower (name : String) : withoutDots (lower name) = lower (withoutDots name) := by
  have hdot : IgnoresCase fun c => c == '.' := ignoresCase_eq (by decide)
  rw [← String.toList_inj, toList_withoutDots, toList_lower, toList_lower, toList_withoutDots,
    dropEndWhile_map_toLower _ hdot]

/-- A change of case leaves a name a name. -/
theorem IsName.of_lower_eq {name letters : String} (h : IsName name)
    (hsame : lower letters = lower name) : IsName letters := by
  have hmap : letters.toList.map Char.toLower = name.toList.map Char.toLower := by
    rw [← toList_lower, hsame, toList_lower]
  constructor
  · have hcolon := h.colon
    rw [← List.contains_iff_mem, ← contains_map_toLower _ (by decide)] at hcolon ⊢
    rwa [hmap]
  · have hbracket := h.bracket
    rw [ne_eq, ← head?_map_toLower_eq_iff _ (by decide)] at hbracket ⊢
    rwa [hmap]
  · -- What is trimmed off a text does not depend on its case, so none of it is too short.
    have hname : trimList name.toList = name.toList := by rw [← toList_trim, h.trimmed]
    have hlower : (trimList letters.toList).map Char.toLower = letters.toList.map Char.toLower := by
      rw [← trimList_map_toLower, hmap, trimList_map_toLower, hname]
    have hlength : (trimList letters.toList).length = letters.toList.length := by
      rw [← List.length_map Char.toLower, hlower, List.length_map]
    rw [← String.toList_inj, toList_trim]
    exact (sublist_trimList _).eq_of_length hlength

/-! ## What is added to a name -/

/-- The port after a name is cut off with its colon. -/
theorem hostWithoutPort_append_portText {cs : List Char} {port : Option (List Char)}
    (hcolon : ':' ∉ cs) (hbracket : cs.head? ≠ some '[')
    (hdigits : ∀ digits ∈ port, isDigits digits = true) :
    hostWithoutPort (cs ++ portText port) = cs := by
  cases port with
  | none =>
    rw [portText, List.append_nil, hostWithoutPort_plain hbracket, cutLast_eq_none_iff.2 hcolon]
  | some digits =>
    have hport : isDigits digits = true := hdigits digits rfl
    have hhead : (cs ++ portText (some digits)).head? ≠ some '[' := by
      cases cs with
      | nil => simp [portText]
      | cons c rest => exact hbracket
    have hcut : cutLast ':' (cs ++ portText (some digits)) = some (cs, digits) :=
      cutLast_eq_some_iff.2 ⟨rfl, not_mem_of_isDigits hport rfl⟩
    rw [hostWithoutPort_plain hhead, hcut]
    simp [hcolon, hport]

/-- Neither dots nor a port hold a blank. -/
theorem isBlank_of_mem_added {dots : Nat} {port : Option (List Char)} {c : Char}
    (hdigits : ∀ digits ∈ port, isDigits digits = true)
    (hc : c ∈ List.replicate dots '.' ++ portText port) : isBlank c = false := by
  rcases List.mem_append.1 hc with hc | hc
  · rw [List.eq_of_mem_replicate hc]
    rfl
  · cases port with
    | none => cases hc
    | some digits =>
      rcases List.mem_cons.1 hc with rfl | hc
      · rfl
      · have hdigit := List.all_eq_true.1 (hdigits digits rfl) c hc
        rw [isDigit_iff] at hdigit
        simp only [isBlank, Bool.or_eq_false_iff, Bool.and_eq_false_iff, decide_eq_false_iff_not,
          beq_eq_false_iff_ne]
        omega

/-- Of a spelled name one pass leaves the name as it is written, without its dots. -/
theorem stem_spelled {letters : String} (h : IsName letters) {before after : List Char}
    {port : Option (List Char)} (dots : Nat) (hbefore : before.all isBlank = true)
    (hafter : after.all isBlank = true) (hdigits : ∀ digits ∈ port, isDigits digits = true) :
    stem (before ++ (letters.toList ++ List.replicate dots '.' ++ portText port) ++ after) =
      (withoutDots letters).toList := by
  have htrimmed : trimList letters.toList = letters.toList := by rw [← toList_trim, h.trimmed]
  have hdots : ':' ∉ letters.toList ++ List.replicate dots '.' := by
    intro hmem
    rcases List.mem_append.1 hmem with hmem | hmem
    · exact h.colon hmem
    · cases List.eq_of_mem_replicate hmem
  have hhead : (letters.toList ++ List.replicate dots '.').head? ≠ some '[' := by
    rw [List.head?_append, ne_eq, Option.or_eq_some_iff, not_or]
    refine ⟨h.bracket, fun hdot => ?_⟩
    cases List.eq_of_mem_replicate (List.mem_of_head? hdot.2)
  rw [stem, trimList_between _ hbefore hafter, List.append_assoc,
    trimList_append_eq_self htrimmed fun c => isBlank_of_mem_added hdigits, ← List.append_assoc,
    hostWithoutPort_append_portText hdots hhead hdigits, toList_withoutDots]
  apply dropEndWhile_append_of_all
  simp

/-- All spellings of a name have one normal form. -/
theorem Spelling.normalHost_text {name : String} (h : IsName name) (s : Spelling name) :
    normalHost s.text = lower (withoutDots name) := by
  have hstem := stem_spelled (h.of_lower_eq s.sameLetters) s.dots s.blankBefore s.blankAfter
    s.digits
  calc normalHost s.text
      = lower (withoutDots s.letters) := by
        rw [← String.toList_inj, toList_normalHost, stem_map_toLower, text, String.toList_ofList,
          hstem, toList_lower]
    _ = withoutDots (lower s.letters) := (withoutDots_lower _).symm
    _ = withoutDots (lower name) := by rw [s.sameLetters]
    _ = lower (withoutDots name) := withoutDots_lower _

theorem normalHost_of_isName {name : String} (h : IsName name) :
    normalHost name = lower (withoutDots name) := by
  have hplain := (Spelling.plain name).normalHost_text h
  rwa [Spelling.text_plain] at hplain

/-! ## Hosts that are no names -/

/-- What is dropped at the end of a list does not reach past a character that fails the test. -/
theorem dropEndWhile_append_of_last {p : Char → Bool} {cs : List Char} (tail : List Char)
    (h : ∀ c, cs.getLast? = some c → p c = false) :
    dropEndWhile p (cs ++ tail) = cs ++ dropEndWhile p tail := by
  have hstays : cs.reverse.dropWhile p = cs.reverse := by
    rw [← List.reverse_eq_iff, ← dropEndWhile, dropEndWhile_eq_self_iff]
    exact h
  rw [dropEndWhile, List.reverse_append, List.dropWhile_append, dropEndWhile]
  split
  · next hempty =>
    rw [hstays, List.isEmpty_iff.1 hempty, List.reverse_reverse, List.reverse_nil, List.append_nil]
  · rw [List.reverse_append, List.reverse_reverse]

/-- Only blanks are trimmed off. -/
theorem count_trimList {c : Char} (cs : List Char) (hc : isBlank c = false) :
    (trimList cs).count c = cs.count c := by
  have hblank : ∀ blanks : List Char, blanks.all isBlank = true → blanks.count c = 0 := by
    intro blanks hblanks
    rw [List.count_eq_zero]
    intro hmem
    rw [List.all_eq_true.1 hblanks c hmem] at hc
    cases hc
  obtain ⟨tail, htail, hall⟩ := dropEndWhile_append isBlank (dropBlanks cs)
  calc (trimList cs).count c
      = (trimList cs ++ tail).count c := by rw [List.count_append, hblank tail hall, Nat.add_zero]
    _ = (dropBlanks cs).count c := by rw [trimList, ← htail]
    _ = (cs.takeWhile isBlank ++ dropBlanks cs).count c := by
        rw [List.count_append, hblank _ List.all_takeWhile, Nat.zero_add]
    _ = cs.count c := by rw [dropBlanks, List.takeWhile_append_dropWhile]

/-- What follows the first bracket that closes does not count. -/
theorem normalHost_bracketed {name : String} (rest : String) (h : ']' ∉ name.toList) :
    normalHost ("[" ++ name ++ "]" ++ rest) = "[" ++ lower name ++ "]" := by
  have hopen : ∀ c, ('[' :: name.toList ++ [']']).getLast? = some c → c = ']' := by
    intro c hc
    rw [List.getLast?_concat, Option.some.injEq] at hc
    exact hc.symm
  have htrimmed : trimList ('[' :: name.toList ++ [']'] ++ rest.toList) =
      '[' :: name.toList ++ [']'] ++ dropEndWhile isBlank rest.toList := by
    rw [trimList, dropBlanks, dropWhile_eq_self_of_head, dropEndWhile_append_of_last]
    · intro c hc
      rw [hopen c hc]
      rfl
    · intro c hc
      cases hc
      rfl
  have hcut : cutFirst ']' ('[' :: name.toList ++ [']'] ++ dropEndWhile isBlank rest.toList) =
      some ('[' :: name.toList, dropEndWhile isBlank rest.toList) := by
    apply cutFirst_eq_some_iff.2
    refine ⟨by simp, ?_⟩
    rw [List.mem_cons, not_or]
    exact ⟨by decide, h⟩
  have hdots : dropEndWhile (· == '.') ('[' :: name.toList ++ [']']) =
      '[' :: name.toList ++ [']'] := by
    apply (dropEndWhile_eq_self_iff _ _).2
    intro c hc
    rw [hopen c hc]
    rfl
  have hlist : ("[" ++ name ++ "]" ++ rest).toList =
      '[' :: name.toList ++ [']'] ++ rest.toList := by
    simp
  rw [← String.toList_inj, normalHost, String.toList_ofList, normalHostList_eq, stem, hlist,
    htrimmed, hostWithoutPort_bracket (by rfl), hcut, hdots]
  simp

/-- A host with more than one colon keeps all that follows them. -/
theorem normalHost_of_colons {host : String} (hcolons : 2 ≤ host.toList.count ':')
    (hbracket : (trim host).toList.head? ≠ some '[') :
    normalHost host = lower (withoutDots (trim host)) := by
  rw [toList_trim] at hbracket
  have hkept : hostWithoutPort (trimList host.toList) = trimList host.toList := by
    apply (hostWithoutPort_eq_self_iff hbracket).2
    rintro ⟨name, port, hparts, hname, hdigits⟩
    -- The colon before the port is the only one, since no blank that was trimmed off is one.
    have hport : ':' ∉ port := not_mem_of_isDigits hdigits rfl
    rw [← count_trimList _ (by rfl), hparts, List.count_append, List.count_cons_self,
      List.count_eq_zero.2 hname, List.count_eq_zero.2 hport] at hcolons
    omega
  rw [← String.toList_inj, normalHost, String.toList_ofList, normalHostList_eq, stem, hkept,
    toList_lower, toList_withoutDots, toList_trim]

end ReverseTunnel
