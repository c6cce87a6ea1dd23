import ReverseTunnel.Http.Uri

/-!
# Targets of URIs

The target of a URI is the path and the query that stand in its text, up to a fragment
(`target?_eq_some_iff`). A text that is read has one of four forms, which say what stands around
them (`form_of_parse?`).

Below a base path stand the path and the query of a URI, after a slash if they do not start with
one (`rooted`). What starts with a slash is a URI by itself: it is read whenever it is not too long
(`parse?_of_root`), and a target that is written alone comes out so (`HasTarget.text_eq`), unless it
is an asterisk or empty.
-/

namespace ReverseTunnel.Http.Uri

/-! ## The path and the query of a text -/

/-- The characters of a path and of a query, which starts with a question mark if it is there. -/
structure IsTarget (path query : List Char) : Prop where
  pathChars : path.all isPathChar = true
  queryChars : query.all isQueryChar = true
  opened : ∀ c, query.head? = some c → c = '?'

theorem isTarget_of_path {path : List Char} (h : path.all isPathChar = true) : IsTarget path [] :=
  ⟨h, rfl, fun _ hc => nomatch hc⟩

/-- A fragment starts with a number sign if it is there. -/
def IsFragment (fragment : List Char) : Prop := ∀ c, fragment.head? = some c → c = '#'

theorem isFragment_nil : IsFragment [] := fun _ hc => nomatch hc

theorem takeWhile_append_of_head {p : Char → Bool} {front rest : List Char}
    (hfront : ∀ c ∈ front, p c = true) (hrest : ∀ c, rest.head? = some c → p c = false) :
    (front ++ rest).takeWhile p = front := by
  have hnil : rest.takeWhile p = [] := by
    cases rest with
    | nil => rfl
    | cons c rest => rw [List.takeWhile_cons_of_neg (by simp [hrest c rfl])]
  rw [List.takeWhile_append_of_pos hfront, hnil, List.append_nil]

theorem dropWhile_append_of_head {p : Char → Bool} {front rest : List Char}
    (hfront : ∀ c ∈ front, p c = true) (hrest : ∀ c, rest.head? = some c → p c = false) :
    (front ++ rest).dropWhile p = rest := by
  rw [List.dropWhile_append_of_pos hfront, Text.dropWhile_eq_self_of_head p rest hrest]

/-- No character of a path ends it. -/
theorem stays_of_isPathChar {c : Char} (h : isPathChar c = true) :
    (c != '?' && c != '#') = true := by
  rw [Bool.and_eq_true, bne_iff_ne, bne_iff_ne]
  constructor
  · rintro rfl
    exact absurd h (by decide)
  · rintro rfl
    exact absurd h (by decide)

/-- No character of a query ends it. -/
theorem stays_of_isQueryChar {c : Char} (h : isQueryChar c = true) : (c != '#') = true := by
  rw [bne_iff_ne]
  rintro rfl
  exact absurd h (by decide)

/-- A text is cut where its path and its query end. -/
theorem splitTarget_append {path query fragment : List Char} (h : IsTarget path query)
    (hfragment : IsFragment fragment) :
    splitTarget (path ++ (query ++ fragment)) = (path, query) := by
  have hpath : ∀ c ∈ path, (c != '?' && c != '#') = true := fun c hc =>
    stays_of_isPathChar (List.all_eq_true.1 h.pathChars c hc)
  have hends : ∀ c, (query ++ fragment).head? = some c → (c != '?' && c != '#') = false := by
    intro c hc
    rw [List.head?_append, Option.or_eq_some_iff] at hc
    rcases hc with hquery | ⟨-, hfirst⟩
    · rw [h.opened c hquery]
      rfl
    · rw [hfragment c hfirst]
      rfl
  unfold splitTarget
  simp only [takeWhile_append_of_head hpath hends, dropWhile_append_of_head hpath hends]
  congr 1
  cases query with
  | nil =>
    split
    · next hmark =>
      have hsign := hfragment '?' (by simpa using hmark)
      exact absurd hsign (by decide)
    · rfl
  | cons first rest =>
    obtain rfl : first = '?' := h.opened first rfl
    rw [if_pos (by rfl)]
    apply takeWhile_append_of_head
    · exact fun c hc => stays_of_isQueryChar (List.all_eq_true.1 h.queryChars c hc)
    · intro c hc
      rw [hfragment c hc]
      rfl

/-- The characters of a text are the path and the query that are cut off it, and a fragment. -/
theorem eq_append_splitTarget (cs : List Char) :
    ∃ fragment, cs = (splitTarget cs).1 ++ ((splitTarget cs).2 ++ fragment) ∧
      IsFragment fragment ∧ ∀ c, (splitTarget cs).2.head? = some c → c = '?' := by
  unfold splitTarget
  dsimp only
  generalize hrest : cs.dropWhile (fun c => c != '?' && c != '#') = rest
  have hcs : cs = cs.takeWhile (fun c => c != '?' && c != '#') ++ rest := by
    rw [← hrest, List.takeWhile_append_dropWhile]
  -- What follows the path starts with a question mark, or else it is the fragment.
  split
  · next hmark =>
    refine ⟨rest.dropWhile (· != '#'), ?_, ?_, ?_⟩
    · rw [List.takeWhile_append_dropWhile]
      exact hcs
    · intro c hc
      simpa using Text.head_dropWhile _ rest c hc
    · intro c hc
      cases rest with
      | nil => cases hc
      | cons first rest =>
        obtain rfl : first = '?' := by simpa using hmark
        rw [List.takeWhile_cons_of_pos (by decide)] at hc
        exact (Option.some.inj hc).symm
  · next hmark =>
    refine ⟨rest, hcs, ?_, fun c hc => nomatch hc⟩
    intro c hc
    have hstop := Text.head_dropWhile _ cs c (hrest ▸ hc)
    simp only [Bool.and_eq_false_iff, bne_eq_false_iff_eq] at hstop
    rcases hstop with rfl | hsign
    · rw [hc] at hmark
      exact absurd rfl hmark
    · exact hsign

/-- The targets of texts. -/
theorem target?_eq_some_iff {cs : List Char} {target : String} :
    target? cs = some target ↔ ∃ path query fragment,
      cs = path ++ (query ++ fragment) ∧ IsTarget path query ∧ IsFragment fragment ∧
        target = String.ofList (path ++ query) := by
  constructor
  · intro h
    unfold target? at h
    dsimp only at h
    split at h
    · next hchars =>
      cases h
      obtain ⟨hpath, hquery⟩ := Bool.and_eq_true_iff.1 hchars
      obtain ⟨fragment, hcs, hfragment, hopened⟩ := eq_append_splitTarget cs
      exact ⟨_, _, fragment, hcs, ⟨hpath, hquery, hopened⟩, hfragment, rfl⟩
    · cases h
  · rintro ⟨path, query, fragment, rfl, h, hfragment, rfl⟩
    unfold target?
    rw [splitTarget_append h hfragment]
    dsimp only
    rw [if_pos (Bool.and_eq_true_iff.2 ⟨h.pathChars, h.queryChars⟩)]

/-! ## The forms of a text -/

/-- The forms of a text, and the URI of each. A scheme may be written in letters of another
size. -/
inductive Form : List Char → Uri → Prop
  | asterisk : Form ['*'] ⟨none, none, "*"⟩
  | origin {path query fragment : List Char} (hroot : path.head? = some '/')
      (h : IsTarget path query) (hfragment : IsFragment fragment) :
      Form (path ++ (query ++ fragment)) ⟨none, none, String.ofList (path ++ query)⟩
  | authority {name : List Char} (hname : name ≠ []) :
      Form name ⟨none, some (String.ofList name), ""⟩
  | absolute {scheme : String} {opening name path query fragment : List Char}
      (hopening : opening.map Char.toLower = (scheme ++ "://").toList.map Char.toLower)
      (hname : name ≠ []) (hroot : path = [] ∨ path.head? = some '/')
      (h : IsTarget path query) (hfragment : IsFragment fragment) :
      Form (opening ++ (name ++ (path ++ (query ++ fragment))))
        ⟨some scheme, some (String.ofList name), String.ofList (path ++ query)⟩

/-- What starts a text with a path and a query, and no fragment, starts the path, unless there is
none. -/
theorem head_path {path query fragment : List Char} (h : IsTarget path query)
    (hfragment : IsFragment fragment) {c : Char}
    (hc : (path ++ (query ++ fragment)).head? = some c) :
    path.head? = some c ∨ path = [] ∧ (c = '?' ∨ c = '#') := by
  cases path with
  | cons first path => exact Or.inl hc
  | nil =>
    refine Or.inr ⟨rfl, ?_⟩
    rw [List.nil_append, List.head?_append, Option.or_eq_some_iff] at hc
    rcases hc with hquery | ⟨-, hfirst⟩
    · exact Or.inl (h.opened c hquery)
    · exact Or.inr (hfragment c hfirst)

/-- A scheme is followed by a colon and two slashes. -/
theorem opening_of_splitScheme {cs rest : List Char} {scheme : String}
    (h : splitScheme cs = .ok (some (scheme, rest))) :
    ∃ opening, cs = opening ++ rest ∧
      opening.map Char.toLower = (scheme ++ "://").toList.map Char.toLower := by
  unfold splitScheme at h
  split at h
  · next hhttp =>
    cases h
    exact ⟨cs.take 7, (List.take_append_drop 7 cs).symm, hhttp.trans (by decide)⟩
  split at h
  · next hhttps =>
    cases h
    exact ⟨cs.take 8, (List.take_append_drop 8 cs).symm, hhttps.trans (by decide)⟩
  dsimp only at h
  split at h
  · next rest' hrest =>
    split at h
    · cases h
    split at h
    · cases h
    · cases h
      refine ⟨cs.takeWhile isSchemeChar ++ "://".toList, ?_, ?_⟩
      · rw [List.append_assoc]
        exact ((List.takeWhile_append_dropWhile).symm.trans (congrArg _ hrest))
      · rw [String.toList_append, String.toList_ofList (l := cs.takeWhile isSchemeChar)]
  · cases h

/-- The path after an authority is empty or starts with a slash. -/
theorem root_of_dropWhile {cs path query fragment : List Char} (h : IsTarget path query)
    (hfragment : IsFragment fragment)
    (heq : cs.dropWhile (fun c => !endsAuthority c) = path ++ (query ++ fragment)) :
    path = [] ∨ path.head? = some '/' := by
  cases hhead : (path ++ (query ++ fragment)).head? with
  | none => exact Or.inl (List.append_eq_nil_iff.1 (List.head?_eq_none_iff.1 hhead)).1
  | some c =>
    rcases head_path h hfragment hhead with hfirst | ⟨hnil, -⟩
    · -- Of the characters that end an authority only the slash stands in paths.
      have hends : (!endsAuthority c) = false := Text.head_dropWhile _ cs c (heq ▸ hhead)
      have hpath := stays_of_isPathChar
        (List.all_eq_true.1 h.pathChars c (List.mem_of_mem_head? hfirst))
      rw [Bool.and_eq_true, bne_iff_ne, bne_iff_ne] at hpath
      have hslash : c = '/' := by simpa [endsAuthority, hpath.1, hpath.2] using hends
      exact Or.inr (hslash ▸ hfirst)
    · exact Or.inl hnil

theorem form_of_absolute? {opening rest : List Char} {scheme : String} {u : Uri}
    (hopening : opening.map Char.toLower = (scheme ++ "://").toList.map Char.toLower)
    (h : absolute? scheme rest = some u) : Form (opening ++ rest) u := by
  unfold absolute? at h
  simp only [Option.pure_def, Option.bind_eq_bind] at h
  split at h
  · cases h
  next hchecked =>
  obtain ⟨target, htarget, hu⟩ := Option.bind_eq_some_iff.1 h
  cases hu
  obtain ⟨path, query, fragment, hrest, his, hfragment, rfl⟩ := target?_eq_some_iff.1 htarget
  have hname : rest.takeWhile (fun c => !endsAuthority c) ≠ [] := by
    intro hnil
    rw [hnil] at hchecked
    exact hchecked rfl
  have hform := Form.absolute hopening hname (root_of_dropWhile his hfragment hrest) his hfragment
  rwa [← hrest, List.takeWhile_append_dropWhile] at hform

/-- A text that is read has one of the forms. -/
theorem form_of_parse? {s : String} {u : Uri} (h : parse? s = some u) : Form s.toList u := by
  unfold parse? at h
  split at h
  · cases h
  split at h
  · next hasterisk =>
    cases h
    rw [hasterisk]
    exact Form.asterisk
  split at h
  · next rest hslash =>
    obtain ⟨target, htarget, rfl⟩ := Option.map_eq_some_iff.1 h
    obtain ⟨path, query, fragment, hcs, his, hfragment, rfl⟩ := target?_eq_some_iff.1 htarget
    rw [hslash, hcs]
    rcases head_path his hfragment (hcs ▸ List.head?_cons) with hroot | ⟨-, hmark | hsign⟩
    · exact Form.origin hroot his hfragment
    · exact absurd hmark (by decide)
    · exact absurd hsign (by decide)
  split at h
  · cases h
  · unfold authority? at h
    split at h
    · next hwhole =>
      cases h
      have hform := Form.authority (fun hnil => hwhole.1 (String.toList_eq_nil_iff.1 hnil))
      rwa [String.ofList_toList] at hform
    · cases h
  · next scheme rest hscheme =>
    obtain ⟨opening, hcs, hopening⟩ := opening_of_splitScheme hscheme
    rw [hcs]
    exact form_of_absolute? hopening h

/-! ## The path and the query of a URI -/

/-- The path and the query that the target of a URI consists of. -/
structure HasTarget (u : Uri) (path query : List Char) : Prop where
  isTarget : IsTarget path query
  target_eq : u.target = String.ofList (path ++ query)

namespace HasTarget

variable {u : Uri} {path query : List Char} (h : HasTarget u path query)
include h

theorem splitTarget_eq : splitTarget u.target.toList = (path, query) := by
  have hcut := splitTarget_append h.isTarget isFragment_nil
  rw [List.append_nil] at hcut
  rw [h.target_eq, String.toList_ofList, hcut]

theorem target_eq_empty_iff : u.target = "" ↔ path = [] ∧ query = [] := by
  rw [h.target_eq, String.ofList_eq_empty_iff, List.append_eq_nil_iff]

theorem target_ne_empty (hroot : path.head? = some '/') : u.target ≠ "" := by
  intro hempty
  rw [(h.target_eq_empty_iff.1 hempty).1] at hroot
  cases hroot

theorem queryPart_eq : u.queryPart = String.ofList query := by
  rw [queryPart, h.splitTarget_eq]

theorem path_of_ne_nil (hne : path ≠ []) : u.path = String.ofList path := by
  have htarget : (u.target == "") = false :=
    beq_eq_false_iff_ne.2 fun hempty => hne (h.target_eq_empty_iff.1 hempty).1
  rw [Uri.path, htarget, Bool.and_false, if_neg Bool.false_ne_true, h.splitTarget_eq]
  exact if_neg fun hempty => hne (List.isEmpty_iff.1 hempty)

/-- An empty path is written as a slash, or not at all. -/
theorem path_of_nil (hnil : path = []) :
    u.path = if u.scheme.isNone && u.target == "" then "" else "/" := by
  rw [Uri.path, h.splitTarget_eq, hnil]
  rfl

end HasTarget

/-- The path with a slash before it if it does not start with one. -/
def fromRoot (path : List Char) : List Char := if path.head? = some '/' then path else '/' :: path

theorem head_fromRoot (path : List Char) : (fromRoot path).head? = some '/' := by
  unfold fromRoot
  split
  · next hroot => exact hroot
  · rfl

theorem fromRoot_of_root {path : List Char} (hroot : path.head? = some '/') :
    fromRoot path = path := if_pos hroot

/-- A query does not start with a slash, so the slash is put before the path. -/
theorem fromRoot_append (path : List Char) {query : List Char}
    (hopened : ∀ c, query.head? = some c → c = '?') :
    fromRoot (path ++ query) = fromRoot path ++ query := by
  cases path with
  | cons first path =>
    unfold fromRoot
    rw [List.cons_append, List.head?_cons, List.head?_cons]
    split <;> rfl
  | nil =>
    apply if_neg
    intro hslash
    exact absurd (hopened '/' hslash) (by decide)

theorem slash_append (s : String) :
    (if Text.startsWith '/' s then s else "/" ++ s) = String.ofList (fromRoot s.toList) := by
  unfold Text.startsWith fromRoot
  by_cases hslash : s.toList.head? = some '/'
  · rw [if_pos hslash, if_pos (beq_iff_eq.2 hslash), String.ofList_toList]
  · rw [if_neg hslash, if_neg (mt beq_iff_eq.1 hslash), String.ofList_cons, String.ofList_toList]
    rfl

theorem IsTarget.fromRoot {path query : List Char} (h : IsTarget path query) :
    IsTarget (fromRoot path) query := by
  refine ⟨?_, h.queryChars, h.opened⟩
  unfold Uri.fromRoot
  split
  · exact h.pathChars
  · exact List.all_cons.trans (Bool.and_eq_true_iff.2 ⟨by decide, h.pathChars⟩)

/-- The part of a URI below a base path: its path, which is `/` for an empty one, and its query,
after a slash if they do not start with one. -/
def rooted (u : Uri) : String :=
  let part := (if u.path = "" then "/" else u.path) ++ u.queryPart
  if Text.startsWith '/' part then part else "/" ++ part

theorem HasTarget.rooted_eq {u : Uri} {path query : List Char} (h : HasTarget u path query) :
    u.rooted = String.ofList (fromRoot path ++ query) := by
  rw [rooted, slash_append, h.queryPart_eq, String.toList_append, String.toList_ofList,
    fromRoot_append _ h.isTarget.opened]
  congr 2
  cases path with
  | nil =>
    rw [h.path_of_nil rfl]
    split <;> rfl
  | cons first path =>
    have hne := List.cons_ne_nil first path
    rw [h.path_of_ne_nil hne, if_neg (mt String.ofList_eq_empty_iff.1 hne), String.toList_ofList]

/-! ## URIs that are only a target -/

/-- A path from the root and a query are read as they are. -/
theorem parse?_of_root {path query : List Char} (h : IsTarget path query)
    (hroot : path.head? = some '/') :
    parse? (String.ofList (path ++ query)) =
      if (String.ofList (path ++ query)).utf8ByteSize ≤ maxLength then
        some ⟨none, none, String.ofList (path ++ query)⟩
      else none := by
  -- The text is not an asterisk, and its slash is the one that the reader looks for.
  obtain ⟨rest, rfl⟩ := List.head?_eq_some_iff.1 hroot
  have hasterisk : String.ofList ('/' :: rest ++ query) ≠ "*" := by
    intro heq
    have hlist := congrArg String.toList heq
    rw [String.toList_ofList] at hlist
    exact absurd (List.cons.inj hlist).1 (by decide)
  have htarget : target? ('/' :: (rest ++ query)) =
      some (String.ofList ('/' :: rest ++ query)) :=
    target?_eq_some_iff.2 ⟨_, _, [], by simp, h, isFragment_nil, rfl⟩
  unfold parse?
  by_cases hsize : (String.ofList ('/' :: rest ++ query)).utf8ByteSize ≤ maxLength
  · rw [if_neg (Nat.not_lt.2 hsize), if_neg hasterisk, if_pos hsize, String.toList_ofList]
    change (target? ('/' :: (rest ++ query))).map _ = _
    rw [htarget]
    rfl
  · rw [if_pos (Nat.lt_of_not_le hsize), if_neg hsize]

section Alone

variable {target : String} {path query : List Char}
  (h : HasTarget ⟨none, none, target⟩ path query) (hne : target ≠ "")
  (hroot : path = [] ∨ path.head? = some '/')
include h hne hroot

/-- A target is written as it is, but after a slash if it has no path. -/
theorem HasTarget.text_eq :
    text ⟨none, none, target⟩ = String.ofList (fromRoot path ++ query) := by
  have hpath : Uri.path ⟨none, none, target⟩ = String.ofList (fromRoot path) := by
    rcases hroot with rfl | hroot
    · rw [h.path_of_nil rfl]
      exact if_neg fun hempty => hne (eq_of_beq hempty)
    · rw [fromRoot_of_root hroot, h.path_of_ne_nil]
      rintro rfl
      cases hroot
  rw [text, hpath, h.queryPart_eq, String.ofList_append]
  rfl

theorem HasTarget.parse?_text
    (hsize : (String.ofList (fromRoot path ++ query)).utf8ByteSize ≤ maxLength) :
    parse? (text ⟨none, none, target⟩) =
      some ⟨none, none, String.ofList (fromRoot path ++ query)⟩ := by
  rw [h.text_eq hne hroot, parse?_of_root h.isTarget.fromRoot (head_fromRoot path), if_pos hsize]

end Alone

theorem le_maxLength_of_parse? {s : String} {u : Uri} (h : parse? s = some u) :
    s.utf8ByteSize ≤ maxLength := by
  unfold parse? at h
  split at h
  · cases h
  · next hsize => exact Nat.not_lt.1 hsize

/-- A target is no longer than the text that it stands in, even after a slash, if something else
stands before it there. -/
theorem size_fromRoot_le {opening path : List Char} (query fragment : List Char)
    (h : path.head? = some '/' ∨ opening ≠ []) :
    (String.ofList (fromRoot path ++ query)).utf8ByteSize ≤
      (String.ofList (opening ++ (path ++ (query ++ fragment)))).utf8ByteSize := by
  have hroot : (String.ofList (fromRoot path)).utf8ByteSize ≤
      (String.ofList opening).utf8ByteSize + (String.ofList path).utf8ByteSize := by
    by_cases hslash : path.head? = some '/'
    · rw [fromRoot_of_root hslash]
      exact Nat.le_add_left _ _
    · have hopening := h.resolve_left hslash
      rw [fromRoot, if_neg hslash, String.ofList_cons, String.utf8ByteSize_append]
      apply Nat.add_le_add_right
      -- The slash is one byte.
      change 1 ≤ _
      apply Nat.pos_of_ne_zero
      rw [Ne, String.utf8ByteSize_eq_zero_iff, String.ofList_eq_empty_iff]
      exact hopening
  simp only [String.ofList_append, String.utf8ByteSize_append]
  omega

end ReverseTunnel.Http.Uri
