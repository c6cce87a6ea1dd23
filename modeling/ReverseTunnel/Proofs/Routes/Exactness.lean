import Mathlib.Data.Finset.Card
import ReverseTunnel.Proofs.Routes

/-!
# The tables that declarations make

Tables are built exactly if no declaration is invalid, and the fault is that of the first invalid
declaration in name order (`Routes.build_eq_error_iff`). The default takes no further check: the
local URL of the only HTTP tunnel was read before.

Tables that were built hold what the declarations say and nothing else. Of HTTP tunnels whose
hosts are the same up to case and blanks the last one counts (`Routes.lookup_of_declared`), so there
are as many hosts as there are different ones (`Routes.size_http`). A host that none of them
matches goes to the only HTTP tunnel, or nowhere (`Routes.lookup_of_unmatched`). All this together
is `Routes.build_exact`.
-/

namespace ReverseTunnel.Routes

open Http

variable {declarations : NameMap Declaration} {routes : Routes}

/-! ## Invalid declarations -/

/-- The declaration of this name cannot be served: the local URL of an HTTP tunnel is refused or
its host is blank, or another tunnel has a blank local address, or, for TLS, a blank host. -/
def IsInvalid (name : String) (d : Declaration) : Prop :=
  if d.protocol = .http then
    (∃ fault, localUrl name d.localAddress = .error fault) ∨ Text.isBlankText d.host = true
  else
    Text.isBlankText d.localAddress = true ∨
      d.protocol = .sni ∧ Text.isBlankText d.host = true

/-- What is wrong with an invalid declaration: the local side is looked at first. -/
inductive IsFaulty (name : String) (d : Declaration) : RouteFault → Prop
  | url {fault : RouteFault} (http : d.protocol = .http)
    (refused : localUrl name d.localAddress = .error fault) : IsFaulty name d fault
  | httpHost {url : Uri} (http : d.protocol = .http)
    (accepted : localUrl name d.localAddress = .ok url)
    (blank : Text.isBlankText d.host = true) : IsFaulty name d (.httpWithoutHost name)
  | address (other : d.protocol ≠ .http) (blank : Text.isBlankText d.localAddress = true) :
    IsFaulty name d (.withoutLocalAddress name)
  | sniHost (sni : d.protocol = .sni) (accepted : Text.isBlankText d.localAddress = false)
    (blank : Text.isBlankText d.host = true) : IsFaulty name d (.sniWithoutHost name)

/-- A declaration is added unless it is faulty, whatever the tables hold. -/
theorem add_eq_error_iff {r : Routes} {name : String} {d : Declaration} {fault : RouteFault} :
    r.add name d = .error fault ↔ IsFaulty name d fault := by
  constructor
  · intro h
    by_cases hhttp : d.protocol = .http
    · rw [add_of_http hhttp] at h
      cases hurl : localUrl name d.localAddress with
      | error refused =>
        rw [hurl] at h
        cases h
        exact .url hhttp hurl
      | ok url =>
        simp only [hurl] at h
        split at h
        · next hblank =>
          cases h
          exact .httpHost hhttp hurl hblank
        · cases h
    · rw [add_of_other hhttp] at h
      split at h
      · next hblank =>
        cases h
        exact .address hhttp hblank
      · next haddress =>
        split at h
        · next hsni =>
          cases h
          rw [Bool.and_eq_true, decide_eq_true_eq] at hsni
          exact .sniHost hsni.1 (Bool.not_eq_true _ ▸ haddress) hsni.2
        · cases h
  · intro h
    cases h with
    | url http refused => rw [add_of_http http, refused]
    | httpHost http accepted blank => simp [add_of_http http, accepted, blank]
    | address other blank => rw [add_of_other other, if_pos blank]
    | sniHost sni accepted blank =>
      have hother : d.protocol ≠ .http := by simp [sni]
      simp [add_of_other hother, accepted, sni, blank]

theorem isInvalid_iff {name : String} {d : Declaration} :
    IsInvalid name d ↔ ∃ fault, IsFaulty name d fault := by
  unfold IsInvalid
  constructor
  · intro h
    split at h
    · next hhttp =>
      cases hurl : localUrl name d.localAddress with
      | error fault => exact ⟨fault, .url hhttp hurl⟩
      | ok url =>
        rcases h with ⟨fault, hrefused⟩ | hblank
        · rw [hurl] at hrefused
          cases hrefused
        · exact ⟨_, .httpHost hhttp hurl hblank⟩
    · next hother =>
      cases haddress : Text.isBlankText d.localAddress with
      | true => exact ⟨_, .address hother haddress⟩
      | false =>
        rw [haddress] at h
        obtain ⟨hsni, hblank⟩ := h.resolve_left Bool.false_ne_true
        exact ⟨_, .sniHost hsni haddress hblank⟩
  · rintro ⟨fault, h⟩
    cases h with
    | url http refused =>
      rw [if_pos http]
      exact .inl ⟨fault, refused⟩
    | httpHost http accepted blank =>
      rw [if_pos http]
      exact .inr blank
    | address other blank =>
      rw [if_neg other]
      exact .inl blank
    | sniHost sni accepted blank =>
      rw [if_neg (by simp [sni])]
      exact .inr ⟨sni, blank⟩

theorem exists_add_iff {r : Routes} {name : String} {d : Declaration} :
    (∃ r', r.add name d = .ok r') ↔ ¬ IsInvalid name d := by
  rw [isInvalid_iff]
  cases hadd : r.add name d with
  | error fault =>
    have hfaulty := add_eq_error_iff.1 hadd
    exact iff_of_false (fun ⟨_, h⟩ => nomatch h) (fun h => h ⟨fault, hfaulty⟩)
  | ok r' =>
    refine iff_of_true ⟨r', rfl⟩ ?_
    rintro ⟨fault, hfaulty⟩
    rw [← add_eq_error_iff (r := r), hadd] at hfaulty
    cases hfaulty

/-- Additions stop at the first invalid declaration, with its fault. -/
theorem foldlM_add_eq_error_iff {es : List (String × Declaration)} {r : Routes}
    {fault : RouteFault} :
    es.foldlM (fun (r : Routes) e => r.add e.1 e.2) r = .error fault ↔
      ∃ before name d after, es = before ++ (name, d) :: after ∧
        (∀ e ∈ before, ¬ IsInvalid e.1 e.2) ∧ IsFaulty name d fault := by
  induction es generalizing r with
  | nil =>
    refine iff_of_false (fun h => nomatch h) ?_
    rintro ⟨before, name, d, after, heq, -⟩
    exact List.append_ne_nil_of_right_ne_nil before (List.cons_ne_nil _ after) heq.symm
  | cons e rest ih =>
    obtain ⟨n, d⟩ := e
    rw [List.foldlM_cons]
    cases hadd : r.add n d with
    | error refused =>
      have hfaulty := add_eq_error_iff.1 hadd
      constructor
      · intro h
        cases h
        exact ⟨[], n, d, rest, rfl, nofun, hfaulty⟩
      · rintro ⟨before, name, d', after, heq, hvalid, hfault⟩
        cases before with
        | nil =>
          cases heq
          rw [← add_eq_error_iff (r := r), hadd] at hfault
          exact hfault
        | cons first before =>
          cases heq
          exact absurd (isInvalid_iff.2 ⟨refused, hfaulty⟩) (hvalid (n, d) List.mem_cons_self)
    | ok next =>
      have hvalid : ¬ IsInvalid n d := exists_add_iff.1 ⟨next, hadd⟩
      refine Iff.trans ih ?_
      constructor
      · rintro ⟨before, name, d', after, rfl, hbefore, hfault⟩
        refine ⟨(n, d) :: before, name, d', after, rfl, ?_, hfault⟩
        intro e he
        rcases List.mem_cons.1 he with rfl | he
        · exact hvalid
        · exact hbefore e he
      · rintro ⟨before, name, d', after, heq, hbefore, hfault⟩
        cases before with
        | nil =>
          cases heq
          exact absurd (isInvalid_iff.2 ⟨fault, hfault⟩) hvalid
        | cons first before =>
          cases heq
          exact ⟨before, name, d', after, rfl,
            fun e he => hbefore e (List.mem_cons_of_mem _ he), hfault⟩

/-- The fault of the first invalid declaration in name order. -/
def IsFirstFault (declarations : NameMap Declaration) (fault : RouteFault) : Prop :=
  ∃ name d, declarations.get? name = some d ∧ IsFaulty name d fault ∧
    ∀ other d', declarations.get? other = some d' → other < name → ¬ IsInvalid other d'

theorem isFirstFault_iff {fault : RouteFault} :
    IsFirstFault declarations fault ↔
      ∃ before name d after, declarations.entries = before ++ (name, d) :: after ∧
        (∀ e ∈ before, ¬ IsInvalid e.1 e.2) ∧ IsFaulty name d fault := by
  constructor
  · rintro ⟨name, d, hget, hfault, hfirst⟩
    obtain ⟨before, after, heq⟩ := List.append_of_mem (NameMap.get?_eq_some_iff.1 hget)
    refine ⟨before, name, d, after, heq, ?_, hfault⟩
    intro e he
    obtain ⟨hmem, hlt⟩ := (NameMap.mem_before_iff heq).1 he
    exact hfirst e.1 e.2 (NameMap.get?_eq_some_iff.2 hmem) hlt
  · rintro ⟨before, name, d, after, heq, hbefore, hfault⟩
    have hmem : (name, d) ∈ declarations.entries := by
      rw [heq]
      exact List.mem_append_right _ List.mem_cons_self
    refine ⟨name, d, NameMap.get?_eq_some_iff.2 hmem, hfault, ?_⟩
    intro other d' hget hlt
    exact hbefore (other, d')
      ((NameMap.mem_before_iff heq).2 ⟨NameMap.get?_eq_some_iff.1 hget, hlt⟩)

theorem exists_foldlM_add_iff {es : List (String × Declaration)} {r : Routes} :
    (∃ r', es.foldlM (fun (r : Routes) e => r.add e.1 e.2) r = .ok r') ↔
      ∀ e ∈ es, ¬ IsInvalid e.1 e.2 := by
  induction es generalizing r with
  | nil => exact iff_of_true ⟨r, rfl⟩ nofun
  | cons e rest ih =>
    rw [List.foldlM_cons, List.forall_mem_cons]
    cases hadd : r.add e.1 e.2 with
    | error fault =>
      have hinvalid := isInvalid_iff.2 ⟨fault, add_eq_error_iff.1 hadd⟩
      exact iff_of_false (fun ⟨_, h⟩ => nomatch h) (fun h => h.1 hinvalid)
    | ok next => exact ih.trans (and_iff_right (exists_add_iff.1 ⟨next, hadd⟩)).symm

/-- Declarations that were all added have tables: the local URL of the only HTTP tunnel was
read before. -/
theorem exists_build_of_foldlM {filled : Routes}
    (hrun : declarations.entries.foldlM (fun (r : Routes) e => r.add e.1 e.2) empty = .ok filled) :
    ∃ routes, build declarations = .ok routes := by
  rw [build, hrun]
  simp only [bind, Except.bind]
  split
  · next only honly =>
    have hmem : only ∈ httpDeclarations declarations := by simp [honly]
    obtain ⟨hhttp, name, hget⟩ := mem_httpDeclarations_iff.1 hmem
    have hvalid := exists_foldlM_add_iff.1 ⟨filled, hrun⟩ _ (NameMap.get?_eq_some_iff.1 hget)
    rw [IsInvalid, if_pos hhttp, not_or, not_exists] at hvalid
    cases hurl : localUrl name only.localAddress with
    | error fault => exact absurd hurl (hvalid.1 fault)
    | ok url =>
      rw [localUrl_eq_ok hurl "default"]
      exact ⟨_, rfl⟩
  · exact ⟨filled, rfl⟩

theorem build_eq_error_iff {fault : RouteFault} :
    build declarations = .error fault ↔ IsFirstFault declarations fault := by
  rw [isFirstFault_iff, ← foldlM_add_eq_error_iff (r := empty)]
  cases hrun : declarations.entries.foldlM (fun (r : Routes) e => r.add e.1 e.2) empty with
  | error refused =>
    rw [build, hrun]
    exact Iff.rfl
  | ok filled =>
    obtain ⟨routes, hroutes⟩ := exists_build_of_foldlM hrun
    rw [hroutes]
    constructor
    · intro h
      cases h
    · intro h
      cases h

theorem exists_build_iff :
    (∃ routes, build declarations = .ok routes) ↔
      ∀ name d, declarations.get? name = some d → ¬ IsInvalid name d := by
  have hall : (∀ name d, declarations.get? name = some d → ¬ IsInvalid name d) ↔
      ∀ e ∈ declarations.entries, ¬ IsInvalid e.1 e.2 := by
    simp only [NameMap.get?_eq_some_iff, Prod.forall]
  rw [hall, ← exists_foldlM_add_iff (r := empty)]
  constructor
  · rintro ⟨routes, h⟩
    obtain ⟨filled, hrun, -⟩ := exists_foldlM_of_build h
    exact ⟨filled, hrun⟩
  · rintro ⟨filled, hrun⟩
    exact exists_build_of_foldlM hrun

/-! ## What tables hold -/

/-- The last declaration in name order of an HTTP tunnel whose host is this one up to case and
blanks around it. -/
structure IsLast (declarations : NameMap Declaration) (host name : String) (d : Declaration) :
    Prop where
  declared : declarations.get? name = some d
  http : d.protocol = .http
  sameHost : Text.lower (Text.trim d.host) = Text.lower (Text.trim host)
  last : ∀ other d', declarations.get? other = some d' → d'.protocol = .http →
    Text.lower (Text.trim d'.host) = Text.lower (Text.trim host) → ¬ name < other

/-- The only declaration of an HTTP tunnel. -/
structure IsOnly (declarations : NameMap Declaration) (name : String) (d : Declaration) :
    Prop where
  declared : declarations.get? name = some d
  http : d.protocol = .http
  only : ∀ other d', declarations.get? other = some d' → d'.protocol = .http → other = name

/-- No HTTP tunnel has a host that a lookup of this host comes to. -/
def IsUnmatched (declarations : NameMap Declaration) (host : String) : Prop :=
  ∀ key, .host key ∈ HttpRoutes.candidates host → ∀ name d, declarations.get? name = some d →
    d.protocol = .http → Text.lower (Text.trim d.host) ≠ key

theorem isLast_of_isLatest {host name : String} {d : Declaration}
    (h : IsLatest declarations.entries (hostKey host) name d) :
    IsLast declarations host name d := by
  obtain ⟨before, after, heq, hafter⟩ := h.placed
  refine ⟨NameMap.get?_eq_some_iff.2 h.mem, h.http, h.hasKey, ?_⟩
  intro other d' hget hhttp hsame hlt
  have hmem : (other, d') ∈ after :=
    (NameMap.mem_after_iff heq).2 ⟨NameMap.get?_eq_some_iff.1 hget, hlt⟩
  exact hafter _ hmem hhttp hsame

/-- A declared host in any case and with any blanks around it leads to the local URL of the last
declaration with that host. -/
theorem lookup_of_declared (h : build declarations = .ok routes) {name host : String}
    {d : Declaration} (hget : declarations.get? name = some d) (hhttp : d.protocol = .http)
    (hsame : hostKey host = hostKey d.host) :
    ∃ last d' url, IsLast declarations host last d' ∧ localUrl last d'.localAddress = .ok url ∧
      routes.http.lookup host = some url := by
  obtain ⟨hfilled, -, -⟩ := build_eq_ok h
  have hserved := hfilled.served name d (NameMap.get?_eq_some_iff.1 hget) hhttp
  obtain ⟨url, hurl⟩ := Option.isSome_iff_exists.1 hserved
  rw [← hsame] at hurl
  obtain ⟨last, d', hlatest, hlocal⟩ := hfilled.declared _ _ hurl
  refine ⟨last, d', url, isLast_of_isLatest hlatest, hlocal, ?_⟩
  rw [HttpRoutes.lookup, hurl]
  rfl

/-- There are as many hosts as HTTP tunnels have different ones. -/
theorem size_http (h : build declarations = .ok routes) :
    routes.http.size =
      ((httpDeclarations declarations).map fun d => hostKey d.host).toFinset.card := by
  obtain ⟨hfilled, -, -⟩ := build_eq_ok h
  have hnames : routes.http.byHost.names.toFinset =
      ((httpDeclarations declarations).map fun d => hostKey d.host).toFinset := by
    ext key
    rw [List.mem_toFinset, List.mem_toFinset, List.mem_map, NameMap.mem_names_iff]
    constructor
    · rintro ⟨url, hurl⟩
      obtain ⟨name, d, hlatest, -⟩ := hfilled.declared key url hurl
      have hget := NameMap.get?_eq_some_iff.2 hlatest.mem
      exact ⟨d, mem_httpDeclarations_iff.2 ⟨hlatest.http, name, hget⟩, hlatest.hasKey⟩
    · rintro ⟨d, hmem, rfl⟩
      obtain ⟨hhttp, name, hget⟩ := mem_httpDeclarations_iff.1 hmem
      exact Option.isSome_iff_exists.1
        (hfilled.served name d (NameMap.get?_eq_some_iff.1 hget) hhttp)
  rw [← hnames, List.toFinset_card_of_nodup routes.http.byHost.nodup_names, NameMap.names,
    List.length_map]
  rfl

theorem httpDeclarations_eq_singleton_iff {d : Declaration} :
    httpDeclarations declarations = [d] ↔ ∃ name, IsOnly declarations name d := by
  constructor
  · intro h
    have hmem : d ∈ httpDeclarations declarations := by simp [h]
    obtain ⟨hhttp, name, hget⟩ := mem_httpDeclarations_iff.1 hmem
    refine ⟨name, hget, hhttp, ?_⟩
    intro other d' hget' hhttp'
    exact (name_eq_of_httpDeclarations h hget' hhttp' hget hhttp).1
  · rintro ⟨name, honly⟩
    have hentries : declarations.entries.filter
        ((fun d : Declaration => d.protocol == .http) ∘ Prod.snd) = [(name, d)] := by
      rw [← List.perm_singleton]
      refine (List.perm_ext_iff_of_nodup (declarations.nodup_entries.filter _)
        (List.nodup_singleton _)).2 ?_
      rintro ⟨other, d'⟩
      rw [List.mem_filter, List.mem_singleton, ← NameMap.get?_eq_some_iff]
      constructor
      · rintro ⟨hget, hhttp⟩
        have hname := honly.only other d' hget (by simpa using hhttp)
        subst hname
        rw [honly.declared] at hget
        cases hget
        rfl
      · rintro ⟨rfl, rfl⟩
        exact ⟨honly.declared, by simp [honly.http]⟩
    rw [httpDeclarations, NameMap.values, List.filter_map, hentries]
    rfl

/-- A host that matches nothing goes to the default. -/
theorem lookup_of_unmatched (h : build declarations = .ok routes) {host : String}
    (hhost : IsUnmatched declarations host) : routes.http.lookup host = routes.http.default := by
  obtain ⟨hfilled, -, -⟩ := build_eq_ok h
  have hnone : ∀ key, .host key ∈ HttpRoutes.candidates host →
      routes.http.byHost.get? key = none := by
    intro key hkey
    cases hget : routes.http.byHost.get? key with
    | none => rfl
    | some url =>
      obtain ⟨name, d, hlatest, -⟩ := hfilled.declared key url hget
      exact absurd hlatest.hasKey
        (hhost key hkey name d (NameMap.get?_eq_some_iff.2 hlatest.mem) hlatest.http)
  rw [HttpRoutes.candidates] at hnone
  rw [HttpRoutes.lookup, HttpRoutes.lookupPort]
  cases hsplit : splitPort (hostKey host) with
  | none =>
    rw [hsplit] at hnone
    rw [hnone _ List.mem_cons_self]
    rfl
  | some parts =>
    obtain ⟨name, port⟩ := parts
    rw [hsplit] at hnone
    dsimp only
    rw [hnone (hostKey host) (by simp [HttpRoutes.candidatesOf]),
      hnone port (by simp [HttpRoutes.candidatesOf]),
      hnone name (by simp [HttpRoutes.candidatesOf])]
    rfl

/-- The default is the local URL of the only HTTP tunnel. -/
theorem default_eq_some_iff (h : build declarations = .ok routes) {url : Uri} :
    routes.http.default = some url ↔
      ∃ name d, IsOnly declarations name d ∧ localUrl name d.localAddress = .ok url := by
  obtain ⟨-, hdefault, hnone⟩ := build_eq_ok h
  constructor
  · intro hurl
    by_cases hone : ∃ only, httpDeclarations declarations = [only]
    · obtain ⟨only, hentries⟩ := hone
      obtain ⟨name, honly⟩ := httpDeclarations_eq_singleton_iff.1 hentries
      obtain ⟨url', hlocal, hurl'⟩ := hdefault only hentries
      rw [hurl] at hurl'
      cases hurl'
      exact ⟨name, only, honly, localUrl_eq_ok hlocal name⟩
    · rw [hnone (not_exists.1 hone)] at hurl
      cases hurl
  · rintro ⟨name, d, honly, hlocal⟩
    obtain ⟨url', hlocal', hurl⟩ := hdefault d (httpDeclarations_eq_singleton_iff.2 ⟨name, honly⟩)
    have hsame := localUrl_eq_ok hlocal "default"
    rw [hlocal'] at hsame
    cases hsame
    exact hurl

/-- What the tables of some declarations hold and what is looked up in them. -/
structure IsExact (declarations : NameMap Declaration) (routes : Routes) : Prop where
  /-- The local addresses are those of the tunnels that are not HTTP, without blanks around
  them. -/
  streams : ∀ name address, routes.streams.get? name = some address ↔
    ∃ d, declarations.get? name = some d ∧ d.protocol ≠ .http ∧
      Text.trim d.localAddress = address
  /-- There are as many hosts as HTTP tunnels have different ones. -/
  size : routes.http.size =
    ((httpDeclarations declarations).map fun d => Text.lower (Text.trim d.host)).toFinset.card
  /-- A declared host leads to the last tunnel that has it. -/
  declared : ∀ name d host, declarations.get? name = some d → d.protocol = .http →
    Text.lower (Text.trim host) = Text.lower (Text.trim d.host) →
    ∃ last d' url, IsLast declarations host last d' ∧ localUrl last d'.localAddress = .ok url ∧
      routes.http.lookup host = some url
  /-- Another host leads anywhere only if there is just one HTTP tunnel. -/
  unmatched : ∀ host, IsUnmatched declarations host →
    ((routes.http.lookup host).isSome = true ↔ ∃ name d, IsOnly declarations name d)
  /-- And then it leads to that tunnel. -/
  only : ∀ host name d, IsUnmatched declarations host → IsOnly declarations name d →
    ∃ url, localUrl name d.localAddress = .ok url ∧ routes.http.lookup host = some url

theorem isExact_of_build (h : build declarations = .ok routes) : IsExact declarations routes := by
  have honly : ∀ name d, IsOnly declarations name d →
      ∃ url, localUrl name d.localAddress = .ok url ∧ routes.http.default = some url := by
    intro name d honly
    obtain ⟨-, hdefault, -⟩ := build_eq_ok h
    obtain ⟨url, hlocal, hurl⟩ := hdefault d (httpDeclarations_eq_singleton_iff.2 ⟨name, honly⟩)
    exact ⟨url, localUrl_eq_ok hlocal name, hurl⟩
  constructor
  case streams =>
    intro name address
    rw [get?_streams_eq h, Option.bind_eq_some_iff]
    apply exists_congr
    intro d
    apply and_congr_right
    intro hget
    rw [streamAddress?]
    split
    · next hhttp => simp [hhttp]
    · next hother => simp [hother]
  case size => exact size_http h
  case declared =>
    intro name d host hget hhttp hsame
    exact lookup_of_declared h hget hhttp hsame
  case unmatched =>
    intro host hhost
    rw [lookup_of_unmatched h hhost]
    constructor
    · intro hsome
      obtain ⟨url, hurl⟩ := Option.isSome_iff_exists.1 hsome
      obtain ⟨name, d, honly, -⟩ := (default_eq_some_iff h).1 hurl
      exact ⟨name, d, honly⟩
    · rintro ⟨name, d, hone⟩
      obtain ⟨url, -, hurl⟩ := honly name d hone
      exact Option.isSome_iff_exists.2 ⟨url, hurl⟩
  case only =>
    intro host name d hhost hone
    rw [lookup_of_unmatched h hhost]
    exact honly name d hone

/--
The tables of declarations are not built exactly if some declaration is invalid; then the fault is
that of the first one in name order. Tables that are built hold what the declarations say.
-/
theorem build_exact (declarations : NameMap Declaration) :
    ((∃ fault, build declarations = .error fault) ↔
      ∃ name d, declarations.get? name = some d ∧ IsInvalid name d) ∧
    (∀ fault, build declarations = .error fault ↔ IsFirstFault declarations fault) ∧
    ∀ routes, build declarations = .ok routes → IsExact declarations routes := by
  refine ⟨?_, fun fault => build_eq_error_iff, fun routes => isExact_of_build⟩
  have hvalid : (∃ routes, build declarations = .ok routes) ↔
      ∀ name d, declarations.get? name = some d → ¬ IsInvalid name d := exists_build_iff
  cases hbuild : build declarations with
  | error fault =>
    rw [hbuild] at hvalid
    refine iff_of_true ⟨fault, rfl⟩ ?_
    by_contra hnone
    obtain ⟨routes, hroutes⟩ := hvalid.2 fun name d hget hinvalid =>
      hnone ⟨name, d, hget, hinvalid⟩
    cases hroutes
  | ok routes =>
    refine iff_of_false (fun ⟨_, h⟩ => nomatch h) ?_
    rintro ⟨name, d, hget, hinvalid⟩
    exact hvalid.1 ⟨routes, hbuild⟩ name d hget hinvalid

/-- Two HTTP tunnels for one host, and a TCP tunnel. -/
def twinDeclarations : NameMap Declaration :=
  .ofList [("a", .http "A.Example" "http://127.0.0.1:9001/a"),
    ("b", .http " a.EXAMPLE " "http://127.0.0.1:9001/b"),
    ("p", .tcp " 127.0.0.1:30303" "0.0.0.0:AUTO")]

theorem twin_cases {name : String} {d : Declaration} (h : twinDeclarations.get? name = some d) :
    name = "a" ∧ d = .http "A.Example" "http://127.0.0.1:9001/a" ∨
      name = "b" ∧ d = .http " a.EXAMPLE " "http://127.0.0.1:9001/b" ∨
      name = "p" ∧ d = .tcp " 127.0.0.1:30303" "0.0.0.0:AUTO" := by
  have hentries : twinDeclarations.entries =
      [("a", .http "A.Example" "http://127.0.0.1:9001/a"),
        ("b", .http " a.EXAMPLE " "http://127.0.0.1:9001/b"),
        ("p", .tcp " 127.0.0.1:30303" "0.0.0.0:AUTO")] := rfl
  rw [NameMap.get?_eq_some_iff, hentries] at h
  simpa using h

/-- Of two tunnels for one host the later one counts, and other hosts lead nowhere. -/
theorem build_exact_twin :
    ∃ routes, build twinDeclarations = .ok routes ∧ routes.http.size = 1 ∧
      routes.streams.get? "p" = some "127.0.0.1:30303" ∧
      (∃ url, localUrl "b" "http://127.0.0.1:9001/b" = .ok url ∧
        routes.http.lookup "\ta.example" = some url) ∧
      (routes.http.lookup "b.example:80").isSome = false := by
  obtain ⟨-, -, hexact⟩ := build_exact twinDeclarations
  have hbuilt : (build twinDeclarations).toOption.isSome = true := by decide +kernel
  cases hroutes : build twinDeclarations with
  | error fault => simp [hroutes, Except.toOption] at hbuilt
  | ok routes =>
    have h := hexact routes hroutes
    refine ⟨routes, rfl, ?_, ?_, ?_, ?_⟩
    · rw [h.size]
      decide
    · exact (h.streams _ _).2 ⟨_, rfl, by decide, by decide⟩
    · obtain ⟨last, d, url, hlast, hlocal, hlookup⟩ :=
        h.declared "a" _ "\ta.example" rfl rfl (by decide)
      rcases twin_cases hlast.declared with ⟨rfl, rfl⟩ | ⟨rfl, rfl⟩ | ⟨rfl, rfl⟩
      · exact absurd (by decide) (hlast.last "b" _ rfl rfl (by decide))
      · exact ⟨url, hlocal, hlookup⟩
      · cases hlast.http
    · rw [← Bool.not_eq_true, h.unmatched]
      · rintro ⟨name, d, honly⟩
        have ha := honly.only "a" _ rfl rfl
        have hb := honly.only "b" _ rfl rfl
        exact absurd (ha.trans hb.symm) (by decide)
      · have hkeys : HttpRoutes.candidates "b.example:80" =
            [.host "b.example:80", .host "80", .host "b.example", .default] := by decide
        intro key hkey name d hget hhttp
        rw [hkeys] at hkey
        have hhost : Text.lower (Text.trim d.host) = "a.example" := by
          rcases twin_cases hget with ⟨rfl, rfl⟩ | ⟨rfl, rfl⟩ | ⟨rfl, rfl⟩
          · decide
          · decide
          · cases hhttp
        rintro rfl
        rw [hhost] at hkey
        exact absurd hkey (by decide)

end ReverseTunnel.Routes
