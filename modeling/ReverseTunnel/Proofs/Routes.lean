import ReverseTunnel.Proofs.NameMap
import ReverseTunnel.Routes

/-!
# What a client's tables hold

A lookup takes the first that the table has of four entries: that of the host's
key, of its port, of the key without its port, and the default
(`HttpRoutes.lookup_eq_select`).

Every entry is built from a declaration (`Routes.url_isSome_iff`). When the
HTTP declarations have different keys, its URL is the local URL of that
declaration (`Routes.url_of_isBuiltFrom`). The table of local addresses has every other
tunnel under its name, and nothing else (`Routes.get?_streams_eq`).
-/

namespace ReverseTunnel

open Http

/-! ## The entry that a host selects -/

/-- An entry of a table of HTTP hosts. -/
inductive HttpRoutes.Entry where
  | host (key : String)
  | default
  deriving DecidableEq

namespace HttpRoutes

/-- The URL of an entry, if the table has the entry. -/
def url? (r : HttpRoutes) : Entry → Option Uri
  | .host key => r.byHost.get? key
  | .default => r.default

/-- The entries that may be selected by a key and by its parts, if it has a port. -/
def candidatesOf (key : String) : Option (String × String) → List Entry
  | some (name, port) => [.host key, .host port, .host name, .default]
  | none => [.host key, .default]

/-- The entries that a forwarded host may select, the first choice first. -/
def candidates (host : String) : List Entry :=
  candidatesOf (hostKey host) (splitPort (hostKey host))

theorem key_mem_candidates (host : String) : .host (hostKey host) ∈ candidates host := by
  rw [candidates]
  cases splitPort (hostKey host) with
  | none => exact List.mem_cons_self
  | some parts => exact List.mem_cons_self

theorem default_mem_candidates (host : String) : .default ∈ candidates host := by
  rw [candidates]
  cases splitPort (hostKey host) with
  | none => simp [candidatesOf]
  | some parts => simp [candidatesOf]

/-- The entry that a forwarded host selects. -/
def select (r : HttpRoutes) (host : String) : Option Entry :=
  (candidates host).find? fun e => (r.url? e).isSome

/-- A lookup answers the URL of the selected entry. -/
theorem lookup_eq_select (r : HttpRoutes) (host : String) :
    r.lookup host = (r.select host).bind r.url? := by
  have hfirst : ∀ es : List Entry,
      (es.find? fun e => (r.url? e).isSome).bind r.url? =
        es.foldr (fun e rest => (r.url? e).or rest) none := by
    intro es
    induction es with
    | nil => rfl
    | cons e es ih =>
      rw [List.find?_cons, List.foldr_cons, ← ih]
      cases he : r.url? e with
      | none => simp
      | some url => simp [he]
  rw [select, hfirst]
  unfold lookup lookupPort candidates
  cases splitPort (hostKey host) with
  | none => simp [candidatesOf, url?]
  | some parts => simp [candidatesOf, url?, Option.or_assoc]

/-- What a host selects: its key, or its port, or its key without a port, or the
default, and each of these only where the table has none of those before. -/
inductive Selects (r : HttpRoutes) (host : String) : Entry → Prop
  | key (found : (r.byHost.get? (hostKey host)).isSome = true) :
    Selects r host (.host (hostKey host))
  | port {name port : String} (split : splitPort (hostKey host) = some (name, port))
    (noKey : r.byHost.get? (hostKey host) = none)
    (found : (r.byHost.get? port).isSome = true) : Selects r host (.host port)
  | name {name port : String} (split : splitPort (hostKey host) = some (name, port))
    (noKey : r.byHost.get? (hostKey host) = none) (noPort : r.byHost.get? port = none)
    (found : (r.byHost.get? name).isSome = true) : Selects r host (.host name)
  | default (noKey : r.byHost.get? (hostKey host) = none)
    (found : r.default.isSome = true) : Selects r host .default

theorem selects_of_select {r : HttpRoutes} {host : String} {e : Entry}
    (h : r.select host = some e) : r.Selects host e := by
  have hnone : ∀ key, (!(r.byHost.get? key).isSome) = true → r.byHost.get? key = none :=
    fun key hkey => by simpa using hkey
  unfold select candidates at h
  cases hsplit : splitPort (hostKey host) with
  | some parts =>
    obtain ⟨name, port⟩ := parts
    simp only [hsplit, candidatesOf, List.find?_cons_eq_some, List.find?_nil, reduceCtorEq,
      and_false, or_false] at h
    rcases h with ⟨hkey, rfl⟩ | ⟨hkey, ⟨hport, rfl⟩ | ⟨hport, ⟨hname, rfl⟩ | ⟨-, hdefault, rfl⟩⟩⟩
    · exact .key hkey
    · exact .port hsplit (hnone _ hkey) hport
    · exact .name hsplit (hnone _ hkey) (hnone _ hport) hname
    · exact .default (hnone _ hkey) hdefault
  | none =>
    simp only [hsplit, candidatesOf, List.find?_cons_eq_some, List.find?_nil, reduceCtorEq,
      and_false, or_false] at h
    rcases h with ⟨hkey, rfl⟩ | ⟨hkey, hdefault, rfl⟩
    · exact .key hkey
    · exact .default (hnone _ hkey) hdefault

/-- A host selects something as soon as the table has one of its candidates. -/
theorem exists_select {r : HttpRoutes} {host : String} {e : Entry} (hmem : e ∈ candidates host)
    (h : (r.url? e).isSome = true) : ∃ selected, r.select host = some selected :=
  Option.isSome_iff_exists.1 (List.find?_isSome.2 ⟨e, hmem, h⟩)

end HttpRoutes

/-! ## Declarations and entries -/

namespace Routes

variable {declarations : NameMap Declaration} {routes : Routes}

/-- The local URL of a tunnel is that of its address; the name only appears in faults. -/
theorem localUrl_eq_ok {name address : String} {url : Uri} (h : localUrl name address = .ok url)
    (other : String) : localUrl other address = .ok url := by
  simp only [localUrl] at h ⊢
  cases hparse : Uri.parse? (Text.trim address) with
  | none => simp [hparse] at h
  | some uri =>
    simp only [hparse] at h ⊢
    cases hscheme : uri.scheme with
    | none => simp [hscheme] at h
    | some scheme =>
      simp only [hscheme] at h ⊢
      split at h
      · cases h
      · next hhttp =>
        rw [if_neg hhttp]
        split at h
        · cases h
        · next hauthority => rw [if_neg hauthority, h]

theorem add_of_http {d : Declaration} (h : d.protocol = .http) (r : Routes) (name : String) :
    r.add name d =
      match localUrl name d.localAddress with
      | .error fault => .error fault
      | .ok url =>
        if Text.isBlankText d.host then .error (.httpWithoutHost name)
        else .ok { r with http := r.http.insert d.host url } := by
  rw [add, h]
  cases localUrl name d.localAddress with
  | error fault => rfl
  | ok url =>
    simp only [bind, Except.bind]
    split
    · rfl
    · rfl

theorem add_of_other {d : Declaration} (h : d.protocol ≠ .http) (r : Routes) (name : String) :
    r.add name d =
      if Text.isBlankText d.localAddress then .error (.withoutLocalAddress name)
      else if d.protocol = .sni && Text.isBlankText d.host then .error (.sniWithoutHost name)
      else .ok { r with streams := r.streams.insert name (Text.trim d.localAddress) } := by
  unfold add
  split
  · next hhttp => exact absurd hhttp h
  all_goals rfl

/-- An HTTP declaration sets the URL of its host, and any other its own local address. -/
theorem add_eq_ok {r r' : Routes} {name : String} {d : Declaration} (h : r.add name d = .ok r') :
    (d.protocol = .http ∧ (∃ url, localUrl name d.localAddress = .ok url ∧
      r'.http = r.http.insert d.host url) ∧ r'.streams = r.streams) ∨
    (d.protocol ≠ .http ∧ r'.http = r.http ∧
      r'.streams = r.streams.insert name (Text.trim d.localAddress)) := by
  by_cases hhttp : d.protocol = .http
  · rw [add_of_http hhttp] at h
    cases hurl : localUrl name d.localAddress with
    | error fault =>
      rw [hurl] at h
      cases h
    | ok url =>
      simp only [hurl] at h
      split at h
      · cases h
      · cases h
        exact .inl ⟨hhttp, ⟨url, rfl, rfl⟩, rfl⟩
  · rw [add_of_other hhttp] at h
    split at h
    · cases h
    · split at h
      · cases h
      · cases h
        exact .inr ⟨hhttp, rfl, rfl⟩

/-- Among some entries, this is the last declaration of an HTTP tunnel whose host has the key. -/
structure IsLatest (es : List (String × Declaration)) (key name : String) (d : Declaration) :
    Prop where
  http : d.protocol = .http
  hasKey : hostKey d.host = key
  placed : ∃ before after, es = before ++ (name, d) :: after ∧
    ∀ e ∈ after, e.2.protocol = .http → hostKey e.2.host ≠ key

namespace IsLatest

variable {es : List (String × Declaration)} {key name other : String} {d d' : Declaration}

theorem mem (h : IsLatest es key name d) : (name, d) ∈ es := by
  obtain ⟨before, after, rfl, -⟩ := h.placed
  exact List.mem_append_right _ List.mem_cons_self

theorem append (h : IsLatest es key name d) (hother : d'.protocol = .http → hostKey d'.host ≠ key) :
    IsLatest (es ++ [(other, d')]) key name d := by
  obtain ⟨before, after, rfl, hafter⟩ := h.placed
  refine ⟨h.http, h.hasKey, before, after ++ [(other, d')], by simp, ?_⟩
  intro e he
  rcases List.mem_append.1 he with he | he
  · exact hafter e he
  · cases List.mem_singleton.1 he
    exact hother

theorem append_self (hhttp : d.protocol = .http) :
    IsLatest (es ++ [(name, d)]) (hostKey d.host) name d :=
  ⟨hhttp, rfl, es, [], rfl, nofun⟩

end IsLatest

/-- The table holds the hosts of the HTTP declarations among some entries. -/
structure Filled (es : List (String × Declaration)) (r : HttpRoutes) : Prop where
  declared : ∀ key url, r.byHost.get? key = some url → ∃ name d, IsLatest es key name d ∧
    localUrl name d.localAddress = .ok url
  served : ∀ name d, (name, d) ∈ es → d.protocol = .http →
    (r.byHost.get? (hostKey d.host)).isSome = true

theorem filled_empty : Filled [] HttpRoutes.empty :=
  ⟨nofun, nofun⟩

/-- One more declaration. Of two with one key the later one counts. -/
theorem Filled.add {es : List (String × Declaration)} {r r' : Routes} {name : String}
    {d : Declaration} (h : Filled es r.http) (hadd : r.add name d = .ok r') :
    Filled (es ++ [(name, d)]) r'.http := by
  rcases add_eq_ok hadd with ⟨hhttp, ⟨url, hurl, heq⟩, -⟩ | ⟨hother, heq, -⟩
  · rw [heq]
    refine ⟨fun key url' hget => ?_, fun name' d' hmem hhttp' => ?_⟩
    · rw [HttpRoutes.insert, NameMap.get?_insert] at hget
      split at hget
      · next hkey =>
        cases hget
        rw [hkey]
        exact ⟨name, d, .append_self hhttp, hurl⟩
      · next hkey =>
        obtain ⟨name', d', hlatest, hrest⟩ := h.declared key url' hget
        exact ⟨name', d', hlatest.append fun _ => Ne.symm hkey, hrest⟩
    · rw [HttpRoutes.insert, NameMap.get?_insert]
      split
      · rfl
      · next hkey =>
        rcases List.mem_append.1 hmem with hmem | hmem
        · exact h.served name' d' hmem hhttp'
        · cases List.mem_singleton.1 hmem
          exact absurd rfl hkey
  · rw [heq]
    refine ⟨fun key url' hget => ?_, fun name' d' hmem hhttp' => ?_⟩
    · obtain ⟨name', d', hlatest, hrest⟩ := h.declared key url' hget
      exact ⟨name', d', hlatest.append fun hhttp => absurd hhttp hother, hrest⟩
    · rcases List.mem_append.1 hmem with hmem | hmem
      · exact h.served name' d' hmem hhttp'
      · cases List.mem_singleton.1 hmem
        exact absurd hhttp' hother

/-- The declarations of a run of additions, and the default, which none of them sets. -/
theorem Filled.foldlM_add {es done : List (String × Declaration)} {r r' : Routes}
    (h : Filled done r.http)
    (hrun : es.foldlM (fun (r : Routes) e => r.add e.1 e.2) r = .ok r') :
    Filled (done ++ es) r'.http ∧ r'.http.default = r.http.default := by
  -- On the declarations still to come; those done are on the left.
  induction es generalizing done r with
  | nil =>
    cases hrun
    simpa using h
  | cons e es ih =>
    rw [List.foldlM_cons] at hrun
    cases hadd : r.add e.1 e.2 with
    | error fault => rw [hadd] at hrun; cases hrun
    | ok next =>
      rw [hadd] at hrun
      obtain ⟨hfilled, hdefault⟩ := ih (h.add hadd) hrun
      have hsame : next.http.default = r.http.default := by
        rcases add_eq_ok hadd with ⟨-, ⟨url, -, heq⟩, -⟩ | ⟨-, heq, -⟩
        · rw [heq, HttpRoutes.insert]
        · rw [heq]
      rw [List.append_assoc, List.singleton_append] at hfilled
      exact ⟨hfilled, hdefault.trans hsame⟩

/-- The local address that the table of streams has for a declaration. -/
def streamAddress? (d : Declaration) : Option String :=
  if d.protocol = .http then none else some (Text.trim d.localAddress)

/-- Additions of different names give every tunnel that is not HTTP its local address, and
leave the other names alone. -/
theorem get?_streams_foldlM {es : List (String × Declaration)} {r r' : Routes}
    (hnames : (es.map Prod.fst).Nodup)
    (hrun : es.foldlM (fun (r : Routes) e => r.add e.1 e.2) r = .ok r') (name : String) :
    r'.streams.get? name =
      ((NameMap.lookupIn name es).bind streamAddress?).or (r.streams.get? name) := by
  -- The names of the rest are others, so what one declaration sets stays.
  induction es generalizing r with
  | nil =>
    cases hrun
    rfl
  | cons e rest ih =>
    obtain ⟨n, d⟩ := e
    rw [List.map_cons, List.nodup_cons] at hnames
    rw [List.foldlM_cons] at hrun
    cases hadd : r.add n d with
    | error fault => rw [hadd] at hrun; cases hrun
    | ok next =>
      rw [hadd] at hrun
      rw [ih hnames.2 hrun, NameMap.lookupIn]
      by_cases hn : n = name
      · subst hn
        rw [if_pos rfl, NameMap.lookupIn_eq_none_of_notMem hnames.1]
        rcases add_eq_ok hadd with ⟨hhttp, -, heq⟩ | ⟨hother, -, heq⟩
        · simp [heq, streamAddress?, hhttp]
        · simp [heq, streamAddress?, hother]
      · rw [if_neg hn]
        rcases add_eq_ok hadd with ⟨-, -, heq⟩ | ⟨-, -, heq⟩
        · rw [heq]
        · rw [heq, NameMap.get?_insert_of_ne (Ne.symm hn)]

/-- What the checked declarations gave the tables, a default is added to. -/
theorem exists_foldlM_of_build (h : build declarations = .ok routes) :
    ∃ filled : Routes,
      declarations.entries.foldlM (fun (r : Routes) e => r.add e.1 e.2) empty = .ok filled ∧
      routes.streams = filled.streams ∧ routes.http.byHost = filled.http.byHost := by
  rw [build] at h
  cases hrun : declarations.entries.foldlM (fun (r : Routes) e => r.add e.1 e.2) empty with
  | error fault => rw [hrun] at h; cases h
  | ok filled =>
    refine ⟨filled, rfl, ?_⟩
    rw [hrun] at h
    simp only [bind, Except.bind] at h
    split at h
    · next only honly =>
      cases hurl : localUrl "default" only.localAddress with
      | error fault => rw [hurl] at h; cases h
      | ok url =>
        rw [hurl] at h
        cases h
        exact ⟨rfl, rfl⟩
    · cases h
      exact ⟨rfl, rfl⟩

/-- The tables of declarations: their hosts, and a default for the only HTTP tunnel. -/
theorem build_eq_ok (h : build declarations = .ok routes) :
    Filled declarations.entries routes.http ∧
      (∀ only, httpDeclarations declarations = [only] →
        ∃ url, localUrl "default" only.localAddress = .ok url ∧
          routes.http.default = some url) ∧
      ((∀ only, httpDeclarations declarations ≠ [only]) → routes.http.default = none) := by
  rw [build] at h
  cases hrun : declarations.entries.foldlM (fun (r : Routes) e => r.add e.1 e.2) empty with
  | error fault => rw [hrun] at h; cases h
  | ok filled =>
    obtain ⟨hfilled, hdefault⟩ := Filled.foldlM_add filled_empty hrun
    rw [hrun] at h
    simp only [bind, Except.bind] at h
    split at h
    · next only honly =>
      cases hurl : localUrl "default" only.localAddress with
      | error fault => rw [hurl] at h; cases h
      | ok url =>
        rw [hurl] at h
        cases h
        refine ⟨⟨hfilled.declared, hfilled.served⟩, fun other hother => ?_, fun hmany => ?_⟩
        · cases honly.symm.trans hother
          exact ⟨url, hurl, rfl⟩
        · exact absurd honly (hmany only)
    · next hmany =>
      cases h
      exact ⟨hfilled, fun other hother => absurd hother (hmany other), fun _ => hdefault⟩

/-- The table of local addresses has the declarations that are not of HTTP tunnels, and no
others. -/
theorem get?_streams_eq (h : build declarations = .ok routes) (name : String) :
    routes.streams.get? name = (declarations.get? name).bind streamAddress? := by
  obtain ⟨filled, hrun, hstreams, -⟩ := exists_foldlM_of_build h
  rw [hstreams, get?_streams_foldlM declarations.nodup_names hrun]
  exact Option.or_none

theorem get?_streams (h : build declarations = .ok routes) {name : String} {d : Declaration}
    (hget : declarations.get? name = some d) (hother : d.protocol ≠ .http) :
    routes.streams.get? name = some (Text.trim d.localAddress) := by
  rw [get?_streams_eq h, hget, Option.bind_some, streamAddress?, if_neg hother]

/-- There is one HTTP tunnel at most that can be the only one. -/
theorem name_eq_of_httpDeclarations {d d₁ d₂ : Declaration} {n₁ n₂ : String}
    (h : httpDeclarations declarations = [d]) (h₁ : declarations.get? n₁ = some d₁)
    (hhttp₁ : d₁.protocol = .http) (h₂ : declarations.get? n₂ = some d₂)
    (hhttp₂ : d₂.protocol = .http) : n₁ = n₂ ∧ d₁ = d := by
  rw [httpDeclarations, NameMap.values, List.filter_map, List.map_eq_singleton_iff] at h
  obtain ⟨e, hentries, rfl⟩ := h
  have hmem : ∀ n d', declarations.get? n = some d' → d'.protocol = .http → (n, d') = e := by
    intro n d' hget hhttp
    have hfiltered : (n, d') ∈ declarations.entries.filter
        ((fun d : Declaration => d.protocol == .http) ∘ Prod.snd) :=
      List.mem_filter.2 ⟨NameMap.get?_eq_some_iff.1 hget, by simp [hhttp]⟩
    rw [hentries] at hfiltered
    exact List.mem_singleton.1 hfiltered
  have he₁ := hmem n₁ d₁ h₁ hhttp₁
  have he₂ := hmem n₂ d₂ h₂ hhttp₂
  exact ⟨congrArg Prod.fst (he₁.trans he₂.symm), congrArg Prod.snd he₁⟩

end Routes

/-- The entry is built from the declaration with this name. -/
def HttpRoutes.Entry.IsBuiltFrom (declarations : NameMap Declaration) (name : String) :
    HttpRoutes.Entry → Prop
  | .host key => ∃ d, declarations.get? name = some d ∧ d.protocol = .http ∧ hostKey d.host = key
  | .default => ∃ d, declarations.get? name = some d ∧ Routes.httpDeclarations declarations = [d]

namespace Routes

variable {declarations : NameMap Declaration} {routes : Routes}

theorem mem_httpDeclarations_iff {d : Declaration} :
    d ∈ httpDeclarations declarations ↔
      d.protocol = .http ∧ ∃ name, declarations.get? name = some d := by
  simp only [httpDeclarations, NameMap.values, List.mem_filter, List.mem_map, beq_iff_eq,
    NameMap.get?_eq_some_iff, Prod.exists, exists_eq_right]
  exact and_comm

/-- The table has the entry of every HTTP declaration, and no other. -/
theorem url_isSome_iff (h : build declarations = .ok routes) (e : HttpRoutes.Entry) :
    (routes.http.url? e).isSome = true ↔ ∃ name, e.IsBuiltFrom declarations name := by
  obtain ⟨hfilled, hdefault, hnone⟩ := build_eq_ok h
  cases e with
  | host key =>
    constructor
    · intro hsome
      obtain ⟨url, hurl⟩ := Option.isSome_iff_exists.1 hsome
      obtain ⟨name, d, hlatest, -⟩ := hfilled.declared key url hurl
      exact ⟨name, d, NameMap.get?_eq_some_iff.2 hlatest.mem, hlatest.http, hlatest.hasKey⟩
    · rintro ⟨name, d, hget, hhttp, rfl⟩
      exact hfilled.served name d (NameMap.get?_eq_some_iff.1 hget) hhttp
  | default =>
    constructor
    · intro hsome
      by_cases hone : ∃ only, httpDeclarations declarations = [only]
      · obtain ⟨only, honly⟩ := hone
        have hmem : only ∈ httpDeclarations declarations := by simp [honly]
        obtain ⟨-, name, hget⟩ := mem_httpDeclarations_iff.1 hmem
        exact ⟨name, only, hget, honly⟩
      · simp [HttpRoutes.url?, hnone (not_exists.1 hone)] at hsome
    · rintro ⟨name, d, -, honly⟩
      obtain ⟨url, -, hurl⟩ := hdefault d honly
      simp [HttpRoutes.url?, hurl]

/-- No two HTTP declarations have one key. -/
def DistinctKeys (declarations : NameMap Declaration) : Prop :=
  ∀ n₁ d₁ n₂ d₂, declarations.get? n₁ = some d₁ → d₁.protocol = .http →
    declarations.get? n₂ = some d₂ → d₂.protocol = .http → hostKey d₁.host = hostKey d₂.host →
      n₁ = n₂

/-- The URL of an entry is the local URL of the declaration it is built from. -/
theorem url_of_isBuiltFrom (h : build declarations = .ok routes)
    (hkeys : DistinctKeys declarations) {e : HttpRoutes.Entry} {name : String} {d : Declaration}
    (hbuilt : e.IsBuiltFrom declarations name) (hget : declarations.get? name = some d) :
    ∃ url, routes.http.url? e = some url ∧ localUrl name d.localAddress = .ok url := by
  obtain ⟨hfilled, hdefault, -⟩ := build_eq_ok h
  cases e with
  | host key =>
    obtain ⟨url, hurl⟩ := Option.isSome_iff_exists.1 ((url_isSome_iff h _).2 ⟨name, hbuilt⟩)
    obtain ⟨d', hget', hhttp, hkey⟩ := hbuilt
    cases hget.symm.trans hget'
    obtain ⟨other, d', hlatest, hlocal⟩ := hfilled.declared key url hurl
    have hget' := NameMap.get?_eq_some_iff.2 hlatest.mem
    cases hkeys other d' name d hget' hlatest.http hget hhttp (hlatest.hasKey.trans hkey.symm)
    cases hget.symm.trans hget'
    exact ⟨url, hurl, hlocal⟩
  | default =>
    obtain ⟨d', hget', honly⟩ := hbuilt
    cases hget.symm.trans hget'
    obtain ⟨url, hlocal, hurl⟩ := hdefault d honly
    exact ⟨url, hurl, localUrl_eq_ok hlocal name⟩

end Routes

end ReverseTunnel
