import ReverseTunnel.Client.LocalService
import ReverseTunnel.Proofs.Host
import ReverseTunnel.Proofs.Registry.Consistency
import ReverseTunnel.Proofs.Routes
import ReverseTunnel.Proofs.Server.Provision
import ReverseTunnel.Server.PublicHttp

/-!
# Two routings of one request

A public HTTP request is routed twice. The server resolves the normal form of its
host to a tunnel, and checks the token of that tunnel. The client does not look
at the tunnel: it selects an entry of its own table by the host it is told.

Both come to the same tunnel exactly when the tunnel's key is that of the host,
with or without a port that is no key itself, or is that very port, or when there
is no other HTTP tunnel (`selects_resolved_iff`). A host with a dot at its end is
resolved and finds no entry (`resolved_without_route`).

The token of a tunnel was presented by every request that ends up there, as long
as its host can only be reached by name (`bearerToken_of_select`). A tunnel whose
host is a number is reached through every other host of the client with that
number as its port, and nobody asks for its token (`token_not_asked`).
-/

namespace ReverseTunnel.Server

open Http Routes

/-- A client serves these declarations over a connection. -/
structure Serves (registry : Registry) (connection : String) (declarations : NameMap Declaration)
    (routes : Routes) : Prop where
  consistent : registry.Consistent
  /-- The client built its tables from them. -/
  built : Routes.build declarations = .ok routes
  /-- The server committed the claims of their tunnels. -/
  committed : ∃ client held, registry.clients.get? client = some ⟨connection, some held⟩ ∧
    held.claims = hostClaims (declarations.map Declaration.toTunnel).entries

/-- A client whose tunnels were provisioned serves its declarations. -/
theorem serves_of_provisioned {s s' : State} {key client : String}
    {declarations : NameMap Declaration} {held : Holdings} {routes : Routes}
    (hconsistent : s.registry.Consistent) (hbuilt : Routes.build declarations = .ok routes)
    (h : Provisioned s s' key client (declarations.map Declaration.toTunnel).entries held) :
    Serves s'.registry key declarations routes :=
  ⟨Registry.consistent_commit hconsistent h.committed, hbuilt, client, held, h.owned, h.claims⟩

namespace Serves

variable {registry : Registry} {connection : String} {declarations : NameMap Declaration}
  {routes : Routes}

/-! ## What the server knows of the declarations -/

theorem mem_claims_iff {claim : HostClaim} :
    claim ∈ hostClaims (declarations.map Declaration.toTunnel).entries ↔
      ∃ name d, declarations.get? name = some d ∧ d.protocol.isHostRouted = true ∧
        claim = hostClaim name d.toTunnel := by
  simp only [hostClaims, List.mem_map, List.mem_filter, NameMap.map, NameMap.get?_eq_some_iff]
  constructor
  · rintro ⟨-, ⟨⟨⟨name, d⟩, hmem, rfl⟩, hrouted⟩, rfl⟩
    exact ⟨name, d, hmem, hrouted, rfl⟩
  · rintro ⟨name, d, hmem, hrouted, rfl⟩
    exact ⟨(name, d.toTunnel), ⟨⟨(name, d), hmem, rfl⟩, hrouted⟩, rfl⟩

/-- A route to the connection is that of a declaration. -/
theorem declared (h : Serves registry connection declarations routes) {host : String}
    {route : HostRoute} (hresolve : registry.resolve host = some route)
    (hconnection : route.connection = connection) :
    ∃ d, declarations.get? route.tunnel = some d ∧ d.protocol = route.protocol ∧
      normalHost d.host = normalHost host ∧
      route.auth = d.auth.filter fun a => a != "" := by
  obtain ⟨client, held, hclient, hclaims⟩ := h.committed
  obtain ⟨name, place, other, ⟨key, howner⟩, claim, hplace, hhost, rfl⟩ :=
    (h.consistent.indexed _ _).1 hresolve
  -- The route bears the connection of its owner, so the owner is this client.
  obtain ⟨-, hkey⟩ := h.consistent.own name key other howner
  have hsame : key = connection := hkey.symm.trans hconnection
  subst hsame
  have hname := h.consistent.name_eq howner hclient
  subst hname
  cases hclient.symm.trans howner
  have hmem := List.mem_of_getElem? hplace
  rw [hclaims] at hmem
  obtain ⟨tunnel, d, hget, -, rfl⟩ := mem_claims_iff.1 hmem
  exact ⟨d, hget, rfl, hhost, rfl⟩

/-- No two declarations that are routed by host name the same host. -/
theorem name_eq (h : Serves registry connection declarations routes) {n₁ n₂ : String}
    {d₁ d₂ : Declaration} (h₁ : declarations.get? n₁ = some d₁)
    (hrouted₁ : d₁.protocol.isHostRouted = true) (h₂ : declarations.get? n₂ = some d₂)
    (hrouted₂ : d₂.protocol.isHostRouted = true)
    (hhost : normalHost d₁.host = normalHost d₂.host) : n₁ = n₂ := by
  obtain ⟨client, held, hclient, hclaims⟩ := h.committed
  have hclaim : ∀ n d, declarations.get? n = some d → d.protocol.isHostRouted = true →
      ∃ place route, held.claims[place]? = some (hostClaim n d.toTunnel) ∧
        registry.Claims client place (normalHost d.host) route := by
    intro n d hget hrouted
    have hmem : hostClaim n d.toTunnel ∈ held.claims := by
      rw [hclaims]
      exact mem_claims_iff.2 ⟨n, d, hget, hrouted, rfl⟩
    obtain ⟨place, hplace⟩ := List.mem_iff_getElem?.1 hmem
    exact ⟨place, _, hplace, held, ⟨connection, hclient⟩, _, hplace, rfl, rfl⟩
  obtain ⟨place₁, route₁, hplace₁, hclaims₁⟩ := hclaim n₁ d₁ h₁ hrouted₁
  obtain ⟨place₂, route₂, hplace₂, hclaims₂⟩ := hclaim n₂ d₂ h₂ hrouted₂
  rw [hhost] at hclaims₁
  obtain ⟨-, hplace⟩ := h.consistent.single _ _ _ _ _ _ _ hclaims₁ hclaims₂
  rw [hplace, hplace₂] at hplace₁
  exact congrArg HostClaim.tunnel (Option.some.inj hplace₁).symm

theorem distinctKeys (h : Serves registry connection declarations routes) :
    DistinctKeys declarations := by
  intro n₁ d₁ n₂ d₂ h₁ hhttp₁ h₂ hhttp₂ hkey
  exact h.name_eq h₁ (by rw [hhttp₁]; rfl) h₂ (by rw [hhttp₂]; rfl)
    (normalHost_eq_of_hostKey_eq hkey)

/-! ## What the client does with a host -/

/-- The table has a key exactly when an HTTP declaration has it. -/
theorem isSome_get?_byHost_iff (h : Serves registry connection declarations routes)
    {key : String} : (routes.http.byHost.get? key).isSome = true ↔
      ∃ name d, declarations.get? name = some d ∧ d.protocol = .http ∧ hostKey d.host = key :=
  url_isSome_iff h.built (.host key)

section Resolved

variable (h : Serves registry connection declarations routes) {host name : String}
  {d : Declaration} (hget : declarations.get? name = some d) (hhttp : d.protocol = .http)
include h hget hhttp

/-- An HTTP declaration that names the same host is the same declaration. -/
theorem eq_of_normalHost_eq {other : String} {d' : Declaration}
    (hget' : declarations.get? other = some d') (hhttp' : d'.protocol = .http)
    (hhost : normalHost d'.host = normalHost d.host) : other = name :=
  h.name_eq hget' (by rw [hhttp']; rfl) hget (by rw [hhttp]; rfl) hhost

/-- The entry of a host's own key is built from the declaration that the server
resolves the host to. -/
theorem isBuiltFrom_key (hhost : normalHost d.host = normalHost host)
    (hfound : (routes.http.byHost.get? (hostKey host)).isSome = true) :
    (HttpRoutes.Entry.host (hostKey host)).IsBuiltFrom declarations name := by
  obtain ⟨other, d', hget', hhttp', hkey⟩ := h.isSome_get?_byHost_iff.1 hfound
  have hsame := h.eq_of_normalHost_eq hget hhttp hget' hhttp'
    ((normalHost_eq_of_hostKey_eq hkey).trans hhost.symm)
  rw [← hsame]
  exact ⟨d', hget', hhttp', hkey⟩

/-- If there is a default, it is built from every HTTP declaration. -/
theorem isBuiltFrom_default (hfound : routes.http.default.isSome = true) :
    HttpRoutes.Entry.default.IsBuiltFrom declarations name := by
  obtain ⟨other, d', hget', honly⟩ := (url_isSome_iff h.built .default).1 hfound
  obtain ⟨-, rfl⟩ := name_eq_of_httpDeclarations honly hget hhttp hget hhttp
  exact ⟨d, hget, honly⟩

end Resolved

end Serves

/-- A host leads the client to a declaration that it leads the server to. -/
inductive Leads (declarations : NameMap Declaration) (host : String) (d : Declaration) : Prop
  /-- There is no other HTTP tunnel. -/
  | only (h : httpDeclarations declarations = [d])
  /-- Both have one key. -/
  | key (h : hostKey d.host = hostKey host)
  /-- The declared host is the port of the host. -/
  | port {name port : String} (split : splitPort (hostKey host) = some (name, port))
    (h : hostKey d.host = port)
  /-- The declared host is the host without its port, and the port is no HTTP host itself. -/
  | name {name port : String} (split : splitPort (hostKey host) = some (name, port))
    (h : hostKey d.host = name)
    (free : ∀ n d', declarations.get? n = some d' → d'.protocol = .http → hostKey d'.host ≠ port)

namespace Serves

variable {registry : Registry} {connection : String} {declarations : NameMap Declaration}
  {routes : Routes}

section Resolved

variable (h : Serves registry connection declarations routes) {host name : String}
  {d : Declaration} (hget : declarations.get? name = some d) (hhttp : d.protocol = .http)
include h hget hhttp

theorem exists_select_of_leads (hleads : Leads declarations host d) :
    ∃ e, routes.http.select host = some e := by
  have hserved : (routes.http.url? (.host (hostKey d.host))).isSome = true :=
    h.isSome_get?_byHost_iff.2 ⟨name, d, hget, hhttp, rfl⟩
  cases hleads with
  | only honly =>
    exact HttpRoutes.exists_select (HttpRoutes.default_mem_candidates host)
      ((url_isSome_iff h.built .default).2 ⟨name, d, hget, honly⟩)
  | key hkey =>
    rw [hkey] at hserved
    exact HttpRoutes.exists_select (HttpRoutes.key_mem_candidates host) hserved
  | port hsplit hport =>
    refine HttpRoutes.exists_select ?_ hserved
    simp [HttpRoutes.candidates, HttpRoutes.candidatesOf, hsplit, hport]
  | name hsplit hname =>
    refine HttpRoutes.exists_select ?_ hserved
    simp [HttpRoutes.candidates, HttpRoutes.candidatesOf, hsplit, hname]

/-- A host that leads to the declaration selects an entry built from it. -/
theorem isBuiltFrom_of_leads (hhost : normalHost d.host = normalHost host)
    (hleads : Leads declarations host d) {e : HttpRoutes.Entry}
    (hselect : routes.http.select host = some e) : e.IsBuiltFrom declarations name := by
  have hserved : (routes.http.byHost.get? (hostKey d.host)).isSome = true :=
    h.isSome_get?_byHost_iff.2 ⟨name, d, hget, hhttp, rfl⟩
  -- Nothing but the key itself comes before the entry of the declaration.
  cases HttpRoutes.selects_of_select hselect with
  | key hfound => exact h.isBuiltFrom_key hget hhttp hhost hfound
  | default _ hfound => exact h.isBuiltFrom_default hget hhttp hfound
  | port hsplit hnoKey hfound =>
    obtain ⟨other, d', hget', hhttp', hport⟩ := h.isSome_get?_byHost_iff.1 hfound
    cases hleads with
    | only honly =>
      obtain ⟨rfl, -⟩ := name_eq_of_httpDeclarations honly hget' hhttp' hget hhttp
      exact ⟨d', hget', hhttp', hport⟩
    | key hkey => simp [hkey, hnoKey] at hserved
    | port hsplit' hport' =>
      cases hsplit.symm.trans hsplit'
      exact ⟨d, hget, hhttp, hport'⟩
    | name hsplit' _ hfree =>
      cases hsplit.symm.trans hsplit'
      exact absurd hport (hfree other d' hget' hhttp')
  | name hsplit hnoKey hnoPort hfound =>
    obtain ⟨other, d', hget', hhttp', hname⟩ := h.isSome_get?_byHost_iff.1 hfound
    cases hleads with
    | only honly =>
      obtain ⟨rfl, -⟩ := name_eq_of_httpDeclarations honly hget' hhttp' hget hhttp
      exact ⟨d', hget', hhttp', hname⟩
    | key hkey => simp [hkey, hnoKey] at hserved
    | port hsplit' hport' =>
      cases hsplit.symm.trans hsplit'
      simp [hport', hnoPort] at hserved
    | name hsplit' hname' _ =>
      cases hsplit.symm.trans hsplit'
      exact ⟨d, hget, hhttp, hname'⟩

omit hhttp in
/-- A host that selects an entry built from the declaration leads to it. -/
theorem leads_of_isBuiltFrom {e : HttpRoutes.Entry} (hselect : routes.http.select host = some e)
    (hbuilt : e.IsBuiltFrom declarations name) : Leads declarations host d := by
  cases HttpRoutes.selects_of_select hselect with
  | key hfound =>
    obtain ⟨d', hget', -, hkey⟩ := hbuilt
    cases hget.symm.trans hget'
    exact .key hkey
  | port hsplit hnoKey hfound =>
    obtain ⟨d', hget', -, hport⟩ := hbuilt
    cases hget.symm.trans hget'
    exact .port hsplit hport
  | @name _ port hsplit hnoKey hnoPort hfound =>
    obtain ⟨d', hget', -, hname⟩ := hbuilt
    cases hget.symm.trans hget'
    refine .name hsplit hname fun n d' hget' hhttp' hport => ?_
    have hserved := h.isSome_get?_byHost_iff.2 ⟨n, d', hget', hhttp', hport⟩
    rw [hnoPort] at hserved
    cases hserved
  | default _ hfound =>
    obtain ⟨d', hget', honly⟩ := hbuilt
    cases hget.symm.trans hget'
    exact .only honly

end Resolved

end Serves

/-- The client takes a host to the HTTP tunnel that the server resolves it to exactly
when the host leads there; it then answers the local URL of that tunnel. -/
theorem selects_resolved_iff {registry : Registry} {connection : String}
    {declarations : NameMap Declaration} {routes : Routes}
    (h : Serves registry connection declarations routes) {host : String} {route : HostRoute}
    (hresolve : registry.resolve host = some route) (hconnection : route.connection = connection)
    (hhttp : route.protocol = .http) :
    ∃ d, declarations.get? route.tunnel = some d ∧
      ((∃ e, routes.http.select host = some e ∧ e.IsBuiltFrom declarations route.tunnel) ↔
        Leads declarations host d) ∧
      (Leads declarations host d → ∃ url, routes.http.lookup host = some url ∧
        localUrl route.tunnel d.localAddress = .ok url) := by
  obtain ⟨d, hget, hprotocol, hhost, -⟩ := h.declared hresolve hconnection
  have hhttp' : d.protocol = .http := hprotocol.trans hhttp
  refine ⟨d, hget, ⟨?_, ?_⟩, ?_⟩
  · rintro ⟨e, hselect, hbuilt⟩
    exact h.leads_of_isBuiltFrom hget hselect hbuilt
  · intro hleads
    obtain ⟨e, hselect⟩ := h.exists_select_of_leads hget hhttp' hleads
    exact ⟨e, hselect, h.isBuiltFrom_of_leads hget hhttp' hhost hleads hselect⟩
  · intro hleads
    obtain ⟨e, hselect⟩ := h.exists_select_of_leads hget hhttp' hleads
    have hbuilt := h.isBuiltFrom_of_leads hget hhttp' hhost hleads hselect
    obtain ⟨url, hurl, hlocal⟩ := url_of_isBuiltFrom h.built h.distinctKeys hbuilt hget
    refine ⟨url, ?_, hlocal⟩
    rw [HttpRoutes.lookup_eq_select, hselect, Option.bind_some, hurl]

/-- Three HTTP tunnels: an open one, one on a host that is a number, and one on a
name. The latter two have tokens. -/
def mixedDeclarations : NameMap Declaration :=
  .ofList [("a", .http "a.example" "http://127.0.0.1:9001/a"),
    ("b", { Declaration.http "8080" "http://127.0.0.1:9001/b" with auth := some "s3cret" }),
    ("c", { Declaration.http "c.example" "http://127.0.0.1:9001/c" with auth := some "hush" })]

/-- The tables of their client. -/
def mixedRoutes : Routes := (Routes.build mixedDeclarations).toOption.getD .empty

/-- The registry after the client has come and its tunnels are committed. -/
def mixedRegistry : Registry :=
  Registry.empty.run [.reserve "10.0.0.1:5000", .subscribe "node" "10.0.0.1:5000",
    .commit ⟨"node", "10.0.0.1:5000",
      hostClaims (mixedDeclarations.map Declaration.toTunnel).entries, []⟩]

theorem serves_mixed : Serves mixedRegistry "10.0.0.1:5000" mixedDeclarations mixedRoutes := by
  refine ⟨Registry.consistent_foldl Registry.consistent_empty _, ?_, "node", _, rfl, rfl⟩
  have hbuilt : (Routes.build mixedDeclarations).toOption.isSome = true := by decide +kernel
  unfold mixedRoutes
  cases hroutes : Routes.build mixedDeclarations with
  | error fault => simp [hroutes, Except.toOption] at hbuilt
  | ok routes => rfl

/-- Control: a host with a port, in other case and with blanks, leads to its tunnel. -/
theorem selects_resolved_iff_port :
    mixedRegistry.resolve " A.Example:80" =
        some ⟨"node", "10.0.0.1:5000", "a", .http, none⟩ ∧
      ∃ d, mixedDeclarations.get? "a" = some d ∧
        ((∃ e, mixedRoutes.http.select " A.Example:80" = some e ∧
            e.IsBuiltFrom mixedDeclarations "a") ↔ Leads mixedDeclarations " A.Example:80" d) ∧
        (Leads mixedDeclarations " A.Example:80" d →
          ∃ url, mixedRoutes.http.lookup " A.Example:80" = some url ∧
            localUrl "a" d.localAddress = .ok url) := by
  have hresolve : mixedRegistry.resolve " A.Example:80" =
      some ⟨"node", "10.0.0.1:5000", "a", .http, none⟩ := by decide +kernel
  exact ⟨hresolve, selects_resolved_iff serves_mixed hresolve rfl rfl⟩

/-- The server resolves a host with a dot at its end, and the client has no route for
it. With the port of another tunnel's host the client takes it to that tunnel. -/
theorem resolved_without_route :
    Serves mixedRegistry "10.0.0.1:5000" mixedDeclarations mixedRoutes ∧
      (∃ route, mixedRegistry.resolve "a.example." = some route ∧
        route.connection = "10.0.0.1:5000" ∧ route.protocol = .http ∧ route.tunnel = "a" ∧
        mixedRoutes.http.lookup "a.example." = none) ∧
      ∃ route url, mixedRegistry.resolve "a.example:8080" = some route ∧
        route.connection = "10.0.0.1:5000" ∧ route.protocol = .http ∧ route.tunnel = "a" ∧
        mixedRoutes.http.lookup "a.example:8080" = some url ∧
        localUrl "b" "http://127.0.0.1:9001/b" = .ok url ∧
        localUrl "a" "http://127.0.0.1:9001/a" ≠ .ok url := by
  have hdot : mixedRegistry.resolve "a.example." =
      some ⟨"node", "10.0.0.1:5000", "a", .http, none⟩ := by decide +kernel
  have hnone : mixedRoutes.http.lookup "a.example." = none := by decide +kernel
  have hport : mixedRegistry.resolve "a.example:8080" =
      some ⟨"node", "10.0.0.1:5000", "a", .http, none⟩ := by decide +kernel
  have hother : mixedRoutes.http.lookup "a.example:8080" =
      some ⟨some "http", some "127.0.0.1:9001", "/b"⟩ := by decide +kernel
  have hurls : (localUrl "b" "http://127.0.0.1:9001/b").toOption =
      some ⟨some "http", some "127.0.0.1:9001", "/b"⟩ ∧
      (localUrl "a" "http://127.0.0.1:9001/a").toOption =
      some ⟨some "http", some "127.0.0.1:9001", "/a"⟩ := by decide +kernel
  have hb : localUrl "b" "http://127.0.0.1:9001/b" =
      .ok ⟨some "http", some "127.0.0.1:9001", "/b"⟩ := by
    cases hurl : localUrl "b" "http://127.0.0.1:9001/b" with
    | error fault => simp [hurl, Except.toOption] at hurls
    | ok url => simpa [hurl, Except.toOption] using hurls.1
  refine ⟨serves_mixed, ⟨_, hdot, rfl, rfl, rfl, hnone⟩,
    _, _, hport, rfl, rfl, rfl, hother, hb, fun ha => ?_⟩
  rw [ha] at hurls
  exact absurd hurls.2 (by decide)

/-! ## Tokens -/

/-- Only a request with a host that resolves to an HTTP route, and with the token of the route,
is forwarded. -/
theorem forwardRequest_of_routeRequest {registry : Registry} {request forwarded : Request}
    {caller : Caller} {route : HostRoute} {message : ControlMessage} {upgrade : Bool}
    (h : routeRequest registry request caller = .forwarded route message forwarded upgrade) :
    requestHost request.headers request.uri = some message.host ∧
      registry.resolve message.host = some route ∧ route.protocol = .http ∧
      isAuthorized route request.headers = true ∧
      forwardRequest route message.host request caller =
        .forwarded route message forwarded upgrade := by
  unfold routeRequest at h
  split at h
  · cases h
  · next host hhost =>
    split at h
    · cases h
    · next route' hresolve =>
      split at h
      · cases h
      · next hhttp =>
        split at h
        · cases h
        · next hauthorized =>
          have hsent := h
          simp only [forwardRequest, Forwarding.forwarded.injEq] at h
          obtain ⟨rfl, rfl, -⟩ := h
          exact ⟨hhost, hresolve, by simpa using hhttp, by simpa using hauthorized, hsent⟩

/-- The host of a request is never empty. -/
theorem ne_empty_of_requestHost {headers : Headers} {uri : Uri} {host : String}
    (h : requestHost headers uri = some host) : host ≠ "" := by
  rintro rfl
  simp [requestHost, Option.filter_eq_some_iff, Text.isBlankText] at h

/-- A forwarded request has a host that resolves to the route, and presents the
token of the route. -/
theorem routeRequest_eq_forwarded {registry : Registry} {request forwarded : Request}
    {caller : Caller} {route : HostRoute} {message : ControlMessage} {upgrade : Bool}
    (h : routeRequest registry request caller = .forwarded route message forwarded upgrade) :
    registry.resolve message.host = some route ∧ route.protocol = .http ∧
      isAuthorized route request.headers = true ∧ message.host ≠ "" := by
  obtain ⟨hhost, hresolve, hhttp, hauthorized, -⟩ := forwardRequest_of_routeRequest h
  exact ⟨hresolve, hhttp, hauthorized, ne_empty_of_requestHost hhost⟩

/-- A request goes to the client of its route once it presents the token of the route. -/
theorem routeRequest_of_resolve {registry : Registry} {request : Request} (caller : Caller)
    {host : String} {route : HostRoute}
    (hhost : requestHost request.headers request.uri = some host)
    (hresolve : registry.resolve host = some route) (hhttp : route.protocol = .http)
    (hauthorized : isAuthorized route request.headers = true) :
    routeRequest registry request caller = forwardRequest route host request caller := by
  simp [routeRequest, hhost, hresolve, hhttp, hauthorized]

/-- The declared host can only be reached by name: it is no port, and its brackets
are whole. -/
structure IsName (host : String) : Prop where
  noPort : Text.isDigits (hostKey host).toList = false
  whole : WholeBrackets (hostKey host)

/-- Every request that is forwarded to a client, and that the client takes to a
tunnel with a token, presents this token, if the host of the tunnel can only be
reached by name. -/
theorem bearerToken_of_select {registry : Registry} {connection : String}
    {declarations : NameMap Declaration} {routes : Routes}
    (h : Serves registry connection declarations routes) {request forwarded : Request}
    {caller : Caller} {route : HostRoute} {message : ControlMessage} {upgrade : Bool}
    (hforward : routeRequest registry request caller = .forwarded route message forwarded upgrade)
    (hconnection : route.connection = connection) {e : HttpRoutes.Entry}
    (hselect : routes.http.select (Client.routingHost message.host forwarded.headers) = some e)
    {name : String} {d : Declaration} (hget : declarations.get? name = some d)
    (hhttp : d.protocol = .http) (hbuilt : e.IsBuiltFrom declarations name) {token : String}
    (htoken : d.auth = some token) (hne : token ≠ "") (hname : IsName d.host) :
    request.headers.bearerToken = some token := by
  obtain ⟨hresolve, hrouteHttp, hauthorized, hblank⟩ := routeRequest_eq_forwarded hforward
  rw [Client.routingHost, if_neg hblank] at hselect
  obtain ⟨d', hget', hprotocol, hhost, hauth⟩ := h.declared hresolve hconnection
  have hhttp' : d'.protocol = .http := hprotocol.trans hrouteHttp
  -- The client comes to the tunnel whose token the server asked for.
  have hsame : route.tunnel = name := by
    cases h.leads_of_isBuiltFrom hget hselect hbuilt with
    | only honly => exact (name_eq_of_httpDeclarations honly hget' hhttp' hget hhttp).1
    | key hkey =>
      refine h.eq_of_normalHost_eq hget hhttp hget' hhttp' ?_
      exact hhost.trans (normalHost_eq_of_hostKey_eq hkey).symm
    | port hsplit hport =>
      obtain ⟨-, -, hdigits, -⟩ := splitPort_eq_some hsplit
      rw [← hport, hname.noPort] at hdigits
      cases hdigits
    | name hsplit hkey _ =>
      refine h.eq_of_normalHost_eq hget hhttp hget' hhttp' ?_
      rw [← hkey] at hsplit
      exact hhost.trans (normalHost_of_splitPort hsplit hname.whole).symm
  rw [hsame] at hget'
  cases hget.symm.trans hget'
  have hexpected : route.auth = some token := by
    rw [hauth, htoken]
    simp [hne]
  simpa [isAuthorized, hexpected] using hauthorized

/-- A request for a page of a host. -/
def pageRequest (host : FieldValue) (headers : Headers) : Request :=
  ⟨"GET", ⟨none, none, "/x"⟩, headers.insert hostField host, []⟩

/-- Who sends it. -/
def pageCaller : Caller := ⟨"203.0.113.7", "203.0.113.7:40000"⟩

/-- Control: the token of the tunnel on a name was presented. -/
theorem bearerToken_of_select_name :
    ∃ forwarded upgrade d,
      routeRequest mixedRegistry
          (pageRequest (.literal "c.example") (Headers.empty.insert .authorization
            (.literal "Bearer hush"))) pageCaller =
        .forwarded ⟨"node", "10.0.0.1:5000", "c", .http, some "hush"⟩
          ⟨.http, "c.example", "c", pageCaller.address⟩ forwarded upgrade ∧
      mixedRoutes.http.select (Client.routingHost "c.example" forwarded.headers) =
        some (.host "c.example") ∧
      mixedDeclarations.get? "c" = some d ∧ d.auth = some "hush" ∧ IsName d.host ∧
      (pageRequest (.literal "c.example") (Headers.empty.insert .authorization
        (.literal "Bearer hush"))).headers.bearerToken = some "hush" := by
  have hhost : requestHost (pageRequest (.literal "c.example") (Headers.empty.insert .authorization
      (.literal "Bearer hush"))).headers ⟨none, none, "/x"⟩ = some "c.example" := by
    decide +kernel
  have hresolve : mixedRegistry.resolve "c.example" =
      some ⟨"node", "10.0.0.1:5000", "c", .http, some "hush"⟩ := by decide +kernel
  have hauthorized : isAuthorized ⟨"node", "10.0.0.1:5000", "c", .http, some "hush"⟩
      (pageRequest (.literal "c.example") (Headers.empty.insert .authorization
        (.literal "Bearer hush"))).headers = true := by decide +kernel
  have hforward := routeRequest_of_resolve pageCaller hhost hresolve rfl hauthorized
  have hselect : mixedRoutes.http.select "c.example" = some (.host "c.example") := by
    decide +kernel
  have hget : mixedDeclarations.get? "c" = some
      { Declaration.http "c.example" "http://127.0.0.1:9001/c" with auth := some "hush" } := rfl
  have hname : IsName "c.example" := ⟨by decide, ⟨by decide, by decide⟩⟩
  exact ⟨_, _, _, hforward, hselect, hget, rfl, hname,
    bearerToken_of_select serves_mixed hforward rfl hselect hget rfl ⟨_, hget, rfl, by decide⟩ rfl
      (by decide) hname⟩

/-- A request without a token is forwarded to the client as one for the open tunnel,
and the client takes it to the tunnel on the number, which has a token. -/
theorem token_not_asked :
    ∃ forwarded upgrade d,
      Serves mixedRegistry "10.0.0.1:5000" mixedDeclarations mixedRoutes ∧
      routeRequest mixedRegistry (pageRequest (.literal "a.example:8080") .empty) pageCaller =
        .forwarded ⟨"node", "10.0.0.1:5000", "a", .http, none⟩
          ⟨.http, "a.example:8080", "a", pageCaller.address⟩ forwarded upgrade ∧
      mixedRoutes.http.select (Client.routingHost "a.example:8080" forwarded.headers) =
        some (.host "8080") ∧
      (HttpRoutes.Entry.host "8080").IsBuiltFrom mixedDeclarations "b" ∧
      mixedDeclarations.get? "b" = some d ∧ d.protocol = .http ∧ d.auth = some "s3cret" ∧
      (pageRequest (.literal "a.example:8080") .empty).headers.bearerToken ≠ some "s3cret" := by
  have hhost : requestHost (pageRequest (.literal "a.example:8080") .empty).headers
      ⟨none, none, "/x"⟩ = some "a.example:8080" := by decide +kernel
  have hresolve : mixedRegistry.resolve "a.example:8080" =
      some ⟨"node", "10.0.0.1:5000", "a", .http, none⟩ := by decide +kernel
  have hforward := routeRequest_of_resolve pageCaller hhost hresolve rfl rfl
  have hselect : mixedRoutes.http.select "a.example:8080" = some (.host "8080") := by
    decide +kernel
  have hget : mixedDeclarations.get? "b" = some
      { Declaration.http "8080" "http://127.0.0.1:9001/b" with auth := some "s3cret" } := rfl
  exact ⟨_, _, _, serves_mixed, hforward, hselect, ⟨_, hget, rfl, by decide⟩, hget, rfl, rfl,
    by decide⟩

end ReverseTunnel.Server
