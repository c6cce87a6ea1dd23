import ReverseTunnel.Proofs.ControlMessage
import ReverseTunnel.Proofs.Server.Routing

/-!
# Which host tokens can be presented

A tunnel brings its token along as any text, and the server commits it as it is; only the empty
token counts as none. A caller presents a token in the field `Authorization`. The server reads
that field as a text and drops the blanks around the token. So a committed token lets callers
through exactly if it is printable ASCII and tabs and no blank stands at its ends
(`forwarded_iff_presentable`).

A tunnel with any other token is committed all the same, and whoever presents that very token is
told to present it (`committed_token_refused`, `padded_token_refused`).
-/

namespace ReverseTunnel

open Http

/-- The token can be read from a field, and nothing is trimmed off it. -/
structure Presentable (token : String) : Prop where
  printable : ∀ c ∈ token.toList, (0x20 ≤ c.toNat ∧ c.toNat < 0x7F) ∨ c = '\t'
  first : ∀ c, token.toList.head? = some c → c ≠ ' ' ∧ c ≠ '\t'
  last : ∀ c, token.toList.getLast? = some c → c ≠ ' ' ∧ c ≠ '\t'

/-- Of the characters that can be read, the space and the tab are blank. -/
theorem isBlank_eq_false_iff {c : Char} (h : (0x20 ≤ c.toNat ∧ c.toNat < 0x7F) ∨ c = '\t') :
    Text.isBlank c = false ↔ c ≠ ' ' ∧ c ≠ '\t' := by
  rcases h with ⟨hlow, hhigh⟩ | rfl
  · have hspace : c = ' ' ↔ c.toNat = 32 := Char.toNat_inj.symm
    have htab : c = '\t' ↔ c.toNat = 9 := Char.toNat_inj.symm
    rw [ne_eq, ne_eq, hspace, htab]
    simp only [Text.isBlank, Bool.or_eq_false_iff, Bool.and_eq_false_iff,
      decide_eq_false_iff_not, beq_eq_false_iff_ne]
    omega
  · decide

theorem presentable_iff {token : String} :
    Presentable token ↔ IsReadable token ∧ Text.trim token = token := by
  rw [← String.toList_inj, Text.toList_trim, Text.trimList_eq_self_iff, isReadable_iff]
  constructor
  · intro h
    refine ⟨h.printable, ?_, ?_⟩
    · intro c hc
      exact (isBlank_eq_false_iff (h.printable c (List.mem_of_head? hc))).2 (h.first c hc)
    · intro c hc
      exact (isBlank_eq_false_iff (h.printable c (List.mem_of_getLast? hc))).2 (h.last c hc)
  · rintro ⟨hprintable, hfirst, hlast⟩
    refine ⟨hprintable, ?_, ?_⟩
    · intro c hc
      exact (isBlank_eq_false_iff (hprintable c (List.mem_of_head? hc))).1 (hfirst c hc)
    · intro c hc
      exact (isBlank_eq_false_iff (hprintable c (List.mem_of_getLast? hc))).1 (hlast c hc)

/-! ## What is read of a presented token -/

theorem isReadable_bearer_iff {token : String} :
    IsReadable ("Bearer " ++ token) ↔ IsReadable token := by
  constructor
  · intro h
    rw [isReadable_iff] at h ⊢
    intro c hc
    apply h c
    rw [String.toList_append]
    exact List.mem_append_right _ hc
  · intro h
    exact isReadable_append (by decide) h

theorem splitFirst_bearer (token : String) :
    Text.splitFirst ' ' ("Bearer " ++ token) = some ("Bearer", token) := by
  have hcut : Text.cutFirst ' ' ("Bearer " ++ token).toList = some ("Bearer".toList, token.toList) := by
    rw [Text.cutFirst_eq_some_iff, String.toList_append]
    exact ⟨rfl, by decide⟩
  rw [Text.splitFirst, hcut, Option.map_some, String.ofList_toList, String.ofList_toList]

/-- Nothing is read of a token that is not printable; of any other the part without the blanks
around it, unless nothing is left. -/
theorem bearerToken_eq {headers : Headers} {token : String} {value : FieldValue}
    (hvalue : FieldValue.ofText? ("Bearer " ++ token) = some value)
    (hfirst : headers.get? .authorization = some value) :
    headers.bearerToken =
      if IsReadable token ∧ Text.trim token ≠ "" then some (Text.trim token) else none := by
  have htext := FieldValue.text?_of_ofText? hvalue
  have hscheme : Text.sameIgnoringCase "Bearer" "bearer" = true := by decide
  rw [Headers.bearerToken, hfirst]
  change (value.text?.bind fun text => (Text.splitFirst ' ' text).bind fun parts =>
    if (Text.sameIgnoringCase parts.1 "bearer" && Text.trim parts.2 != "") = true
    then some (Text.trim parts.2) else none) = _
  by_cases hreadable : IsReadable token
  · rw [htext, if_pos (isReadable_bearer_iff.2 hreadable), Option.bind_some, splitFirst_bearer,
      Option.bind_some, hscheme, Bool.true_and]
    simp only [bne_iff_ne, hreadable, true_and]
  · rw [htext, if_neg fun h => hreadable (isReadable_bearer_iff.1 h), Option.bind_none,
      if_neg fun h => hreadable h.1]

/-- A token is read as itself exactly if it can be presented. -/
theorem bearerToken_eq_some_iff {headers : Headers} {token : String} {value : FieldValue}
    (hvalue : FieldValue.ofText? ("Bearer " ++ token) = some value)
    (hfirst : headers.get? .authorization = some value) (hne : token ≠ "") :
    headers.bearerToken = some token ↔ Presentable token := by
  rw [bearerToken_eq hvalue hfirst, presentable_iff]
  constructor
  · intro h
    split at h
    · next hread => exact ⟨hread.1, Option.some.inj h⟩
    · cases h
  · rintro ⟨hreadable, htrim⟩
    rw [htrim, if_pos ⟨hreadable, hne⟩]

namespace Server

/-! ## The requests for a tunnel with a token -/

/-- The server committed a tunnel for the client on this connection. -/
structure HasTunnel (registry : Registry) (connection name : String) (tunnel : Tunnel) :
    Prop where
  consistent : registry.Consistent
  committed : ∃ client held, registry.clients.get? client = some ⟨connection, some held⟩ ∧
    hostClaim name tunnel ∈ held.claims

/-- Every tunnel of a batch that is routed by its host is committed with the batch. -/
theorem hasTunnel_of_provisioned {s s' : State} {key client name : String} {tunnel : Tunnel}
    {tunnels : List (String × Tunnel)} {held : Holdings} (hconsistent : s.registry.Consistent)
    (h : Provisioned s s' key client tunnels held) (hmem : (name, tunnel) ∈ tunnels)
    (hrouted : tunnel.protocol.isHostRouted = true) :
    HasTunnel s'.registry key name tunnel := by
  refine ⟨Registry.consistent_commit hconsistent h.committed, client, held, h.owned, ?_⟩
  rw [h.claims]
  exact List.mem_map_of_mem (List.mem_filter.2 ⟨hmem, hrouted⟩)

/-- The host of a committed tunnel resolves to it. -/
theorem HasTunnel.exists_resolve {registry : Registry} {connection name host : String}
    {tunnel : Tunnel} (h : HasTunnel registry connection name tunnel)
    (hhost : normalHost host = normalHost tunnel.host) :
    ∃ route, registry.resolve host = some route ∧ route.connection = connection ∧
      route.tunnel = name ∧ route.protocol = tunnel.protocol ∧
      route.auth = tunnel.auth.filter fun a => a != "" := by
  obtain ⟨client, held, hclient, hmem⟩ := h.committed
  obtain ⟨place, hplace⟩ := List.mem_iff_getElem?.1 hmem
  obtain ⟨-, hconnection⟩ := h.consistent.own client connection held hclient
  refine ⟨held.route (hostClaim name tunnel), ?_, hconnection, rfl, rfl, rfl⟩
  exact (h.consistent.indexed _ _).2
    ⟨client, place, held, ⟨connection, hclient⟩, _, hplace, hhost.symm, rfl⟩

/-- A request without the token of its route is answered by the server. -/
theorem routeRequest_of_refused {registry : Registry} {request : Request} (caller : Caller)
    {host : String} {route : HostRoute}
    (hhost : requestHost request.headers request.uri = some host)
    (hresolve : registry.resolve host = some route) (hhttp : route.protocol = .http)
    (hrefused : isAuthorized route request.headers = false) :
    routeRequest registry request caller = .answered unauthorizedResponse := by
  simp [routeRequest, hhost, hresolve, hhttp, hrefused]

/-- The empty token is asked of nobody; any other has to be read as it was committed. -/
theorem isAuthorized_iff_presentable {route : HostRoute} {headers : Headers} {token : String}
    {value : FieldValue} (hroute : route.auth = (some token).filter fun a => a != "")
    (hvalue : FieldValue.ofText? ("Bearer " ++ token) = some value)
    (hfirst : headers.get? .authorization = some value) :
    isAuthorized route headers = true ↔ Presentable token := by
  by_cases hne : token = ""
  · subst hne
    have hopen : route.auth = none := hroute
    rw [isAuthorized, hopen]
    refine iff_of_true rfl ⟨?_, ?_, ?_⟩
    all_goals
      intro c hc
      cases hc
  · have hasked : route.auth = some token := by
      rw [hroute, Option.filter_some, if_pos (bne_iff_ne.2 hne)]
    rw [isAuthorized, hasked, beq_iff_eq]
    exact bearerToken_eq_some_iff hvalue hfirst hne

/--
A request for the host of a committed HTTP tunnel that presents the token of the tunnel, and
nothing else, is forwarded to the client of the tunnel exactly if the token can be presented.
With any other token it is answered as one that presents none.
-/
theorem forwarded_iff_presentable {registry : Registry} {connection name token : String}
    {tunnel : Tunnel} (h : HasTunnel registry connection name tunnel)
    (hhttp : tunnel.protocol = .http) (hauth : tunnel.auth = some token) {request : Request}
    (caller : Caller) {host : String}
    (hhost : requestHost request.headers request.uri = some host)
    (hsame : normalHost host = normalHost tunnel.host) {value : FieldValue}
    (hvalue : FieldValue.ofText? ("Bearer " ++ token) = some value)
    (honly : request.headers.getAll .authorization = [value]) :
    ∃ route, registry.resolve host = some route ∧ route.connection = connection ∧
      route.tunnel = name ∧
      (routeRequest registry request caller = forwardRequest route host request caller ↔
        Presentable token) ∧
      (routeRequest registry request caller = .answered unauthorizedResponse ↔
        ¬ Presentable token) := by
  obtain ⟨route, hresolve, hconnection, hname, hprotocol, hroute⟩ := h.exists_resolve hsame
  have hrouteHttp : route.protocol = .http := hprotocol.trans hhttp
  have hfirst : request.headers.get? .authorization = some value := by
    rw [Headers.get?, honly, List.head?_cons]
  rw [hauth] at hroute
  have hauthorized := isAuthorized_iff_presentable hroute hvalue hfirst
  refine ⟨route, hresolve, hconnection, hname, ?_⟩
  by_cases hpresentable : Presentable token
  · have hforward := routeRequest_of_resolve caller hhost hresolve hrouteHttp
      (hauthorized.2 hpresentable)
    refine ⟨iff_of_true hforward hpresentable, iff_of_false ?_ (not_not_intro hpresentable)⟩
    rw [hforward]
    intro hanswered
    cases hanswered
  · have hrefused : isAuthorized route request.headers = false := by
      rw [← Bool.not_eq_true, hauthorized]
      exact hpresentable
    have hanswered := routeRequest_of_refused caller hhost hresolve hrouteHttp hrefused
    refine ⟨iff_of_false ?_ hpresentable, iff_of_true hanswered hpresentable⟩
    rw [hanswered]
    intro hforward
    cases hforward

/-- An HTTP tunnel with a token. -/
def guardedTunnel (token : String) : Tunnel := ⟨.http, "a.example", some token, ""⟩

/-- A request for its host with this field. -/
def guardedRequest (value : FieldValue) : Request :=
  pageRequest (.literal "a.example") (Headers.empty.insert .authorization value)

theorem requestHost_guardedRequest (value : FieldValue) :
    requestHost (guardedRequest value).headers (guardedRequest value).uri = some "a.example" := by
  change requestHost ((Headers.empty.insert .authorization value).insert hostField _)
    ⟨none, none, "/x"⟩ = _
  rw [requestHost, Headers.get?_insert, if_pos rfl]
  decide

theorem getAll_guardedRequest (value : FieldValue) :
    (guardedRequest value).headers.getAll .authorization = [value] := by
  change ((Headers.empty.insert .authorization value).insert hostField _).getAll _ = _
  rw [Headers.getAll_insert, if_neg (by decide), Headers.getAll_insert, if_pos rfl]

/-- What the client of the tunnel owns once it is committed. -/
def guardedHoldings (token : String) : Holdings :=
  ⟨"a", "10.0.0.1:5000", [hostClaim "web" (guardedTunnel token)], []⟩

theorem exists_commit_guarded (token : String) :
    ∃ registry, sharedServer.registry.commit (guardedHoldings token) = .ok registry := by
  have hclient : sharedServer.registry.clients.get? "a" = some ⟨"10.0.0.1:5000", none⟩ := rfl
  have hcheck : Registry.checkClaims sharedServer.registry.hosts []
      [hostClaim "web" (guardedTunnel token)] = .ok () := by
    have hhost : normalHost "a.example" ≠ "" := by decide
    have hfree : sharedServer.registry.hosts.contains (normalHost "a.example") = false := rfl
    simp [Registry.checkClaims, hostClaim, guardedTunnel, hhost, hfree]
  simp [Registry.commit, guardedHoldings, hclient, hcheck]

/-- Whatever the token is, the tunnel is opened and committed. -/
theorem exists_provision_guarded (token : String) :
    ∃ s', provision sharedServer "10.0.0.1:5000" "a" (.ofList [("web", guardedTunnel token)])
        openSurroundings = (s', .ok ()) ∧
      HasTunnel s'.registry "10.0.0.1:5000" "web" (guardedTunnel token) := by
  let t : Task := .accept "10.0.0.1:5000" openSurroundings
  have hstart : provision sharedServer "10.0.0.1:5000" "a"
      (.ofList [("web", guardedTunnel token)]) openSurroundings =
      provision.go sharedServer (t.goTo (.opening "a" [("web", guardedTunnel token)] .empty)) := rfl
  have hopen : (t.goTo (.opening "a" [("web", guardedTunnel token)] .empty)).step sharedServer =
      (sharedServer, t.goTo (.opening "a" [] ⟨(guardedHoldings token).claims, []⟩)) := by
    have hblank : Text.isBlankText "a.example" = false := by decide
    simp only [Task.step, Task.goTo, Task.openTunnel, guardedTunnel, hblank]
    rfl
  have hend : (t.goTo (.opening "a" [] ⟨(guardedHoldings token).claims, []⟩)).step sharedServer =
      (sharedServer, t.goTo (.committing "a" ⟨(guardedHoldings token).claims, []⟩)) := rfl
  obtain ⟨registry, hcommit⟩ := exists_commit_guarded token
  have hheld : t.holdings "a" ⟨(guardedHoldings token).claims, []⟩ = guardedHoldings token := rfl
  refine ⟨{ sharedServer with registry }, ?_, ?_⟩
  · rw [hstart, go_step rfl (by simp [Task.goTo]) (by simp [Task.goTo]), hopen,
      go_step rfl (by simp [Task.goTo]) (by simp [Task.goTo]), hend, go_committing, hheld, hcommit]
  · have hconsistent : sharedServer.registry.Consistent :=
      Registry.consistent_foldl Registry.consistent_empty _
    obtain ⟨-, -, -, hafter⟩ := Registry.commit_eq_ok hcommit
    refine ⟨Registry.consistent_commit hconsistent hcommit, "a", guardedHoldings token, ?_,
      List.mem_cons_self⟩
    rw [hafter]
    exact NameMap.get?_insert_self

/-- A token with a space and a tab inside is let through. -/
theorem forwarded_iff_presentable_inner :
    ∃ s' value route,
      provision sharedServer "10.0.0.1:5000" "a" (.ofList [("web", guardedTunnel "s3 cret\t~")])
          openSurroundings = (s', .ok ()) ∧
      FieldValue.ofText? ("Bearer " ++ "s3 cret\t~") = some value ∧ route.tunnel = "web" ∧
      s'.registry.resolve "a.example" = some route ∧
      routeRequest s'.registry (guardedRequest value) pageCaller =
        forwardRequest route "a.example" (guardedRequest value) pageCaller := by
  obtain ⟨s', hprovision, hcommitted⟩ := exists_provision_guarded "s3 cret\t~"
  have hreadable : IsReadable ("Bearer " ++ "s3 cret\t~") := by decide
  obtain ⟨value, hvalue⟩ := FieldValue.exists_ofText? hreadable
  obtain ⟨route, hresolve, -, hname, hforward, -⟩ :=
    forwarded_iff_presentable hcommitted rfl rfl pageCaller (requestHost_guardedRequest value) rfl
      hvalue (getAll_guardedRequest value)
  have hpresentable : Presentable "s3 cret\t~" := presentable_iff.2 (by decide)
  exact ⟨s', value, route, hprovision, hvalue, hname, hresolve, hforward.2 hpresentable⟩

/-- Whatever forms a field value and cannot be presented is committed and refused. -/
theorem exists_refused {token : String} (hfield : IsFieldText ("Bearer " ++ token))
    (hunfit : ¬ (IsReadable token ∧ Text.trim token = token)) :
    ∃ s' value,
      provision sharedServer "10.0.0.1:5000" "a" (.ofList [("web", guardedTunnel token)])
          openSurroundings = (s', .ok ()) ∧
      HasTunnel s'.registry "10.0.0.1:5000" "web" (guardedTunnel token) ∧
      FieldValue.ofText? ("Bearer " ++ token) = some value ∧
      requestHost (guardedRequest value).headers (guardedRequest value).uri =
        some (guardedTunnel token).host ∧
      (guardedRequest value).headers.getAll .authorization = [value] ∧
      routeRequest s'.registry (guardedRequest value) pageCaller =
        .answered unauthorizedResponse := by
  rw [← presentable_iff] at hunfit
  obtain ⟨value, hvalue⟩ := Option.isSome_iff_exists.1 (FieldValue.isSome_ofText?_iff.2 hfield)
  obtain ⟨s', hprovision, hcommitted⟩ := exists_provision_guarded token
  have hhost := requestHost_guardedRequest value
  have honly := getAll_guardedRequest value
  have hsame : normalHost "a.example" = normalHost (guardedTunnel token).host := rfl
  obtain ⟨route, hresolve, -, -, hhttp, hauth⟩ := hcommitted.exists_resolve hsame
  have hfirst : (guardedRequest value).headers.get? .authorization = some value := by
    rw [Headers.get?, honly, List.head?_cons]
  have hrefused : isAuthorized route (guardedRequest value).headers = false := by
    rw [← Bool.not_eq_true, isAuthorized_iff_presentable hauth hvalue hfirst]
    exact hunfit
  exact ⟨s', value, hprovision, hcommitted, hvalue, hhost, honly,
    routeRequest_of_refused pageCaller hhost hresolve hhttp hrefused⟩

/-- A server opens and commits a tunnel whose token is not ASCII, and answers the caller who
presents this token as one who presents none. -/
theorem committed_token_refused :
    ∃ s' value,
      provision sharedServer "10.0.0.1:5000" "a" (.ofList [("web", guardedTunnel "é")])
          openSurroundings = (s', .ok ()) ∧
      HasTunnel s'.registry "10.0.0.1:5000" "web" (guardedTunnel "é") ∧
      FieldValue.ofText? ("Bearer " ++ "é") = some value ∧
      requestHost (guardedRequest value).headers (guardedRequest value).uri =
        some (guardedTunnel "é").host ∧
      (guardedRequest value).headers.getAll .authorization = [value] ∧
      routeRequest s'.registry (guardedRequest value) pageCaller =
        .answered unauthorizedResponse :=
  exists_refused (by decide) (by decide)

/-- So it is with a token of ASCII that has a blank at its end. -/
theorem padded_token_refused :
    ∃ s' value,
      provision sharedServer "10.0.0.1:5000" "a" (.ofList [("web", guardedTunnel "s3cret ")])
          openSurroundings = (s', .ok ()) ∧
      FieldValue.ofText? ("Bearer " ++ "s3cret ") = some value ∧
      routeRequest s'.registry (guardedRequest value) pageCaller =
        .answered unauthorizedResponse := by
  have hfield : IsFieldText ("Bearer " ++ "s3cret ") := by decide
  have hunfit : ¬ (IsReadable "s3cret " ∧ Text.trim "s3cret " = "s3cret ") := by decide
  obtain ⟨s', value, hprovision, -, hvalue, -, -, hrefused⟩ :=
    exists_refused hfield hunfit
  exact ⟨s', value, hprovision, hvalue, hrefused⟩

end Server

end ReverseTunnel
