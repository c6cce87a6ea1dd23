import ReverseTunnel.Proofs.Http.Forwarded
import ReverseTunnel.Proofs.Http.HopByHop
import ReverseTunnel.Proofs.Http.Uri
import ReverseTunnel.Proofs.Server.Routing

/-!
# The header fields that a local service sees

A public request crosses two hops. The server drops the token and the fields of the caller's
connection, and then names the caller and the host. The client drops the fields of a connection
once more and puts the authority of the local service in `Host`.

As the additions stand after the first removal, no caller can have them dropped by listing their
names in `Connection`; and as what is left of `Connection` lists nothing but `Upgrade`, the second
removal drops nothing (`getAll_removeHopByHop_forwardedHeaders`). So each field that a service sees
is known from the caller's request and from where it went (`handedOn_of_forwarded`).
-/

namespace ReverseTunnel.Server

open Http

/-- The values of a caller's field that belong neither to its connection nor to the server. -/
def keptValues (headers : Headers) (hasAuth : Bool) (name : FieldName) : List FieldValue :=
  if headers.IsHopByHop name ∨ (hasAuth = true ∧ name = .authorization) then []
  else headers.getAll name

/-- The headers without the token for the server. -/
def withoutToken (headers : Headers) (hasAuth : Bool) : Headers :=
  if hasAuth then headers.remove .authorization else headers

theorem getAll_withoutToken (headers : Headers) (hasAuth : Bool) (name : FieldName) :
    (withoutToken headers hasAuth).getAll name =
      if hasAuth = true ∧ name = .authorization then [] else headers.getAll name := by
  cases hasAuth with
  | false =>
    rw [if_neg (fun h => Bool.noConfusion h.1)]
    rfl
  | true =>
    rw [withoutToken, if_pos rfl, Headers.getAll_remove]
    simp only [true_and]

/-- The token stands in no field that the removal reads. -/
theorem upgradeProtocol_withoutToken (headers : Headers) (hasAuth : Bool) :
    (withoutToken headers hasAuth).upgradeProtocol = headers.upgradeProtocol := by
  apply Headers.upgradeProtocol_congr
  · rw [getAll_withoutToken, if_neg (fun h => absurd h.2 (by decide))]
  · rw [getAll_withoutToken, if_neg (fun h => absurd h.2 (by decide))]

theorem isHopByHop_withoutToken (headers : Headers) (hasAuth : Bool) (name : FieldName) :
    (withoutToken headers hasAuth).IsHopByHop name ↔ headers.IsHopByHop name := by
  have hlisted : (withoutToken headers hasAuth).listedNames = headers.listedNames := by
    apply Headers.listedNames_congr
    rw [getAll_withoutToken, if_neg (fun h => absurd h.2 (by decide))]
  rw [Headers.IsHopByHop, Headers.IsHopByHop, hlisted]

/-- What the first removal leaves of a field. -/
theorem getAll_removeHopByHop_withoutToken (headers : Headers) (hasAuth : Bool) {name : FieldName}
    (hc : name ≠ .connection) (hu : name ≠ .upgrade) :
    (withoutToken headers hasAuth).removeHopByHop.getAll name = keptValues headers hasAuth name := by
  rw [Headers.getAll_removeHopByHop _ hc hu, getAll_withoutToken, keptValues]
  by_cases hhop : headers.IsHopByHop name
  · rw [if_pos ((isHopByHop_withoutToken headers hasAuth name).2 hhop), if_pos (.inl hhop)]
  · rw [if_neg fun h => hhop ((isHopByHop_withoutToken headers hasAuth name).1 h)]
    by_cases htoken : hasAuth = true ∧ name = .authorization
    · rw [if_pos htoken, if_pos (.inr htoken)]
    · rw [if_neg htoken, if_neg (not_or.2 ⟨hhop, htoken⟩)]

/-! ## The fields that the server adds -/

/-- The fields of the request that goes to the client, name by name. -/
theorem getAll_forwardedHeaders (headers : Headers) {host : String} (hhost : IsReadable host)
    {caller : Caller} (hip : SocketAddress.IsIp caller.ip) (hasAuth : Bool) :
    ∃ callers named, callers.elements.getLast? = some caller.ip ∧
      FieldValue.ofText? host = some named ∧
      ∀ name, (forwardedHeaders headers host caller hasAuth).getAll name =
        let kept := (withoutToken headers hasAuth).removeHopByHop.getAll name
        if name = forwardedProtoField ∧ kept = [] then [ControlMessage.protocolValue .http]
        else if name = hostField ∧ kept = [] then [named]
        else if name = forwardedHostField then [named]
        else if name = .forwardedFor then [callers]
        else kept := by
  obtain ⟨named, hnamed⟩ := FieldValue.exists_ofText? hhost
  obtain ⟨callers, happended, hlast⟩ :=
    (withoutToken headers hasAuth).removeHopByHop.appendForwardedFor_eq hip
  refine ⟨callers, named, hlast, hnamed, ?_⟩
  intro name
  have hproto : forwardedProtoField ≠ hostField ∧ forwardedProtoField ≠ forwardedHostField ∧
      forwardedProtoField ≠ .forwardedFor := by decide
  have hhostNe : hostField ≠ forwardedHostField ∧ hostField ≠ .forwardedFor := by decide
  have heq : forwardedHeaders headers host caller hasAuth =
      ((((withoutToken headers hasAuth).removeHopByHop.insert .forwardedFor callers).insert
        forwardedHostField named).insertIfAbsent hostField named).insertIfAbsent
          forwardedProtoField (ControlMessage.protocolValue .http) := by
    rw [← happended]
    simp only [forwardedHeaders, nameHost, hnamed]
    rfl
  rw [heq]
  simp only [Headers.getAll_insertIfAbsent, Headers.getAll_insert]
  grind

/-- The client drops nothing of what the server sends. -/
theorem getAll_removeHopByHop_forwardedHeaders (headers : Headers) {host : String}
    (hhost : IsReadable host) {caller : Caller} (hip : SocketAddress.IsIp caller.ip)
    (hasAuth : Bool) (name : FieldName) :
    (forwardedHeaders headers host caller hasAuth).removeHopByHop.getAll name =
      (forwardedHeaders headers host caller hasAuth).getAll name := by
  obtain ⟨callers, named, -, -, hfields⟩ := getAll_forwardedHeaders headers hhost hip hasAuth
  apply Headers.getAll_removeHopByHop_of_passed (h := withoutToken headers hasAuth)
  intro name hfixed
  -- None of the added fields belongs to a connection.
  have hadded : ∀ name ∈ hopByHopNames, name ≠ forwardedProtoField ∧ name ≠ hostField ∧
      name ≠ forwardedHostField ∧ name ≠ .forwardedFor := by decide
  obtain ⟨hproto, hhostField, hforwardedHost, hforwardedFor⟩ := hadded name hfixed
  rw [hfields]
  dsimp only
  rw [if_neg fun h => hproto h.1, if_neg fun h => hhostField h.1, if_neg hforwardedHost,
    if_neg hforwardedFor]

/-! ## What arrives -/

/-- The header fields that a local service sees, given those of the caller. -/
structure HandedOn (headers : Headers) (requested : String) (caller : Caller) (hasAuth : Bool)
    (authority : String) (seen : Headers) : Prop where
  /-- Both connection fields are there exactly for a switch of protocols. -/
  connection : seen.getAll .connection =
    (headers.upgradeProtocol.map fun _ => FieldValue.literal "upgrade").toList
  upgrade : seen.getAll .upgrade = headers.upgradeProtocol.toList
  /-- The host is the local one, and the caller's stands beside it. -/
  host : ∃ value, FieldValue.ofText? authority = some value ∧ seen.getAll hostField = [value]
  forwardedHost : ∃ value, FieldValue.ofText? requested = some value ∧
    seen.getAll forwardedHostField = [value]
  /-- The last of the callers is the one that the server saw. -/
  forwardedFor : ∃ value, value.elements.getLast? = some caller.ip ∧
    seen.getAll .forwardedFor = [value]
  forwardedProto : seen.getAll forwardedProtoField =
    if keptValues headers hasAuth forwardedProtoField = [] then [ControlMessage.protocolValue .http]
    else keptValues headers hasAuth forwardedProtoField
  /-- All other fields are the caller's, as far as they may cross the hops. -/
  other : ∀ name, name ≠ .connection → name ≠ .upgrade → name ≠ hostField →
    name ≠ forwardedHostField → name ≠ .forwardedFor → name ≠ forwardedProtoField →
    seen.getAll name = keptValues headers hasAuth name

/-- The fields after both hops. -/
theorem handedOn_insert (headers : Headers) {host : String} (hhost : IsReadable host)
    {caller : Caller} (hip : SocketAddress.IsIp caller.ip) (hasAuth : Bool) {authority : String}
    {value : FieldValue} (hvalue : FieldValue.ofText? authority = some value) :
    HandedOn headers host caller hasAuth authority
      ((forwardedHeaders headers host caller hasAuth).removeHopByHop.insert hostField value) := by
  obtain ⟨callers, named, hlast, hnamed, hfields⟩ :=
    getAll_forwardedHeaders headers hhost hip hasAuth
  have hseen : ∀ name, name ≠ hostField →
      ((forwardedHeaders headers host caller hasAuth).removeHopByHop.insert hostField value).getAll
        name = (forwardedHeaders headers host caller hasAuth).getAll name := by
    intro name hname
    rw [Headers.getAll_insert, if_neg hname]
    exact getAll_removeHopByHop_forwardedHeaders headers hhost hip hasAuth name
  -- The fields that neither hop adds are those that the first removal left.
  have hleft : ∀ name, name ≠ hostField → name ≠ forwardedHostField → name ≠ .forwardedFor →
      name ≠ forwardedProtoField →
      ((forwardedHeaders headers host caller hasAuth).removeHopByHop.insert hostField value).getAll
        name = (withoutToken headers hasAuth).removeHopByHop.getAll name := by
    intro name hname hforwardedHost hforwardedFor hproto
    rw [hseen name hname, hfields]
    dsimp only
    rw [if_neg fun h => hproto h.1, if_neg fun h => hname h.1, if_neg hforwardedHost,
      if_neg hforwardedFor]
  constructor
  case connection =>
    rw [hleft .connection (by decide) (by decide) (by decide) (by decide),
      Headers.getAll_connection_removeHopByHop, upgradeProtocol_withoutToken]
  case upgrade =>
    rw [hleft .upgrade (by decide) (by decide) (by decide) (by decide),
      Headers.getAll_upgrade_removeHopByHop, upgradeProtocol_withoutToken]
  case host =>
    refine ⟨value, hvalue, ?_⟩
    rw [Headers.getAll_insert]
    exact if_pos rfl
  case forwardedHost =>
    refine ⟨named, hnamed, ?_⟩
    rw [hseen forwardedHostField (by decide), hfields]
    dsimp only
    rw [if_neg fun h => absurd h.1 (by decide), if_neg fun h => absurd h.1 (by decide)]
    exact if_pos rfl
  case forwardedFor =>
    refine ⟨callers, hlast, ?_⟩
    rw [hseen .forwardedFor (by decide), hfields]
    dsimp only
    rw [if_neg fun h => absurd h.1 (by decide), if_neg fun h => absurd h.1 (by decide),
      if_neg (by decide)]
    exact if_pos rfl
  case forwardedProto =>
    rw [hseen forwardedProtoField (by decide), hfields]
    dsimp only
    rw [getAll_removeHopByHop_withoutToken headers hasAuth (by decide) (by decide)]
    by_cases hkept : keptValues headers hasAuth forwardedProtoField = []
    · rw [if_pos ⟨rfl, hkept⟩, if_pos hkept]
    · rw [if_neg fun h => hkept h.2, if_neg hkept, if_neg fun h => absurd h.1 (by decide),
        if_neg (by decide), if_neg (by decide)]
  case other =>
    intro name hc hu hname hforwardedHost hforwardedFor hproto
    rw [hleft name hname hforwardedHost hforwardedFor hproto]
    exact getAll_removeHopByHop_withoutToken headers hasAuth hc hu

/-- The host of a request that was parsed can stand in a field value. -/
theorem isReadable_of_requestHost {headers : Headers} {uri : Uri} {s host : String}
    (hparsed : Uri.parse? s = some uri) (h : requestHost headers uri = some host) :
    IsReadable host := by
  obtain ⟨hfound, -⟩ := Option.filter_eq_some_iff.1 h
  rcases Option.or_eq_some_iff.1 hfound with hfield | ⟨-, hauthority⟩
  · obtain ⟨value, -, htext⟩ := Option.bind_eq_some_iff.1 hfield
    exact FieldValue.isReadable_of_text? htext
  · exact Uri.isReadable_authority hparsed hauthority

/-- A request that comes to a local service goes to the authority of the host's URL. -/
theorem routedRequest_eq_ok {routes : HttpRoutes} {host : String} {request seen : Request}
    (h : Client.routedRequest routes host request = .ok seen) :
    ∃ url authority value, routes.lookup (Client.routingHost host request.headers) = some url ∧
      url.authority = some authority ∧ FieldValue.ofText? authority = some value ∧
      seen.headers = request.headers.removeHopByHop.insert hostField value := by
  unfold Client.routedRequest at h
  split at h
  · next url hurl =>
    simp only [Client.localRequest, bind, Except.bind, pure, Except.pure] at h
    cases hauthority : url.authority with
    | none => simp [hauthority] at h
    | some authority =>
      rw [hauthority] at h
      cases htarget : Client.localTarget url request.uri with
      | error fault => simp [htarget] at h
      | ok target =>
        rw [htarget] at h
        cases hvalue : FieldValue.ofText? authority with
        | none => simp [hvalue] at h
        | some value =>
          simp only [hvalue, Except.ok.injEq] at h
          rw [← h]
          exact ⟨url, authority, value, hurl, hauthority, hvalue, rfl⟩
  · cases h

/-- Every request that the server forwards and the client takes to a local service comes there
with the caller's fields, without those of the caller's connection and the token for the server,
and with the host, the caller and the protocol named anew. -/
theorem handedOn_of_forwarded {registry : Registry} {request sent : Request} {caller : Caller}
    {route : HostRoute} {message : ControlMessage} {upgrade : Bool}
    (hforward : routeRequest registry request caller = .forwarded route message sent upgrade)
    {target : String} (hparsed : Uri.parse? target = some request.uri)
    (hip : SocketAddress.IsIp caller.ip) {routes : HttpRoutes} {seen : Request}
    (hseen : Client.routedRequest routes message.host sent = .ok seen) :
    ∃ host url authority, requestHost request.headers request.uri = some host ∧
      routes.lookup host = some url ∧ url.authority = some authority ∧
      HandedOn request.headers host caller route.auth.isSome authority seen.headers := by
  obtain ⟨hhost, -, -, -, hsent⟩ := forwardRequest_of_routeRequest hforward
  obtain ⟨url, authority, value, hurl, hauthority, hvalue, hheaders⟩ := routedRequest_eq_ok hseen
  rw [Client.routingHost, if_neg (ne_empty_of_requestHost hhost)] at hurl
  refine ⟨message.host, url, authority, hhost, hurl, hauthority, ?_⟩
  simp only [forwardRequest, Forwarding.forwarded.injEq] at hsent
  rw [hheaders, ← hsent.2.2.1]
  exact handedOn_insert request.headers (isReadable_of_requestHost hparsed hhost) hip _ hvalue

theorem exists_ok_of_isOk {ε α : Type} {result : Except ε α} (h : result.isOk = true) :
    ∃ a, result = .ok a := by
  cases result with
  | error fault => cases h
  | ok a => exact ⟨a, rfl⟩

/-- The fields of a request to switch protocols: its sender lists a field of its own and the
list of callers as belonging to the connection, and claims to come from elsewhere. -/
def upgradeFields : Headers :=
  ⟨[(.connection, .literal "Upgrade, X-Hop, X-Forwarded-For"),
    (.upgrade, .literal "websocket"), (.ofText "x-hop", .literal "1"),
    (.forwardedFor, .literal "198.51.100.1"), (.authorization, .literal "Bearer hush"),
    (.ofText "accept", .literal "text/plain"), (.ofText "accept", .literal "text/html")]⟩

/-- Control: the request arrives as one to switch protocols, without its token and the listed
fields, and as one of the caller that the server saw. -/
theorem handedOn_of_forwarded_upgrade :
    ∃ sent upgrade seen,
      routeRequest mixedRegistry (pageRequest (.literal "c.example") upgradeFields) pageCaller =
        .forwarded ⟨"node", "10.0.0.1:5000", "c", .http, some "hush"⟩
          ⟨.http, "c.example", "c", pageCaller.address⟩ sent upgrade ∧
      Uri.parse? "/x" = some (pageRequest (.literal "c.example") upgradeFields).uri ∧
      SocketAddress.IsIp pageCaller.ip ∧
      Client.routedRequest mixedRoutes.http "c.example" sent = .ok seen ∧
      ∃ host url authority,
        requestHost (pageRequest (.literal "c.example") upgradeFields).headers
          (pageRequest (.literal "c.example") upgradeFields).uri = some host ∧
        mixedRoutes.http.lookup host = some url ∧ url.authority = some authority ∧
        HandedOn (pageRequest (.literal "c.example") upgradeFields).headers host pageCaller true
          authority seen.headers := by
  have hhost : requestHost (pageRequest (.literal "c.example") upgradeFields).headers
      ⟨none, none, "/x"⟩ = some "c.example" := by decide +kernel
  have hresolve : mixedRegistry.resolve "c.example" =
      some ⟨"node", "10.0.0.1:5000", "c", .http, some "hush"⟩ := by decide +kernel
  have hauthorized : isAuthorized ⟨"node", "10.0.0.1:5000", "c", .http, some "hush"⟩
      (pageRequest (.literal "c.example") upgradeFields).headers = true := by decide +kernel
  have hforward := routeRequest_of_resolve pageCaller hhost hresolve rfl hauthorized
  have hparsed : Uri.parse? "/x" =
      some (pageRequest (.literal "c.example") upgradeFields).uri := by decide +kernel
  have hip : SocketAddress.IsIp pageCaller.ip := by decide +kernel
  have harrives : (Client.routedRequest mixedRoutes.http "c.example"
      { pageRequest (.literal "c.example") upgradeFields with
        uri := originForm ⟨none, none, "/x"⟩
        headers := forwardedHeaders (pageRequest (.literal "c.example") upgradeFields).headers
          "c.example" pageCaller true }).isOk = true := by decide +kernel
  obtain ⟨seen, hseen⟩ := exists_ok_of_isOk harrives
  exact ⟨_, _, seen, hforward, hparsed, hip, hseen,
    handedOn_of_forwarded hforward hparsed hip hseen⟩

end ReverseTunnel.Server
