import ReverseTunnel.Proofs.NameMap
import ReverseTunnel.Registry

/-!
# Consistency of the registry

The registry keeps four maps in step: the pending keys, the clients, their
connections, and the index of hosts. `Registry.Consistent` says what each knows
of the others. Every call keeps it, whatever its arguments (`consistent_apply`),
so it holds after every run of calls from the empty registry
(`consistent_run`).

Removing a client drops the normal forms of its claims from the index without
looking at whose routes they are. That this takes away the client's own routes
and no others rests on `Consistent.single`: no two claims have the same normal
form.
-/

namespace ReverseTunnel

/-- The claim at a place is for this host, and has this route. -/
def Holdings.Claims (h : Holdings) (place : Nat) (host : String) (route : HostRoute) : Prop :=
  ∃ claim, h.claims[place]? = some claim ∧ normalHost claim.host = host ∧ h.route claim = route

/-- The normal forms of the claimed hosts in the order of the claims. -/
def Holdings.claimedHosts (h : Holdings) : List String :=
  h.claims.map fun claim => normalHost claim.host

namespace Registry

/-- A client owns what it committed. -/
def Owns (r : Registry) (name : String) (h : Holdings) : Prop :=
  ∃ key, r.clients.get? name = some ⟨key, some h⟩

/-- A client claims this host at a place of what it owns, with this route. -/
def Claims (r : Registry) (name : String) (place : Nat) (host : String) (route : HostRoute) :
    Prop :=
  ∃ h, r.Owns name h ∧ h.Claims place host route

/-- What the four maps of a registry know of each other. -/
structure Consistent (r : Registry) : Prop where
  /-- A pending key has no client yet. -/
  disjoint : ∀ key, r.pending.contains key = true → r.connections.get? key = none
  /-- A connection has a client exactly when that client has the connection. -/
  inverse : ∀ name key,
    r.connections.get? key = some name ↔ ∃ held, r.clients.get? name = some ⟨key, held⟩
  /-- What a client owns bears its name and its connection. -/
  own : ∀ name key h, r.clients.get? name = some ⟨key, some h⟩ →
    h.clientName = name ∧ h.connection = key
  /-- The index of hosts holds the routes of all claims, and nothing else. -/
  indexed : ∀ host route,
    r.hosts.get? host = some route ↔ ∃ name place, r.Claims name place host route
  /-- No two claims are for the same host. -/
  single : ∀ host name place route name' place' route',
    r.Claims name place host route → r.Claims name' place' host route' →
      name = name' ∧ place = place'
  /-- No claim is for the empty host. -/
  nonempty : ∀ host name place route, r.Claims name place host route → host ≠ ""

/-- A call that may change the registry. -/
inductive Call where
  | reserve (key : String)
  | subscribe (name key : String)
  | commit (h : Holdings)
  | unsubscribe (key name : String)
  | clear (key : String)

/-- The registry after a call that can be refused. -/
def after (r : Registry) : Except RegistryError Registry → Registry
  | .ok r' => r'
  | .error _ => r

/-- The registry after a call. -/
def apply (r : Registry) : Call → Registry
  | .reserve key => r.after (r.reserve key)
  | .subscribe name key => r.after (r.subscribe name key)
  | .commit h => r.after (r.commit h)
  | .unsubscribe key name => (r.unsubscribe key name).2
  | .clear key => (r.clear key).2

/-- The registry after some calls. -/
def run (r : Registry) (calls : List Call) : Registry := calls.foldl apply r

/-! ## The index of hosts under one batch of claims -/

theorem mem_claimedHosts_iff {h : Holdings} {host : String} :
    host ∈ h.claimedHosts ↔ ∃ place route, h.Claims place host route := by
  rw [Holdings.claimedHosts, List.mem_map]
  constructor
  · rintro ⟨claim, hmem, hhost⟩
    obtain ⟨place, hplace⟩ := List.mem_iff_getElem?.1 hmem
    exact ⟨place, h.route claim, claim, hplace, hhost, rfl⟩
  · rintro ⟨place, -, claim, hplace, hhost, -⟩
    exact ⟨claim, List.mem_of_getElem? hplace, hhost⟩

/-- Claims that pass the check are for hosts that are neither empty nor taken, and
all different. -/
theorem checkClaims_eq_ok {hosts : NameMap HostRoute} {taken : List String}
    {claims : List HostClaim} (h : checkClaims hosts taken claims = .ok ()) :
    (∀ claim ∈ claims, normalHost claim.host ≠ "" ∧ hosts.get? (normalHost claim.host) = none ∧
        normalHost claim.host ∉ taken) ∧
      (claims.map fun claim => normalHost claim.host).Nodup := by
  -- Each claim passed is added to the hosts taken, so the rest differ from it too.
  induction claims generalizing taken with
  | nil => simp
  | cons claim rest ih =>
    simp only [checkClaims] at h
    split at h
    · cases h
    · next hne =>
      split at h
      · cases h
      · next hfree =>
        simp only [Bool.or_eq_true, List.contains_iff_mem, not_or, Bool.not_eq_true,
          NameMap.contains_eq_false_iff] at hfree
        obtain ⟨hrest, hnodup⟩ := ih h
        refine ⟨?_, ?_⟩
        · intro c hc
          rcases List.mem_cons.1 hc with rfl | hc
          · exact ⟨hne, hfree⟩
          · obtain ⟨h1, h2, h3⟩ := hrest c hc
            exact ⟨h1, h2, fun hmem => h3 (List.mem_cons_of_mem _ hmem)⟩
        · rw [List.map_cons, List.nodup_cons]
          refine ⟨fun hmem => ?_, hnodup⟩
          obtain ⟨c, hc, heq⟩ := List.mem_map.1 hmem
          exact (hrest c hc).2.2 (heq ▸ List.mem_cons_self)

theorem get?_foldl_insert (h : Holdings) (claims : List HostClaim) (hosts : NameMap HostRoute)
    (hnodup : (claims.map fun claim => normalHost claim.host).Nodup) (host : String)
    (route : HostRoute) :
    (claims.foldl (fun hosts claim => hosts.insert (normalHost claim.host) (h.route claim))
        hosts).get? host = some route ↔
      (∃ claim ∈ claims, normalHost claim.host = host ∧ h.route claim = route) ∨
        host ∉ claims.map (fun claim => normalHost claim.host) ∧ hosts.get? host = some route := by
  -- The first claim is inserted before the rest, so a later one would hide it;
  -- `hnodup` excludes that.
  induction claims generalizing hosts with
  | nil => simp
  | cons claim rest ih =>
    rw [List.map_cons, List.nodup_cons] at hnodup
    rw [List.foldl_cons, ih _ hnodup.2, NameMap.get?_insert]
    by_cases heq : host = normalHost claim.host
    · subst heq
      have hnot : ¬ ∃ c ∈ rest, normalHost c.host = normalHost claim.host ∧ h.route c = route := by
        rintro ⟨c, hc, hcl, -⟩
        exact hnodup.1 (List.mem_map.2 ⟨c, hc, hcl⟩)
      simp [hnodup.1, hnot]
    · simp [heq, Ne.symm heq]

/-- The index with a batch of claims answers with their routes, and as before for
every other host. -/
theorem get?_addClaims {hosts : NameMap HostRoute} {h : Holdings} (hnodup : h.claimedHosts.Nodup)
    (host : String) (route : HostRoute) :
    (addClaims hosts h).get? host = some route ↔
      (∃ place, h.Claims place host route) ∨
        host ∉ h.claimedHosts ∧ hosts.get? host = some route := by
  rw [addClaims, get?_foldl_insert h h.claims hosts hnodup host route]
  refine or_congr ⟨?_, ?_⟩ Iff.rfl
  · rintro ⟨claim, hmem, hclaim⟩
    obtain ⟨place, hplace⟩ := List.mem_iff_getElem?.1 hmem
    exact ⟨place, claim, hplace, hclaim⟩
  · rintro ⟨place, claim, hplace, hclaim⟩
    exact ⟨claim, List.mem_of_getElem? hplace, hclaim⟩

/-- The index without some claims answers nothing for their hosts, and as before
for every other host. -/
theorem get?_dropClaims (claims : List HostClaim) (hosts : NameMap HostRoute) (host : String) :
    (dropClaims hosts claims).get? host =
      if host ∈ claims.map (fun claim => normalHost claim.host) then none else hosts.get? host := by
  induction claims generalizing hosts with
  | nil => simp [dropClaims]
  | cons claim rest ih =>
    have hstep : dropClaims hosts (claim :: rest) =
        dropClaims (hosts.erase (normalHost claim.host)) rest := rfl
    simp only [hstep, ih, NameMap.get?_erase, List.map_cons, List.mem_cons]
    by_cases h : host ∈ rest.map (fun claim => normalHost claim.host)
    · rw [if_pos h, if_pos (Or.inr h)]
    · by_cases heq : host = normalHost claim.host
      · rw [if_neg h, if_pos heq, if_pos (Or.inl heq)]
      · rw [if_neg h, if_neg heq, if_neg (not_or.2 ⟨heq, h⟩)]

/-! ## What a call does -/

theorem reserve_eq_ok {r r' : Registry} {key : String} (h : r.reserve key = .ok r') :
    r.pending.get? key = none ∧ r.connections.get? key = none ∧
      r' = { r with pending := r.pending.insert key () } := by
  simp only [reserve] at h
  split at h
  · cases h
  · next hfree =>
    simp only [Bool.or_eq_true, not_or, Bool.not_eq_true, NameMap.contains_eq_false_iff] at hfree
    cases h
    exact ⟨hfree.1, hfree.2, rfl⟩

theorem subscribe_eq_ok {r r' : Registry} {name key : String} (h : r.subscribe name key = .ok r') :
    r.clients.get? name = none ∧ r.pending.contains key = true ∧
      r' = { r with
        pending := r.pending.erase key
        clients := r.clients.insert name ⟨key, none⟩
        connections := r.connections.insert key name } := by
  simp only [subscribe] at h
  split at h
  · cases h
  · next hfree =>
    split at h
    · cases h
    · next hpending =>
      simp only [Bool.not_eq_true, NameMap.contains_eq_false_iff] at hfree
      cases h
      exact ⟨hfree, by simpa using hpending, rfl⟩

theorem commit_eq_ok {r r' : Registry} {h : Holdings} (hok : r.commit h = .ok r') :
    r.clients.get? h.clientName = some ⟨h.connection, none⟩ ∧
      (∀ host ∈ h.claimedHosts, host ≠ "" ∧ r.hosts.get? host = none) ∧ h.claimedHosts.Nodup ∧
      r' = { r with
        clients := r.clients.insert h.clientName ⟨h.connection, some h⟩
        hosts := addClaims r.hosts h } := by
  simp only [commit] at hok
  split at hok
  · cases hok
  · next subscriber hclient =>
    split at hok
    · cases hok
    · next hconnection =>
      split at hok
      · cases hok
      · next hholdings =>
        split at hok
        · cases hok
        · next hchecked =>
          obtain ⟨connection, holdings⟩ := subscriber
          simp only [ne_eq, Decidable.not_not, Bool.not_eq_true, Option.isSome_eq_false_iff,
            Option.isNone_iff_eq_none] at hconnection hholdings
          subst hconnection hholdings
          obtain ⟨hclaims, hnodup⟩ := checkClaims_eq_ok hchecked
          cases hok
          refine ⟨hclient, ?_, hnodup, rfl⟩
          intro host hmem
          obtain ⟨claim, hclaim, rfl⟩ := List.mem_map.1 hmem
          exact ⟨(hclaims claim hclaim).1, (hclaims claim hclaim).2.1⟩

/-- The registry without a client that has this entry. -/
def without (r : Registry) (name : String) (s : Subscriber) : Registry :=
  { r with
    clients := r.clients.erase name
    connections := r.connections.erase s.connection
    hosts := (s.holdings.map fun h => dropClaims r.hosts h.claims).getD r.hosts }

theorem get?_clients_without_eq_some_iff {r : Registry} {name n : String} {s s' : Subscriber} :
    (r.without name s).clients.get? n = some s' ↔ n ≠ name ∧ r.clients.get? n = some s' :=
  NameMap.get?_erase_eq_some_iff

theorem removeClient_of_get? {r : Registry} {name : String} {s : Subscriber}
    (h : r.clients.get? name = some s) : r.removeClient name = (s.holdings, r.without name s) := by
  obtain ⟨connection, holdings⟩ := s
  cases holdings <;> simp [removeClient, without, h]

theorem removeClient_of_get?_eq_none {r : Registry} {name : String}
    (h : r.clients.get? name = none) : r.removeClient name = (none, r) := by
  simp [removeClient, h]

/-! ## What a call keeps -/

theorem consistent_empty : empty.Consistent where
  disjoint _ _ := rfl
  inverse _ _ := by simp [empty]
  own _ _ _ h := by cases h
  indexed _ _ := by simp [empty, Claims, Owns]
  single _ _ _ _ _ _ _ h := by simp [empty, Claims, Owns] at h
  nonempty _ _ _ _ h := by simp [empty, Claims, Owns] at h

/-- A registry with the same clients, connections and hosts, in which no pending
key has a client. -/
theorem Consistent.with_pending {r : Registry} (hr : r.Consistent) {pending : NameMap Unit}
    (hp : ∀ key, pending.contains key = true → r.connections.get? key = none) :
    { r with pending }.Consistent :=
  ⟨hp, hr.inverse, hr.own, hr.indexed, hr.single, hr.nonempty⟩

/-- A connection has at most one client. -/
theorem Consistent.name_eq {r : Registry} (hr : r.Consistent) {name name' key : String}
    {held held' : Option Holdings} (h : r.clients.get? name = some ⟨key, held⟩)
    (h' : r.clients.get? name' = some ⟨key, held'⟩) : name' = name := by
  have hconnection := (hr.inverse name key).2 ⟨held, h⟩
  rw [(hr.inverse name' key).2 ⟨held', h'⟩] at hconnection
  exact Option.some.inj hconnection

theorem consistent_reserve {r r' : Registry} {key : String} (hr : r.Consistent)
    (h : r.reserve key = .ok r') : r'.Consistent := by
  obtain ⟨-, hfree, rfl⟩ := reserve_eq_ok h
  refine hr.with_pending fun k hk => ?_
  by_cases heq : k = key
  · rw [heq, hfree]
  · refine hr.disjoint k ?_
    rwa [NameMap.contains, NameMap.get?_insert_of_ne heq] at hk

theorem consistent_erase_pending {r : Registry} (key : String) (hr : r.Consistent) :
    { r with pending := r.pending.erase key }.Consistent := by
  refine hr.with_pending fun k hk => hr.disjoint k ?_
  exact (NameMap.contains_erase_iff.1 hk).2

theorem owns_iff_of_subscribe {r r' : Registry} {name key : String}
    (h : r.subscribe name key = .ok r') (n : String) (held : Holdings) :
    r'.Owns n held ↔ r.Owns n held := by
  obtain ⟨hfree, -, rfl⟩ := subscribe_eq_ok h
  simp only [Owns, NameMap.get?_insert]
  by_cases hn : n = name
  · simp [hn, hfree]
  · simp [hn]

theorem consistent_subscribe {r r' : Registry} {name key : String} (hr : r.Consistent)
    (h : r.subscribe name key = .ok r') : r'.Consistent := by
  have hclaims : r'.Claims = r.Claims := by
    funext n place host route
    simp only [Claims, owns_iff_of_subscribe h]
  obtain ⟨hfree, hpending, rfl⟩ := subscribe_eq_ok h
  have hkey := hr.disjoint key hpending
  -- Neither the name nor the key occurs in the maps it is added to.
  have hnone : ∀ k, r.connections.get? k ≠ some name := by
    intro k hk
    obtain ⟨held, hheld⟩ := (hr.inverse name k).1 hk
    rw [hfree] at hheld
    cases hheld
  have hnoneClient : ∀ n held, r.clients.get? n ≠ some ⟨key, held⟩ := by
    intro n held hn
    have hconn := (hr.inverse n key).2 ⟨held, hn⟩
    rw [hkey] at hconn
    cases hconn
  constructor
  · intro k hk
    obtain ⟨hne, hold⟩ := NameMap.contains_erase_iff.1 hk
    change (r.connections.insert key name).get? k = none
    rw [NameMap.get?_insert_of_ne hne]
    exact hr.disjoint k hold
  · intro n k
    simp only [NameMap.get?_insert]
    -- The new entries of both maps are for each other, so a mixed case has no entry.
    by_cases hk : k = key <;> by_cases hn : n = name
    · simp [hk, hn]
    · simp [hk, hn, hnoneClient n, Ne.symm hn]
    · simp [hk, hn, hnone k, Ne.symm hk]
    · simp only [if_neg hk, if_neg hn]
      exact hr.inverse n k
  · intro n k held hn
    simp only [NameMap.get?_insert] at hn
    split at hn
    · cases hn
    · exact hr.own n k held hn
  · rw [hclaims]
    exact hr.indexed
  · rw [hclaims]
    exact hr.single
  · rw [hclaims]
    exact hr.nonempty

/-- After a commit a client owns what was committed, the others what they did. -/
theorem owns_iff_of_commit {r r' : Registry} {h : Holdings} (hok : r.commit h = .ok r')
    (n : String) (held : Holdings) :
    r'.Owns n held ↔ n = h.clientName ∧ held = h ∨ r.Owns n held := by
  obtain ⟨hclient, -, -, rfl⟩ := commit_eq_ok hok
  simp only [Owns, NameMap.get?_insert]
  by_cases hn : n = h.clientName
  · simp [hn, hclient, eq_comm]
  · simp [hn]

theorem claims_iff_of_commit {r r' : Registry} {h : Holdings} (hok : r.commit h = .ok r')
    (n : String) (place : Nat) (host : String) (route : HostRoute) :
    r'.Claims n place host route ↔
      n = h.clientName ∧ h.Claims place host route ∨ r.Claims n place host route := by
  simp only [Claims, owns_iff_of_commit hok]
  constructor
  · rintro ⟨held, ⟨rfl, rfl⟩ | howns, hclaim⟩
    · exact .inl ⟨rfl, hclaim⟩
    · exact .inr ⟨held, howns, hclaim⟩
  · rintro (⟨rfl, hclaim⟩ | ⟨held, howns, hclaim⟩)
    · exact ⟨h, .inl ⟨rfl, rfl⟩, hclaim⟩
    · exact ⟨held, .inr howns, hclaim⟩

/-- Two claims of one batch for the same host are at the same place. -/
theorem place_eq_of_claims {h : Holdings} (hnodup : h.claimedHosts.Nodup) {host : String}
    {place place' : Nat} {route route' : HostRoute} (hc : h.Claims place host route)
    (hc' : h.Claims place' host route') : place = place' := by
  obtain ⟨claim, hplace, hhost, -⟩ := hc
  obtain ⟨claim', hplace', hhost', -⟩ := hc'
  have hlt : place < h.claims.length := (List.getElem?_eq_some_iff.1 hplace).1
  refine (List.getElem?_inj (by simpa [Holdings.claimedHosts] using hlt) hnodup).1 ?_
  rw [Holdings.claimedHosts, List.getElem?_map, List.getElem?_map, hplace, hplace']
  simp [hhost, hhost']

theorem consistent_commit {r r' : Registry} {h : Holdings} (hr : r.Consistent)
    (hok : r.commit h = .ok r') : r'.Consistent := by
  have hclaims := claims_iff_of_commit hok
  obtain ⟨hclient, hfree, hnodup, rfl⟩ := commit_eq_ok hok
  -- No claim made before is for a host of the batch, since the index knows none of them.
  have hnew : ∀ {n place host route place' route'}, h.Claims place' host route' →
      ¬ r.Claims n place host route := by
    intro n place host route place' route' hbatch hold
    have hindexed := (hr.indexed host route).2 ⟨n, place, hold⟩
    rw [(hfree host (mem_claimedHosts_iff.2 ⟨place', route', hbatch⟩)).2] at hindexed
    cases hindexed
  constructor
  · exact hr.disjoint
  · intro n k
    rw [hr.inverse n k]
    simp only [NameMap.get?_insert]
    -- A commit changes what a client holds, not which connection it has.
    by_cases hn : n = h.clientName
    · simp [hn, hclient]
    · simp [hn]
  · intro n k held hn
    simp only [NameMap.get?_insert] at hn
    split at hn
    · next heq =>
      cases hn
      exact ⟨heq.symm, rfl⟩
    · exact hr.own n k held hn
  · intro host route
    simp only [hclaims]
    rw [get?_addClaims hnodup, hr.indexed]
    constructor
    · rintro (⟨place, hplace⟩ | ⟨-, n, place, hplace⟩)
      · exact ⟨h.clientName, place, .inl ⟨rfl, hplace⟩⟩
      · exact ⟨n, place, .inr hplace⟩
    · rintro ⟨n, place, ⟨-, hplace⟩ | hplace⟩
      · exact .inl ⟨place, hplace⟩
      · refine .inr ⟨fun hmem => ?_, n, place, hplace⟩
        obtain ⟨place', route', hbatch⟩ := mem_claimedHosts_iff.1 hmem
        exact hnew hbatch hplace
  · intro host n place route n' place' route' hc hc'
    rw [hclaims] at hc hc'
    -- Two claims of the batch differ in their hosts; one of the batch and one from
    -- before are not for the same host, by `hnew`.
    rcases hc with ⟨rfl, hc⟩ | hc <;> rcases hc' with ⟨rfl, hc'⟩ | hc'
    · exact ⟨rfl, place_eq_of_claims hnodup hc hc'⟩
    · exact absurd hc' (hnew hc)
    · exact absurd hc (hnew hc')
    · exact hr.single host n place route n' place' route' hc hc'
  · intro host n place route hc
    rw [hclaims] at hc
    rcases hc with ⟨-, hc⟩ | hc
    · exact (hfree host (mem_claimedHosts_iff.2 ⟨place, route, hc⟩)).1
    · exact hr.nonempty host n place route hc

/-- Without a client the others own what they did. -/
theorem owns_without_iff (r : Registry) (name : String) (s : Subscriber) (n : String)
    (held : Holdings) : (r.without name s).Owns n held ↔ n ≠ name ∧ r.Owns n held := by
  simp only [Owns, get?_clients_without_eq_some_iff, exists_and_left]

theorem claims_without_iff (r : Registry) (name : String) (s : Subscriber) (n : String)
    (place : Nat) (host : String) (route : HostRoute) :
    (r.without name s).Claims n place host route ↔ n ≠ name ∧ r.Claims n place host route := by
  simp only [Claims, owns_without_iff]
  constructor
  · rintro ⟨held, ⟨hn, howns⟩, hclaim⟩
    exact ⟨hn, held, howns, hclaim⟩
  · rintro ⟨hn, held, howns, hclaim⟩
    exact ⟨held, ⟨hn, howns⟩, hclaim⟩

/-- Without a client the index answers for the hosts that another client claims,
as before, and for no others. -/
theorem get?_hosts_without {r : Registry} (hr : r.Consistent) {name : String} {s : Subscriber}
    (hs : r.clients.get? name = some s) (host : String) (route : HostRoute) :
    (r.without name s).hosts.get? host = some route ↔
      ∃ n place, n ≠ name ∧ r.Claims n place host route := by
  obtain ⟨key, _ | h⟩ := s
  · change r.hosts.get? host = some route ↔ _
    rw [hr.indexed]
    refine exists_congr fun n => exists_congr fun place => ⟨fun hc => ⟨?_, hc⟩, And.right⟩
    rintro rfl
    obtain ⟨held, ⟨k, hk⟩, -⟩ := hc
    rw [hs] at hk
    cases hk
  · have howns : r.Owns name h := ⟨key, hs⟩
    change (dropClaims r.hosts h.claims).get? host = some route ↔ _
    rw [get?_dropClaims]
    split
    · next hmem =>
      obtain ⟨place, route', hclaim⟩ := mem_claimedHosts_iff.1 hmem
      -- The dropped host was this client's, so by `single` no other claims it.
      simp only [reduceCtorEq, false_iff]
      rintro ⟨n, place', hne, hc⟩
      exact hne (hr.single host n place' route name place route' hc ⟨h, howns, hclaim⟩).1
    · next hmem =>
      rw [hr.indexed]
      refine exists_congr fun n => exists_congr fun place => ⟨fun hc => ⟨?_, hc⟩, And.right⟩
      rintro rfl
      obtain ⟨held, ⟨k, hk⟩, hclaim⟩ := hc
      rw [hs] at hk
      cases hk
      -- A claim of this client would be among those dropped.
      exact hmem (mem_claimedHosts_iff.2 ⟨place, route, hclaim⟩)

theorem consistent_without {r : Registry} (hr : r.Consistent) {name : String} {s : Subscriber}
    (hs : r.clients.get? name = some s) : (r.without name s).Consistent := by
  have hconn : r.connections.get? s.connection = some name := (hr.inverse name _).2 ⟨_, hs⟩
  constructor
  · intro k hk
    change (r.connections.erase s.connection).get? k = none
    rw [NameMap.get?_erase]
    split
    · rfl
    · exact hr.disjoint k hk
  · intro n k
    change (r.connections.erase s.connection).get? k = some n ↔
      ∃ held, (r.clients.erase name).get? n = some ⟨k, held⟩
    rw [NameMap.get?_erase, NameMap.get?_erase]
    -- The client and the connection that go belong to each other.
    have hboth : r.connections.get? k = some n → (k = s.connection ↔ n = name) := by
      intro hkn
      constructor
      · rintro rfl
        rw [hconn] at hkn
        exact (Option.some.inj hkn).symm
      · rintro rfl
        obtain ⟨held, hheld⟩ := (hr.inverse n k).1 hkn
        rw [hs] at hheld
        cases hheld
        rfl
    have hinv := hr.inverse n k
    by_cases hk : k = s.connection <;> by_cases hn : n = name
    · simp [hk, hn]
    · rw [if_pos hk, if_neg hn, ← hinv]
      simp only [reduceCtorEq, false_iff]
      exact fun hkn => hn ((hboth hkn).1 hk)
    · rw [if_neg hk, if_pos hn]
      simp only [reduceCtorEq, exists_false, iff_false]
      exact fun hkn => hk ((hboth hkn).2 hn)
    · rw [if_neg hk, if_neg hn]
      exact hinv
  · intro n k held hn
    exact hr.own n k held (get?_clients_without_eq_some_iff.1 hn).2
  · intro host route
    simp only [get?_hosts_without hr hs, claims_without_iff]
  · intro host n place route n' place' route' hc hc'
    rw [claims_without_iff] at hc hc'
    exact hr.single host n place route n' place' route' hc.2 hc'.2
  · intro host n place route hc
    exact hr.nonempty host n place route ((claims_without_iff ..).1 hc).2

/-- What clearing a key comes to: it was pending, or unknown, or a client had it. -/
theorem clear_cases {r : Registry} (hr : r.Consistent) (key : String) :
    (r.pending.contains key = true ∧
      r.clear key = (none, { r with pending := r.pending.erase key })) ∨
    (r.pending.contains key = false ∧ r.connections.get? key = none ∧ r.clear key = (none, r)) ∨
    ∃ name held, r.pending.contains key = false ∧ r.clients.get? name = some ⟨key, held⟩ ∧
      r.clear key = (held, r.without name ⟨key, held⟩) := by
  cases hpending : r.pending.contains key with
  | true => exact .inl ⟨rfl, by simp [clear, hpending]⟩
  | false =>
    cases hconnection : r.connections.get? key with
    | none => exact .inr (.inl ⟨rfl, rfl, by simp [clear, hpending, hconnection]⟩)
    | some name =>
      obtain ⟨held, hclient⟩ := (hr.inverse name key).1 hconnection
      refine .inr (.inr ⟨name, held, rfl, hclient, ?_⟩)
      simp only [clear, hpending, hconnection]
      exact removeClient_of_get? hclient

/-- What a client without the key has, it has without that connection. -/
theorem clients_ne_of_connections {r : Registry} (hr : r.Consistent) {key : String}
    (h : r.connections.get? key = none) (name : String) (held : Option Holdings) :
    r.clients.get? name ≠ some ⟨key, held⟩ := by
  intro hclient
  have hconnection := (hr.inverse name key).2 ⟨held, hclient⟩
  rw [h] at hconnection
  cases hconnection

/-- Clearing a key erases it from the pending ones, or removes its client. -/
theorem clear_eq {r : Registry} (hr : r.Consistent) (key : String) :
    (r.connections.get? key = none ∧
      r.clear key = (none, { r with pending := r.pending.erase key })) ∨
    ∃ name held, r.pending.contains key = false ∧ r.clients.get? name = some ⟨key, held⟩ ∧
      r.clear key = (held, r.without name ⟨key, held⟩) := by
  rcases clear_cases hr key with ⟨hpending, hclear⟩ | ⟨hpending, hconnection, hclear⟩ | hclient
  · exact .inl ⟨hr.disjoint key hpending, hclear⟩
  · refine .inl ⟨hconnection, ?_⟩
    rw [hclear, NameMap.erase_eq_self (NameMap.contains_eq_false_iff.1 hpending)]
  · exact .inr hclient

/-- Unsubscribing changes nothing, or removes a client that has the connection. -/
theorem unsubscribe_eq {r : Registry} (hr : r.Consistent) (key name : String) :
    r.unsubscribe key name = (none, r) ∨
      ∃ held, r.clients.get? name = some ⟨key, held⟩ ∧
        r.unsubscribe key name = (held, r.without name ⟨key, held⟩) := by
  rw [unsubscribe]
  split
  · next hconnection =>
    obtain ⟨held, hclient⟩ := (hr.inverse name key).1 hconnection
    exact .inr ⟨held, hclient, removeClient_of_get? hclient⟩
  · exact .inl rfl

theorem consistent_removeClient {r : Registry} (name : String) (hr : r.Consistent) :
    (r.removeClient name).2.Consistent := by
  cases hs : r.clients.get? name with
  | none => rwa [removeClient_of_get?_eq_none hs]
  | some s =>
    rw [removeClient_of_get? hs]
    exact consistent_without hr hs

theorem consistent_unsubscribe {r : Registry} (key name : String) (hr : r.Consistent) :
    (r.unsubscribe key name).2.Consistent := by
  rw [unsubscribe]
  split
  · exact consistent_removeClient name hr
  · exact hr

theorem consistent_clear {r : Registry} (key : String) (hr : r.Consistent) :
    (r.clear key).2.Consistent := by
  rw [clear]
  split
  · exact consistent_erase_pending key hr
  · split
    · exact hr
    · exact consistent_removeClient _ hr

theorem consistent_after {r : Registry} (hr : r.Consistent) {result : Except RegistryError Registry}
    (h : ∀ r', result = .ok r' → r'.Consistent) : (r.after result).Consistent := by
  cases result with
  | ok r' => exact h r' rfl
  | error e => exact hr

/-- Every call keeps the registry consistent. -/
theorem consistent_apply {r : Registry} (hr : r.Consistent) (call : Call) :
    (r.apply call).Consistent := by
  cases call with
  | reserve key => exact consistent_after hr fun _ h => consistent_reserve hr h
  | subscribe name key => exact consistent_after hr fun _ h => consistent_subscribe hr h
  | commit held => exact consistent_after hr fun _ h => consistent_commit hr h
  | unsubscribe key name => exact consistent_unsubscribe key name hr
  | clear key => exact consistent_clear key hr

theorem consistent_foldl {r : Registry} (hr : r.Consistent) (calls : List Call) :
    (calls.foldl apply r).Consistent := by
  induction calls generalizing r with
  | nil => exact hr
  | cons call rest ih => exact ih (consistent_apply hr call)

/-- An indexed host is the normal form of exactly one claim of exactly one client. -/
theorem Consistent.origin_unique {r : Registry} (hr : r.Consistent) {host : String}
    (h : r.hosts.contains host = true) :
    ∃! origin : String × Nat, ∃ route, r.Claims origin.1 origin.2 host route := by
  obtain ⟨route, hroute⟩ := NameMap.contains_iff.1 h
  obtain ⟨name, place, hclaims⟩ := (hr.indexed host route).1 hroute
  refine ⟨(name, place), ⟨route, hclaims⟩, ?_⟩
  rintro ⟨name', place'⟩ ⟨route', hclaims'⟩
  obtain ⟨rfl, rfl⟩ := hr.single host name' place' route' name place route hclaims' hclaims
  rfl

theorem Consistent.ne_empty {r : Registry} (hr : r.Consistent) {host : String}
    (h : r.hosts.contains host = true) : host ≠ "" := by
  obtain ⟨route, hroute⟩ := NameMap.contains_iff.1 h
  obtain ⟨name, place, hclaims⟩ := (hr.indexed host route).1 hroute
  exact hr.nonempty host name place route hclaims

/-- After every run of calls from the empty registry the four maps are consistent,
and every indexed host is not empty and comes from exactly one claim. -/
theorem consistent_run (calls : List Call) :
    (empty.run calls).Consistent ∧
      ∀ host, (empty.run calls).hosts.contains host = true →
        host ≠ "" ∧ ∃! origin : String × Nat, ∃ route,
          (empty.run calls).Claims origin.1 origin.2 host route := by
  have hr : (empty.run calls).Consistent := consistent_foldl consistent_empty calls
  exact ⟨hr, fun host h => ⟨hr.ne_empty h, hr.origin_unique h⟩⟩

end Registry

end ReverseTunnel
