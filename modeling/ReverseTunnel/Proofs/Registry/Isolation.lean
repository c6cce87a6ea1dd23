import ReverseTunnel.Proofs.Registry.HandBack
import ReverseTunnel.Proofs.Registry.InPlace

/-!
# Refused calls change nothing, and clients do not disturb each other

A call is made in the name of one key. Performed store by store on a registry that calls
have led to, it leaves that registry as it was if it is refused, and never touches what is
there for another key (`isolated_run`): the pending keys, the connections, the clients with
what they own, and the routes of their hosts.

A commit tests a whole batch of claims before the first route is stored. One that goes
through found every host of the batch free, and no two of them the same; one that a host
stands in the way of names the first such host (`blocked_of_checkClaims`).
-/

namespace ReverseTunnel.Registry

/-- The claim at a place is for this host, which has a route, or which an earlier claim of
the batch is for too. -/
def Collides (r : Registry) (h : Holdings) (place : Nat) (host : String) : Prop :=
  ∃ claim, h.claims[place]? = some claim ∧ normalHost claim.host = host ∧
    (r.resolve claim.host ≠ none ∨ host ∈ h.claimedHosts.take place)

/-- What the end of a commit says about the batch of claims. -/
structure BatchTested (r : Registry) (h : Holdings)
    (ending : Except RegistryError (Option Holdings)) : Prop where
  /-- Claims that were stored were for hosts without a route, all different. -/
  free : ∀ answered, ending = .ok answered →
    (∀ claim ∈ h.claims, r.resolve claim.host = none) ∧ h.claimedHosts.Nodup
  /-- The host that is named as occupied is that of the first claim that collides. -/
  first : ∀ host, ending = .error (.occupied host) →
    ∃ place, r.Collides h place host ∧
      ∀ earlier other, earlier < place → ¬ r.Collides h earlier other

/-- How a call ends and what it leaves, on a registry where it is one key's call. -/
structure Isolated (r : Registry) (call : Call) (ending : Except RegistryError (Option Holdings))
    (left : Registry) : Prop where
  /-- A refused call leaves the registry as it was. -/
  atomic : ∀ e, ending = .error e → left = r
  /-- The hosts of what the client of another key owns resolve as before, in every spelling. -/
  hosts : ∀ name h, r.Owns name h → h.connection ≠ call.key →
    ∀ claim ∈ h.claims, ∀ host, normalHost host = normalHost claim.host →
      left.resolve host = r.resolve host
  /-- No client of another key comes, goes, or changes what it owns. -/
  clients : ∀ name s, s.connection ≠ call.key →
    (left.clients.get? name = some s ↔ r.clients.get? name = some s)
  /-- Another key has the client that it had. -/
  connections : ∀ key, key ≠ call.key → left.connections.get? key = r.connections.get? key
  /-- Another key is pending if it was. -/
  pending : ∀ key, key ≠ call.key → left.pending.get? key = r.pending.get? key
  batch : ∀ h, call = .commit h → r.BatchTested h ending

/-! ## What is there for another key -/

section Frame

variable {r : Registry} (hr : r.Consistent) (call : Call)

include hr

theorem clients_apply_iff {name : String} {s : Subscriber} (hother : s.connection ≠ call.key) :
    (r.apply call).clients.get? name = some s ↔ r.clients.get? name = some s := by
  have heffect := effect_apply hr call
  generalize r.apply call = r', r.answer call = answered at heffect
  cases heffect with
  | @subscribe name' key r' hok =>
    obtain ⟨hfree, -, rfl⟩ := subscribe_eq_ok hok
    -- The only entry that changes is one of the call's own key.
    have hown : (⟨key, none⟩ : Subscriber) ≠ s := by
      rintro rfl
      exact hother rfl
    rw [NameMap.get?_insert]
    by_cases hname : name = name'
    · simp [hname, hfree, hown]
    · rw [if_neg hname]
  | @commit h _ hok =>
    obtain ⟨hclient, -, -, rfl⟩ := commit_eq_ok hok
    have hown : ∀ held, (⟨h.connection, held⟩ : Subscriber) ≠ s := by
      rintro held rfl
      exact hother rfl
    rw [NameMap.get?_insert]
    by_cases hname : name = h.clientName
    · simp [hname, hclient, hown]
    · rw [if_neg hname]
  | @remove _ name' s' hclient hends =>
    rw [get?_clients_without_eq_some_iff, and_iff_right_iff_imp]
    rintro hs rfl
    rw [hclient] at hs
    obtain rfl := Option.some.inj hs
    exact hother hends.key_eq.symm
  | _ => exact Iff.rfl

theorem connections_apply {key : String} (hother : key ≠ call.key) :
    (r.apply call).connections.get? key = r.connections.get? key := by
  have heffect := effect_apply hr call
  generalize r.apply call = r', r.answer call = answered at heffect
  cases heffect with
  | subscribe hok =>
    obtain ⟨-, -, rfl⟩ := subscribe_eq_ok hok
    exact NameMap.get?_insert_of_ne hother
  | commit hok =>
    obtain ⟨-, -, -, rfl⟩ := commit_eq_ok hok
    rfl
  | remove _ hends =>
    rw [hends.key_eq] at hother
    exact NameMap.get?_erase_of_ne hother
  | _ => rfl

theorem pending_apply {key : String} (hother : key ≠ call.key) :
    (r.apply call).pending.get? key = r.pending.get? key := by
  have heffect := effect_apply hr call
  generalize r.apply call = r', r.answer call = answered at heffect
  cases heffect with
  | reserve _ => exact NameMap.get?_insert_of_ne hother
  | subscribe hok =>
    obtain ⟨-, -, rfl⟩ := subscribe_eq_ok hok
    exact NameMap.get?_erase_of_ne hother
  | commit hok =>
    obtain ⟨-, -, -, rfl⟩ := commit_eq_ok hok
    rfl
  | forget _ => exact NameMap.get?_erase_of_ne hother
  | _ => rfl

/-- The routes of other keys are the same after a call as before. -/
theorem resolve_apply_iff {host : String} {route : HostRoute}
    (hother : route.connection ≠ call.key) :
    (r.apply call).resolve host = some route ↔ r.resolve host = some route := by
  have heffect := effect_apply hr call
  generalize r.apply call = r', r.answer call = answered at heffect
  cases heffect with
  | subscribe hok =>
    obtain ⟨-, -, rfl⟩ := subscribe_eq_ok hok
    exact Iff.rfl
  | @commit h _ hok =>
    obtain ⟨-, hfree, hnodup, rfl⟩ := commit_eq_ok hok
    -- The routes that come in are of the call's key, and their hosts had none before.
    have hnew : ¬ ∃ place, h.Claims place (normalHost host) route := by
      rintro ⟨place, claim, -, -, rfl⟩
      exact hother rfl
    change (addClaims r.hosts h).get? (normalHost host) = some route ↔ _
    rw [get?_addClaims hnodup, or_iff_right hnew]
    refine and_iff_right_of_imp ?_
    intro hroute hmem
    rw [(hfree _ hmem).2] at hroute
    cases hroute
  | @remove _ name s hclient hends =>
    change (r.without name s).hosts.get? (normalHost host) = some route ↔ _
    rw [get?_hosts_without hr hclient, resolve, hr.indexed]
    refine exists_congr fun n => exists_congr fun place => and_iff_right_of_imp ?_
    rintro ⟨held, howns, claim, -, -, rfl⟩ rfl
    -- Whoever has a route of another key is not the client that goes.
    obtain ⟨key, hheld⟩ := howns
    obtain ⟨-, hkey⟩ := hr.own _ _ _ hheld
    rw [hclient] at hheld
    obtain rfl := Option.some.inj hheld
    exact hother (hkey.trans hends.key_eq.symm)
  | _ => exact Iff.rfl

end Frame

/-! ## What a refusal says -/

/-- A refused call comes to the registry that it found. -/
theorem apply_of_result_eq_error {r : Registry} {call : Call} {e : RegistryError}
    (h : r.result call = .error e) : r.apply call = r := by
  have hafter : ∀ settled : Except RegistryError Registry,
      (settled.map fun _ => (none : Option Holdings)) = .error e → r.after settled = r := by
    rintro (_ | _) hsettled
    · rfl
    · cases hsettled
  cases call with
  | reserve key => exact hafter _ h
  | subscribe name key => exact hafter _ h
  | commit held => exact hafter _ h
  | unsubscribe key name => cases h
  | clear key => cases h

/-- A host stands in the way of the claim at a place: it is in the index, or it is taken, or
an earlier claim is for it. -/
def Blocked (hosts : NameMap HostRoute) (taken : List String) (claims : List HostClaim)
    (place : Nat) (host : String) : Prop :=
  hosts.get? host ≠ none ∨ host ∈ taken ∨
    host ∈ (claims.map fun claim => normalHost claim.host).take place

/-- A claim that was tested counts as taken for the rest. -/
theorem blocked_cons {hosts : NameMap HostRoute} {taken : List String} {claim : HostClaim}
    {rest : List HostClaim} {place : Nat} {host : String} :
    Blocked hosts taken (claim :: rest) (place + 1) host ↔
      Blocked hosts (normalHost claim.host :: taken) rest place host := by
  simp only [Blocked, List.map_cons, List.take_succ_cons, List.mem_cons, or_assoc]
  exact or_congr_right or_left_comm

theorem blocked_zero {hosts : NameMap HostRoute} {taken : List String} {claims : List HostClaim}
    {host : String} :
    Blocked hosts taken claims 0 host ↔ (hosts.contains host || taken.contains host) = true := by
  simp [Blocked, NameMap.contains, Option.isSome_iff_ne_none]

/-- A test of claims that ends with an occupied host names that of the first claim that is
blocked. -/
theorem blocked_of_checkClaims {hosts : NameMap HostRoute} {claims : List HostClaim}
    {taken : List String} {host : String}
    (h : checkClaims hosts taken claims = .error (.occupied host)) :
    ∃ place claim, claims[place]? = some claim ∧ normalHost claim.host = host ∧
      Blocked hosts taken claims place host ∧
      ∀ earlier claim', earlier < place → claims[earlier]? = some claim' →
        ¬ Blocked hosts taken claims earlier (normalHost claim'.host) := by
  induction claims generalizing taken with
  | nil => cases h
  | cons claim rest ih =>
    simp only [checkClaims] at h
    split at h
    · cases h
    · split at h
      · next htaken =>
        cases h
        exact ⟨0, claim, rfl, rfl, blocked_zero.2 htaken, fun _ _ hlt => absurd hlt (by omega)⟩
      · next hfree =>
        obtain ⟨place, claim', hplace, hhost, hblocked, hfirst⟩ := ih h
        refine ⟨place + 1, claim', hplace, hhost, blocked_cons.2 hblocked, ?_⟩
        rintro (_ | earlier) other hlt hother
        · obtain rfl := Option.some.inj hother
          rwa [blocked_zero]
        · rw [blocked_cons]
          exact hfirst earlier other (by omega) hother

/-- A claim collides in a registry where nothing is taken and its host is blocked. -/
theorem collides_iff {r : Registry} {h : Holdings} {place : Nat} {host : String} :
    r.Collides h place host ↔
      ∃ claim, h.claims[place]? = some claim ∧ normalHost claim.host = host ∧
        Blocked r.hosts [] h.claims place host := by
  refine exists_congr fun claim => and_congr_right fun _ => and_congr_right ?_
  rintro rfl
  simp [Blocked, resolve, Holdings.claimedHosts]

theorem commit_eq_error_occupied {r : Registry} {h : Holdings} {host : String}
    (hrefused : r.commit h = .error (.occupied host)) :
    checkClaims r.hosts [] h.claims = .error (.occupied host) := by
  simp only [commit] at hrefused
  split at hrefused
  · cases hrefused
  · split at hrefused
    · cases hrefused
    · split at hrefused
      · cases hrefused
      · split at hrefused
        · next hchecked =>
          cases hrefused
          exact hchecked
        · cases hrefused

theorem batchTested_commit (r : Registry) (h : Holdings) :
    r.BatchTested h (r.result (.commit h)) where
  free answered hanswered := by
    cases hok : r.commit h with
    | error e => simp [result, hok, Except.map] at hanswered
    | ok r' =>
      obtain ⟨-, hfree, hnodup, -⟩ := commit_eq_ok hok
      exact ⟨fun claim hclaim => (hfree _ (List.mem_map.2 ⟨claim, hclaim, rfl⟩)).2, hnodup⟩
  first host hrefused := by
    cases hok : r.commit h with
    | ok r' => simp [result, hok, Except.map] at hrefused
    | error e =>
      simp only [result, hok, Except.map, Except.error.injEq] at hrefused
      subst hrefused
      obtain ⟨place, claim, hplace, hhost, hblocked, hfirst⟩ :=
        blocked_of_checkClaims (commit_eq_error_occupied hok)
      refine ⟨place, collides_iff.2 ⟨claim, hplace, hhost, hblocked⟩, ?_⟩
      intro earlier other hlt hcollides
      obtain ⟨claim', hplace', rfl, hblocked'⟩ := collides_iff.1 hcollides
      exact hfirst earlier claim' hlt hplace' hblocked'

/-- Performed store by store after any run of calls from the empty registry, a call that is
refused changes nothing, and no call changes what is there for another key. A commit that
goes through found the hosts of its claims free and different, and one that is refused for a
host names the first that is not. -/
theorem isolated_run (calls : List Call) (call : Call) :
    (empty.run calls).Isolated call ((InPlace.perform call).outcome (empty.run calls)).1
      ((InPlace.perform call).outcome (empty.run calls)).2 := by
  have hr : (empty.run calls).Consistent := consistent_foldl consistent_empty calls
  rw [InPlace.outcome_perform]
  constructor
  · intro e herror
    exact apply_of_result_eq_error herror
  · intro name h howns hother claim hclaim host hhost
    obtain ⟨rfl, -⟩ := hr.get?_of_owns howns
    have hroute := hr.resolve_of_owns howns hclaim hhost
    rw [hroute]
    exact (resolve_apply_iff hr call hother).2 hroute
  · intro name s hother
    exact clients_apply_iff hr call hother
  · intro key hother
    exact connections_apply hr call hother
  · intro key hother
    exact pending_apply hr call hother
  · rintro h rfl
    exact batchTested_commit _ h

/-- A batch that claims a free host, one of another client, and the free one again. -/
example :
    ((InPlace.perform (.commit ⟨"b", "10.0.0.2:5000", [⟨"c.example", "web", .http, none⟩,
        ⟨"B.EXAMPLE:8080", "api", .http, none⟩, ⟨"C.example.", "docs", .http, none⟩], []⟩)).outcome
      (empty.run [.reserve "10.0.0.1:5000", .subscribe "a" "10.0.0.1:5000",
        .commit ⟨"a", "10.0.0.1:5000", [⟨"b.example.", "web", .http, none⟩], []⟩,
        .reserve "10.0.0.2:5000", .subscribe "b" "10.0.0.2:5000"])).1 =
      .error (.occupied "b.example") := by
  decide +kernel

end ReverseTunnel.Registry
