import ReverseTunnel.Proofs.Host.NormalForm
import ReverseTunnel.Proofs.Registry.Isolation

/-!
# Whether the hosts of the index can be looked up

The index keeps each route under the normal form of its host, and a lookup takes the normal form
of what it is asked for. A key of the index is therefore found under its own name exactly if it is
settled, and so is the host that a refused commit names as occupied (`stored_host_resolves_iff`).

Keys that are not settled do come about. A host with a port in front of the dots at its end is
kept under a name that still has the port, and a lookup of this name is one of the name without
it (`occupied_host_without_route`).
-/

namespace ReverseTunnel.Registry

/-- A normal form is looked up under itself exactly if it is settled. -/
theorem normalHost_eq_iff_isSettled {host : String} (h : ∃ other, normalHost other = host) :
    normalHost host = host ↔ IsSettled host := by
  obtain ⟨other, rfl⟩ := h
  exact normalHost_normalHost_iff other

theorem resolve_of_isSettled (r : Registry) {host : String} (h : ∃ other, normalHost other = host)
    (hsettled : IsSettled host) : r.resolve host = r.hosts.get? host := by
  rw [resolve, (normalHost_eq_iff_isSettled h).2 hsettled]

theorem exists_of_mem_claimedHosts {held : Holdings} {host : String}
    (h : host ∈ held.claimedHosts) : ∃ other, normalHost other = host := by
  obtain ⟨claim, -, hhost⟩ := List.mem_map.1 h
  exact ⟨claim.host, hhost⟩

/-- The keys of the index are normal forms of hosts that clients own. -/
theorem exists_owner_of_stored {r : Registry} (h : r.Consistent) {key : String}
    {route : HostRoute} (hstored : r.hosts.get? key = some route) :
    ∃ name held, r.Owns name held ∧ key ∈ held.claimedHosts := by
  obtain ⟨name, place, held, howner, hclaim⟩ := (h.indexed key route).1 hstored
  exact ⟨name, held, howner, mem_claimedHosts_iff.2 ⟨place, route, hclaim⟩⟩

/-- A host that is named as occupied is claimed by the batch, and it is in the index, or the batch
claims it twice. -/
theorem claimed_of_occupied {r : Registry} {held : Holdings} {host : String}
    (h : r.commit held = .error (.occupied host)) : host ∈ held.claimedHosts ∧
      ((∃ route, r.hosts.get? host = some route) ∨ ¬ held.claimedHosts.Nodup) := by
  obtain ⟨place, claim, hplace, hhost, hblocked, -⟩ :=
    blocked_of_checkClaims (commit_eq_error_occupied h)
  have hat : held.claimedHosts[place]? = some host := by
    rw [Holdings.claimedHosts, List.getElem?_map, hplace, Option.map_some, hhost]
  refine ⟨List.mem_of_getElem? hat, ?_⟩
  rcases hblocked with hstored | htaken | hearlier
  · exact .inl (Option.ne_none_iff_exists'.1 hstored)
  · cases htaken
  · refine .inr fun hnodup => ?_
    -- The earlier claim and this one stand at different places.
    obtain ⟨earlier, hlt, hsame⟩ := List.mem_take_iff_getElem.1 hearlier
    obtain ⟨hbound, hlater⟩ := List.getElem?_eq_some_iff.1 hat
    have heq : earlier = place := (List.getElem_inj hnodup).1 (hsame.trans hlater.symm)
    omega

/--
After any calls, a key of the index is the normal form of a host that some client owns, and it is
looked up under itself, with the route that is kept there, exactly if it is settled. The same
holds of the host that a refused commit names as occupied.
-/
theorem stored_host_resolves_iff (calls : List Call) :
    (∀ host, normalHost (normalHost host) = normalHost host ↔ IsSettled (normalHost host)) ∧
    (∀ key route, (empty.run calls).hosts.get? key = some route →
      (∃ name held, (empty.run calls).Owns name held ∧ key ∈ held.claimedHosts) ∧
        (normalHost key = key ↔ IsSettled key) ∧
        (IsSettled key → (empty.run calls).resolve key = some route)) ∧
    ∀ held host, (empty.run calls).commit held = .error (.occupied host) →
      host ∈ held.claimedHosts ∧
        ((∃ route, (empty.run calls).hosts.get? host = some route) ∨
          ¬ held.claimedHosts.Nodup) ∧
        (normalHost host = host ↔ IsSettled host) ∧
        (IsSettled host →
          (empty.run calls).resolve host = (empty.run calls).hosts.get? host) := by
  refine ⟨normalHost_normalHost_iff, ?_, ?_⟩
  · intro key route hstored
    have hconsistent : (empty.run calls).Consistent := consistent_foldl consistent_empty calls
    obtain ⟨name, held, howner, hclaimed⟩ := exists_owner_of_stored hconsistent hstored
    have hnormal := exists_of_mem_claimedHosts hclaimed
    refine ⟨⟨name, held, howner, hclaimed⟩, normalHost_eq_iff_isSettled hnormal, ?_⟩
    intro hsettled
    rw [resolve_of_isSettled _ hnormal hsettled, hstored]
  · intro held host hoccupied
    obtain ⟨hclaimed, hwhy⟩ := claimed_of_occupied hoccupied
    have hnormal := exists_of_mem_claimedHosts hclaimed
    exact ⟨hclaimed, hwhy, normalHost_eq_iff_isSettled hnormal, resolve_of_isSettled _ hnormal⟩

/-- What a client owns that has one HTTP tunnel. -/
def ownerOf (client connection host : String) : Holdings :=
  ⟨client, connection, [⟨host, "t", .http, none⟩], []⟩

/-- A client has committed a tunnel for this host, and another one has come. -/
def contested (host : String) : List Call :=
  [.reserve "10.0.0.1:5000", .subscribe "a" "10.0.0.1:5000",
    .commit (ownerOf "a" "10.0.0.1:5000" host), .reserve "10.0.0.2:5000",
    .subscribe "b" "10.0.0.2:5000"]

/-- The route of that tunnel. -/
def contestedRoute : HostRoute := ⟨"a", "10.0.0.1:5000", "t", .http, none⟩

/-- A host without its port leads to the tunnel, from the index and from the refusal. -/
theorem stored_host_resolves_iff_name :
    (empty.run (contested "A.Example:80")).hosts.get? "a.example" = some contestedRoute ∧
      (empty.run (contested "A.Example:80")).commit (ownerOf "b" "10.0.0.2:5000" "a.example.") =
        .error (.occupied "a.example") ∧
      IsSettled "a.example" ∧
      (empty.run (contested "A.Example:80")).resolve "a.example" = some contestedRoute := by
  obtain ⟨-, hstored, hoccupied⟩ := stored_host_resolves_iff (contested "A.Example:80")
  have hkey : (empty.run (contested "A.Example:80")).hosts.get? "a.example" =
      some contestedRoute := rfl
  have hcommit : (empty.run (contested "A.Example:80")).commit
      (ownerOf "b" "10.0.0.2:5000" "a.example.") = .error (.occupied "a.example") := rfl
  obtain ⟨-, hiff, hresolve⟩ := hstored _ _ hkey
  obtain ⟨-, -, -, hsame⟩ := hoccupied _ _ hcommit
  have hsettled : IsSettled "a.example" := hiff.1 (by decide)
  exact ⟨hkey, hcommit, hsettled, by rw [hsame hsettled, hkey]⟩

/-- The dot behind the port of a host keeps the port in its normal form. That name is in the
index and is named as occupied, and it resolves to nothing. -/
theorem occupied_host_without_route :
    normalHost "a.example:80." = "a.example:80" ∧ normalHost "a.example:80" = "a.example" ∧
      (empty.run (contested "a.example:80.")).hosts.get? "a.example:80" = some contestedRoute ∧
      (empty.run (contested "a.example:80.")).commit
          (ownerOf "b" "10.0.0.2:5000" "a.example:80.") = .error (.occupied "a.example:80") ∧
      (empty.run (contested "a.example:80.")).resolve "a.example:80" = none := by
  refine ⟨by decide, by decide, rfl, rfl, rfl⟩

end ReverseTunnel.Registry
