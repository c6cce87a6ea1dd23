import ReverseTunnel.Proofs.PortPool.Grants
import ReverseTunnel.Proofs.Registry.Consistency
import ReverseTunnel.Server.Ending

/-!
# The grants behind listeners

A listener with a port of the pool stands for a grant of that port: its owner is
the client, its tunnel the name of the listener. `Registry.grants` are the grants
behind the listeners of all active clients; subscribing adds none of them,
committing and removing a client add and take away its own.

Rolling back a batch and tearing down what a client owned both come to one
release for each grant (`foldl_releaseListener`, `tearDownAll_eq`). The release
is told the lease and not the port, so whether it frees the port behind the
listener is left to the pool (`PortPool.frees_iff`).
-/

namespace ReverseTunnel

/-- The grant behind a listener of a client, if it has a port of the pool. -/
def Listener.grant? (client : String) (l : Listener) : Option Grant :=
  l.poolPort.map fun port => ⟨⟨client, l.name⟩, port⟩

/-- The grants behind the listeners of a client. -/
def grantsOf (client : String) (ls : List Listener) : List Grant :=
  ls.filterMap (Listener.grant? client)

@[simp]
theorem grantsOf_nil (client : String) : grantsOf client [] = [] := rfl

theorem grantsOf_append (client : String) (ls ls' : List Listener) :
    grantsOf client (ls ++ ls') = grantsOf client ls ++ grantsOf client ls' :=
  List.filterMap_append

theorem grantsOf_cons (client : String) (l : Listener) (ls : List Listener) :
    grantsOf client (l :: ls) = (l.grant? client).toList ++ grantsOf client ls := by
  cases hport : l.poolPort with
  | none => simp [grantsOf, Listener.grant?, hport]
  | some port => simp [grantsOf, Listener.grant?, hport]

theorem grantsOf_cons_none {client : String} {l : Listener} (h : l.poolPort = none)
    (ls : List Listener) : grantsOf client (l :: ls) = grantsOf client ls := by
  simp [grantsOf, Listener.grant?, h]

theorem grantsOf_cons_some {client : String} {l : Listener} {port : UInt16}
    (h : l.poolPort = some port) (ls : List Listener) :
    grantsOf client (l :: ls) = ⟨⟨client, l.name⟩, port⟩ :: grantsOf client ls := by
  simp [grantsOf, Listener.grant?, h]

theorem mem_grantsOf_iff {client : String} {ls : List Listener} {g : Grant} :
    g ∈ grantsOf client ls ↔
      ∃ l ∈ ls, l.poolPort = some g.port ∧ g.lease = ⟨client, l.name⟩ := by
  obtain ⟨lease, port⟩ := g
  simp only [grantsOf, List.mem_filterMap, Listener.grant?, Option.map_eq_some_iff, Grant.mk.injEq]
  refine exists_congr fun l => and_congr_right fun _ => ⟨?_, ?_⟩
  · rintro ⟨port', hport, rfl, rfl⟩
    exact ⟨hport, rfl⟩
  · rintro ⟨hport, rfl⟩
    exact ⟨port, hport, rfl, rfl⟩

/-- Listeners with different names have grants with different leases. -/
theorem nodup_leases_grantsOf {client : String} {ls : List Listener}
    (h : (ls.map Listener.name).Nodup) : ((grantsOf client ls).map Grant.lease).Nodup := by
  induction ls with
  | nil => exact List.nodup_nil
  | cons l ls ih =>
    rw [List.map_cons, List.nodup_cons] at h
    cases hport : l.poolPort with
    | none =>
      rw [grantsOf_cons_none hport]
      exact ih h.2
    | some port =>
      rw [grantsOf_cons_some hport, List.map_cons, List.nodup_cons]
      refine ⟨fun hmem => h.1 ?_, ih h.2⟩
      obtain ⟨g, hg, hlease⟩ := List.mem_map.1 hmem
      obtain ⟨l', hl', -, hlease'⟩ := mem_grantsOf_iff.1 hg
      rw [hlease'] at hlease
      injection hlease with _ hname
      exact hname ▸ List.mem_map_of_mem hl'

/-! ## The grants of a registry -/

/-- The grants behind what a client owns, if it owns something. -/
def heldGrants (held : Option Holdings) : List Grant :=
  held.elim [] fun h => grantsOf h.clientName h.listeners

/-- The grants of a client. -/
def Subscriber.grants (s : Subscriber) : List Grant := heldGrants s.holdings

/-- The grants behind the listeners of all clients. -/
def Registry.grants (r : Registry) : List Grant :=
  r.clients.entries.flatMap fun e => e.2.grants

namespace Registry

variable {r r' : Registry} {name key : String} {s : Subscriber} {g : Grant}

theorem mem_grants_iff :
    g ∈ r.grants ↔ ∃ name s, r.clients.get? name = some s ∧ g ∈ s.grants := by
  rw [grants, List.mem_flatMap]
  constructor
  · rintro ⟨⟨name, s⟩, hmem, hg⟩
    exact ⟨name, s, NameMap.get?_eq_some_iff.2 hmem, hg⟩
  · rintro ⟨name, s, hs, hg⟩
    exact ⟨(name, s), NameMap.get?_eq_some_iff.1 hs, hg⟩

/-- The grants of a client: its own name on them. -/
theorem Consistent.owner_eq (hr : r.Consistent) (hs : r.clients.get? name = some s)
    (hg : g ∈ s.grants) : g.lease.owner = name := by
  obtain ⟨key, _ | h⟩ := s
  · cases hg
  · obtain ⟨l, -, -, hlease⟩ := mem_grantsOf_iff.1 hg
    rw [hlease]
    exact (hr.own name key h hs).1

/-- The grants of a client and those of all others. -/
theorem grants_perm_without (hs : r.clients.get? name = some s) :
    r.grants.Perm (s.grants ++ (r.without name s).grants) :=
  (NameMap.entries_perm_erase hs).flatMap_right _

/-- A new client has no grants. -/
theorem grants_subscribe (h : r.subscribe name key = .ok r') : r'.grants.Perm r.grants := by
  obtain ⟨hfree, -, rfl⟩ := subscribe_eq_ok h
  have hperm := (NameMap.entries_insert_perm r.clients name ⟨key, none⟩).flatMap_right
    fun e => e.2.grants
  rw [NameMap.erase_eq_self hfree] at hperm
  exact hperm

/-- A client that commits adds the grants behind its listeners. -/
theorem grants_commit {h : Holdings} (hok : r.commit h = .ok r') :
    r'.grants.Perm (grantsOf h.clientName h.listeners ++ r.grants) := by
  obtain ⟨hclient, -, -, rfl⟩ := commit_eq_ok hok
  have hold := (NameMap.entries_perm_erase hclient).flatMap_right fun e => e.2.grants
  have hnew := (NameMap.entries_insert_perm r.clients h.clientName
    ⟨h.connection, some h⟩).flatMap_right fun e => e.2.grants
  exact hnew.trans (hold.symm.append_left _)

/-- The grants of a client that is removed go with what it owned. -/
theorem grants_removeClient (r : Registry) (name : String) :
    r.grants.Perm (heldGrants (r.removeClient name).1 ++ (r.removeClient name).2.grants) := by
  cases hs : r.clients.get? name with
  | none =>
    rw [removeClient_of_get?_eq_none hs]
    exact .refl _
  | some s =>
    rw [removeClient_of_get? hs]
    exact grants_perm_without hs

theorem grants_unsubscribe (r : Registry) (key name : String) :
    r.grants.Perm (heldGrants (r.unsubscribe key name).1 ++ (r.unsubscribe key name).2.grants) := by
  rw [unsubscribe]
  split
  · exact grants_removeClient r name
  · exact .refl _

theorem grants_clear (r : Registry) (key : String) :
    r.grants.Perm (heldGrants (r.clear key).1 ++ (r.clear key).2.grants) := by
  rw [clear]
  split
  · exact .refl _
  · split
    · exact .refl _
    · exact grants_removeClient r _

end Registry

/-! ## Freeing the ports behind listeners -/

namespace Server

namespace State

theorem releasePort_eq (s : State) (client tunnel : String) :
    s.releasePort client tunnel = { s with pool := s.pool.released ⟨client, tunnel⟩ } := by
  rw [releasePort, PortPool.released]
  cases s.pool.releaseTunnel client tunnel <;> rfl

/-- Freeing the port behind a listener is a release for its grant, if it has one. -/
theorem releaseListener_eq (s : State) (client : String) (l : Listener) :
    s.releaseListener client l =
      { s with pool := s.pool.releasedAll (grantsOf client [l]) } := by
  cases hport : l.poolPort with
  | none =>
    rw [grantsOf_cons_none hport]
    simp [releaseListener, hport, PortPool.releasedAll]
  | some port =>
    rw [grantsOf_cons_some hport]
    simp [releaseListener, hport, releasePort_eq, PortPool.releasedAll]

theorem foldl_releaseListener (s : State) (client : String) (ls : List Listener) :
    ls.foldl (fun s l => s.releaseListener client l) s =
      { s with pool := s.pool.releasedAll (grantsOf client ls) } := by
  induction ls generalizing s with
  | nil => rfl
  | cons l ls ih =>
    rw [List.foldl_cons, ih, releaseListener_eq]
    have happend := grantsOf_append client [l] ls
    rw [List.singleton_append] at happend
    rw [happend]
    simp [PortPool.releasedAll, List.foldl_append]

end State

/-- Tearing down listeners tells them to close and frees their ports; nothing else
changes. -/
theorem EndPhase.tearDownAll_eq (s : State) (client : String) (ls : List Listener) :
    tearDownAll s client ls =
      { s with
        closed := s.closed.closeAll ls
        pool := s.pool.releasedAll (grantsOf client ls) } := by
  -- Closing a listener does not touch the pool: all may be closed before the first release.
  have hfold : ∀ s : State, ls.foldl (fun s l => s.tearDown client l) s =
      ls.foldl (fun s l => s.releaseListener client l)
        { s with closed := s.closed.closeAll ls } := by
    induction ls with
    | nil => exact fun _ => rfl
    | cons l ls ih =>
      intro s
      rw [List.foldl_cons, ih, List.foldl_cons]
      congr 1
      simp only [State.tearDown, State.releaseListener_eq]
      rfl
  rw [tearDownAll, hfold, State.foldl_releaseListener]

end Server

end ReverseTunnel
