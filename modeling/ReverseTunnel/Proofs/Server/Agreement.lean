import Mathlib.Data.List.Induction
import Mathlib.Data.List.Nodup
import ReverseTunnel.Proofs.ConnectionPool.Drivers
import ReverseTunnel.Proofs.Server.Connect

/-!
# Agreement of the stores of a server

The registry, the port pool and the connection pool are changed by different
parts of a server, and the pool is told leases, not ports. Between two events
they agree (`Agree`): the leased ports are those behind the listeners of the
active clients, and the live channels are those of the active clients.

While an event is carried through they do not: a client may have lost its
channel and still be registered. `Sound` is what holds all the same. Its point is
that every client and every pending key has a driver, so that nothing is left
behind once the drivers that were told to end have ended (`settled_settle`), and
that a driver which was not told to end belongs to an active client.
-/

namespace ReverseTunnel.Server

/-- What the stores of a server know of each other at any time. The parameter says
which connections may bear which client name. -/
structure Sound (accepted : String → Nat → String → Prop) (r : Registry) (p : PortPool)
    (c : ConnectionPool) : Prop where
  registry : r.Consistent
  keys : (c.drivers.map ChannelDriver.key).Nodup
  /-- Every channel has a driver. -/
  routed : ∀ key channel, c.channels.get? key = some channel →
    ∃ d ∈ c.drivers, d.key = key ∧ d.channel = channel
  /-- A driver that runs has its channel and an active client. -/
  live : ∀ d ∈ c.drivers, d.cancelled = false →
    c.channels.get? d.key = some d.channel ∧ ∃ name h, r.clients.get? name = some ⟨d.key, some h⟩
  /-- A pending key has a driver that was told to end. -/
  pending : ∀ key, r.pending.contains key = true →
    ∃ d ∈ c.drivers, d.key = key ∧ d.cancelled = true
  /-- A client has a driver, which was told to end unless the client is active. -/
  driven : ∀ name key held, r.clients.get? name = some ⟨key, held⟩ →
    ∃ d ∈ c.drivers, d.key = key ∧ accepted key d.channel name ∧
      (held = none → d.cancelled = true)
  /-- The listeners of a client have different names. -/
  names : ∀ name key h, r.clients.get? name = some ⟨key, some h⟩ →
    (h.listeners.map Listener.name).Nodup
  grants : r.grants.Perm p.grants

/-- The stores of a server between two events. -/
structure Settled (accepted : String → Nat → String → Prop) (s : State) : Prop where
  sound : Sound accepted s.registry s.pool s.connections
  running : ∀ d ∈ s.connections.drivers, d.cancelled = false

section Sound

variable {accepted accepted' : String → Nat → String → Prop} {r : Registry} {p : PortPool}
  {c c' : ConnectionPool}

theorem Sound.mono (h : Sound accepted r p c)
    (hmono : ∀ key channel name, accepted key channel name → accepted' key channel name) :
    Sound accepted' r p c :=
  { h with
    driven := fun name key held hclient => by
      obtain ⟨d, hd, hkey, haccepted, hcancelled⟩ := h.driven name key held hclient
      exact ⟨d, hd, hkey, hmono _ _ _ haccepted, hcancelled⟩ }

/-- Two drivers of one key are the same. -/
theorem Sound.driver_unique (h : Sound accepted r p c) {d d' : ChannelDriver} (hd : d ∈ c.drivers)
    (hd' : d' ∈ c.drivers) (hkey : d.key = d'.key) : d = d' :=
  List.inj_on_of_nodup_map h.keys hd hd' hkey

/-- Telling drivers to end keeps the stores sound. -/
theorem Sound.stop (h : Sound accepted r p c) (hstops : c.Stops c') : Sound accepted r p c' where
  registry := h.registry
  keys := hstops.keys ▸ h.keys
  routed key channel hchannel := by
    obtain ⟨d, hd, hkey, hnumber⟩ := h.routed key channel (hstops.routed key channel hchannel)
    obtain ⟨d', hd', hkey', hnumber', -⟩ := hstops.told d hd
    exact ⟨d', hd', hkey'.trans hkey, hnumber'.trans hnumber⟩
  live d hd hrunning := by
    obtain ⟨hchannel, hclient⟩ := h.live d (hstops.running d hd hrunning) hrunning
    exact ⟨hstops.live d hd hrunning hchannel, hclient⟩
  pending key hpending := by
    obtain ⟨d, hd, hkey, hcancelled⟩ := h.pending key hpending
    obtain ⟨d', hd', hkey', -, hcancelled'⟩ := hstops.told d hd
    exact ⟨d', hd', hkey'.trans hkey, hcancelled' hcancelled⟩
  driven name key held hclient := by
    obtain ⟨d, hd, hkey, haccepted, hcancelled⟩ := h.driven name key held hclient
    obtain ⟨d', hd', hkey', hnumber', hcancelled'⟩ := hstops.told d hd
    exact ⟨d', hd', hkey'.trans hkey, hnumber' ▸ haccepted,
      fun hnone => hcancelled' (hcancelled hnone)⟩
  names := h.names
  grants := h.grants

/-- Removing a client whose driver was told to end, together with its ports, keeps
the stores sound. -/
theorem Sound.without (h : Sound accepted r p c) {name key : String} {held : Option Holdings}
    (hclient : r.clients.get? name = some ⟨key, held⟩)
    (htold : ∀ d ∈ c.drivers, d.key = key → d.cancelled = true) :
    Sound accepted (r.without name ⟨key, held⟩)
      (p.releasedAll (Subscriber.grants ⟨key, held⟩)) c where
  registry := Registry.consistent_without h.registry hclient
  keys := h.keys
  routed := h.routed
  live d hd hrunning := by
    obtain ⟨hchannel, name', h', hclient'⟩ := h.live d hd hrunning
    refine ⟨hchannel, name', h', Registry.get?_clients_without_eq_some_iff.2 ⟨?_, hclient'⟩⟩
    -- The driver of the client that goes does not run.
    rintro rfl
    rw [hclient] at hclient'
    simp only [Option.some.injEq, Subscriber.mk.injEq] at hclient'
    have htold' := htold d hd hclient'.1.symm
    rw [hrunning] at htold'
    cases htold'
  pending := h.pending
  driven name' key' held' hclient' :=
    h.driven name' key' held' (Registry.get?_clients_without_eq_some_iff.1 hclient').2
  names name' key' h' hclient' :=
    h.names name' key' h' (Registry.get?_clients_without_eq_some_iff.1 hclient').2
  grants := by
    have hperm := h.grants.symm.trans (Registry.grants_perm_without hclient)
    refine (PortPool.grants_releasedAll hperm ?_ ?_).symm
    · cases held with
      | none => exact List.nodup_nil
      | some held => exact nodup_leases_grantsOf (h.names name key held hclient)
    · intro g hg g' hg' hlease
      -- The grants left bear the names of other clients.
      have howner := h.registry.owner_eq hclient hg
      obtain ⟨name', s', hother, hgrant'⟩ := Registry.mem_grants_iff.1 hg'
      obtain ⟨hne, hclient'⟩ := Registry.get?_clients_without_eq_some_iff.1 hother
      have howner' := h.registry.owner_eq hclient' hgrant'
      rw [hlease, howner] at howner'
      exact hne howner'.symm

/-- A key that is not pending any more keeps the stores sound. -/
theorem Sound.erase_pending (h : Sound accepted r p c) (key : String) :
    Sound accepted { r with pending := r.pending.erase key } p c :=
  { h with
    registry := Registry.consistent_erase_pending key h.registry
    pending := fun key' hpending =>
      h.pending key' (NameMap.contains_erase_iff.1 hpending).2 }

/-- The end of a driver keeps the stores sound, once nothing is registered for its
key. -/
theorem Sound.finish (h : Sound accepted r p c) {d : ChannelDriver} (hd : d ∈ c.drivers)
    (hpending : r.pending.contains d.key = false)
    (hclients : ∀ name held, r.clients.get? name ≠ some ⟨d.key, held⟩) :
    Sound accepted r p (c.finish d) := by
  have hchannels : ∀ key, (c.finish d).channels.get? key =
      if key = d.key ∧ c.channels.get? d.key = some d.channel then none
      else c.channels.get? key := by
    intro key
    simp only [ConnectionPool.finish]
    split
    · next hchannel =>
      rw [NameMap.get?_erase]
      simp [hchannel]
    · next hchannel => rw [if_neg fun hboth => hchannel hboth.2]
  have hdrivers : ∀ d' : ChannelDriver, d'.key ≠ d.key →
      (d' ∈ (c.finish d).drivers ↔ d' ∈ c.drivers) := by
    intro d' hne
    exact List.mem_erase_of_ne fun heq => hne (heq ▸ rfl)
  have hkeep : ∀ d' ∈ (c.finish d).drivers, d' ∈ c.drivers ∧ d'.key ≠ d.key := by
    intro d' hd'
    have hnodup : c.drivers.Nodup := List.Nodup.of_map _ h.keys
    obtain ⟨hne, hmem⟩ := (List.Nodup.mem_erase_iff hnodup).1 hd'
    exact ⟨hmem, fun hkey => hne (h.driver_unique hmem hd hkey)⟩
  exact
    { registry := h.registry
      keys := h.keys.sublist (List.erase_sublist.map _)
      routed := by
        intro key channel hchannel
        rw [hchannels] at hchannel
        split at hchannel
        · cases hchannel
        -- A channel whose driver is the one that ends goes with it.
        · next hnot =>
          obtain ⟨d', hd', hkey, hnumber⟩ := h.routed key channel hchannel
          refine ⟨d', (hdrivers d' fun hsame => hnot ?_).2 hd', hkey, hnumber⟩
          have heq := h.driver_unique hd' hd hsame
          rw [heq] at hkey hnumber
          refine ⟨hkey.symm, ?_⟩
          rw [hkey, hnumber, hchannel]
      live := by
        intro d' hd' hrunning
        obtain ⟨hmem, hne⟩ := hkeep d' hd'
        obtain ⟨hchannel, hclient⟩ := h.live d' hmem hrunning
        rw [hchannels, if_neg fun hboth => hne hboth.1]
        exact ⟨hchannel, hclient⟩
      pending := by
        intro key hkey
        obtain ⟨d', hd', hkey', hcancelled⟩ := h.pending key hkey
        refine ⟨d', (hdrivers d' fun hsame => ?_).2 hd', hkey', hcancelled⟩
        rw [← hkey', hsame, hpending] at hkey
        cases hkey
      driven := by
        intro name key held hclient
        obtain ⟨d', hd', hkey, hrest⟩ := h.driven name key held hclient
        refine ⟨d', (hdrivers d' fun hsame => ?_).2 hd', hkey, hrest⟩
        rw [← hkey, hsame] at hclient
        exact hclients name held hclient
      names := h.names
      grants := h.grants }

/-- A new driver that was already told to end keeps the stores sound. -/
theorem Sound.add (h : Sound accepted r p c) {key : String}
    (hnew : ∀ d ∈ c.drivers, d.key ≠ key) (channel nextChannel : Nat) :
    Sound accepted r p
      { c with drivers := c.drivers ++ [⟨channel, key, true⟩], nextChannel } where
  registry := h.registry
  keys := by
    rw [List.map_append, List.nodup_append]
    refine ⟨h.keys, by simp, fun k hk k' hk' heq => ?_⟩
    obtain ⟨d, hd, rfl⟩ := List.mem_map.1 hk
    rw [List.map_singleton, List.mem_singleton] at hk'
    exact hnew d hd (heq.trans hk')
  routed key' channel' hchannel := by
    obtain ⟨d, hd, hrest⟩ := h.routed key' channel' hchannel
    exact ⟨d, List.mem_append_left _ hd, hrest⟩
  live d hd hrunning := by
    rcases List.mem_append.1 hd with hd | hd
    · exact h.live d hd hrunning
    · rw [List.mem_singleton.1 hd] at hrunning
      cases hrunning
  pending key' hpending := by
    obtain ⟨d, hd, hrest⟩ := h.pending key' hpending
    exact ⟨d, List.mem_append_left _ hd, hrest⟩
  driven name key' held hclient := by
    obtain ⟨d, hd, hrest⟩ := h.driven name key' held hclient
    exact ⟨d, List.mem_append_left _ hd, hrest⟩
  names := h.names
  grants := h.grants

/-- Reserving the key of a driver that was told to end keeps the stores sound. -/
theorem Sound.reserve (h : Sound accepted r p c) {r' : Registry} {d : ChannelDriver}
    (hd : d ∈ c.drivers) (htold : d.cancelled = true) (hok : r.reserve d.key = .ok r') :
    Sound accepted r' p c := by
  have hregistry := Registry.consistent_reserve h.registry hok
  obtain ⟨-, -, rfl⟩ := Registry.reserve_eq_ok hok
  exact
    { h with
      registry := hregistry
      pending := fun key hpending => by
        by_cases hkey : key = d.key
        · exact ⟨d, hd, hkey.symm, htold⟩
        · refine h.pending key ?_
          rwa [NameMap.contains, NameMap.get?_insert_of_ne hkey] at hpending }

/-- Subscribing a client over the connection of a driver that was told to end keeps
the stores sound. -/
theorem Sound.subscribe (h : Sound accepted r p c) {r' : Registry} {d : ChannelDriver}
    {name : String} (hd : d ∈ c.drivers) (htold : d.cancelled = true)
    (haccepted : accepted d.key d.channel name) (hok : r.subscribe name d.key = .ok r') :
    Sound accepted r' p c := by
  have hregistry := Registry.consistent_subscribe h.registry hok
  have hgrants := Registry.grants_subscribe hok
  obtain ⟨hfree, -, rfl⟩ := Registry.subscribe_eq_ok hok
  exact
    { registry := hregistry
      keys := h.keys
      routed := h.routed
      live := by
        intro d' hd' hrunning
        obtain ⟨hchannel, name', h', hclient⟩ := h.live d' hd' hrunning
        refine ⟨hchannel, name', h', ?_⟩
        have hne : name' ≠ name := by
          rintro rfl
          rw [hfree] at hclient
          cases hclient
        exact (NameMap.get?_insert_of_ne hne).trans hclient
      pending := by
        intro key hpending
        exact h.pending key (NameMap.contains_erase_iff.1 hpending).2
      driven := by
        intro name' key held hclient
        simp only [NameMap.get?_insert] at hclient
        split at hclient
        · next heq =>
          simp only [Option.some.injEq, Subscriber.mk.injEq] at hclient
          rw [heq, ← hclient.1]
          exact ⟨d, hd, rfl, haccepted, fun _ => htold⟩
        · exact h.driven name' key held hclient
      names := by
        intro name' key h' hclient
        simp only [NameMap.get?_insert] at hclient
        split at hclient
        · cases hclient
        · exact h.names name' key h' hclient
      grants := hgrants.trans h.grants }

/-- Committing what a client owns, once the ports behind its listeners are leased,
keeps the stores sound. -/
theorem Sound.commit (h : Sound accepted r p c) {r' : Registry} {p' : PortPool} {held : Holdings}
    (hok : r.commit held = .ok r')
    (hpool : p'.grants.Perm (grantsOf held.clientName held.listeners ++ p.grants))
    (hnames : (held.listeners.map Listener.name).Nodup) : Sound accepted r' p' c := by
  have hregistry := Registry.consistent_commit h.registry hok
  have hgrants := Registry.grants_commit hok
  obtain ⟨hclient, -, -, rfl⟩ := Registry.commit_eq_ok hok
  exact
    { registry := hregistry
      keys := h.keys
      routed := h.routed
      live := by
        intro d hd hrunning
        obtain ⟨hchannel, name', h', hclient'⟩ := h.live d hd hrunning
        refine ⟨hchannel, name', h', ?_⟩
        have hne : name' ≠ held.clientName := by
          rintro rfl
          simp [hclient] at hclient'
        exact (NameMap.get?_insert_of_ne hne).trans hclient'
      pending := h.pending
      -- The client that held nothing yet may now be active; its driver stays the same.
      driven := by
        intro name' key held' hclient'
        simp only [NameMap.get?_insert] at hclient'
        split at hclient'
        · next heq =>
          cases hclient'
          obtain ⟨d, hd, hkey, haccepted, -⟩ := h.driven _ _ _ hclient
          exact ⟨d, hd, hkey, heq ▸ haccepted, nofun⟩
        · exact h.driven name' key held' hclient'
      names := by
        intro name' key h' hclient'
        simp only [NameMap.get?_insert] at hclient'
        split at hclient'
        · cases hclient'
          exact hnames
        · exact h.names name' key h' hclient'
      grants := hgrants.trans ((h.grants.append_left _).trans hpool.symm) }

/-- A driver whose key has no channel may run, with a channel, once its client is
active. -/
theorem Sound.start {ds : List ChannelDriver} {key : String} {channel : Nat}
    (h : Sound accepted r p { c with drivers := ds ++ [⟨channel, key, true⟩] })
    (hactive : ∃ name held, r.clients.get? name = some ⟨key, some held⟩) :
    Sound accepted r p { c with
      channels := c.channels.insert key channel
      drivers := ds ++ [⟨channel, key, false⟩] } := by
  obtain ⟨name, held, hclient⟩ := hactive
  have hconnection := (h.registry.inverse name key).2 ⟨_, hclient⟩
  have hothers : ∀ d ∈ ds, d.key ≠ key := by
    intro d hd hkey
    have hnodup := h.keys
    rw [List.map_append, List.nodup_append] at hnodup
    exact hnodup.2.2 d.key (List.mem_map_of_mem hd) key (by simp) hkey
  exact
    { registry := h.registry
      keys := by
        have hkeys := h.keys
        rw [List.map_append] at hkeys ⊢
        exact hkeys
      routed := by
        intro key' channel' hchannel
        rw [NameMap.get?_insert] at hchannel
        split at hchannel
        · next heq =>
          cases hchannel
          exact ⟨⟨channel, key, false⟩, by simp, heq.symm, rfl⟩
        · next hne =>
          obtain ⟨d, hd, hkey, hnumber⟩ := h.routed key' channel' hchannel
          refine ⟨d, ?_, hkey, hnumber⟩
          rcases List.mem_append.1 hd with hd | hd
          · exact List.mem_append_left _ hd
          · rw [List.mem_singleton.1 hd] at hkey
            exact absurd hkey.symm hne
      live := by
        intro d hd hrunning
        rcases List.mem_append.1 hd with hd | hd
        · obtain ⟨hchannel, hclient'⟩ := h.live d (List.mem_append_left _ hd) hrunning
          exact ⟨(NameMap.get?_insert_of_ne (hothers d hd)).trans hchannel, hclient'⟩
        · rw [List.mem_singleton.1 hd]
          exact ⟨NameMap.get?_insert_self, name, held, hclient⟩
      pending := by
        intro key' hpending
        obtain ⟨d, hd, hkey, htold⟩ := h.pending key' hpending
        refine ⟨d, ?_, hkey, htold⟩
        -- A pending key has no client, so its driver is not the one that starts.
        rcases List.mem_append.1 hd with hd | hd
        · exact List.mem_append_left _ hd
        · rw [List.mem_singleton.1 hd] at hkey
          have hnone := h.registry.disjoint key' hpending
          rw [← hkey, hconnection] at hnone
          cases hnone
      driven := by
        intro name' key' held' hclient'
        obtain ⟨d, hd, hkey, haccepted, htold⟩ := h.driven name' key' held' hclient'
        rcases List.mem_append.1 hd with hd | hd
        · exact ⟨d, List.mem_append_left _ hd, hkey, haccepted, htold⟩
        · rw [List.mem_singleton.1 hd] at hkey haccepted
          refine ⟨⟨channel, key, false⟩, by simp, hkey, haccepted, ?_⟩
          -- The client of the key is the active one.
          rintro rfl
          subst hkey
          obtain rfl := h.registry.name_eq hclient hclient'
          rw [hclient] at hclient'
          cases hclient'
      names := h.names
      grants := h.grants }

end Sound

/-- The end of a driver that was told to end: what its key registered is cleared and
torn down, and the stores stay sound. -/
theorem Sound.leave {accepted : String → Nat → String → Prop} {s : State} {d : ChannelDriver}
    (h : Sound accepted s.registry s.pool s.connections) (hd : d ∈ s.connections.drivers)
    (htold : d.cancelled = true) :
    let s' := (EndPhase.finish s (.leaving d)).1
    Sound accepted s'.registry s'.pool s'.connections ∧
      s'.connections = s.connections.finish d ∧ s'.config = s.config := by
  have hall : ∀ d' ∈ s.connections.drivers, d'.key = d.key → d'.cancelled = true := by
    intro d' hd' hkey
    rwa [h.driver_unique hd' hd hkey]
  simp only [EndPhase.finish, State.clear]
  -- In each case nothing is registered for the key afterwards, as `Sound.finish` asks.
  rcases Registry.clear_cases h.registry d.key with
    ⟨hpending, hclear⟩ | ⟨hpending, hconnection, hclear⟩ | ⟨name, held, hpending, hclient, hclear⟩
  · rw [hclear]
    have hconnection := h.registry.disjoint d.key hpending
    refine ⟨(h.erase_pending d.key).finish hd ?_ ?_, rfl, rfl⟩
    · exact NameMap.contains_eq_false_iff.2 NameMap.get?_erase_self
    · exact Registry.clients_ne_of_connections h.registry hconnection
  · rw [hclear]
    exact ⟨h.finish hd hpending (Registry.clients_ne_of_connections h.registry hconnection), rfl, rfl⟩
  · rw [hclear]
    have hgone := h.without hclient hall
    have hsound := hgone.finish hd hpending fun name' held' hclient' => by
      obtain ⟨hne, hother⟩ := Registry.get?_clients_without_eq_some_iff.1 hclient'
      exact hne (h.registry.name_eq hclient hother)
    cases held with
    | none => exact ⟨hsound, rfl, rfl⟩
    | some held =>
      simp only [EndPhase.tearDownAll_eq, and_true]
      exact hsound

/-- The end of the first driver that was told to end leaves the others. -/
theorem Sound.cancelled_finish {accepted : String → Nat → String → Prop} {r : Registry}
    {p : PortPool} {c : ConnectionPool} (h : Sound accepted r p c) {d : ChannelDriver}
    {ds : List ChannelDriver} (hds : c.drivers.filter (fun d => d.cancelled) = d :: ds) :
    (c.finish d).drivers.filter (fun d => d.cancelled) = ds := by
  have hnodup : c.drivers.Nodup := List.Nodup.of_map _ h.keys
  have hnew : d ∉ ds := by
    have hfiltered := hnodup.filter fun d => d.cancelled
    rw [hds] at hfiltered
    exact (List.nodup_cons.1 hfiltered).1
  change (c.drivers.erase d).filter (fun d => d.cancelled) = ds
  rw [hnodup.erase_eq_filter, List.filter_comm, hds, List.filter_cons_of_neg (by simp)]
  refine List.filter_eq_self.2 fun d' hd' => ?_
  have hne : d' ≠ d := fun heq => hnew (heq ▸ hd')
  simpa using hne

/-- The ends of all drivers that were told to end, one after the other. -/
theorem sound_foldl_leave {accepted : String → Nat → String → Prop} (ds : List ChannelDriver)
    {s : State} (h : Sound accepted s.registry s.pool s.connections)
    (hds : s.connections.drivers.filter (fun d => d.cancelled) = ds) :
    let s' := ds.foldl (fun s d => (EndPhase.finish s (.leaving d)).1) s
    Sound accepted s'.registry s'.pool s'.connections ∧
      (∀ d ∈ s'.connections.drivers, d.cancelled = false) ∧ s'.config = s.config ∧
      s'.connections.nextChannel = s.connections.nextChannel := by
  -- On the drivers still to end, which after each end are those left that were told to.
  induction ds generalizing s with
  | nil =>
    refine ⟨h, fun d hd => ?_, rfl, rfl⟩
    have hnot := List.filter_eq_nil_iff.1 hds d hd
    simpa using hnot
  | cons d ds ih =>
    have hmem : d ∈ s.connections.drivers.filter fun d => d.cancelled := by simp [hds]
    obtain ⟨hd, htold⟩ := List.mem_filter.1 hmem
    obtain ⟨hsound, hconnections, hconfig⟩ := h.leave hd htold
    have hrest := h.cancelled_finish hds
    obtain ⟨hsound', hrunning, hconfig', hnumber⟩ := ih hsound (hconnections ▸ hrest)
    refine ⟨hsound', hrunning, hconfig'.trans hconfig, hnumber.trans ?_⟩
    rw [hconnections]
    rfl

/-- Once all drivers that were told to end have ended, only running ones are left. -/
theorem settled_settle {accepted : String → Nat → String → Prop} {s : State}
    (h : Sound accepted s.registry s.pool s.connections) :
    Settled accepted s.settle ∧ s.settle.config = s.config ∧
      s.settle.connections.nextChannel = s.connections.nextChannel := by
  obtain ⟨hsound, hrunning, hrest⟩ := sound_foldl_leave _ h rfl
  exact ⟨⟨hsound, hrunning⟩, hrest⟩

/-! ## Events -/

section Settled

variable {accepted : String → Nat → String → Prop} {s : State}

/-- Between two events no key is pending. -/
theorem Settled.pending_eq_none (h : Settled accepted s) (key : String) :
    s.registry.pending.get? key = none := by
  rw [← NameMap.contains_eq_false_iff, Bool.eq_false_iff]
  intro hpending
  obtain ⟨d, hd, -, htold⟩ := h.sound.pending key hpending
  rw [h.running d hd] at htold
  cases htold

/-- Between two events every subscribed client is active and has a live channel. -/
theorem Settled.active (h : Settled accepted s) {name key : String} {held : Option Holdings}
    (hclient : s.registry.clients.get? name = some ⟨key, held⟩) :
    (∃ owned, held = some owned) ∧
      ∃ channel, s.connections.channels.get? key = some channel ∧ accepted key channel name := by
  obtain ⟨d, hd, hkey, haccepted, htold⟩ := h.sound.driven name key held hclient
  have hrunning := h.running d hd
  constructor
  · cases held with
    | some owned => exact ⟨owned, rfl⟩
    | none =>
      rw [htold rfl] at hrunning
      cases hrunning
  · obtain ⟨hchannel, -⟩ := h.sound.live d hd hrunning
    exact ⟨d.channel, hkey ▸ hchannel, haccepted⟩

/-- Between two events every live channel is the connection of an active client. -/
theorem Settled.client (h : Settled accepted s) {key : String} {channel : Nat}
    (hchannel : s.connections.channels.get? key = some channel) :
    ∃ name held, s.registry.clients.get? name = some ⟨key, some held⟩ := by
  obtain ⟨d, hd, hkey, -⟩ := h.sound.routed key channel hchannel
  exact hkey ▸ (h.sound.live d hd (h.running d hd)).2

theorem settled_disconnect (h : Settled accepted s) (key : String) :
    Settled accepted (s.disconnect key) ∧ (s.disconnect key).config = s.config := by
  have hstopped := h.sound.stop (ConnectionPool.stops_peerClosed _ key)
  obtain ⟨hsettled, hconfig, -⟩ := settled_settle (s := { s with
    connections := s.connections.peerClosed key }) hstopped
  exact ⟨hsettled, hconfig⟩

theorem settled_stop (h : Settled accepted s) :
    Settled accepted s.stop ∧ s.stop.config = s.config := by
  rw [State.stop]
  split
  · exact ⟨h, rfl⟩
  · obtain ⟨hsettled, hconfig, -⟩ := settled_settle (s := { s with
      stopping := true, connections := s.connections.closeAll })
      (h.sound.stop (ConnectionPool.stops_closeAll _))
    exact ⟨hsettled, hconfig⟩

/-- Unsubscribing by name removes the channel after the client. Neither change sees the
other, so the stores are sound as if the channel had gone first. -/
theorem settled_unsubscribe (h : Settled accepted s) (key name : String) :
    Settled accepted (s.unsubscribe key name).2 ∧
      (s.unsubscribe key name).2.config = s.config := by
  simp only [State.unsubscribe, EndPhase.finish, Registry.unsubscribe]
  split
  · next hnone =>
    split at hnone
    · next hconnection =>
      obtain ⟨held, hclient⟩ := (h.sound.registry.inverse name key).1 hconnection
      obtain ⟨⟨owned, rfl⟩, -⟩ := h.active hclient
      rw [Registry.removeClient_of_get? hclient] at hnone
      cases hnone
    · cases hnone
      obtain ⟨hsettled, hconfig, -⟩ := settled_settle h.sound
      exact ⟨hsettled, hconfig⟩
  · next owned registry hsome =>
    split at hsome
    · next hconnection =>
      obtain ⟨held, hclient⟩ := (h.sound.registry.inverse name key).1 hconnection
      rw [Registry.removeClient_of_get? hclient] at hsome
      simp only [Prod.mk.injEq] at hsome
      obtain ⟨rfl, rfl⟩ := hsome
      -- As if the channel had gone first: then the driver was told to end before its
      -- client is removed.
      have hdeleted := h.sound.stop (ConnectionPool.stops_delete s.connections key)
      have htold : ∀ d ∈ (s.connections.delete key).2.drivers, d.key = key →
          d.cancelled = true := by
        intro d hd hkey
        by_contra hrunning
        have hchannel := (hdeleted.live d hd (by simpa using hrunning)).1
        rw [hkey, ConnectionPool.get?_delete_self] at hchannel
        cases hchannel
      have hsound := hdeleted.without hclient htold
      rw [EndPhase.tearDownAll_eq]
      obtain ⟨hsettled, hconfig, -⟩ := settled_settle (s := State.deleteChannel { s with
        registry := s.registry.without name ⟨key, some owned⟩
        closed := s.closed.closeAll owned.listeners
        pool := s.pool.releasedAll (grantsOf owned.clientName owned.listeners) } key) hsound
      exact ⟨hsettled, hconfig⟩
    · cases hsome

/-- No driver has the key of a channel that can be opened. -/
theorem Settled.key_free (h : Settled accepted s) {key : String} {connections : ConnectionPool}
    (hregister : s.connections.register key = .ok connections) :
    ∀ d ∈ s.connections.drivers, d.key ≠ key := by
  intro d hd hkey
  have hchannel := (h.sound.live d hd (h.running d hd)).1
  rw [hkey, (ConnectionPool.register_eq_ok hregister).1] at hchannel
  cases hchannel

/-- Nobody holds a port under a client name that is free. -/
theorem Sound.owner_ne {r : Registry} {p : PortPool} {c : ConnectionPool}
    (h : Sound accepted r p c) {name : String} (hfree : r.clients.get? name = none) :
    ∀ g ∈ p.grants, g.lease.owner ≠ name := by
  rintro g hg rfl
  obtain ⟨name, subscriber, hclient, hgrant⟩ :=
    Registry.mem_grants_iff.1 (h.grants.mem_iff.2 hg)
  rw [h.registry.owner_eq hclient hgrant, hclient] at hfree
  cases hfree

/-- A channel that was opened and deleted again leaves its key pending, with a driver
that was told to end. -/
theorem Settled.rejected (h : Settled accepted s) {key : String} {registry : Registry}
    {connections : ConnectionPool} (hreserve : s.registry.reserve key = .ok registry)
    (hregister : s.connections.register key = .ok connections) :
    Sound accepted registry s.pool (connections.delete key).2 ∧
      ⟨s.connections.nextChannel, key, true⟩ ∈ (connections.delete key).2.drivers := by
  rw [ConnectionPool.delete_of_register hregister]
  have hstops := ConnectionPool.stops_cancel s.connections s.connections.nextChannel
  have hfree : ∀ d ∈ (s.connections.cancel s.connections.nextChannel).drivers, d.key ≠ key := by
    intro d hd hkey
    have hmem : key ∈ s.connections.drivers.map ChannelDriver.key :=
      hstops.keys ▸ hkey ▸ List.mem_map_of_mem hd
    obtain ⟨d', hd', hkey'⟩ := List.mem_map.1 hmem
    exact h.key_free hregister d' hd' hkey'
  have hadded := (h.sound.stop hstops).add hfree s.connections.nextChannel
    (s.connections.nextChannel + 1)
  have hmem : (⟨s.connections.nextChannel, key, true⟩ : ChannelDriver) ∈
      (s.connections.cancel s.connections.nextChannel).drivers ++
        [⟨s.connections.nextChannel, key, true⟩] := by simp
  exact ⟨hadded.reserve hmem rfl hreserve, hmem⟩

/-- Nobody holds a port for the tunnels of a client that has just subscribed. -/
theorem Settled.unheld (h : Settled accepted s) {key : String} {registry subscribed : Registry}
    {handshake : Handshake} (hreserve : s.registry.reserve key = .ok registry)
    (hsubscribe : registry.subscribe handshake.clientName key = .ok subscribed) :
    ∀ g ∈ s.pool.grants, g.lease.owner = handshake.clientName →
      g.lease.tunnel ∉ handshake.tunnels.names := by
  intro g hg howner
  have hfree := (Registry.subscribe_eq_ok hsubscribe).1
  obtain ⟨-, -, rfl⟩ := Registry.reserve_eq_ok hreserve
  exact absurd howner (h.sound.owner_ne hfree g hg)

/-- What the task of a new connection comes to keeps the stores sound. -/
theorem sound_of_outcome (h : Settled accepted s) {key : String} {surroundings : Surroundings}
    {s' : State} (houtcome : Outcome s key surroundings s')
    (haccepted : ∀ handshake,
      authorizedHandshake s.config surroundings.hello = .ok handshake →
      s'.connections.nextChannel = s.connections.nextChannel + 1 →
      accepted key s.connections.nextChannel handshake.clientName) :
    Sound accepted s'.registry s'.pool s'.connections ∧ s'.config = s.config := by
  cases houtcome with
  | turnedAway => exact ⟨h.sound, rfl⟩
  | rejected hreserve hregister => exact ⟨(h.rejected hreserve hregister).1, rfl⟩
  | @undone registry subscribed connections handshake s₁ fault hreserve hregister hauthorized
      hsubscribe hfailed =>
    -- The tunnels left no trace, so this is a rejected client that had subscribed.
    have hundone := provision_all_or_nothing { s with registry := subscribed, connections } key
      handshake.clientName handshake.tunnels surroundings (h.unheld hreserve hsubscribe)
    rw [hfailed] at hundone
    have hconnections : s₁.connections = connections := congrArg State.connections hundone.rest
    have hconfig : s₁.config = s.config := (congrArg State.config hundone.rest).trans rfl
    obtain ⟨hrejected, hdriver⟩ := h.rejected hreserve hregister
    refine ⟨?_, hconfig⟩
    change Sound accepted s₁.registry s₁.pool (s₁.connections.delete key).2
    rw [hundone.registry, hundone.pool, hconnections]
    refine hrejected.subscribe hdriver rfl (haccepted handshake hauthorized ?_) hsubscribe
    change (s₁.connections.delete key).2.nextChannel = _
    rw [hconnections, ConnectionPool.delete_of_register hregister]
  | @admitted registry subscribed connections handshake _ hreserve hregister hauthorized
      hsubscribe hprovision =>
    have hprovisioned := provision_all_or_nothing { s with registry := subscribed, connections }
      key handshake.clientName handshake.tunnels surroundings (h.unheld hreserve hsubscribe)
    rw [hprovision] at hprovisioned
    obtain ⟨held, hheld⟩ := hprovisioned
    have hconnections : s'.connections = connections := congrArg State.connections hheld.rest
    have hconfig : s'.config = s.config := (congrArg State.config hheld.rest).trans rfl
    refine ⟨?_, hconfig⟩
    have hkeys := h.key_free hregister
    obtain ⟨-, rfl⟩ := ConnectionPool.register_eq_ok hregister
    have hnames : (held.listeners.map Listener.name).Nodup := by
      rw [hheld.listeners]
      exact nodup_streamNames handshake.tunnels.nodup_names
    -- The driver is added as if it were told to end, and started once its client is active.
    have hadded := h.sound.add hkeys s.connections.nextChannel (s.connections.nextChannel + 1)
    have hreserved := hadded.reserve (d := ⟨s.connections.nextChannel, key, true⟩) (by simp) rfl
      hreserve
    have hsubscribed := hreserved.subscribe (d := ⟨s.connections.nextChannel, key, true⟩) (by simp)
      rfl (haccepted handshake hauthorized (by rw [hconnections])) hsubscribe
    have hcommitted := hsubscribed.commit hheld.committed (hheld.name ▸ hheld.grants) hnames
    rw [hconnections]
    exact Sound.start (c := { s.connections with nextChannel := s.connections.nextChannel + 1 })
      hcommitted ⟨_, _, hheld.owned⟩

end Settled

/-! ## Runs -/

/-- What the stores of a server say of each other between two events. -/
structure Agree (s : State) : Prop where
  consistent : s.registry.Consistent
  /-- The leased ports are those behind the listeners of the active clients, one for
  each, leased in the name of its client and listener. -/
  ports : s.registry.grants.Perm s.pool.grants
  /-- Every subscribed client is active, and its connection has a live channel. -/
  active : ∀ name key held, s.registry.clients.get? name = some ⟨key, held⟩ →
    (∃ owned, held = some owned) ∧ s.connections.contains key = true
  /-- Every live channel is the connection of exactly one active client. -/
  owned : ∀ key, s.connections.contains key = true →
    ∃! name, ∃ held, s.registry.clients.get? name = some ⟨key, some held⟩
  /-- Without a live channel nothing is registered or leased. -/
  idle : s.connections.size = 0 → s.registry = .empty ∧ s.pool.inUse = 0

/-- One of the events opened this channel for a connection whose hello presented an
accepted token and this client name. -/
def Presented (s₀ : State) (events : List Event) (key : String) (channel : Nat) (name : String) :
    Prop :=
  ∃ before surroundings after token handshake,
    events = before ++ .connect key surroundings :: after ∧
    (s₀.run before).connections.nextChannel = channel ∧
    (s₀.run (before ++ [.connect key surroundings])).connections.nextChannel = channel + 1 ∧
    readHello surroundings.hello = .ok (token, handshake) ∧
    s₀.config.authorizes token = true ∧ handshake.clientName = name

theorem run_append (s : State) (events : List Event) (e : Event) :
    s.run (events ++ [e]) = (s.run events).apply e := by
  simp [State.run, List.foldl_append]

theorem Presented.append {s₀ : State} {events : List Event} {key name : String} {channel : Nat}
    (h : Presented s₀ events key channel name) (e : Event) :
    Presented s₀ (events ++ [e]) key channel name := by
  obtain ⟨before, surroundings, after, token, handshake, rfl, hrest⟩ := h
  exact ⟨before, surroundings, after ++ [e], token, handshake, by simp, hrest⟩

theorem authorizedHandshake_eq_ok {config : Config} {answer : HelloAnswer} {handshake : Handshake}
    (h : authorizedHandshake config answer = .ok handshake) :
    ∃ token, readHello answer = .ok (token, handshake) ∧ config.authorizes token = true := by
  simp only [authorizedHandshake] at h
  split at h
  · cases h
  · next token handshake' hread =>
    split at h
    · next haccepted =>
      cases h
      exact ⟨token, hread, haccepted⟩
    · cases h

theorem settled_connect {accepted : String → Nat → String → Prop} {s : State}
    (h : Settled accepted s) (key : String) (surroundings : Surroundings)
    (haccepted : ∀ token handshake, readHello surroundings.hello = .ok (token, handshake) →
      s.config.authorizes token = true →
      (s.connect key surroundings).connections.nextChannel = s.connections.nextChannel + 1 →
      accepted key s.connections.nextChannel handshake.clientName) :
    Settled accepted (s.connect key surroundings) ∧
      (s.connect key surroundings).config = s.config := by
  have hnumber : ∀ {s' : State}, Sound (fun _ _ _ => True) s'.registry s'.pool s'.connections →
      s'.settle.connections.nextChannel = s'.connections.nextChannel := fun h' =>
    (settled_settle h').2.2
  have htrivial : Settled (fun _ _ _ => True) s :=
    ⟨h.sound.mono fun _ _ _ _ => trivial, h.running⟩
  have houtcome := Task.finish_outcome s key surroundings
  obtain ⟨hsound, hconfig⟩ := sound_of_outcome h houtcome fun handshake hauthorized hnext => by
    obtain ⟨token, hread, htoken⟩ := authorizedHandshake_eq_ok hauthorized
    refine haccepted token handshake hread htoken ?_
    rw [State.connect, hnumber (sound_of_outcome htrivial houtcome fun _ _ _ => trivial).1, hnext]
  obtain ⟨hsettled, hconfig', -⟩ := settled_settle hsound
  exact ⟨hsettled, hconfig'.trans hconfig⟩

/-- A fresh server whose pool is free is settled. -/
theorem settled_fresh (config : Config) {pool : PortPool} (h : pool.grants = [])
    (accepted : String → Nat → String → Prop) : Settled accepted (State.fresh config pool) where
  sound :=
    { registry := Registry.consistent_empty
      keys := List.nodup_nil
      routed := nofun
      live := nofun
      pending := nofun
      driven := nofun
      names := nofun
      grants := by
        change List.Perm [] pool.grants
        rw [h] }
  running := nofun

/-- Every run of events leaves the server settled, and every client accepted. -/
theorem settled_run {s₀ : State} (h : Settled (fun _ _ _ => False) s₀) (events : List Event) :
    Settled (Presented s₀ events) (s₀.run events) ∧ (s₀.run events).config = s₀.config := by
  -- On the last event: what was presented before it is still presented after it.
  induction events using List.reverseRecOn with
  | nil => exact ⟨⟨h.sound.mono nofun, h.running⟩, rfl⟩
  | append_singleton events e ih =>
    obtain ⟨hsettled, hconfig⟩ := ih
    have hbefore : Settled (Presented s₀ (events ++ [e])) (s₀.run events) :=
      ⟨hsettled.sound.mono fun _ _ _ hp => hp.append e, hsettled.running⟩
    rw [run_append]
    cases e with
    | connect key surroundings =>
      obtain ⟨hafter, hconfig'⟩ := settled_connect hbefore key surroundings
        fun token handshake hread htoken hnext => by
          refine ⟨events, surroundings, [], token, handshake, rfl, rfl, ?_, hread,
            hconfig ▸ htoken, rfl⟩
          rw [run_append]
          exact hnext
      exact ⟨hafter, hconfig'.trans hconfig⟩
    | disconnect key =>
      obtain ⟨hafter, hconfig'⟩ := settled_disconnect hbefore key
      exact ⟨hafter, hconfig'.trans hconfig⟩
    | unsubscribe key name =>
      obtain ⟨hafter, hconfig'⟩ := settled_unsubscribe hbefore key name
      exact ⟨hafter, hconfig'.trans hconfig⟩
    | stop =>
      obtain ⟨hafter, hconfig'⟩ := settled_stop hbefore
      exact ⟨hafter, hconfig'.trans hconfig⟩

/-- A registry that knows no key and no client knows nothing. -/
theorem registry_eq_empty {r : Registry} (hr : r.Consistent)
    (hpending : ∀ key, r.pending.get? key = none) (hclients : ∀ name, r.clients.get? name = none) :
    r = .empty := by
  have hconnections : ∀ key, r.connections.get? key = none := by
    intro key
    rw [Option.eq_none_iff_forall_ne_some]
    intro name hname
    obtain ⟨held, hclient⟩ := (hr.inverse name key).1 hname
    rw [hclients] at hclient
    cases hclient
  have hhosts : ∀ host, r.hosts.get? host = none := by
    intro host
    rw [Option.eq_none_iff_forall_ne_some]
    intro route hroute
    obtain ⟨name, place, held, ⟨key, hclient⟩, -⟩ := (hr.indexed host route).1 hroute
    rw [hclients] at hclient
    cases hclient
  obtain ⟨pending, clients, connections, hosts⟩ := r
  simp only at hpending hclients hconnections hhosts
  have hempty : ∀ {α : Type} {m : NameMap α}, (∀ name, m.get? name = none) → m = .empty :=
    fun h => NameMap.ext_get? fun name => by rw [h, NameMap.get?_empty]
  rw [hempty hpending, hempty hclients, hempty hconnections, hempty hhosts]
  rfl

theorem Settled.agree {accepted : String → Nat → String → Prop} {s : State}
    (h : Settled accepted s) : Agree s where
  consistent := h.sound.registry
  ports := h.sound.grants
  active name key held hclient := by
    obtain ⟨howned, channel, hchannel, -⟩ := h.active hclient
    exact ⟨howned, NameMap.contains_iff.2 ⟨channel, hchannel⟩⟩
  owned key hkey := by
    obtain ⟨channel, hchannel⟩ := NameMap.contains_iff.1 hkey
    obtain ⟨name, held, hclient⟩ := h.client hchannel
    refine ⟨name, ⟨held, hclient⟩, ?_⟩
    rintro name' ⟨held', hclient'⟩
    exact h.sound.registry.name_eq hclient hclient'
  idle hsize := by
    have hnone : ∀ key, s.connections.channels.get? key = none := by
      intro key
      have hentries := List.length_eq_zero_iff.1 hsize
      rw [NameMap.get?, hentries]
      rfl
    have hclients : ∀ name, s.registry.clients.get? name = none := by
      intro name
      rw [Option.eq_none_iff_forall_ne_some]
      rintro ⟨key, held⟩ hclient
      obtain ⟨-, channel, hchannel, -⟩ := h.active hclient
      rw [hnone] at hchannel
      cases hchannel
    have hempty := registry_eq_empty h.sound.registry h.pending_eq_none hclients
    refine ⟨hempty, ?_⟩
    rw [PortPool.inUse_eq_length_grants, ← h.sound.grants.length_eq, hempty]
    rfl

/-- A server starts with a free pool. -/
theorem start_eq_ok {config : Config} {listen : String → Except SystemError SocketAddress}
    {s : State} {address : SocketAddress} (h : State.start config listen = .ok (s, address)) :
    ∃ pool, pool.grants = [] ∧ s = State.fresh config pool := by
  simp only [State.start, bind, Except.bind, pure, Except.pure] at h
  split at h
  · cases h
  · split at h
    · cases h
    · next pool hpool =>
      split at h
      · cases h
      · simp only [Except.ok.injEq, Prod.mk.injEq] at h
        cases hparse : PortPool.parse config.portRange with
        | error e =>
          rw [hparse] at hpool
          cases hpool
        | ok pool' =>
          rw [hparse] at hpool
          cases hpool
          exact ⟨pool, PortPool.grants_of_parse hparse, h.1.symm⟩

/-- After every run of events from the start of a server its stores agree, and the
connection of every client presented a token that the server accepts. -/
theorem agree_run {config : Config} {listen : String → Except SystemError SocketAddress}
    {s₀ : State} {address : SocketAddress} (hstart : State.start config listen = .ok (s₀, address))
    (events : List Event) :
    Agree (s₀.run events) ∧
      ∀ name key held, (s₀.run events).registry.clients.get? name = some ⟨key, held⟩ →
        ∃ channel, (s₀.run events).connections.channels.get? key = some channel ∧
          Presented s₀ events key channel name := by
  obtain ⟨pool, hpool, rfl⟩ := start_eq_ok hstart
  obtain ⟨hsettled, -⟩ := settled_run (settled_fresh config hpool _) events
  exact ⟨hsettled.agree, fun name key held hclient => (hsettled.active hclient).2⟩

/-- Settings with two ports in the pool. -/
def twoPortConfig : Config := (Config.new "127.0.0.1:0" "7000:7002").withToken "secret"

/-- The free pool of two ports. -/
def twoPorts : PortPool := ⟨7000, [none, none], by decide⟩

theorem start_twoPorts :
    State.start twoPortConfig (fun _ => .ok ⟨.v4, "127.0.0.1", 7000⟩) =
      .ok (State.fresh twoPortConfig twoPorts, ⟨.v4, "127.0.0.1", 7000⟩) := by
  rfl

/-- Surroundings in which everything succeeds, for a client that asks for one port. -/
def greeting (client : String) : Surroundings :=
  ⟨true, true,
    .answered .ok (Http.Headers.empty.insert tokenField (.literal "secret"))
      (utf8 ("[\"" ++ client ++ "\",\x7b\"t\":[\"tcp\",\"\",null,\":AUTO\"]\x7d]")),
    fun _ _ address => .ok address⟩

/-- Two clients connect, and the first one leaves. -/
def firstLeaves : List Event :=
  [.connect "10.0.0.1:5000" (greeting "a"), .connect "10.0.0.2:5000" (greeting "b"),
    .disconnect "10.0.0.1:5000"]

/-- The first of them is connected. -/
def firstConnected : State :=
  (Task.steps (State.fresh twoPortConfig twoPorts) (.accept "10.0.0.1:5000" (greeting "a"))
    9).1.settle

/-- Both of them are connected. -/
def bothConnected : State :=
  (Task.steps firstConnected (.accept "10.0.0.2:5000" (greeting "b")) 9).1.settle

theorem run_firstLeaves : (State.fresh twoPortConfig twoPorts).run firstLeaves =
    bothConnected.disconnect "10.0.0.1:5000" := by
  have hfirst : (State.fresh twoPortConfig twoPorts).connect "10.0.0.1:5000" (greeting "a") =
      firstConnected := State.connect_of_steps (by decide +kernel)
  have hsecond : firstConnected.connect "10.0.0.2:5000" (greeting "b") = bothConnected :=
    State.connect_of_steps (by decide +kernel)
  rw [← hsecond, ← hfirst]
  rfl

/-- Control: the second client is left with the channel for which it presented its token,
and with its port. The port of the first client is free. -/
theorem agree_after_disconnect :
    State.start twoPortConfig (fun _ => .ok ⟨.v4, "127.0.0.1", 7000⟩) =
      .ok (State.fresh twoPortConfig twoPorts, ⟨.v4, "127.0.0.1", 7000⟩) ∧
    let s := (State.fresh twoPortConfig twoPorts).run firstLeaves
    Agree s ∧ s.registry.clients.names = ["b"] ∧
      s.connections.channels.names = ["10.0.0.2:5000"] ∧
      s.pool.slots = [none, some ⟨"b", "t"⟩] ∧
      ∃ held channel, s.registry.clients.get? "b" = some ⟨"10.0.0.2:5000", held⟩ ∧
        s.connections.channels.get? "10.0.0.2:5000" = some channel ∧
        Presented (State.fresh twoPortConfig twoPorts) firstLeaves "10.0.0.2:5000" channel "b" := by
  obtain ⟨hagree, hpresented⟩ := agree_run start_twoPorts firstLeaves
  rw [run_firstLeaves] at hagree hpresented ⊢
  have hclient : ((bothConnected.disconnect "10.0.0.1:5000").registry.clients.get? "b").map
      Subscriber.connection = some "10.0.0.2:5000" := by decide +kernel
  obtain ⟨⟨key, held⟩, hget, hkey⟩ := Option.map_eq_some_iff.1 hclient
  obtain rfl : key = "10.0.0.2:5000" := hkey
  obtain ⟨channel, hchannel, htoken⟩ := hpresented "b" _ held hget
  exact ⟨start_twoPorts, hagree, by decide +kernel, by decide +kernel, by decide +kernel, held,
    channel, hget, hchannel, htoken⟩

end ReverseTunnel.Server
