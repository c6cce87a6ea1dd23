import ReverseTunnel.Proofs.Server.Tending

/-!
# What unsubscribing reports

To unsubscribe a client takes it from the registry, tears down its listeners and removes its
channel, and answers whether there was such a client. It comes out in one of three ways
(`finish_unsubscribing`): the key does not belong to the client and nothing happens, the client
owned nothing yet, or it is removed with everything that it owned.

The middle case is the one that is reported wrongly. The client is gone from the registry, and the
answer is the same as if nothing had happened, so its channel stays open. In every other case of
every interleaved run the answer says what was done (`unsubscribe_reports_iff`). Of the ports of
a removed client those are free that were the lowest of their leases, as with every release; the
tunnels of a client have different names (`World.DistinctNames`), so that no release takes the
port that another was meant for.
-/

namespace ReverseTunnel

namespace Server

/-! ## The names of the tunnels of a client -/

/-- The tunnels of a batch: those with a listener, the one that is being bound, and those that are
still to be opened. -/
def Phase.tunnelNames : Phase → List String
  | .opening _ left batch => batch.listeners.map Listener.name ++ left.map Prod.fst
  | .binding _ pending left batch =>
    batch.listeners.map Listener.name ++ pending.name :: left.map Prod.fst
  | .committing _ batch => batch.listeners.map Listener.name
  | .accepted | .reserved | .connecting | .channelOpen | .greeted _ | .rollingBack .. |
    .dropping .. | .rejecting _ | .disconnecting | .done => []

/-- The listeners of every client that owns any have different names. -/
def ListenersDiffer (r : Registry) : Prop :=
  ∀ name key held, r.clients.get? name = some ⟨key, some held⟩ →
    (held.listeners.map Listener.name).Nodup

/-- No task opens two tunnels of one name, and no client has two listeners of one name. -/
structure World.DistinctNames (w : World) : Prop where
  tasks : ∀ t ∈ w.tasks, t.phase.tunnelNames.Nodup
  clients : ListenersDiffer w.state.registry

theorem ListenersDiffer.shrink {r r' : Registry} (h : ListenersDiffer r) (hshrinks : Shrinks r r') :
    ListenersDiffer r' := by
  intro name key held hclient
  exact h name key held (hshrinks.clients name _ hclient)

variable {s s' : State} {t : Task} {phase : Phase}

/-- A task is given tunnels of different names, and its steps only pass them on. -/
theorem Task.Does.nodup_tunnelNames (hdoes : t.Does s s' phase)
    (h : t.phase.tunnelNames.Nodup) : phase.tunnelNames.Nodup := by
  cases hdoes with
  | @subscribe handshake registry hphase ok => exact handshake.tunnels.nodup_names
  | claim claim hphase =>
    rw [hphase] at h
    exact h.sublist ((List.sublist_cons_self _ _).append_left _)
  | prepare address hphase =>
    rw [hphase] at h
    exact h
  | lease address hphase ok =>
    rw [hphase] at h
    exact h
  | listen address hphase quiet =>
    rw [hphase] at h
    simpa [Phase.tunnelNames] using h
  | opened hphase =>
    rw [hphase] at h
    simpa [Phase.tunnelNames] using h
  | _ => exact List.nodup_nil

/-- A client commits the listeners of its batch. -/
theorem Task.Does.listenersDiffer (hdoes : t.Does s s' phase) (hr : s.registry.Consistent)
    (htask : t.phase.tunnelNames.Nodup) (h : ListenersDiffer s.registry) :
    ListenersDiffer s'.registry := by
  cases hdoes with
  | reserve hphase ok =>
    obtain ⟨-, -, rfl⟩ := Registry.reserve_eq_ok ok
    exact h
  | abandon => exact h.shrink (shrinks_clear hr t.key)
  | subscribe hphase ok =>
    obtain ⟨-, -, rfl⟩ := Registry.subscribe_eq_ok ok
    intro name key held hclient
    rw [NameMap.get?_insert] at hclient
    split at hclient
    · cases hclient
    · exact h name key held hclient
  | @commit client batch registry hphase ok =>
    obtain ⟨-, -, -, rfl⟩ := Registry.commit_eq_ok ok
    intro name key held hclient
    rw [NameMap.get?_insert] at hclient
    split at hclient
    · cases hclient
      rw [hphase] at htask
      exact htask
    · exact h name key held hclient
  | unbind => simpa using h
  | release => simpa using h
  | _ => exact h

theorem World.DistinctNames.turn {w w' : World} (h : w.DistinctNames)
    (hr : w.state.registry.Consistent) (hturn : Turn w w') : w'.DistinctNames := by
  cases hturn with
  | accept key surroundings =>
    refine ⟨?_, h.clients⟩
    intro t ht
    rcases List.mem_append.1 ht with hold | hnew
    · exact h.tasks t hold
    · rw [List.mem_singleton.1 hnew]
      exact List.nodup_nil
  | task before after t htasks =>
    have hmem : t ∈ w.tasks := by
      rw [htasks]
      exact List.mem_append_right _ List.mem_cons_self
    have hdoes := t.does_step w.state
    refine ⟨?_, hdoes.listenersDiffer hr (h.tasks t hmem) h.clients⟩
    intro t' ht'
    rcases eq_or_mem_of_mem_append_cons (a := t) ht' with rfl | hother
    · exact hdoes.nodup_tunnelNames (h.tasks t hmem)
    · exact h.tasks t' (htasks ▸ hother)
  | ending before after e hends =>
    exact ⟨h.tasks, h.clients.shrink ((e.does_step w.state).shrinks hr)⟩
  | acceptLoop l =>
    refine ⟨h.tasks, ?_⟩
    rw [State.endAcceptLoop_eq]
    exact h.clients
  | _ => exact ⟨h.tasks, h.clients⟩

/-- In every world that a server can reach the registry is consistent and names differ. -/
theorem distinctNames_of_reaches {config : Config} {pool : PortPool} {w : World}
    (hreach : Reaches ⟨State.fresh config pool, [], []⟩ w) :
    w.state.registry.Consistent ∧ w.DistinctNames := by
  induction hreach with
  | refl =>
    refine ⟨Registry.consistent_empty, ?_, ?_⟩
    · intro t ht
      cases ht
    · intro name key held hclient
      cases hclient
  | turn _ hturn ih =>
    obtain ⟨hconsistent, hnames⟩ := ih
    exact ⟨hturn.consistent hconsistent, hnames.turn hconsistent hturn⟩

/-! ## How it comes out -/

/-- The client with this connection was removed, and everything that it owned with it. -/
structure Unsubscribed (s after : State) (key name : String) (held : Holdings) : Prop where
  active : s.registry.clients.get? name = some ⟨key, some held⟩
  forgotten : Forgot after.registry key
  channel : after.connections.contains key = false
  /-- A release was issued for every listener with a port of the pool. -/
  pool : after.pool = s.pool.releasedAll (grantsOf name held.listeners)
  closed : after.closed = s.closed.closeAll held.listeners

/-- A client that lost its entry has no other one. -/
theorem forgot_without {r : Registry} (hr : r.Consistent) {key name : String}
    {held : Option Holdings} (hclient : r.clients.get? name = some ⟨key, held⟩) :
    Forgot (r.without name ⟨key, held⟩) key := by
  have hconnection : r.connections.get? key = some name := (hr.inverse name key).2 ⟨held, hclient⟩
  have hremoved : r.unsubscribe key name = (held, r.without name ⟨key, held⟩) := by
    rw [Registry.unsubscribe, if_pos hconnection, Registry.removeClient_of_get? hclient]
  have hconsistent := Registry.consistent_unsubscribe key name hr
  rw [hremoved] at hconsistent
  refine forgot_of_unknown hconsistent (not_known_iff.2 ⟨?_, NameMap.get?_erase_self⟩)
  -- A key with a client is not pending.
  rw [← Bool.not_eq_true]
  intro hpending
  rw [hr.disjoint key hpending] at hconnection
  cases hconnection

/-- The three ways in which it comes out to unsubscribe a client. -/
theorem finish_unsubscribing (hr : s.registry.Consistent) (key name : String) :
    (s.registry.connections.get? key ≠ some name ∧
      EndPhase.finish s (.unsubscribing key name) = (s, false)) ∨
    (s.registry.clients.get? name = some ⟨key, none⟩ ∧
      EndPhase.finish s (.unsubscribing key name) =
        ({ s with registry := s.registry.without name ⟨key, none⟩ }, false)) ∨
    ∃ held after, Unsubscribed s after key name held ∧
      EndPhase.finish s (.unsubscribing key name) = (after, true) := by
  by_cases hconnection : s.registry.connections.get? key = some name
  · obtain ⟨held, hclient⟩ := (hr.inverse name key).1 hconnection
    have hremoved : s.registry.unsubscribe key name =
        (held, s.registry.without name ⟨key, held⟩) := by
      rw [Registry.unsubscribe, if_pos hconnection, Registry.removeClient_of_get? hclient]
    refine .inr ?_
    cases held with
    | none =>
      refine .inl ⟨hclient, ?_⟩
      rw [EndPhase.finish, hremoved]
    | some held =>
      obtain ⟨hname, -⟩ := hr.own name key held hclient
      refine .inr ⟨held, _, ⟨hclient, ?_, ?_, ?_, ?_⟩, by rw [EndPhase.finish, hremoved]⟩
      · rw [EndPhase.tearDownAll_eq]
        exact forgot_without hr hclient
      · exact NameMap.contains_eq_false_iff.2 (ConnectionPool.get?_delete_self _ key)
      · rw [EndPhase.tearDownAll_eq, hname]
        rfl
      · rw [EndPhase.tearDownAll_eq]
        rfl
  · refine .inl ⟨hconnection, ?_⟩
    rw [EndPhase.finish, Registry.unsubscribe, if_neg hconnection]

/-! ## What is free afterwards -/

section Unsubscribed

variable {after : State} {key name : String} {held : Holdings}

/-- The leases that are released with a client are those of its listeners. -/
theorem mem_leases_grantsOf_iff {client : String} {ls : List Listener} {lease : Lease} :
    lease ∈ (grantsOf client ls).map Grant.lease ↔
      ∃ l ∈ ls, l.poolPort.isSome = true ∧ lease = ⟨client, l.name⟩ := by
  rw [List.mem_map]
  constructor
  · rintro ⟨g, hg, rfl⟩
    obtain ⟨l, hl, hport, hlease⟩ := mem_grantsOf_iff.1 hg
    exact ⟨l, hl, by rw [hport, Option.isSome_some], hlease⟩
  · rintro ⟨l, hl, hsome, rfl⟩
    obtain ⟨port, hport⟩ := Option.isSome_iff_exists.1 hsome
    exact ⟨⟨⟨client, l.name⟩, port⟩, mem_grantsOf_iff.2 ⟨l, hl, hport, rfl⟩, rfl⟩

/-- A port is free afterwards if it was before, or if it is the lowest of the lease of a
listener. -/
theorem Unsubscribed.free_iff (h : Unsubscribed s after key name held)
    (hnames : (held.listeners.map Listener.name).Nodup) (port : UInt16) :
    after.pool.lease? port = none ↔ s.pool.lease? port = none ∨
      ∃ l ∈ held.listeners, l.poolPort.isSome = true ∧
        s.pool.lease? port = some ⟨name, l.name⟩ ∧ s.pool.IsLowest ⟨⟨name, l.name⟩, port⟩ := by
  have hleases : ((grantsOf name held.listeners).map Grant.lease).Nodup :=
    nodup_leases_grantsOf hnames
  have hleft : ∀ lease, after.pool.lease? port = some lease ↔
      s.pool.lease? port = some lease ∧
        (lease ∈ (grantsOf name held.listeners).map Grant.lease →
          ¬ s.pool.IsLowest ⟨lease, port⟩) := by
    intro lease
    have hmem := PortPool.mem_grants_releasedAll_iff (p := s.pool) (g := ⟨lease, port⟩) hleases
    rwa [← h.pool, PortPool.mem_grants_iff, PortPool.mem_grants_iff] at hmem
  constructor
  · intro hfree
    cases hbefore : s.pool.lease? port with
    | none => exact .inl rfl
    | some lease =>
      -- The port was released, and this takes a lowest port and a lease of the client.
      have hgone : ¬ (lease ∈ (grantsOf name held.listeners).map Grant.lease →
          ¬ s.pool.IsLowest ⟨lease, port⟩) := by
        intro hkept
        rw [(hleft lease).2 ⟨hbefore, hkept⟩] at hfree
        cases hfree
      rw [Classical.not_imp, not_not] at hgone
      obtain ⟨hlease, hlowest⟩ := hgone
      obtain ⟨l, hl, hsome, rfl⟩ := mem_leases_grantsOf_iff.1 hlease
      exact .inr ⟨l, hl, hsome, rfl, hlowest⟩
  · intro hcases
    cases hafter : after.pool.lease? port with
    | none => rfl
    | some lease =>
      obtain ⟨hbefore, hkept⟩ := (hleft lease).1 hafter
      rcases hcases with hfree | ⟨l, hl, hsome, hlease, hlowest⟩
      · rw [hbefore] at hfree
        cases hfree
      · rw [hbefore, Option.some.injEq] at hlease
        subst hlease
        exact absurd hlowest (hkept (mem_leases_grantsOf_iff.2 ⟨l, hl, hsome, rfl⟩))

end Unsubscribed

/-! ## What is reported -/

theorem without_ne_self {r : Registry} {name : String} {subscriber : Subscriber}
    (h : r.clients.get? name = some subscriber) : r.without name subscriber ≠ r := by
  intro heq
  have hgone : (r.without name subscriber).clients.get? name = none := NameMap.get?_erase_self
  rw [heq, h] at hgone
  cases hgone

/-- The registry answers nothing if it has done nothing, or if the client owned nothing yet. -/
theorem unsubscribe_unchanged_iff {r : Registry} (hr : r.Consistent) {key name : String}
    (h : (r.unsubscribe key name).1 = none) :
    (r.unsubscribe key name).2 = r ↔ r.clients.get? name ≠ some ⟨key, none⟩ := by
  by_cases hconnection : r.connections.get? key = some name
  · obtain ⟨held, hclient⟩ := (hr.inverse name key).1 hconnection
    rw [Registry.unsubscribe, if_pos hconnection, Registry.removeClient_of_get? hclient] at h ⊢
    obtain rfl : held = none := h
    exact iff_of_false (without_ne_self hclient) (not_not_intro hclient)
  · rw [Registry.unsubscribe, if_neg hconnection]
    refine iff_of_true rfl ?_
    intro hclient
    exact hconnection ((hr.inverse name key).2 ⟨none, hclient⟩)

/--
In every world that a server can reach, whoever is unsubscribed with whichever key: the answer
tells whether the key belonged to the client, and nothing has happened if it is no, unless the
client owned nothing yet. If it is yes, the client and its channel are gone, and of the leased
ports those are free that were the lowest of the lease of a listener.
-/
theorem unsubscribe_reports_iff {config : Config}
    {listen : String → Except SystemError SocketAddress} {s₀ : State} {address : SocketAddress}
    (hstart : State.start config listen = .ok (s₀, address)) {w : World}
    (hreach : Reaches ⟨s₀, [], []⟩ w) (key name : String) :
    let unowned := w.state.registry.clients.get? name = some ⟨key, none⟩
    let answer := EndPhase.finish w.state (.unsubscribing key name)
    (∀ calls, ((Registry.empty.run calls).unsubscribe key name).1 = none →
      (((Registry.empty.run calls).unsubscribe key name).2 = Registry.empty.run calls ↔
        (Registry.empty.run calls).clients.get? name ≠ some ⟨key, none⟩)) ∧
    ((answer.2 = true ↔ w.state.registry.connections.get? key = some name) ↔ ¬ unowned) ∧
    (answer.2 = true → ∃ held, Unsubscribed w.state answer.1 key name held ∧
      ∀ port, answer.1.pool.lease? port = none ↔ w.state.pool.lease? port = none ∨
        ∃ l ∈ held.listeners, l.poolPort.isSome = true ∧
          w.state.pool.lease? port = some ⟨name, l.name⟩ ∧
          w.state.pool.IsLowest ⟨⟨name, l.name⟩, port⟩) ∧
    (answer.2 = false → answer.1.pool = w.state.pool ∧
      answer.1.connections = w.state.connections ∧
      (answer.1.registry = w.state.registry ↔ ¬ unowned)) := by
  intro unowned answer
  obtain ⟨pool, -, rfl⟩ := start_eq_ok hstart
  obtain ⟨hr, hnames⟩ := distinctNames_of_reaches hreach
  refine ⟨fun calls => unsubscribe_unchanged_iff ?_, ?_⟩
  · exact Registry.consistent_foldl Registry.consistent_empty calls
  have hbelongs := hr.inverse name key
  rcases finish_unsubscribing hr key name with
    ⟨hconnection, hfinish⟩ | ⟨hclient, hfinish⟩ | ⟨held, after, hremoved, hfinish⟩
  · have howned : ¬ unowned := fun hclient => hconnection (hbelongs.2 ⟨none, hclient⟩)
    have hanswer : answer = (w.state, false) := hfinish
    rw [hanswer]
    refine ⟨iff_of_true (iff_of_false Bool.false_ne_true hconnection) howned, ?_, ?_⟩
    · intro htrue
      cases htrue
    · intro _
      exact ⟨rfl, rfl, iff_of_true rfl howned⟩
  · have hanswer : answer = _ := hfinish
    rw [hanswer]
    refine ⟨iff_of_false ?_ (not_not_intro hclient), ?_, ?_⟩
    · intro hiff
      cases hiff.2 (hbelongs.2 ⟨none, hclient⟩)
    · intro htrue
      cases htrue
    · intro _
      exact ⟨rfl, rfl, iff_of_false (without_ne_self hclient) (not_not_intro hclient)⟩
  · have howned : ¬ unowned := by
      intro hclient
      have hboth := hclient.symm.trans hremoved.active
      cases hboth
    have hconnection := hbelongs.2 ⟨_, hremoved.active⟩
    have hanswer : answer = (after, true) := hfinish
    rw [hanswer]
    refine ⟨iff_of_true (iff_of_true rfl hconnection) howned, ?_, ?_⟩
    · intro _
      exact ⟨held, hremoved, hremoved.free_iff (hnames.clients name key held hremoved.active)⟩
    · intro hfalse
      cases hfalse

/-- Client `a` is connected with its tunnel. -/
def withTunnel : World := freshWorld.after connected 10

/-- Client `a` has its name and has opened no tunnel yet. -/
def withoutTunnel : World := freshWorld.after connected 6

theorem reaches_connected {i : Nat} (h : i ≤ connected.length) :
    Reaches freshWorld (freshWorld.after connected i) :=
  reaches_after (by decide +kernel) h

/-- A client that is connected is removed with its channel, and its port is free. -/
theorem unsubscribe_reports_iff_active :
    let answer := EndPhase.finish withTunnel.state (.unsubscribing "10.0.0.1:5000" "a")
    answer.2 = true ∧ withTunnel.state.pool.lease? 7000 = some ⟨"a", "t"⟩ ∧
      answer.1.pool.lease? 7000 = none ∧
      ∃ held, Unsubscribed withTunnel.state answer.1 "10.0.0.1:5000" "a" held := by
  have hreach : Reaches freshWorld withTunnel := reaches_connected (by decide)
  obtain ⟨-, hiff, hremoved, -⟩ := unsubscribe_reports_iff start_twoPorts hreach "10.0.0.1:5000" "a"
  have hconnection : withTunnel.state.registry.connections.get? "10.0.0.1:5000" = some "a" := by
    decide +kernel
  have hheld : ((withTunnel.state.registry.clients.get? "a").bind Subscriber.holdings).isSome =
      true := by decide +kernel
  have howned : withTunnel.state.registry.clients.get? "a" ≠ some ⟨"10.0.0.1:5000", none⟩ := by
    intro hclient
    rw [hclient] at hheld
    cases hheld
  have htrue := (hiff.2 howned).2 hconnection
  have hleased : withTunnel.state.pool.lease? 7000 = some ⟨"a", "t"⟩ := by decide +kernel
  obtain ⟨held, hunsubscribed, -⟩ := hremoved htrue
  refine ⟨htrue, hleased, ?_, held, hunsubscribed⟩
  decide +kernel

/-- A client that has opened no tunnel yet is taken from the registry and keeps its channel, and
the answer is that the key does not belong to it. -/
theorem unowned_client_unreported :
    Reaches freshWorld withoutTunnel ∧
      withoutTunnel.state.registry.connections.get? "10.0.0.1:5000" = some "a" ∧
      withoutTunnel.state.connections.contains "10.0.0.1:5000" = true ∧
      (withoutTunnel.state.registry.unsubscribe "10.0.0.1:5000" "a").1 = none ∧
      let answer := EndPhase.finish withoutTunnel.state (.unsubscribing "10.0.0.1:5000" "a")
      answer.2 = false ∧ answer.1.registry.connections.get? "10.0.0.1:5000" = none ∧
        answer.1.connections.contains "10.0.0.1:5000" = true := by
  refine ⟨reaches_connected (by decide), ?_⟩
  decide +kernel

end Server

end ReverseTunnel
