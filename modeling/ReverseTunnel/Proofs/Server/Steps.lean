import ReverseTunnel.Proofs.Server.Interleaving

/-!
# The steps of a task, one by one

`Task.Does` lists what one step of a task can do: the phase that it starts from,
the condition under which it is taken, the state that it leaves and the phase
that it leads to. The step of every task is one of these (`Task.does_step`), so a
fact about interleaved runs is a case analysis on this list.

Tasks stay at their places, with their keys and their surroundings
(`Turn.task_before`), and the registry stays consistent (`Turn.consistent`). An end
registers nothing (`EndPhase.Does.shrinks`), and the registry forgets a key only when
it is cleared or its client unsubscribed (`Known`).
-/

namespace ReverseTunnel.Server

namespace Task

/-- What one step of a task can do. -/
inductive Does (s : State) (t : Task) : State → Phase → Prop where
  /-- The server stops, or the key is taken. -/
  | leave (h : t.phase = .accepted) : Does s t s .done
  | reserve {registry : Registry} (h : t.phase = .accepted)
      (ok : s.registry.reserve t.key = .ok registry) : Does s t { s with registry } .reserved
  /-- The key is free. -/
  | check (h : t.phase = .reserved) : Does s t s .connecting
  /-- A handshake failed, or the key has a channel. -/
  | abandon (h : t.phase = .reserved ∨ t.phase = .connecting) : Does s t (s.clear t.key).2 .done
  | register {connections : ConnectionPool} (h : t.phase = .connecting)
      (ok : s.connections.register t.key = .ok connections) :
      Does s t { s with connections } .channelOpen
  | greet {handshake : Handshake} (h : t.phase = .channelOpen)
      (ok : authorizedHandshake s.config t.surroundings.hello = .ok handshake) :
      Does s t s (.greeted handshake)
  | subscribe {handshake : Handshake} {registry : Registry} (h : t.phase = .greeted handshake)
      (ok : s.registry.subscribe handshake.clientName t.key = .ok registry) :
      Does s t { s with registry }
        (.opening handshake.clientName handshake.tunnels.entries .empty)
  /-- The hello is no good, or the client's name is taken. -/
  | turnDown (fault : Fault)
      (h : t.phase = .channelOpen ∨ ∃ handshake, t.phase = .greeted handshake) :
      Does s t s (.rejecting fault)
  /-- A tunnel is routed by its host. -/
  | claim {client name : String} {tunnel : Tunnel} {left : List (String × Tunnel)} {batch : Batch}
      (claim : HostClaim) (h : t.phase = .opening client ((name, tunnel) :: left) batch) :
      Does s t s (.opening client left { batch with claims := batch.claims ++ [claim] })
  /-- A tunnel is bound to an address of its own. -/
  | prepare {client name : String} {tunnel : Tunnel} {left : List (String × Tunnel)}
      {batch : Batch} (address : String)
      (h : t.phase = .opening client ((name, tunnel) :: left) batch) :
      Does s t s (.binding client ⟨name, tunnel.protocol, address, none⟩ left batch)
  /-- A tunnel is bound to a port of the pool. -/
  | lease {client name : String} {tunnel : Tunnel} {left : List (String × Tunnel)}
      {batch : Batch} {port : UInt16} {pool : PortPool} (address : String)
      (h : t.phase = .opening client ((name, tunnel) :: left) batch)
      (ok : s.pool.acquire client name = .ok (port, pool)) :
      Does s t { s with pool }
        (.binding client ⟨name, tunnel.protocol, address, some port⟩ left batch)
  | listen {client : String} {pending : PendingBind} {left : List (String × Tunnel)}
      {batch : Batch} (address : String) (h : t.phase = .binding client pending left batch)
      (quiet : t.release? = none) :
      Does s t (s.openListener pending.name address pending.poolPort).2
        (.opening client left { batch with
          listeners := batch.listeners ++
            [⟨pending.name, address, pending.poolPort, s.nextHandle⟩] })
  /-- A bind failed; its port is freed like that of a listener. -/
  | unbind {client : String} {pending : PendingBind} {left : List (String × Tunnel)}
      {batch : Batch} (fault : Fault) (h : t.phase = .binding client pending left batch)
      (issued : t.release? = pending.grant? client) :
      Does s t (s.releaseListener client ⟨pending.name, pending.address, pending.poolPort, 0⟩)
        (.rollingBack client batch.listeners batch fault)
  | opened {client : String} {batch : Batch} (h : t.phase = .opening client [] batch) :
      Does s t s (.committing client batch)
  | commit {client : String} {batch : Batch} {registry : Registry}
      (h : t.phase = .committing client batch)
      (ok : s.registry.commit (t.holdings client batch) = .ok registry) :
      Does s t { s with registry } .done
  /-- A tunnel cannot be opened, or the batch cannot be committed. -/
  | fail {client : String} {batch : Batch} (fault : Fault)
      (h : (∃ left, t.phase = .opening client left batch) ∨ t.phase = .committing client batch) :
      Does s t s (.rollingBack client batch.listeners batch fault)
  | release {client : String} {l : Listener} {left : List Listener} {batch : Batch}
      {fault : Fault} (h : t.phase = .rollingBack client (l :: left) batch fault) :
      Does s t (s.releaseListener client l) (.rollingBack client left batch fault)
  | released {client : String} {batch : Batch} {fault : Fault}
      (h : t.phase = .rollingBack client [] batch fault) : Does s t s (.dropping batch fault)
  | drop {batch : Batch} {fault : Fault} (h : t.phase = .dropping batch fault) :
      Does s t (s.dropListeners batch.listeners) (.rejecting fault)
  | reject {fault : Fault} (h : t.phase = .rejecting fault) : Does s t s .disconnecting
  | delete (h : t.phase = .disconnecting) : Does s t (s.deleteChannel t.key) .done
  | rest (h : t.phase = .done) : Does s t s .done

/-- A task keeps its surroundings. -/
theorem surroundings_step (s : State) (t : Task) :
    (step s t).2.surroundings = t.surroundings := by
  obtain ⟨key, surroundings, phase⟩ := t
  cases phase with
  | opening client left batch =>
    cases left with
    | nil => rfl
    | cons next left =>
      simp only [step, openTunnel]
      repeat' split
      all_goals rfl
  | rollingBack client left batch fault => cases left <;> rfl
  | _ =>
    simp only [step, bindTunnel, abandon]
    repeat' split
    all_goals rfl

theorem does_openTunnel {s : State} {t : Task} {client name : String} {tunnel : Tunnel}
    {left : List (String × Tunnel)} {batch : Batch}
    (h : t.phase = .opening client ((name, tunnel) :: left) batch) :
    t.Does s (openTunnel s t client name tunnel left batch).1
      (openTunnel s t client name tunnel left batch).2.phase := by
  rcases openTunnel_cases s t client name tunnel left batch with
    ⟨fault, hcase⟩ | ⟨-, hcase⟩ | ⟨-, -, address, hcase⟩ |
    ⟨-, -, port, pool, address, hacquire, hcase⟩
  · rw [hcase]
    exact .fail fault (.inl ⟨_, h⟩)
  · rw [hcase]
    exact .claim _ h
  · rw [hcase]
    exact .prepare address h
  · rw [hcase]
    exact .lease address h hacquire

theorem does_bindTunnel {s : State} {t : Task} {client : String} {pending : PendingBind}
    {left : List (String × Tunnel)} {batch : Batch}
    (h : t.phase = .binding client pending left batch) :
    t.Does s (bindTunnel s t client pending left batch).1
      (bindTunnel s t client pending left batch).2.phase := by
  cases hbind : t.surroundings.bind batch.listeners.length pending.protocol pending.address with
  | ok address =>
    have hquiet : t.release? = none := by simp [release?, h, hbind]
    simp only [bindTunnel, hbind]
    exact .listen address h hquiet
  | error fault =>
    have hissued : t.release? = pending.grant? client := by simp [release?, h, hbind]
    simp only [bindTunnel, hbind]
    exact .unbind fault h hissued

/-- Every step is one of those listed. -/
theorem does_step (s : State) (t : Task) : t.Does s (t.step s).1 (t.step s).2.phase := by
  cases hphase : t.phase with
  | accepted =>
    simp only [step, hphase]
    split
    · exact .leave hphase
    · split
      · next registry ok => exact .reserve hphase ok
      · exact .leave hphase
  | reserved =>
    simp only [step, hphase]
    split
    · exact .abandon (.inl hphase)
    · split
      · exact .check hphase
      · exact .abandon (.inl hphase)
  | connecting =>
    simp only [step, hphase]
    split
    · exact .abandon (.inr hphase)
    · split
      · next connections ok => exact .register hphase ok
      · exact .abandon (.inr hphase)
  | channelOpen =>
    simp only [step, hphase]
    split
    · next handshake ok => exact .greet hphase ok
    · next fault _ => exact .turnDown fault (.inl hphase)
  | greeted handshake =>
    simp only [step, hphase]
    split
    · next registry ok => exact .subscribe hphase ok
    · exact .turnDown _ (.inr ⟨handshake, hphase⟩)
  | opening client left batch =>
    cases left with
    | nil =>
      simp only [step, hphase]
      exact .opened hphase
    | cons next left =>
      obtain ⟨name, tunnel⟩ := next
      simp only [step, hphase]
      exact does_openTunnel hphase
  | binding client pending left batch =>
    simp only [step, hphase]
    exact does_bindTunnel hphase
  | committing client batch =>
    simp only [step, hphase]
    split
    · next registry ok => exact .commit hphase ok
    · exact .fail _ (.inr hphase)
  | rollingBack client left batch fault =>
    cases left with
    | nil =>
      simp only [step, hphase]
      exact .released hphase
    | cons l left =>
      simp only [step, hphase]
      exact .release hphase
  | dropping batch fault =>
    simp only [step, hphase]
    exact .drop hphase
  | rejecting fault =>
    simp only [step, hphase]
    exact .reject hphase
  | disconnecting =>
    simp only [step, hphase]
    exact .delete hphase
  | done =>
    simp only [step, hphase]
    exact .rest hphase

end Task

/-! ## Ends -/

/-- What one step of an end can do. -/
inductive EndPhase.Does (s : State) : EndPhase → State → EndPhase → Prop where
  | leave (d : ChannelDriver) :
      Does s (.leaving d) { s with connections := s.connections.finish d } (.clearing d.key)
  /-- No client that owned something had the key. -/
  | clear {key : String} {registry : Registry} (h : s.registry.clear key = (none, registry)) :
      Does s (.clearing key) { s with registry } (.done false)
  | remove {key : String} {held : Holdings} {registry : Registry}
      (h : s.registry.clear key = (some held, registry)) :
      Does s (.clearing key) { s with registry }
        (.tearingDown held.clientName held.listeners none)
  /-- The client has not this connection, or owned nothing. -/
  | miss {key name : String} {registry : Registry}
      (h : s.registry.unsubscribe key name = (none, registry)) :
      Does s (.unsubscribing key name) { s with registry } (.done false)
  | unsubscribe {key name : String} {held : Holdings} {registry : Registry}
      (h : s.registry.unsubscribe key name = (some held, registry)) :
      Does s (.unsubscribing key name) { s with registry }
        (.tearingDown held.clientName held.listeners (some key))
  | tearDown (client : String) (l : Listener) (left : List Listener) (channel : Option String) :
      Does s (.tearingDown client (l :: left) channel) (s.tearDown client l)
        (.tearingDown client left channel)
  | delete (client key : String) :
      Does s (.tearingDown client [] (some key)) (s.deleteChannel key) (.done true)
  | finish (client : String) : Does s (.tearingDown client [] none) s (.done true)
  | rest (removed : Bool) : Does s (.done removed) s (.done removed)

theorem EndPhase.does_step (s : State) (e : EndPhase) : e.Does s (e.step s).1 (e.step s).2 := by
  cases e with
  | leaving driver => exact .leave driver
  | clearing key =>
    simp only [step, State.clear]
    rcases hclear : s.registry.clear key with ⟨_ | held, registry⟩
    · exact .clear hclear
    · exact .remove hclear
  | unsubscribing key name =>
    simp only [step]
    rcases hunsubscribe : s.registry.unsubscribe key name with ⟨_ | held, registry⟩
    · exact .miss hunsubscribe
    · exact .unsubscribe hunsubscribe
  | tearingDown client left channel =>
    cases left with
    | nil =>
      cases channel with
      | none => exact .finish client
      | some key => exact .delete client key
    | cons l left => exact .tearDown client l left channel
  | done removed => exact .rest removed

/-- Nothing is registered that was not registered before. -/
structure Shrinks (r r' : Registry) : Prop where
  pending : ∀ key, r'.pending.contains key = true → r.pending.contains key = true
  connections : ∀ key name, r'.connections.get? key = some name →
    r.connections.get? key = some name
  clients : ∀ name s, r'.clients.get? name = some s → r.clients.get? name = some s

theorem shrinks_erase (r : Registry) (key : String) :
    Shrinks r { r with pending := r.pending.erase key } :=
  ⟨fun _ h => (NameMap.contains_erase_iff.1 h).2, fun _ _ h => h, fun _ _ h => h⟩

theorem shrinks_without (r : Registry) (name : String) (s : Subscriber) :
    Shrinks r (r.without name s) :=
  ⟨fun _ h => h, fun _ _ h => (NameMap.get?_erase_eq_some_iff.1 h).2,
    fun _ _ h => (Registry.get?_clients_without_eq_some_iff.1 h).2⟩

theorem shrinks_clear {r : Registry} (hr : r.Consistent) (key : String) :
    Shrinks r (r.clear key).2 := by
  rcases Registry.clear_eq hr key with ⟨-, hclear⟩ | ⟨name, held, -, -, hclear⟩
  · rw [hclear]
    exact shrinks_erase r key
  · rw [hclear]
    exact shrinks_without r name _

theorem shrinks_unsubscribe {r : Registry} (hr : r.Consistent) (key name : String) :
    Shrinks r (r.unsubscribe key name).2 := by
  rcases Registry.unsubscribe_eq hr key name with hsame | ⟨held, -, hremoved⟩
  · rw [hsame]
    exact ⟨fun _ h => h, fun _ _ h => h, fun _ _ h => h⟩
  · rw [hremoved]
    exact shrinks_without r name _

/-- The step of an end registers nothing. -/
theorem EndPhase.Does.shrinks {s s' : State} {e e' : EndPhase} (hdoes : e.Does s s' e')
    (hr : s.registry.Consistent) : Shrinks s.registry s'.registry := by
  have hsame : Shrinks s.registry s.registry := ⟨fun _ h => h, fun _ _ h => h, fun _ _ h => h⟩
  have hcleared := shrinks_clear hr
  have hunsubscribed := shrinks_unsubscribe hr
  cases hdoes with
  | @clear key _ h => simpa [h] using hcleared key
  | @remove key _ _ h => simpa [h] using hcleared key
  | @miss key name _ h => simpa [h] using hunsubscribed key name
  | @unsubscribe key name _ _ h => simpa [h] using hunsubscribed key name
  | tearDown =>
    rw [State.tearDown, State.releaseListener_eq]
    exact hsame
  | _ => exact hsame

/-! ## Known keys -/

/-- The registry knows the key of a connection. -/
def Known (r : Registry) (key : String) : Prop :=
  r.pending.contains key = true ∨ ∃ name, r.connections.get? key = some name

theorem not_known_iff {r : Registry} {key : String} :
    ¬ Known r key ↔ r.pending.contains key = false ∧ r.connections.get? key = none := by
  rw [Known, not_or, Bool.not_eq_true, ← Option.isSome_iff_exists, Bool.not_eq_true,
    Option.isSome_eq_false_iff, Option.isNone_iff_eq_none]

theorem Shrinks.known {r r' : Registry} {key : String} (h : Shrinks r r') (hknown : Known r' key) :
    Known r key := by
  refine hknown.imp (h.pending key) ?_
  rintro ⟨name, hname⟩
  exact ⟨name, h.connections key name hname⟩

section Known

variable {r : Registry} {key : String}

/-- A key that was cleared is not known any more. -/
theorem not_known_clear (hr : r.Consistent) (key : String) : ¬ Known (r.clear key).2 key := by
  rw [not_known_iff]
  rcases Registry.clear_eq hr key with ⟨hconnection, hclear⟩ | ⟨name, held, hpending, -, hclear⟩
  · rw [hclear]
    exact ⟨NameMap.contains_eq_false_iff.2 NameMap.get?_erase_self, hconnection⟩
  · rw [hclear]
    exact ⟨hpending, NameMap.get?_erase_self⟩

theorem known_clear_of_ne (hr : r.Consistent) {key' : String} (hne : key' ≠ key)
    (h : Known r key) : Known (r.clear key').2 key := by
  rcases Registry.clear_eq hr key' with ⟨-, hclear⟩ | ⟨name, held, -, -, hclear⟩
  · rw [hclear]
    exact h.imp_left fun hpending => NameMap.contains_erase_iff.2 ⟨hne.symm, hpending⟩
  · rw [hclear]
    refine h.imp_right ?_
    rintro ⟨n, hn⟩
    exact ⟨n, NameMap.get?_erase_eq_some_iff.2 ⟨hne.symm, hn⟩⟩

theorem known_unsubscribe_of_ne (hr : r.Consistent) {key' : String} (hne : key' ≠ key)
    (name : String) (h : Known r key) : Known (r.unsubscribe key' name).2 key := by
  rcases Registry.unsubscribe_eq hr key' name with hsame | ⟨held, -, hremoved⟩
  · rwa [hsame]
  · rw [hremoved]
    refine h.imp_right ?_
    rintro ⟨n, hn⟩
    exact ⟨n, NameMap.get?_erase_eq_some_iff.2 ⟨hne.symm, hn⟩⟩

/-- A key that is subscribed was pending, and is known all the time. -/
theorem known_subscribe {registry : Registry} {name key' : String}
    (ok : r.subscribe name key' = .ok registry) (h : Known r key) : Known registry key := by
  obtain ⟨-, -, rfl⟩ := Registry.subscribe_eq_ok ok
  by_cases hkey : key = key'
  · exact .inr ⟨name, by rw [hkey]; exact NameMap.get?_insert_self⟩
  · refine h.imp (fun hpending => NameMap.contains_erase_iff.2 ⟨hkey, hpending⟩) ?_
    rintro ⟨n, hn⟩
    exact ⟨n, (NameMap.get?_insert_of_ne hkey).trans hn⟩

/-- Only a key that is not known is reserved. -/
theorem not_known_of_reserve {registry : Registry} {key' : String}
    (ok : r.reserve key' = .ok registry) : ¬ Known r key' := by
  obtain ⟨hpending, hconnection, -⟩ := Registry.reserve_eq_ok ok
  exact not_known_iff.2 ⟨NameMap.contains_eq_false_iff.2 hpending, hconnection⟩

theorem known_reserve {registry : Registry} {key' : String} (ok : r.reserve key' = .ok registry)
    (h : key = key' ∨ Known r key) : Known registry key := by
  obtain ⟨-, -, rfl⟩ := Registry.reserve_eq_ok ok
  by_cases hkey : key = key'
  · exact .inl (NameMap.contains_iff.2 ⟨(), by rw [hkey]; exact NameMap.get?_insert_self⟩)
  · refine (h.resolve_left hkey).imp_left fun hpending => ?_
    rwa [NameMap.contains, NameMap.get?_insert_of_ne hkey]

end Known

/-! ## Turns -/

section Fields

variable (s : State) (client : String) (l : Listener)

@[simp]
theorem State.registry_releaseListener : (s.releaseListener client l).registry = s.registry := by
  rw [releaseListener_eq]

@[simp]
theorem State.connections_releaseListener :
    (s.releaseListener client l).connections = s.connections := by
  rw [releaseListener_eq]

@[simp]
theorem State.config_releaseListener : (s.releaseListener client l).config = s.config := by
  rw [releaseListener_eq]

@[simp]
theorem State.registry_tearDown : (s.tearDown client l).registry = s.registry := by
  rw [tearDown, registry_releaseListener]

@[simp]
theorem State.connections_tearDown : (s.tearDown client l).connections = s.connections := by
  rw [tearDown, connections_releaseListener]

@[simp]
theorem State.config_tearDown : (s.tearDown client l).config = s.config := by
  rw [tearDown, config_releaseListener]

theorem State.endAcceptLoop_eq :
    s.endAcceptLoop l = { s with bound := (s.endAcceptLoop l).bound } := by
  rw [endAcceptLoop]
  split <;> rfl

end Fields

theorem Task.config_step (s : State) (t : Task) : (t.step s).1.config = s.config := by
  have hdoes := t.does_step s
  generalize (t.step s).1 = s' at hdoes
  generalize (t.step s).2.phase = phase at hdoes
  cases hdoes with
  | unbind => exact State.config_releaseListener ..
  | release => exact State.config_releaseListener ..
  | _ => rfl

theorem EndPhase.config_step (s : State) (e : EndPhase) : (e.step s).1.config = s.config := by
  have hdoes := e.does_step s
  generalize (e.step s).1 = s' at hdoes
  generalize (e.step s).2 = e' at hdoes
  cases hdoes with
  | tearDown => exact State.config_tearDown ..
  | _ => rfl

/-- A step makes at most one call of the registry. -/
theorem Task.consistent_step {s : State} (t : Task) (hr : s.registry.Consistent) :
    (t.step s).1.registry.Consistent := by
  have hdoes := t.does_step s
  generalize (t.step s).1 = s' at hdoes ⊢
  generalize (t.step s).2.phase = phase at hdoes
  cases hdoes with
  | reserve _ ok => exact Registry.consistent_reserve hr ok
  | abandon => exact Registry.consistent_clear t.key hr
  | subscribe _ ok => exact Registry.consistent_subscribe hr ok
  | commit _ ok => exact Registry.consistent_commit hr ok
  | unbind => simpa using hr
  | release => simpa using hr
  | _ => exact hr

theorem EndPhase.consistent_step {s : State} (e : EndPhase) (hr : s.registry.Consistent) :
    (e.step s).1.registry.Consistent := by
  have hdoes := e.does_step s
  generalize (e.step s).1 = s' at hdoes ⊢
  generalize (e.step s).2 = e' at hdoes
  have hcleared : ∀ key, (s.registry.clear key).2.Consistent :=
    fun key => Registry.consistent_clear key hr
  have hunsubscribed : ∀ key name, (s.registry.unsubscribe key name).2.Consistent :=
    fun key name => Registry.consistent_unsubscribe key name hr
  cases hdoes with
  | @clear key _ h => simpa [h] using hcleared key
  | @remove key _ _ h => simpa [h] using hcleared key
  | @miss key name _ h => simpa [h] using hunsubscribed key name
  | @unsubscribe key name _ _ h => simpa [h] using hunsubscribed key name
  | tearDown => simpa using hr
  | _ => exact hr

variable {w w' : World}

theorem Turn.config (h : Turn w w') : w'.state.config = w.state.config := by
  cases h with
  | task _ _ t _ => exact t.config_step w.state
  | ending _ _ e _ => exact e.config_step w.state
  | acceptLoop l => rw [State.endAcceptLoop_eq]
  | _ => rfl

/-- The registry stays consistent. -/
theorem Turn.consistent (h : Turn w w') (hr : w.state.registry.Consistent) :
    w'.state.registry.Consistent := by
  cases h with
  | task _ _ t _ => exact t.consistent_step hr
  | ending _ _ e _ => exact e.consistent_step hr
  | acceptLoop l =>
    rw [State.endAcceptLoop_eq]
    exact hr
  | _ => exact hr

theorem getElem?_append_cons_self {α : Type} (before after : List α) (a : α) :
    (before ++ a :: after)[before.length]? = some a := by
  simp

/-- What stands in a list with one element changed is the new element or stood there before. -/
theorem eq_or_mem_of_mem_append_cons {α : Type} {before after : List α} {a b c : α}
    (h : c ∈ before ++ b :: after) : c = b ∨ c ∈ before ++ a :: after := by
  simp only [List.mem_append, List.mem_cons] at h ⊢
  rcases h with hbefore | heq | hafter
  · exact .inr (.inl hbefore)
  · exact .inl heq
  · exact .inr (.inr (.inr hafter))

/-- What stands at the other places of a list with one element changed. -/
theorem getElem?_append_cons_of_ne {α : Type} {before after : List α} {a b : α} {q : Nat}
    (h : q ≠ before.length) : (before ++ b :: after)[q]? = (before ++ a :: after)[q]? := by
  rcases Nat.lt_or_gt_of_ne h with hlt | hgt
  · rw [List.getElem?_append_left hlt, List.getElem?_append_left hlt]
  · obtain ⟨n, rfl⟩ : ∃ n, q = before.length + (n + 1) := ⟨q - before.length - 1, by omega⟩
    simp [List.getElem?_append_right]

/-- A task stays at its place, with its key and its surroundings. -/
theorem Turn.task_before (h : Turn w w') {q : Nat} {t : Task} (ht : w.tasks[q]? = some t) :
    ∃ t', w'.tasks[q]? = some t' ∧ t'.key = t.key ∧ t'.surroundings = t.surroundings := by
  cases h with
  | accept key surroundings =>
    have hlt : q < w.tasks.length := (List.getElem?_eq_some_iff.1 ht).1
    exact ⟨t, by rw [List.getElem?_append_left hlt, ht], rfl, rfl⟩
  | task before after t₀ h₀ =>
    by_cases hq : q = before.length
    · rw [h₀, hq, getElem?_append_cons_self] at ht
      cases ht
      exact ⟨_, hq ▸ getElem?_append_cons_self _ _ _, t.key_step w.state, t.surroundings_step w.state⟩
    · rw [h₀] at ht
      exact ⟨t, by rw [← ht]; exact getElem?_append_cons_of_ne hq, rfl, rfl⟩
  | _ => exact ⟨t, ht, rfl, rfl⟩

end ReverseTunnel.Server
