import ReverseTunnel.Proofs.NameMap
import ReverseTunnel.Proofs.Registry.Consistency
import ReverseTunnel.Proofs.Server.Backing
import ReverseTunnel.Server.Run

/-!
# Opening the tunnels of a client

The tunnels of a client are opened one after the other and committed together.
`Opened` says what the ones opened so far have come to: their claims and
listeners, the ports taken for them, and what else changed, which is nothing. A
step that opens a tunnel carries it on, and a step that fails leaves the state as
it was (`Opened.go_cons`): the port of a failed bind is freed at once.

Undoing a batch names leases, not ports. Since the names of the tunnels differ
and nobody held a lease of theirs before, every release finds the one port that
it is meant for (`Opened.go_fail`). Together: opening the tunnels of a client is all or
nothing (`provision_all_or_nothing`).
-/

namespace ReverseTunnel

/-- The tunnel is opened on a port of the pool. -/
def Tunnel.takesPort (t : Tunnel) : Bool :=
  t.protocol.isTcp &&
    match BindAddress.parse t.address with
    | .auto _ => true
    | .fixed _ => false

namespace Server

/-! ## What a batch of tunnels asks for -/

/-- The names of the tunnels that get a listener. -/
def streamNames (tunnels : List (String × Tunnel)) : List String :=
  (tunnels.filter fun t => !t.2.protocol.isHostRouted).map Prod.fst

/-- The names of the tunnels that are opened on a port of the pool. -/
def autoNames (tunnels : List (String × Tunnel)) : List String :=
  (tunnels.filter fun t => t.2.takesPort).map Prod.fst

/-- The claim of a tunnel that is routed by its host. An empty token counts as none. -/
def hostClaim (name : String) (tunnel : Tunnel) : HostClaim :=
  ⟨tunnel.host, name, tunnel.protocol, tunnel.auth.filter fun a => a != ""⟩

/-- The claims of the tunnels that are routed by their host. -/
def hostClaims (tunnels : List (String × Tunnel)) : List HostClaim :=
  (tunnels.filter fun t => t.2.protocol.isHostRouted).map fun t => hostClaim t.1 t.2

/-- The grants of a client's tunnels, each for the port at its place in a list. -/
def grantsAt (client : String) (names : List String) (ports : List UInt16) : List Grant :=
  List.zipWith (fun name port => ⟨⟨client, name⟩, port⟩) names ports

theorem takesPort_eq_false_of_isHostRouted {t : Tunnel} (h : t.protocol.isHostRouted = true) :
    t.takesPort = false := by
  obtain ⟨protocol, host, auth, address⟩ := t
  cases protocol <;> first | rfl | cases h

section Append

variable {done : List (String × Tunnel)} {name : String} {tunnel : Tunnel}

theorem streamNames_append (h : tunnel.protocol.isHostRouted = false) :
    streamNames (done ++ [(name, tunnel)]) = streamNames done ++ [name] := by
  simp [streamNames, h]

theorem streamNames_append_of_isHostRouted (h : tunnel.protocol.isHostRouted = true) :
    streamNames (done ++ [(name, tunnel)]) = streamNames done := by
  simp [streamNames, h]

theorem autoNames_append (h : tunnel.takesPort = true) :
    autoNames (done ++ [(name, tunnel)]) = autoNames done ++ [name] := by
  simp [autoNames, h]

theorem autoNames_append_of_not (h : tunnel.takesPort = false) :
    autoNames (done ++ [(name, tunnel)]) = autoNames done := by
  simp [autoNames, h]

theorem hostClaims_append (h : tunnel.protocol.isHostRouted = true) :
    hostClaims (done ++ [(name, tunnel)]) = hostClaims done ++ [hostClaim name tunnel] := by
  simp [hostClaims, h]

theorem hostClaims_append_of_not (h : tunnel.protocol.isHostRouted = false) :
    hostClaims (done ++ [(name, tunnel)]) = hostClaims done := by
  simp [hostClaims, h]

theorem mem_names_of_mem_streamNames (h : name ∈ streamNames done) : name ∈ done.map Prod.fst := by
  obtain ⟨t, ht, rfl⟩ := List.mem_map.1 h
  exact List.mem_map_of_mem (List.mem_of_mem_filter ht)

theorem nodup_streamNames (h : (done.map Prod.fst).Nodup) : (streamNames done).Nodup :=
  h.sublist (List.filter_sublist.map Prod.fst)

theorem grantsAt_append {client : String} {names : List String} {ports : List UInt16}
    (h : names.length = ports.length) (port : UInt16) :
    grantsAt client (names ++ [name]) (ports ++ [port]) =
      grantsAt client names ports ++ [⟨⟨client, name⟩, port⟩] :=
  List.zipWith_append h

/-- Ports beyond the last name are not used. -/
theorem grantsAt_append_right {client : String} {names : List String} {ports : List UInt16}
    (h : names.length = ports.length) (rest : List UInt16) :
    grantsAt client names (ports ++ rest) = grantsAt client names ports := by
  have happend : grantsAt client (names ++ []) (ports ++ rest) = _ := List.zipWith_append h
  rwa [List.append_nil, List.zipWith_nil_left, List.append_nil] at happend

end Append

/-! ## What one step does -/

namespace Task

variable (s : State) (t : Task) (client name : String) (tunnel : Tunnel)
  (left : List (String × Tunnel)) (batch : Batch)

/-- Opening a tunnel fails and changes nothing, or claims a host, or comes to a
bind, for which a port of the pool was taken if the tunnel asks for one. -/
theorem openTunnel_cases :
    (∃ fault, openTunnel s t client name tunnel left batch = (s, t.fail client batch fault)) ∨
    (tunnel.protocol.isHostRouted = true ∧ openTunnel s t client name tunnel left batch =
      (s, t.goTo (.opening client left
        { batch with claims := batch.claims ++ [hostClaim name tunnel] }))) ∨
    (tunnel.protocol.isHostRouted = false ∧ tunnel.takesPort = false ∧
      ∃ address, openTunnel s t client name tunnel left batch =
        (s, t.goTo (.binding client ⟨name, tunnel.protocol, address, none⟩ left batch))) ∨
    (tunnel.protocol.isHostRouted = false ∧ tunnel.takesPort = true ∧
      ∃ port pool address, s.pool.acquire client name = .ok (port, pool) ∧
        openTunnel s t client name tunnel left batch =
          ({ s with pool },
            t.goTo (.binding client ⟨name, tunnel.protocol, address, some port⟩ left batch))) := by
  obtain ⟨protocol, host, auth, address⟩ := tunnel
  cases protocol with
  | http | sni =>
    simp only [openTunnel]
    split
    · exact .inl ⟨_, rfl⟩
    · exact .inr (.inl ⟨rfl, rfl⟩)
  | unix => exact .inr (.inr (.inl ⟨rfl, rfl, address, rfl⟩))
  | tcp | tcp4 | tcp6 =>
    simp only [openTunnel, Tunnel.takesPort]
    cases hparse : BindAddress.parse address with
    | fixed address' => exact .inr (.inr (.inl ⟨rfl, rfl, address', rfl⟩))
    | auto host' =>
      cases hacquire : s.pool.acquire client name with
      | error e => exact .inl ⟨_, rfl⟩
      | ok taken =>
        obtain ⟨port, pool⟩ := taken
        exact .inr (.inr (.inr ⟨rfl, rfl, port, pool, _, rfl, rfl⟩))

/-- A bind opens a listener, or fails and frees the port that was taken for it. -/
theorem bindTunnel_cases (p : PendingBind) :
    (∃ address, bindTunnel s t client p left batch =
      ((s.openListener p.name address p.poolPort).2,
        t.goTo (.opening client left { batch with
          listeners := batch.listeners ++ [⟨p.name, address, p.poolPort, s.nextHandle⟩] }))) ∨
    (∃ fault, bindTunnel s t client p left batch =
      (if p.poolPort.isSome then s.releasePort client p.name else s,
        t.fail client batch fault)) := by
  simp only [bindTunnel]
  split
  · next address _ => exact .inl ⟨address, rfl⟩
  · next fault _ => exact .inr ⟨fault, rfl⟩

end Task

/-! ## The tunnels opened so far -/

/-- The tunnels `done` of a client were opened in the state `s₀`, which brought it to
`s`, and have come to this batch. -/
structure Opened (s₀ s : State) (client : String) (done : List (String × Tunnel))
    (batch : Batch) : Prop where
  claims : batch.claims = hostClaims done
  listeners : batch.listeners.map Listener.name = streamNames done
  /-- The lowest free ports were taken in the order of the tunnels. -/
  taken : ∃ ports, s₀.pool.freePorts = ports ++ s.pool.freePorts ∧
    (autoNames done).length = ports.length ∧
    grantsOf client batch.listeners = grantsAt client (autoNames done) ports
  grants : s.pool.grants.Perm (grantsOf client batch.listeners ++ s₀.pool.grants)
  first : s.pool.first = s₀.pool.first
  range : s.pool.ports = s₀.pool.ports
  bound : s.bound = s₀.bound ++ batch.listeners
  handles : s₀.nextHandle ≤ s.nextHandle
  fresh : ∀ l ∈ batch.listeners, s₀.nextHandle ≤ l.handle
  rest : s = { s₀ with pool := s.pool, bound := s.bound, nextHandle := s.nextHandle }
  distinct : (done.map Prod.fst).Nodup
  /-- Nobody held a port for these tunnels. -/
  unheld : ∀ g ∈ s₀.pool.grants, g.lease.owner = client → g.lease.tunnel ∉ done.map Prod.fst

theorem opened_nil (s : State) (client : String) : Opened s s client [] .empty where
  claims := rfl
  listeners := rfl
  taken := ⟨[], rfl, rfl, rfl⟩
  grants := .refl _
  first := rfl
  range := rfl
  bound := (List.append_nil _).symm
  handles := Nat.le_refl _
  fresh _ h := nomatch h
  rest := rfl
  distinct := List.nodup_nil
  unheld _ _ _ h := nomatch h

/-- One more tunnel has a name that none of those opened so far has, and nobody held
a port for it. -/
structure Admits (s₀ : State) (client : String) (done : List (String × Tunnel))
    (name : String) : Prop where
  distinct : name ∉ done.map Prod.fst
  unheld : ∀ g ∈ s₀.pool.grants, g.lease.owner = client → g.lease.tunnel ≠ name

section Opened

variable {s₀ s : State} {client name : String} {tunnel : Tunnel}
  {done left : List (String × Tunnel)} {batch : Batch}

theorem Opened.distinct_append (h : Opened s₀ s client done batch)
    (hadmits : Admits s₀ client done name) :
    ((done ++ [(name, tunnel)]).map Prod.fst).Nodup := by
  rw [List.map_append, List.nodup_append]
  refine ⟨h.distinct, by simp, fun n hn n' hn' heq => ?_⟩
  rw [List.map_singleton, List.mem_singleton] at hn'
  rw [heq, hn'] at hn
  exact hadmits.distinct hn

theorem Opened.unheld_append (h : Opened s₀ s client done batch)
    (hadmits : Admits s₀ client done name) :
    ∀ g ∈ s₀.pool.grants, g.lease.owner = client →
      g.lease.tunnel ∉ (done ++ [(name, tunnel)]).map Prod.fst := by
  intro g hg howner hmem
  rw [List.map_append, List.mem_append, List.map_singleton, List.mem_singleton] at hmem
  rcases hmem with hmem | hmem
  · exact h.unheld g hg howner hmem
  · exact hadmits.unheld g hg howner hmem

/-- No port is held for a tunnel that is still to be opened. -/
theorem Opened.not_held (h : Opened s₀ s client done batch)
    (hadmits : Admits s₀ client done name) :
    ∀ g ∈ s.pool.grants, g.lease ≠ ⟨client, name⟩ := by
  intro g hg hlease
  rcases List.mem_append.1 (h.grants.mem_iff.1 hg) with hg | hg
  · obtain ⟨l, hl, -, hname⟩ := mem_grantsOf_iff.1 hg
    rw [hlease] at hname
    injection hname with _ hname
    refine hadmits.distinct (mem_names_of_mem_streamNames ?_)
    rw [← h.listeners, hname]
    exact List.mem_map_of_mem hl
  · exact hadmits.unheld g hg (by rw [hlease]) (by rw [hlease])

/-- Claiming a host opens one more tunnel. -/
theorem Opened.claim (h : Opened s₀ s client done batch)
    (hadmits : Admits s₀ client done name) (hrouted : tunnel.protocol.isHostRouted = true) :
    Opened s₀ s client (done ++ [(name, tunnel)])
      { batch with claims := batch.claims ++ [hostClaim name tunnel] } := by
  have hport := takesPort_eq_false_of_isHostRouted hrouted
  exact { h with
    claims := by rw [hostClaims_append hrouted, ← h.claims]
    listeners := by rw [streamNames_append_of_isHostRouted hrouted]; exact h.listeners
    taken := by rw [autoNames_append_of_not hport]; exact h.taken
    distinct := h.distinct_append hadmits
    unheld := h.unheld_append hadmits }

/-- Opening a listener opens one more tunnel. The ports taken for the batch and for
this tunnel are given. -/
theorem Opened.listen {pool : PortPool} {poolPort : Option UInt16} {address : String}
    (h : Opened s₀ s client done batch) (hadmits : Admits s₀ client done name)
    (hrouted : tunnel.protocol.isHostRouted = false)
    (htaken : ∃ ports, s₀.pool.freePorts = ports ++ pool.freePorts ∧
      (autoNames (done ++ [(name, tunnel)])).length = ports.length ∧
      grantsOf client (batch.listeners ++ [⟨name, address, poolPort, s.nextHandle⟩]) =
        grantsAt client (autoNames (done ++ [(name, tunnel)])) ports)
    (hgrants : pool.grants.Perm
      (grantsOf client (batch.listeners ++ [⟨name, address, poolPort, s.nextHandle⟩]) ++
        s₀.pool.grants))
    (hfirst : pool.first = s₀.pool.first) (hrange : pool.ports = s₀.pool.ports) :
    Opened s₀ ({ s with pool }.openListener name address poolPort).2 client
      (done ++ [(name, tunnel)])
      { batch with
        listeners := batch.listeners ++ [⟨name, address, poolPort, s.nextHandle⟩] } where
  claims := by rw [hostClaims_append_of_not hrouted]; exact h.claims
  listeners := by rw [streamNames_append hrouted, List.map_append, h.listeners]; rfl
  taken := htaken
  grants := hgrants
  first := hfirst
  range := hrange
  bound := by simp [State.openListener, h.bound]
  handles := Nat.le_succ_of_le h.handles
  fresh l hl := by
    rcases List.mem_append.1 hl with hl | hl
    · exact h.fresh l hl
    · rw [List.mem_singleton.1 hl]
      exact h.handles
  rest := by rw [State.openListener, h.rest]
  distinct := h.distinct_append hadmits
  unheld := h.unheld_append hadmits

/-- Opening a listener that needs no port of the pool opens one more tunnel. -/
theorem Opened.listen_fixed (h : Opened s₀ s client done batch)
    (hadmits : Admits s₀ client done name) (hrouted : tunnel.protocol.isHostRouted = false)
    (hport : tunnel.takesPort = false) (address : String) :
    Opened s₀ (s.openListener name address none).2 client (done ++ [(name, tunnel)])
      { batch with
        listeners := batch.listeners ++ [⟨name, address, none, s.nextHandle⟩] } := by
  have hsame : grantsOf client (batch.listeners ++ [⟨name, address, none, s.nextHandle⟩]) =
      grantsOf client batch.listeners := by
    rw [grantsOf_append, grantsOf_cons_none rfl, grantsOf_nil, List.append_nil]
  refine h.listen hadmits hrouted ?_ ?_ h.first h.range
  · rw [hsame, autoNames_append_of_not hport]
    exact h.taken
  · rw [hsame]
    exact h.grants

/-- Opening a listener on a port that was taken for it opens one more tunnel. -/
theorem Opened.listen_auto {port : UInt16} {pool : PortPool} (h : Opened s₀ s client done batch)
    (hadmits : Admits s₀ client done name) (hrouted : tunnel.protocol.isHostRouted = false)
    (hport : tunnel.takesPort = true) (hacquire : s.pool.acquire client name = .ok (port, pool))
    (address : String) :
    Opened s₀ ({ s with pool }.openListener name address (some port)).2 client
      (done ++ [(name, tunnel)])
      { batch with
        listeners := batch.listeners ++ [⟨name, address, some port, s.nextHandle⟩] } := by
  obtain ⟨hfree, hgrants, hfirst, hrange⟩ := PortPool.acquire_eq_ok hacquire
  obtain ⟨ports, hpool, hlength, hbacked⟩ := h.taken
  have hsnoc : grantsOf client (batch.listeners ++ [⟨name, address, some port, s.nextHandle⟩]) =
      grantsOf client batch.listeners ++ [⟨⟨client, name⟩, port⟩] := by
    rw [grantsOf_append, grantsOf_cons_some rfl, grantsOf_nil]
  refine h.listen hadmits hrouted ?_ ?_ (hfirst.trans h.first) (hrange.trans h.range)
  · -- The port was the lowest free one, so it follows those taken so far.
    refine ⟨ports ++ [port], ?_, ?_, ?_⟩
    · rw [hpool, hfree, List.append_assoc, List.singleton_append]
    · rw [autoNames_append hport, List.length_append, List.length_append, hlength]
      rfl
    · rw [hsnoc, autoNames_append hport, grantsAt_append hlength, hbacked]
  · rw [hsnoc, List.append_assoc, List.singleton_append]
    exact hgrants.trans ((h.grants.cons _).trans List.perm_middle.symm)

end Opened

/-! ## From the first step to the last -/

theorem Task.phase_of_isDone {t : Task} (h : t.isDone = true) : t.phase = .done := by
  rw [isDone] at h
  split at h
  · assumption
  · cases h

theorem go_step {s : State} {t : Task} (hdone : t.isDone = false)
    (hrejecting : ∀ fault, t.phase ≠ .rejecting fault) (hdisconnecting : t.phase ≠ .disconnecting) :
    provision.go s t = provision.go (t.step s).1 (t.step s).2 := by
  rw [provision.go]
  split
  · next fault hphase => exact absurd hphase (hrejecting fault)
  · next hphase => exact absurd hphase hdisconnecting
  · next hphase => simp [Task.isDone, hphase] at hdone
  · rw [dif_neg (by simp [hdone])]

/-- In these phases it is known how the opening of the tunnels came out. -/
def Phase.isDecided : Phase → Bool
  | .rejecting _ | .disconnecting | .done => true
  | .accepted | .reserved | .connecting | .channelOpen | .greeted _ | .opening .. | .binding .. |
    .committing .. | .rollingBack .. | .dropping .. => false

/-- At most so many steps of a task that runs on alone, until it is decided. -/
def Task.steps (s : State) (t : Task) : Nat → State × Task
  | 0 => (s, t)
  | n + 1 => if t.phase.isDecided then (s, t) else Task.steps (t.step s).1 (t.step s).2 n

theorem go_steps (s : State) (t : Task) (n : Nat) :
    provision.go s t = provision.go (t.steps s n).1 (t.steps s n).2 := by
  -- On the number of steps. Until it is decided, `provision.go` takes the same ones.
  induction n generalizing s t with
  | zero => rfl
  | succ n ih =>
    rw [Task.steps]
    split
    · rfl
    · next hundecided =>
      have hphase : ∀ phase, phase.isDecided = true → t.phase ≠ phase := by
        rintro phase hdecided rfl
        exact hundecided hdecided
      have hdone : t.isDone = false :=
        Bool.eq_false_iff.2 fun h => hphase .done rfl (Task.phase_of_isDone h)
      rw [← ih, go_step hdone (fun fault => hphase (.rejecting fault) rfl)
        (hphase .disconnecting rfl)]

/-- Tunnels are opened when the steps that open them can be taken to the end. -/
theorem provision_of_steps {s : State} {key client : String} {tunnels : NameMap Tunnel}
    {surroundings : Surroundings} {n : Nat}
    (hdone : (Task.steps s ⟨key, surroundings, .opening client tunnels.entries .empty⟩ n).2.isDone =
      true) :
    provision s key client tunnels surroundings =
      ((Task.steps s ⟨key, surroundings, .opening client tunnels.entries .empty⟩ n).1, .ok ()) := by
  rw [provision, go_steps s _ n, provision.go, Task.phase_of_isDone hdone]

/-- A batch is committed as a whole, or it fails. -/
theorem go_committing (s : State) (t : Task) (client : String) (batch : Batch) :
    provision.go s (t.goTo (.committing client batch)) =
      match s.registry.commit (t.holdings client batch) with
      | .ok registry => ({ s with registry }, .ok ())
      | .error e => provision.go s (t.fail client batch (.registry e)) := by
  rw [go_step (t := t.goTo (.committing client batch)) rfl nofun nofun]
  have hheld : (t.goTo (.committing client batch)).holdings client batch =
      t.holdings client batch := rfl
  simp only [Task.step, Task.goTo] at hheld ⊢
  rw [hheld]
  cases s.registry.commit (t.holdings client batch) with
  | ok registry => rw [provision.go]
  | error e => rfl

section Run

variable {s₀ s : State} {client name : String} {done left : List (String × Tunnel)}
  {batch : Batch}

/-- The next tunnel is opened, or the batch fails and nothing has changed. -/
theorem Opened.go_cons (t : Task) (tunnel : Tunnel) (left : List (String × Tunnel))
    (h : Opened s₀ s client done batch) (hadmits : Admits s₀ client done name) :
    (∃ s' batch', Opened s₀ s' client (done ++ [(name, tunnel)]) batch' ∧
      provision.go s (t.goTo (.opening client ((name, tunnel) :: left) batch)) =
        provision.go s' (t.goTo (.opening client left batch'))) ∨
    ∃ fault, provision.go s (t.goTo (.opening client ((name, tunnel) :: left) batch)) =
      provision.go s (t.fail client batch fault) := by
  have hopen : provision.go s (t.goTo (.opening client ((name, tunnel) :: left) batch)) =
      provision.go (Task.openTunnel s t client name tunnel left batch).1
        (Task.openTunnel s t client name tunnel left batch).2 := go_step rfl nofun nofun
  have hbind : ∀ (s : State) (p : PendingBind),
      provision.go s (t.goTo (.binding client p left batch)) =
        provision.go (Task.bindTunnel s t client p left batch).1
          (Task.bindTunnel s t client p left batch).2 := fun _ _ => go_step rfl nofun nofun
  rw [hopen]
  rcases Task.openTunnel_cases s t client name tunnel left batch with
    ⟨fault, hcase⟩ | ⟨hrouted, hcase⟩ | ⟨hrouted, hport, address, hcase⟩ |
    ⟨hrouted, hport, port, pool, address, hacquire, hcase⟩
  · rw [hcase]
    exact .inr ⟨fault, rfl⟩
  · rw [hcase]
    exact .inl ⟨s, _, h.claim hadmits hrouted, rfl⟩
  · rw [hcase, hbind]
    rcases Task.bindTunnel_cases s t client left batch ⟨name, tunnel.protocol, address, none⟩ with
      ⟨address', hcase'⟩ | ⟨fault, hcase'⟩
    · rw [hcase']
      exact .inl ⟨_, _, h.listen_fixed hadmits hrouted hport address', rfl⟩
    · rw [hcase']
      exact .inr ⟨fault, rfl⟩
  · rw [hcase, hbind]
    rcases Task.bindTunnel_cases { s with pool } t client left batch
        ⟨name, tunnel.protocol, address, some port⟩ with ⟨address', hcase'⟩ | ⟨fault, hcase'⟩
    · rw [hcase']
      exact .inl ⟨_, _, h.listen_auto hadmits hrouted hport hacquire address', rfl⟩
    · -- The bind failed: the port taken for it goes back, and it was the only one of its lease.
      rw [hcase']
      have hback : pool.released ⟨client, name⟩ = s.pool :=
        PortPool.released_acquire hacquire (h.not_held hadmits)
      refine .inr ⟨fault, ?_⟩
      simp only [Option.isSome_some, if_true, State.releasePort_eq, hback]

/-- Undoing a batch frees its ports and drops its listeners; that leaves the state in
which it was begun. -/
theorem Opened.go_fail (t : Task) (h : Opened s₀ s client done batch) (fault : Fault) :
    provision.go s (t.fail client batch fault) =
      ({ s₀ with
        bound := s.bound.filter fun l => !batch.listeners.contains l
        nextHandle := s.nextHandle }, .error fault) := by
  have hroll : ∀ (ls : List Listener) (s : State),
      provision.go s (t.goTo (.rollingBack client ls batch fault)) =
        ((ls.foldl (fun s l => s.releaseListener client l) s).dropListeners batch.listeners,
          .error fault) := by
    -- One release for each listener of the batch, in order, then all of them are dropped.
    intro ls
    induction ls with
    | nil =>
      intro s
      rw [go_step (t := t.goTo (.rollingBack client [] batch fault)) rfl nofun nofun]
      change provision.go s (t.goTo (.dropping batch fault)) = _
      rw [go_step (t := t.goTo (.dropping batch fault)) rfl nofun nofun, provision.go]
      rfl
    | cons l ls ih =>
      intro s
      rw [go_step (t := t.goTo (.rollingBack client (l :: ls) batch fault)) rfl nofun nofun]
      exact ih (s.releaseListener client l)
  -- The releases name leases. Each lease of the batch has one port: the names differ, and
  -- none of them was leased before.
  have hback : s.pool.releasedAll (grantsOf client batch.listeners) = s₀.pool := by
    refine PortPool.releasedAll_eq h.grants h.first h.range (nodup_leases_grantsOf ?_) ?_
    · rw [h.listeners]
      exact nodup_streamNames h.distinct
    · intro g hg g' hg' hlease
      obtain ⟨l, hl, -, hname⟩ := mem_grantsOf_iff.1 hg
      rw [hname] at hlease
      refine h.unheld g' hg' (by rw [hlease]) (mem_names_of_mem_streamNames ?_)
      rw [← h.listeners, hlease]
      exact List.mem_map_of_mem hl
  rw [Task.fail, hroll, State.foldl_releaseListener, hback, State.dropListeners]
  rw [h.rest]

/-- All tunnels left are opened, or the batch fails at one of them. -/
theorem Opened.go_all (t : Task) (h : Opened s₀ s client done batch)
    (hdistinct : ((done ++ left).map Prod.fst).Nodup)
    (hunheld : ∀ g ∈ s₀.pool.grants, g.lease.owner = client →
      g.lease.tunnel ∉ (done ++ left).map Prod.fst) :
    (∃ s' batch', Opened s₀ s' client (done ++ left) batch' ∧
      provision.go s (t.goTo (.opening client left batch)) =
        provision.go s' (t.goTo (.committing client batch'))) ∨
    ∃ s' done' batch' fault, Opened s₀ s' client done' batch' ∧
      provision.go s (t.goTo (.opening client left batch)) =
        provision.go s' (t.fail client batch' fault) := by
  -- On the tunnels left; the next one moves over to those that are done.
  induction left generalizing s done batch with
  | nil =>
    refine .inl ⟨s, batch, ?_, go_step (t := t.goTo (.opening client [] batch)) rfl nofun nofun⟩
    rwa [List.append_nil]
  | cons next left ih =>
    obtain ⟨name, tunnel⟩ := next
    have hadmits : Admits s₀ client done name := by
      constructor
      · rw [List.map_append, List.nodup_append] at hdistinct
        exact fun hmem => hdistinct.2.2 name hmem name List.mem_cons_self rfl
      · intro g hg howner hname
        refine hunheld g hg howner ?_
        rw [hname, List.map_append, List.mem_append]
        exact .inr List.mem_cons_self
    have hassoc : done ++ (name, tunnel) :: left = done ++ [(name, tunnel)] ++ left := by simp
    rw [hassoc] at hdistinct hunheld ⊢
    rcases h.go_cons t tunnel left hadmits with
      ⟨s', batch', hopened, hgo⟩ | ⟨fault, hgo⟩
    · rw [hgo]
      exact ih hopened hdistinct hunheld
    · exact .inr ⟨s, done, batch, fault, h, hgo⟩

end Run

/-! ## All or nothing -/

/-- The state after a batch that failed: as before, except for handles that were given
to listeners, none of which is bound. -/
structure Undone (s s' : State) : Prop where
  registry : s'.registry = s.registry
  pool : s'.pool = s.pool
  bound : ∀ l ∈ s'.bound, l ∈ s.bound
  kept : ∀ l ∈ s.bound, l.handle < s.nextHandle → l ∈ s'.bound
  rest : s' = { s with bound := s'.bound, nextHandle := s'.nextHandle }

/-- The state after all tunnels of a client were opened and committed, and what the
client owns. -/
structure Provisioned (s s' : State) (key client : String) (tunnels : List (String × Tunnel))
    (held : Holdings) : Prop where
  name : held.clientName = client
  connection : held.connection = key
  /-- One claim for every tunnel that is routed by its host. -/
  claims : held.claims = hostClaims tunnels
  /-- One listener for every other tunnel. -/
  listeners : held.listeners.map Listener.name = streamNames tunnels
  committed : s.registry.commit held = .ok s'.registry
  owned : s'.registry.clients.get? client = some ⟨key, some held⟩
  /-- The tunnels on ports of the pool got the lowest free ports in their order. -/
  leased : ∀ (i : Nat) (name : String), (autoNames tunnels)[i]? = some name →
    ∃ port, s.pool.freePorts[i]? = some port ∧ s'.pool.lease? port = some ⟨client, name⟩ ∧
      ∃ l ∈ held.listeners, l.name = name ∧ l.poolPort = some port
  /-- The listeners have the ports that were leased, and no others. -/
  backed : grantsOf client held.listeners = grantsAt client (autoNames tunnels) s.pool.freePorts
  kept : ∀ port, port ∉ s.pool.freePorts.take (autoNames tunnels).length →
    s'.pool.lease? port = s.pool.lease? port
  grants : s'.pool.grants.Perm (grantsOf client held.listeners ++ s.pool.grants)
  first : s'.pool.first = s.pool.first
  range : s'.pool.ports = s.pool.ports
  bound : s'.bound = s.bound ++ held.listeners
  rest : s' = { s with
    registry := s'.registry
    pool := s'.pool
    bound := s'.bound
    nextHandle := s'.nextHandle }

section Run

variable {s₀ s : State} {client : String} {done : List (String × Tunnel)} {batch : Batch}

theorem Opened.undone (h : Opened s₀ s client done batch) :
    Undone s₀ { s₀ with
      bound := s.bound.filter fun l => !batch.listeners.contains l
      nextHandle := s.nextHandle } where
  registry := rfl
  pool := rfl
  bound l hl := by
    rw [List.mem_filter, h.bound, List.mem_append] at hl
    rcases hl with ⟨hold | hnew, hnot⟩
    · exact hold
    · simp [hnew] at hnot
  kept l hl hlt := by
    rw [List.mem_filter, h.bound, List.mem_append]
    refine ⟨.inl hl, ?_⟩
    -- A listener of the batch has a handle that was given out after the batch was begun.
    have hnot : l ∉ batch.listeners := fun hmem =>
      absurd (h.fresh l hmem) (Nat.not_le_of_lt hlt)
    simpa using hnot
  rest := rfl

theorem Opened.provisioned {key : String} {registry : Registry}
    (h : Opened s₀ s client done batch)
    (hcommit : s₀.registry.commit ⟨client, key, batch.claims, batch.listeners⟩ = .ok registry) :
    Provisioned s₀ { s with registry } key client done
      ⟨client, key, batch.claims, batch.listeners⟩ := by
  obtain ⟨ports, hpool, hlength, hbacked⟩ := h.taken
  have hall : grantsAt client (autoNames done) s₀.pool.freePorts =
      grantsAt client (autoNames done) ports := by
    rw [hpool, grantsAt_append_right hlength]
  have hmem : ∀ g, g ∈ s.pool.grants ↔
      g ∈ grantsAt client (autoNames done) ports ∨ g ∈ s₀.pool.grants := fun g => by
    rw [h.grants.mem_iff, hbacked, List.mem_append]
  refine ⟨rfl, rfl, h.claims, h.listeners, hcommit, ?_, ?_, hbacked.trans hall.symm, ?_,
    h.grants, h.first, h.range, h.bound, ?_⟩
  · obtain ⟨-, -, -, rfl⟩ := Registry.commit_eq_ok hcommit
    exact NameMap.get?_insert_self
  · intro i name hname
    have hlt : i < ports.length := hlength ▸ (List.getElem?_eq_some_iff.1 hname).1
    have hport : s₀.pool.freePorts[i]? = some ports[i] := by
      rw [hpool, List.getElem?_append_left hlt, List.getElem?_eq_getElem hlt]
    have hgrant : (⟨⟨client, name⟩, ports[i]⟩ : Grant) ∈
        grantsAt client (autoNames done) ports :=
      List.mem_of_getElem? (List.getElem?_zipWith_eq_some.2
        ⟨name, ports[i], hname, List.getElem?_eq_getElem hlt, rfl⟩)
    refine ⟨ports[i], hport, PortPool.mem_grants_iff.1 ((hmem _).2 (.inl hgrant)), ?_⟩
    rw [← hbacked] at hgrant
    obtain ⟨l, hl, hpoolPort, hlease⟩ := mem_grantsOf_iff.1 hgrant
    injection hlease with _ hnamed
    exact ⟨l, hl, hnamed.symm, hpoolPort⟩
  · intro port hnot
    rw [hpool, hlength, List.take_left] at hnot
    -- A port that was not handed out is in no grant of the batch.
    refine Option.ext fun lease => ?_
    have hiff := hmem ⟨lease, port⟩
    rw [PortPool.mem_grants_iff, PortPool.mem_grants_iff] at hiff
    refine hiff.trans ⟨?_, .inr⟩
    rintro (hgrant | hold)
    · obtain ⟨i, hi⟩ := List.mem_iff_getElem?.1 hgrant
      obtain ⟨name, port', -, hport', heq⟩ := List.getElem?_zipWith_eq_some.1 hi
      injection heq with _ hport
      exact absurd (hport ▸ List.mem_of_getElem? hport') hnot
    · exact hold
  · rw [h.rest]

end Run

/-- Opening the tunnels of a client, none of which has a port yet, is all or nothing.
Whatever the tunnels ask for and however the binds come out, either nothing has
changed and no listener of the batch is bound, or every tunnel has what it asked for
and nothing else has changed. -/
theorem provision_all_or_nothing (s : State) (key client : String) (tunnels : NameMap Tunnel)
    (surroundings : Surroundings)
    (unheld : ∀ g ∈ s.pool.grants, g.lease.owner = client → g.lease.tunnel ∉ tunnels.names) :
    match provision s key client tunnels surroundings with
    | (s', .error _) => Undone s s'
    | (s', .ok ()) => ∃ held, Provisioned s s' key client tunnels.entries held := by
  let t : Task := .accept key surroundings
  have hstart : provision s key client tunnels surroundings =
      provision.go s (t.goTo (.opening client tunnels.entries .empty)) := rfl
  rw [hstart]
  have hnames : ([] ++ tunnels.entries).map Prod.fst = tunnels.names := rfl
  rcases (opened_nil s client).go_all t (hnames ▸ tunnels.nodup_names) (hnames ▸ unheld)
    with ⟨s', batch, hopened, hgo⟩ | ⟨s', done, batch, fault, hopened, hgo⟩
  -- All tunnels are open. The commit may still be refused, and then the batch is undone.
  · rw [hgo, go_committing]
    have hregistry : s'.registry = s.registry := by rw [hopened.rest]
    cases hcommit : s'.registry.commit (t.holdings client batch) with
    | error e =>
      simp only [hopened.go_fail t]
      exact hopened.undone
    | ok registry =>
      rw [hregistry] at hcommit
      exact ⟨_, hopened.provisioned hcommit⟩
  · rw [hgo, hopened.go_fail t]
    exact hopened.undone

/-- A server with three ports, the lowest of them leased to another client. -/
def sharedServer : State :=
  { State.fresh (.new "127.0.0.1:0" "7000:7003")
      ⟨7000, [some ⟨"b", "ssh"⟩, none, none], by decide⟩ with
    registry := Registry.empty.run [.reserve "10.0.0.1:5000", .subscribe "a" "10.0.0.1:5000"] }

/-- Two tunnels on ports of the pool, and one that is routed by its host. -/
def threeTunnels : NameMap Tunnel :=
  .ofList [("ssh", ⟨.tcp, "", none, "0.0.0.0:AUTO"⟩), ("web", ⟨.http, "a.test", none, ""⟩),
    ("vnc", ⟨.tcp4, "", none, "0.0.0.0:auto"⟩)]

/-- Surroundings in which every bind succeeds. -/
def openSurroundings : Surroundings := ⟨true, true, .timedOut, fun _ _ address => .ok address⟩

/-- Control: the other client's port does not stand in the way, although it is for a
tunnel of the same name. The call succeeds, and the two free ports go to the two tunnels
that ask for one, in the order of their names. -/
theorem provision_beside_other_client :
    (∀ g ∈ sharedServer.pool.grants, g.lease.owner = "a" → g.lease.tunnel ∉ threeTunnels.names) ∧
    ∃ s' held, provision sharedServer "10.0.0.1:5000" "a" threeTunnels openSurroundings =
        (s', .ok ()) ∧
      s'.pool.slots = [some ⟨"b", "ssh"⟩, some ⟨"a", "ssh"⟩, some ⟨"a", "vnc"⟩] ∧
      Provisioned sharedServer s' "10.0.0.1:5000" "a" threeTunnels.entries held := by
  have unheld : ∀ g ∈ sharedServer.pool.grants, g.lease.owner = "a" →
      g.lease.tunnel ∉ threeTunnels.names := by decide
  let t : Task := ⟨"10.0.0.1:5000", openSurroundings, .opening "a" threeTunnels.entries .empty⟩
  have hdone : (t.steps sharedServer 10).2.isDone = true := by decide +kernel
  have hslots : (t.steps sharedServer 10).1.pool.slots =
      [some ⟨"b", "ssh"⟩, some ⟨"a", "ssh"⟩, some ⟨"a", "vnc"⟩] := by decide +kernel
  have hopened := provision_of_steps hdone
  have hall := provision_all_or_nothing _ "10.0.0.1:5000" _ _ openSurroundings unheld
  rw [hopened] at hall
  obtain ⟨held, hprovisioned⟩ := hall
  exact ⟨unheld, _, held, hopened, hslots, hprovisioned⟩

end Server

end ReverseTunnel
