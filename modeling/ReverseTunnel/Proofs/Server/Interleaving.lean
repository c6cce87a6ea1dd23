import Mathlib.Data.List.Perm.Subperm
import ReverseTunnel.Proofs.Server.Agreement

/-!
# Ports under interleaving

In an interleaved run a client can lose its name before its ports are freed:
clearing the name is one turn, and each release that tears it down is another.
In between the client may connect again and lease ports for the same tunnels.

Every outstanding grant is in the hands of an active client, of a task or of an
end (`World.grants`). A turn keeps these grants, adds one that was just leased,
or takes one away and issues a release for it (`Task.move`, `EndPhase.move`). A
release is told the lease and not the port, so it frees the right port exactly
when no lower port has the same lease. As long as all do, everybody owns the
ports of their grants (`releases_exact_iff`); a run in which one does not leaves
an active client with a listener on a free port (`release_frees_other_port`).
-/

namespace ReverseTunnel.Server

/-! ## Outstanding grants -/

/-- The grant behind a listener that is about to be bound. -/
def PendingBind.grant? (client : String) (p : PendingBind) : Option Grant :=
  p.poolPort.map fun port => ⟨⟨client, p.name⟩, port⟩

/-- The grants in the hands of a task. -/
def Phase.grants : Phase → List Grant
  | .opening client _ batch | .committing client batch => grantsOf client batch.listeners
  | .binding client pending _ batch =>
    (pending.grant? client).toList ++ grantsOf client batch.listeners
  | .rollingBack client left _ _ => grantsOf client left
  | .accepted | .reserved | .connecting | .channelOpen | .greeted _ | .dropping .. |
    .rejecting _ | .disconnecting | .done => []

/-- The grants in the hands of an end. -/
def EndPhase.grants : EndPhase → List Grant
  | .tearingDown client left _ => grantsOf client left
  | .leaving _ | .clearing _ | .unsubscribing .. | .done _ => []

/-- The grant whose release the next step of a task issues, if it issues one. -/
def Task.release? (t : Task) : Option Grant :=
  match t.phase with
  | .binding client pending _ batch =>
    match t.surroundings.bind batch.listeners.length pending.protocol pending.address with
    | .ok _ => none
    | .error _ => pending.grant? client
  | .rollingBack client (l :: _) _ _ => l.grant? client
  | _ => none

/-- The grant whose release the next step of an end issues, if it issues one. -/
def EndPhase.release? : EndPhase → Option Grant
  | .tearingDown client (l :: _) _ => l.grant? client
  | _ => none

/-- All outstanding grants. -/
def World.grants (w : World) : List Grant :=
  w.state.registry.grants ++
    ((w.tasks.flatMap fun t => t.phase.grants) ++ w.ends.flatMap EndPhase.grants)

/-- The turn from one world to another issues the release of a grant. -/
inductive Releases (w : World) : World → Grant → Prop where
  | task {g : Grant} (before after : List Task) (t : Task) (h : w.tasks = before ++ t :: after)
      (issued : t.release? = some g) :
      Releases w { w with
        state := (t.step w.state).1
        tasks := before ++ (t.step w.state).2 :: after } g
  | ending {g : Grant} (before after : List EndPhase) (e : EndPhase)
      (h : w.ends = before ++ e :: after) (issued : e.release? = some g) :
      Releases w { w with
        state := (e.step w.state).1
        ends := before ++ (e.step w.state).2 :: after } g

/-- A task holds the grant whose release it issues. -/
theorem Task.mem_grants_of_release? {t : Task} {g : Grant} (h : t.release? = some g) :
    g ∈ t.phase.grants := by
  obtain ⟨key, surroundings, phase⟩ := t
  cases phase with
  | binding client pending left batch =>
    simp only [release?] at h
    split at h
    · cases h
    · simp [Phase.grants, h]
  | rollingBack client left batch fault =>
    cases left with
    | nil => cases h
    | cons l left =>
      simp only [release?] at h
      simp [Phase.grants, grantsOf_cons, h]
  | _ => cases h

theorem EndPhase.mem_grants_of_release? {e : EndPhase} {g : Grant} (h : e.release? = some g) :
    g ∈ e.grants := by
  cases e with
  | tearingDown client left channel =>
    cases left with
    | nil => cases h
    | cons l left =>
      simp only [release?] at h
      simp [grants, grantsOf_cons, h]
  | _ => cases h

/-- A release is issued for an outstanding grant. -/
theorem Releases.mem_grants {w w' : World} {g : Grant} (h : Releases w w' g) : g ∈ w.grants := by
  cases h with
  | task before after t h issued =>
    have hmem : g ∈ w.tasks.flatMap fun t => t.phase.grants := by
      rw [h]
      simp [Task.mem_grants_of_release? issued]
    simp [World.grants, hmem]
  | ending before after e h issued =>
    have hmem : g ∈ w.ends.flatMap EndPhase.grants := by
      rw [h]
      simp [EndPhase.mem_grants_of_release? issued]
    simp [World.grants, hmem]

/-! ## What a turn does to the grants -/

/-- What a turn does to the pool and to the outstanding grants, and the grant whose
release it issues. -/
inductive Move (p : PortPool) (gs : List Grant) : PortPool → List Grant → Option Grant → Prop where
  /-- The pool stays as it is. -/
  | keep {gs' : List Grant} (h : gs'.Subperm gs) : Move p gs p gs' none
  /-- A port is leased. -/
  | lease {owner tunnel : String} {port : UInt16} {p' : PortPool} {gs' : List Grant}
      (acquired : p.acquire owner tunnel = .ok (port, p'))
      (h : gs'.Perm (⟨⟨owner, tunnel⟩, port⟩ :: gs)) : Move p gs p' gs' none
  /-- A release is issued for a grant, which is not outstanding any more. -/
  | free {g : Grant} {gs' : List Grant} (h : gs.Perm (g :: gs')) :
      Move p gs (p.released g.lease) gs' (some g)

section Move

variable {p p' : PortPool} {gs gs' : List Grant} {r : Option Grant}

/-- The grants that a turn does not concern stay outstanding. -/
theorem Move.append (h : Move p gs p' gs' r) (rest : List Grant) :
    Move p (gs ++ rest) p' (gs' ++ rest) r := by
  cases h with
  | keep h => exact .keep ((List.subperm_append_right rest).2 h)
  | lease acquired h => exact .lease acquired (h.append_right rest)
  | free h => exact .free (h.append_right rest)

theorem Move.perm {gs₁ gs₁' : List Grant} (h : Move p gs p' gs' r) (hperm : gs.Perm gs₁)
    (hperm' : gs'.Perm gs₁') : Move p gs₁ p' gs₁' r := by
  cases h with
  | keep h => exact .keep ((hperm'.symm.subperm.trans h).trans hperm.subperm)
  | lease acquired h => exact .lease acquired (hperm'.symm.trans (h.trans (hperm.cons _)))
  | free h => exact .free (hperm.symm.trans (h.trans (hperm'.cons _)))

/-- Outstanding grants are grants of the pool, and stay so under a turn whose release
frees its own port. -/
theorem Move.subperm (h : Move p gs p' gs' r) (hgs : gs.Subperm p.grants)
    (hfrees : ∀ g, r = some g → p.Frees g) : gs'.Subperm p'.grants := by
  cases h with
  | keep h => exact h.trans hgs
  | lease acquired h =>
    obtain ⟨-, hgrants, -, -⟩ := PortPool.acquire_eq_ok acquired
    exact (h.subperm.trans ((List.subperm_cons _).2 hgs)).trans hgrants.symm.subperm
  | @free g _ h =>
    have hpool := PortPool.grants_released_of_frees (hfrees g rfl)
    exact (List.subperm_cons g).1 ((h.symm.subperm.trans hgs).trans hpool.subperm)

end Move

/-- Nothing happens to the pool, and the outstanding grants are at most reordered. -/
theorem Move.stay {p : PortPool} {gs gs' : List Grant} (h : gs'.Perm gs) : Move p gs p gs' none :=
  .keep h.subperm

/-- Freeing the port behind a listener takes its grant away, if it has one. -/
theorem Move.release (s : State) (client : String) (l : Listener) (others gs : List Grant) :
    Move s.pool (others ++ ((l.grant? client).toList ++ gs)) (s.releaseListener client l).pool
      (others ++ gs) (l.grant? client) := by
  rw [State.releaseListener_eq]
  cases hport : l.poolPort with
  | none =>
    have hnone : l.grant? client = none := by simp [Listener.grant?, hport]
    rw [hnone, grantsOf_cons_none hport]
    exact .stay (.refl _)
  | some port =>
    have hsome : l.grant? client = some ⟨⟨client, l.name⟩, port⟩ := by simp [Listener.grant?, hport]
    rw [hsome, grantsOf_cons_some hport]
    exact .free List.perm_middle

/-- What is cleared is not outstanding any more. -/
theorem grants_clear_subperm (r : Registry) (key : String) :
    (r.clear key).2.grants.Subperm r.grants :=
  ((List.sublist_append_right _ _).subperm).trans (Registry.grants_clear r key).symm.subperm

/-- Opening a tunnel leases a port or leaves the pool alone. -/
theorem Task.move_openTunnel (s : State) (t : Task) (client name : String) (tunnel : Tunnel)
    (left : List (String × Tunnel)) (batch : Batch) :
    Move s.pool (s.registry.grants ++ grantsOf client batch.listeners)
      (openTunnel s t client name tunnel left batch).1.pool
      ((openTunnel s t client name tunnel left batch).1.registry.grants ++
        (openTunnel s t client name tunnel left batch).2.phase.grants) none := by
  rcases openTunnel_cases s t client name tunnel left batch with
    ⟨fault, hcase⟩ | ⟨-, hcase⟩ | ⟨-, -, address, hcase⟩ |
    ⟨-, -, port, pool, address, hacquire, hcase⟩
  · rw [hcase]
    exact .stay (.refl _)
  · rw [hcase]
    exact .stay (.refl _)
  · rw [hcase]
    exact .stay (.refl _)
  · rw [hcase]
    exact .lease hacquire List.perm_middle

/-- A bind turns the grant taken for it into that of a listener, or frees its port. -/
theorem Task.move_bindTunnel (s : State) (t : Task) (client : String) (pending : PendingBind)
    (left : List (String × Tunnel)) (batch : Batch) :
    Move s.pool
      (s.registry.grants ++ ((pending.grant? client).toList ++ grantsOf client batch.listeners))
      (bindTunnel s t client pending left batch).1.pool
      ((bindTunnel s t client pending left batch).1.registry.grants ++
        (bindTunnel s t client pending left batch).2.phase.grants)
      (t.goTo (.binding client pending left batch)).release? := by
  simp only [bindTunnel, release?, goTo]
  cases t.surroundings.bind batch.listeners.length pending.protocol pending.address with
  | ok address =>
    refine .stay (List.Perm.append_left _ ?_)
    simp only [Phase.grants, State.openListener]
    rw [grantsOf_append, grantsOf_cons, grantsOf_nil, List.append_nil]
    exact List.perm_append_comm
  | error fault =>
    -- The release is the one for a listener with the name and port of the bind.
    have hregistry := congrArg State.registry
      (State.releaseListener_eq s client ⟨pending.name, pending.address, pending.poolPort, 0⟩)
    have hmove := Move.release s client ⟨pending.name, pending.address, pending.poolPort, 0⟩
      s.registry.grants (grantsOf client batch.listeners)
    simp only [State.releaseListener] at hregistry hmove
    simp only [fail, goTo, Phase.grants, hregistry]
    exact hmove

/-- What one step of a task does to the pool and to the outstanding grants. -/
theorem Task.move (s : State) (t : Task) :
    Move s.pool (s.registry.grants ++ t.phase.grants) (t.step s).1.pool
      ((t.step s).1.registry.grants ++ (t.step s).2.phase.grants) t.release? := by
  obtain ⟨key, surroundings, phase⟩ := t
  have habandon : Move s.pool (s.registry.grants ++ [])
      (abandon s ⟨key, surroundings, phase⟩).1.pool
      ((abandon s ⟨key, surroundings, phase⟩).1.registry.grants ++
        (abandon s ⟨key, surroundings, phase⟩).2.phase.grants) none := by
    refine .keep ((List.subperm_append_right _).2 ?_)
    exact grants_clear_subperm s.registry key
  -- Opening leases, a failed bind and rolling back release. All other steps leave the
  -- pool alone and only pass grants on.
  cases phase with
  | accepted =>
    simp only [step]
    split
    · exact .stay (.refl _)
    · split
      · next registry hreserve =>
        obtain ⟨-, -, rfl⟩ := Registry.reserve_eq_ok hreserve
        exact .stay (.refl _)
      · exact .stay (.refl _)
  | reserved =>
    simp only [step]
    split
    · exact habandon
    · split
      · exact .stay (.refl _)
      · exact habandon
  | connecting =>
    simp only [step]
    split
    · exact habandon
    · split
      · exact .stay (.refl _)
      · exact habandon
  | channelOpen =>
    simp only [step]
    split
    · exact .stay (.refl _)
    · exact .stay (.refl _)
  | greeted handshake =>
    simp only [step]
    split
    · next registry hsubscribe =>
      exact .stay ((Registry.grants_subscribe hsubscribe).append_right _)
    · exact .stay (.refl _)
  | opening client left batch =>
    cases left with
    | nil => exact .stay (.refl _)
    | cons next left =>
      obtain ⟨name, tunnel⟩ := next
      exact move_openTunnel s _ client name tunnel left batch
  | binding client pending left batch => exact move_bindTunnel s _ client pending left batch
  | committing client batch =>
    simp only [step]
    split
    · next registry hcommit =>
      refine .stay ?_
      simp only [Phase.grants, goTo, List.append_nil]
      exact (Registry.grants_commit hcommit).trans List.perm_append_comm
    · exact .stay (.refl _)
  | rollingBack client left batch fault =>
    cases left with
    | nil => exact .stay (.refl _)
    | cons l left =>
      have hregistry := congrArg State.registry (State.releaseListener_eq s client l)
      simp only [step, release?, goTo, Phase.grants, grantsOf_cons, hregistry]
      exact Move.release s client l s.registry.grants (grantsOf client left)
  | dropping batch fault => exact .stay (.refl _)
  | rejecting fault => exact .stay (.refl _)
  | disconnecting => exact .stay (.refl _)
  | done => exact .stay (.refl _)

/-- What one step of an end does to the pool and to the outstanding grants. -/
theorem EndPhase.move (s : State) (e : EndPhase) :
    Move s.pool (s.registry.grants ++ e.grants) (e.step s).1.pool
      ((e.step s).1.registry.grants ++ (e.step s).2.grants) e.release? := by
  cases e with
  | leaving driver => exact .stay (.refl _)
  | clearing key =>
    have hcleared := Registry.grants_clear s.registry key
    simp only [step, State.clear]
    split
    · next hclear =>
      simp only [Prod.mk.injEq] at hclear
      obtain ⟨hnone, rfl⟩ := hclear
      rw [hnone] at hcleared
      exact .stay (hcleared.symm.append_right _)
    · next held s' hclear =>
      simp only [Prod.mk.injEq] at hclear
      obtain ⟨hsome, rfl⟩ := hclear
      rw [hsome] at hcleared
      -- What the client owned passes from the registry to its teardown.
      refine .stay (List.perm_append_comm.trans ?_)
      change (heldGrants (some held) ++ (s.registry.clear key).2.grants).Perm
        (s.registry.grants ++ [])
      rw [List.append_nil]
      exact hcleared.symm
  | unsubscribing key name =>
    have hcleared := Registry.grants_unsubscribe s.registry key name
    simp only [step]
    split
    · next registry hunsubscribe =>
      rw [hunsubscribe] at hcleared
      exact .stay (hcleared.symm.append_right _)
    · next held registry hunsubscribe =>
      rw [hunsubscribe] at hcleared
      refine .stay (List.perm_append_comm.trans ?_)
      change (heldGrants (some held) ++ registry.grants).Perm (s.registry.grants ++ [])
      rw [List.append_nil]
      exact hcleared.symm
  | tearingDown client left channel =>
    cases left with
    | nil => cases channel <;> exact .stay (.refl _)
    | cons l left =>
      have hregistry : (s.tearDown client l).registry = s.registry := by
        rw [State.tearDown, State.releaseListener_eq]
      simp only [step, release?, grants, grantsOf_cons, hregistry]
      exact Move.release { s with closed := s.closed.close l } client l s.registry.grants
        (grantsOf client left)
  | done removed => exact .stay (.refl _)

/-- The grants of one task or end among those of all. -/
theorem perm_grants_pick {α : Type} (f : α → List Grant) (before after : List α) (a : α)
    (own rest : List Grant) :
    (own ++ f a ++ ((before ++ after).flatMap f ++ rest)).Perm
      (own ++ ((before ++ a :: after).flatMap f ++ rest)) := by
  have hpick : ((before ++ a :: after).flatMap f).Perm (f a ++ (before ++ after).flatMap f) :=
    List.perm_middle.flatMap_right f
  rw [List.append_assoc, ← List.append_assoc (f a)]
  exact ((hpick.symm.append_right rest).append_left own)

/-- What one turn does to the pool and to the outstanding grants, and which release it
issues. -/
theorem Turn.move {w w' : World} (h : Turn w w') :
    ∃ r, Move w.state.pool w.grants w'.state.pool w'.grants r ∧
      ∀ g, r = some g → Releases w w' g := by
  cases h with
  | accept key surroundings =>
    refine ⟨none, .stay ?_, nofun⟩
    simp [World.grants, Task.accept, Phase.grants]
  | task before after t h =>
    refine ⟨t.release?, ?_, fun g issued => .task before after t h issued⟩
    -- The step concerns the grants of this task; the others' are the rest.
    have hmove := (t.move w.state).append ((before ++ after).flatMap (fun t => t.phase.grants) ++
      w.ends.flatMap EndPhase.grants)
    refine hmove.perm ?_ ?_
    · rw [World.grants, h]
      exact perm_grants_pick (fun t => t.phase.grants) before after t _ _
    · exact perm_grants_pick (fun t => t.phase.grants) before after _ _ _
  | driver d hd fresh =>
    refine ⟨none, .stay ?_, nofun⟩
    simp [World.grants, EndPhase.grants]
  | ending before after e h =>
    refine ⟨e.release?, ?_, fun g issued => .ending before after e h issued⟩
    have hmove := (e.move w.state).append ((before ++ after).flatMap EndPhase.grants ++
      w.tasks.flatMap fun t => t.phase.grants)
    refine hmove.perm ?_ ?_
    · rw [World.grants, h]
      exact (perm_grants_pick EndPhase.grants before after e _ _).trans
        (List.perm_append_comm.append_left _)
    · exact (perm_grants_pick EndPhase.grants before after _ _ _).trans
        (List.perm_append_comm.append_left _)
  | unsubscribe key name =>
    refine ⟨none, .stay ?_, nofun⟩
    simp [World.grants, EndPhase.grants]
  | acceptLoop l =>
    have hsame : (w.state.endAcceptLoop l).pool = w.state.pool ∧
        (w.state.endAcceptLoop l).registry = w.state.registry := by
      rw [State.endAcceptLoop]
      split
      · exact ⟨rfl, rfl⟩
      · exact ⟨rfl, rfl⟩
    refine ⟨none, ?_, nofun⟩
    simp only [World.grants, hsame]
    exact .stay (.refl _)
  | stop => exact ⟨none, .stay (.refl _), nofun⟩
  | closeAll h => exact ⟨none, .stay (.refl _), nofun⟩

/-! ## Runs -/

/-- Everybody owns the ports of their outstanding grants. -/
def World.Owned (w : World) : Prop := w.grants.Subperm w.state.pool.grants

/-- Every release that the turn from one world to another issues satisfies a test of
the pool and the grant. -/
def EveryRelease (test : PortPool → Grant → Prop) (w w' : World) : Prop :=
  ∀ g, Releases w w' g → test w.state.pool g

/-- A release is for a port that is leased as it should be, so that it frees this port
exactly when no lower port has the same lease. -/
theorem World.Owned.everyRelease_iff {w w' : World} (h : w.Owned) :
    EveryRelease PortPool.Frees w w' ↔ EveryRelease PortPool.IsLowest w w' :=
  forall_congr' fun _ => forall_congr' fun hreleases =>
    PortPool.frees_iff (h.subset hreleases.mem_grants)

/-- A turn all of whose releases free their own ports leaves everybody the ports of
their outstanding grants. -/
theorem World.Owned.turn {w w' : World} (h : w.Owned) (hturn : Turn w w')
    (hexact : EveryRelease PortPool.Frees w w') : w'.Owned := by
  obtain ⟨r, hmove, hissued⟩ := hturn.move
  exact hmove.subperm h fun g hr => hexact g (hissued g hr)

/-- Along a run that starts with everybody owning their ports, all releases free their
own ports exactly when all of them are for lowest ports, and then everybody owns their
ports throughout. -/
theorem World.Owned.run {w : World} {ws : List World} (h : w.Owned)
    (hrun : (w :: ws).IsChain Turn) :
    ((w :: ws).IsChain (EveryRelease PortPool.Frees) ↔
      (w :: ws).IsChain (EveryRelease PortPool.IsLowest)) ∧
    ((w :: ws).IsChain (EveryRelease PortPool.Frees) → ∀ w' ∈ w :: ws, w'.Owned) := by
  -- On the run. Both conditions make the first turn exact, which leaves `Owned` to the rest.
  induction ws generalizing w with
  | nil => simpa using h
  | cons next ws ih =>
    simp only [List.isChain_cons_cons] at hrun ⊢
    obtain ⟨hturn, hrest⟩ := hrun
    constructor
    · constructor
      · rintro ⟨hfirst, hothers⟩
        exact ⟨h.everyRelease_iff.1 hfirst, (ih (h.turn hturn hfirst) hrest).1.1 hothers⟩
      · rintro ⟨hfirst, hothers⟩
        have hexact := h.everyRelease_iff.2 hfirst
        exact ⟨hexact, (ih (h.turn hturn hexact) hrest).1.2 hothers⟩
    · rintro ⟨hfirst, hothers⟩ w' hw'
      rcases List.mem_cons.1 hw' with rfl | hw'
      · exact h
      · exact (ih (h.turn hturn hfirst) hrest).2 hothers w' hw'

/-- Every listener of an active client that has a port of the pool owns it. -/
def World.ListenersOwnPorts (w : World) : Prop :=
  ∀ name key held, w.state.registry.clients.get? name = some ⟨key, some held⟩ →
    ∀ l ∈ held.listeners, ∀ port, l.poolPort = some port →
      w.state.pool.lease? port = some ⟨held.clientName, l.name⟩

theorem World.Owned.listenersOwnPorts {w : World} (h : w.Owned) : w.ListenersOwnPorts := by
  intro name key held hclient l hl port hport
  have hgrant : (⟨⟨held.clientName, l.name⟩, port⟩ : Grant) ∈ w.state.registry.grants :=
    Registry.mem_grants_iff.2 ⟨name, _, hclient, mem_grantsOf_iff.2 ⟨l, hl, hport, rfl⟩⟩
  exact PortPool.mem_grants_iff.1 (h.subset (List.mem_append_left _ hgrant))

theorem owned_start {s₀ : State} (h : s₀.registry.grants = []) : World.Owned ⟨s₀, [], []⟩ := by
  rw [World.Owned, World.grants, h]
  exact List.nil_subperm

/-- In every interleaved run from the start of a server, all releases free the ports of
their own listeners exactly when each of them is issued for the lowest port with its
lease. In such a run the listeners of active clients own their ports at all times. -/
theorem releases_exact_iff {config : Config} {listen : String → Except SystemError SocketAddress}
    {s₀ : State} {address : SocketAddress} (hstart : State.start config listen = .ok (s₀, address))
    {ws : List World} (hrun : (⟨s₀, [], []⟩ :: ws).IsChain Turn) :
    ((⟨s₀, [], []⟩ :: ws).IsChain (EveryRelease PortPool.Frees) ↔
      (⟨s₀, [], []⟩ :: ws).IsChain (EveryRelease PortPool.IsLowest)) ∧
    ((⟨s₀, [], []⟩ :: ws).IsChain (EveryRelease PortPool.Frees) →
      ∀ w ∈ ⟨s₀, [], []⟩ :: ws, w.ListenersOwnPorts) := by
  obtain ⟨pool, -, rfl⟩ := start_eq_ok hstart
  have hstarted : World.Owned ⟨State.fresh config pool, [], []⟩ := owned_start rfl
  obtain ⟨hiff, howned⟩ := hstarted.run hrun
  exact ⟨hiff, fun hexact w hw => (howned hexact w hw).listenersOwnPorts⟩

/-! ## A run in which a release frees another port -/

/-- Who takes the next turn: a new connection, a task, a driver, an end, or whoever
unsubscribes a client. -/
inductive Choice where
  | accept (key : String) (surroundings : Surroundings)
  | task (index : Nat)
  | driver (index : Nat)
  | ending (index : Nat)
  | unsubscribe (key name : String)

/-- The end is about to remove the channel of a driver. -/
def EndPhase.isLeaving (d : ChannelDriver) : EndPhase → Bool
  | .leaving d' => d'.channel == d.channel
  | _ => false

/-- The world after a turn, if it can be taken. -/
def World.take? (w : World) : Choice → Option World
  | .accept key surroundings => some { w with tasks := w.tasks ++ [.accept key surroundings] }
  | .task index => w.tasks[index]?.map fun t =>
    { w with state := (t.step w.state).1, tasks := w.tasks.set index (t.step w.state).2 }
  | .driver index => w.state.connections.drivers[index]?.bind fun d =>
    if w.ends.any (EndPhase.isLeaving d) then none
    else some { w with
      state := { w.state with connections := w.state.connections.cancel d.channel }
      ends := w.ends ++ [.leaving { d with cancelled := true }] }
  | .ending index => w.ends[index]?.map fun e =>
    { w with state := (e.step w.state).1, ends := w.ends.set index (e.step w.state).2 }
  | .unsubscribe key name => some { w with ends := w.ends ++ [.unsubscribing key name] }

/-- The worlds after some turns, if all can be taken. -/
def World.worlds? (w : World) : List Choice → Option (List World)
  | [] => some []
  | choice :: choices => (w.take? choice).bind fun next =>
    (next.worlds? choices).map fun ws => next :: ws

theorem eq_take_append_drop {α : Type} {l : List α} {i : Nat} {a : α} (h : l[i]? = some a) (b : α) :
    l = l.take i ++ a :: l.drop (i + 1) ∧ l.set i b = l.take i ++ b :: l.drop (i + 1) := by
  obtain ⟨hlt, rfl⟩ := List.getElem?_eq_some_iff.1 h
  have hset : ∀ b, l.set i b = l.take i ++ b :: l.drop (i + 1) := fun b => by
    rw [List.set_eq_take_append_cons_drop, if_pos hlt]
  refine ⟨?_, hset b⟩
  rw [← hset, List.set_getElem_self]

theorem turn_of_take? {w w' : World} {choice : Choice} (h : w.take? choice = some w') :
    Turn w w' := by
  cases choice with
  | accept key surroundings =>
    cases h
    exact .accept w key surroundings
  | task index =>
    obtain ⟨t, ht, rfl⟩ := Option.map_eq_some_iff.1 h
    obtain ⟨hold, hnew⟩ := eq_take_append_drop ht (t.step w.state).2
    rw [hnew]
    exact .task w _ _ t hold
  | driver index =>
    obtain ⟨d, hd, hnext⟩ := Option.bind_eq_some_iff.1 h
    split at hnext
    · cases hnext
    · next hfresh =>
      cases hnext
      refine .driver w d (List.mem_of_getElem? hd) fun d' hmem hchannel => hfresh ?_
      exact List.any_eq_true.2 ⟨_, hmem, by simp [EndPhase.isLeaving, hchannel]⟩
  | ending index =>
    obtain ⟨e, he, rfl⟩ := Option.map_eq_some_iff.1 h
    obtain ⟨hold, hnew⟩ := eq_take_append_drop he (e.step w.state).2
    rw [hnew]
    exact .ending w _ _ e hold
  | unsubscribe key name =>
    cases h
    exact .unsubscribe w key name

/-- The release that the turn of an end issues. -/
theorem releases_of_take? {w w' : World} {index : Nat} {g : Grant}
    (h : w.take? (.ending index) = some w')
    (hissued : w.ends[index]?.bind EndPhase.release? = some g) : Releases w w' g := by
  obtain ⟨e, he, hrelease⟩ := Option.bind_eq_some_iff.1 hissued
  simp only [World.take?, he, Option.map_some, Option.some.injEq] at h
  subst h
  obtain ⟨hold, hnew⟩ := eq_take_append_drop he (e.step w.state).2
  rw [hnew]
  exact .ending _ _ e hold hrelease

theorem isChain_of_worlds? {w : World} {choices : List Choice} {ws : List World}
    (h : w.worlds? choices = some ws) : (w :: ws).IsChain Turn := by
  induction choices generalizing w ws with
  | nil =>
    cases h
    exact List.IsChain.singleton w
  | cons choice choices ih =>
    obtain ⟨next, hnext, hrest⟩ := Option.bind_eq_some_iff.1 h
    obtain ⟨ws', hws', rfl⟩ := Option.map_eq_some_iff.1 hrest
    exact List.isChain_cons_cons.2 ⟨turn_of_take? hnext, ih hws'⟩

/-- The world after some of these turns. -/
def World.after (w : World) (choices : List Choice) (i : Nat) : World :=
  (w :: (w.worlds? choices).getD []).getD i w

theorem take?_of_worlds? {w : World} {choices : List Choice} {ws : List World}
    (h : w.worlds? choices = some ws) {i : Nat} {choice : Choice} (hi : choices[i]? = some choice) :
    ∃ w₁ w₂, (w :: ws)[i]? = some w₁ ∧ (w :: ws)[i + 1]? = some w₂ ∧
      w₁.take? choice = some w₂ := by
  -- On the choices, which go along with the worlds after the first.
  induction choices generalizing w ws i with
  | nil => cases hi
  | cons first choices ih =>
    obtain ⟨next, hnext, hrest⟩ := Option.bind_eq_some_iff.1 h
    obtain ⟨ws', hws', rfl⟩ := Option.map_eq_some_iff.1 hrest
    cases i with
    | zero =>
      cases hi
      exact ⟨w, next, rfl, rfl, hnext⟩
    | succ i => exact ih hws' hi

/-- The turns of a run are those that were chosen. -/
theorem take?_after {w : World} {choices : List Choice} (h : (w.worlds? choices).isSome = true)
    {i : Nat} {choice : Choice} (hi : choices[i]? = some choice) :
    (w.after choices i).take? choice = some (w.after choices (i + 1)) := by
  obtain ⟨ws, hws⟩ := Option.isSome_iff_exists.1 h
  obtain ⟨w₁, w₂, hfirst, hsecond, htake⟩ := take?_of_worlds? hws hi
  rw [World.after, World.after, hws, Option.getD_some, List.getD_eq_getElem?_getD,
    List.getD_eq_getElem?_getD, hfirst, hsecond]
  exact htake

theorem turn_after {w : World} {choices : List Choice}
    (h : (w.worlds? choices).isSome = true) {i : Nat} (hi : i < choices.length) :
    Turn (w.after choices i) (w.after choices (i + 1)) :=
  turn_of_take? (take?_after h (List.getElem?_eq_getElem hi))

theorem Reaches.head {w w₁ w₂ : World} (h : Turn w w₁) (hreaches : Reaches w₁ w₂) :
    Reaches w w₂ := by
  induction hreaches with
  | refl => exact .turn .refl h
  | turn _ hturn ih => exact .turn ih hturn

/-- Every world of a run is reached. -/
theorem reaches_of_isChain {w w' : World} {ws : List World} (h : (w :: ws).IsChain Turn)
    (hmem : w' ∈ w :: ws) : Reaches w w' := by
  induction ws generalizing w with
  | nil =>
    rw [List.mem_singleton.1 hmem]
    exact .refl
  | cons next ws ih =>
    obtain ⟨hturn, hrest⟩ := List.isChain_cons_cons.1 h
    rcases List.mem_cons.1 hmem with rfl | hmem
    · exact .refl
    · exact .head hturn (ih hrest hmem)

theorem reaches_after {w : World} {choices : List Choice}
    (h : (w.worlds? choices).isSome = true) {i : Nat} (hi : i ≤ choices.length) :
    Reaches w (w.after choices i) := by
  induction i with
  | zero => exact .refl
  | succ i ih => exact .turn (ih (Nat.le_of_succ_le hi)) (turn_after h hi)

/-- The grants whose releases can be issued next. -/
def World.nextReleases (w : World) : List Grant :=
  w.tasks.filterMap Task.release? ++ w.ends.filterMap EndPhase.release?

theorem isChain_everyRelease {test : PortPool → Grant → Prop} {ws : List World}
    (h : ∀ w ∈ ws, ∀ g ∈ w.nextReleases, test w.state.pool g) :
    ws.IsChain (EveryRelease test) := by
  apply List.Pairwise.isChain
  apply List.pairwise_of_forall_mem_list
  intro w hw w' _ g hreleases
  apply h w hw
  cases hreleases with
  | task before after t ht issued =>
    refine List.mem_append_left _ (List.mem_filterMap.2 ⟨t, ?_, issued⟩)
    rw [ht]
    exact List.mem_append_right _ List.mem_cons_self
  | ending before after e he issued =>
    refine List.mem_append_right _ (List.mem_filterMap.2 ⟨e, ?_, issued⟩)
    rw [he]
    exact List.mem_append_right _ List.mem_cons_self

/-- A server with two ports that nobody has connected to. -/
def freshWorld : World := ⟨State.fresh twoPortConfig twoPorts, [], []⟩

/-- Client `a` is connected. -/
def connected : List Choice :=
  .accept "10.0.0.1:5000" (greeting "a") :: List.replicate 9 (.task 0)

/-- A client comes, opens its tunnel in nine steps, and goes again. -/
def departure : List Choice :=
  .accept "10.0.0.1:5000" (greeting "a") :: List.replicate 9 (.task 0) ++
    .driver 0 :: List.replicate 4 (.ending 0)

/-- In this run every release is for the lowest port with its lease. -/
theorem lowest_of_departure {ws : List World} (hws : freshWorld.worlds? departure = some ws) :
    (freshWorld :: ws).IsChain (EveryRelease PortPool.IsLowest) := by
  have hlowest : ∀ w ∈ freshWorld :: (freshWorld.worlds? departure).getD [],
      ∀ g ∈ w.nextReleases, ∀ g' ∈ w.state.pool.grants, g'.lease = g.lease → g.port ≤ g'.port := by
    decide +kernel
  rw [hws, Option.getD_some] at hlowest
  exact isChain_everyRelease hlowest

/-- Control: a client comes and goes. Its port is released when it is torn down, all releases
of the run are exact, and listeners own their ports throughout. -/
theorem releases_exact_iff_departure :
    ∃ ws, freshWorld.worlds? departure = some ws ∧
      Releases (freshWorld.after departure 13) (freshWorld.after departure 14)
        ⟨⟨"a", "t"⟩, 7000⟩ ∧
      (freshWorld :: ws).IsChain (EveryRelease PortPool.IsLowest) ∧
      (freshWorld :: ws).IsChain (EveryRelease PortPool.Frees) ∧
      ∀ w ∈ freshWorld :: ws, w.ListenersOwnPorts := by
  have hsome : (freshWorld.worlds? departure).isSome = true := by decide +kernel
  obtain ⟨ws, hws⟩ := Option.isSome_iff_exists.1 hsome
  obtain ⟨hiff, howned⟩ := releases_exact_iff start_twoPorts (isChain_of_worlds? hws)
  have hlowest := lowest_of_departure hws
  have hexact := hiff.2 hlowest
  have hissued : (freshWorld.after departure 13).ends[0]?.bind EndPhase.release? =
      some ⟨⟨"a", "t"⟩, 7000⟩ := by decide +kernel
  exact ⟨ws, hws, releases_of_take? (take?_after hsome rfl) hissued, hlowest, hexact,
    howned hexact⟩

/-- Client `b` has the lower port and `a` the higher one. `b` leaves and its port is
freed. `a` goes too, and its name is cleared; before its listener is torn down it
connects again and gets the lower port. -/
def reconnect : List Choice :=
  .accept "10.0.0.1:5000" (greeting "b") :: List.replicate 9 (.task 0) ++
    .accept "10.0.0.2:5000" (greeting "a") :: List.replicate 9 (.task 1) ++
    .driver 0 :: List.replicate 4 (.ending 0) ++
    .driver 0 :: List.replicate 2 (.ending 1) ++
    .accept "10.0.0.3:5000" (greeting "a") :: List.replicate 9 (.task 2)

/-- The last world of that run. -/
def reconnected : World := ((freshWorld.worlds? reconnect).bind List.getLast?).getD freshWorld

theorem reaches_reconnected : Reaches freshWorld reconnected := by
  have hsome : ((freshWorld.worlds? reconnect).bind List.getLast?).isSome = true := by
    decide +kernel
  obtain ⟨w, hw⟩ := Option.isSome_iff_exists.1 hsome
  obtain ⟨ws, hws, hlast⟩ := Option.bind_eq_some_iff.1 hw
  rw [reconnected, hw]
  exact reaches_of_isChain (isChain_of_worlds? hws)
    (List.mem_cons_of_mem _ (List.mem_of_getLast? hlast))

/-- The teardown of the first `a` is to free the port 7001 and frees 7000, the port of
the second `a`, whose listener then does not own its port. -/
theorem release_frees_other_port :
    ∃ w w', Reaches freshWorld w ∧ Turn w w' ∧ Releases w w' ⟨⟨"a", "t"⟩, 7001⟩ ∧
      (∃ p', w.state.pool.releaseTunnel "a" "t" = .ok (7000, p')) ∧
      ∃ key held, w'.state.registry.clients.get? "a" = some ⟨key, some held⟩ ∧
        ∃ l ∈ held.listeners, l.poolPort = some 7000 ∧ w'.state.pool.lease? 7000 = none := by
  have hissued : reconnected.ends[1]?.bind EndPhase.release? = some ⟨⟨"a", "t"⟩, 7001⟩ := by
    decide +kernel
  have hreleased : reconnected.state.pool.releaseTunnel "a" "t" =
      .ok (7000, ⟨7000, [none, some ⟨"a", "t"⟩], by decide⟩) := by decide +kernel
  have hafter : (reconnected.take? (.ending 1)).map (fun w =>
        ((w.state.registry.clients.get? "a").map fun s => (s.connection, s.holdings),
          w.state.pool.lease? 7000)) =
      some (some ("10.0.0.3:5000",
        some ⟨"a", "10.0.0.3:5000", [], [⟨"t", ":7000", some 7000, 2⟩]⟩), none) := by
    decide +kernel
  obtain ⟨w', hw', htests⟩ := Option.map_eq_some_iff.1 hafter
  simp only [Prod.mk.injEq] at htests
  obtain ⟨hclient, hlease⟩ := htests
  obtain ⟨⟨key, held⟩, hget, hheld⟩ := Option.map_eq_some_iff.1 hclient
  simp only [Prod.mk.injEq] at hheld
  obtain ⟨rfl, rfl⟩ := hheld
  exact ⟨reconnected, w', reaches_reconnected, turn_of_take? hw', releases_of_take? hw' hissued,
    ⟨_, hreleased⟩, _, _, hget, _, List.mem_singleton_self _, rfl, hlease⟩

end ReverseTunnel.Server
