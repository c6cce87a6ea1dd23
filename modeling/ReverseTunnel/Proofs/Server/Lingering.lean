import ReverseTunnel.Proofs.Server.Steps

/-!
# Listeners that outlive their ports

Telling a listener to close and freeing its port are one thing, its socket going
away is another: the accept loop ends in a later turn, and a batch that is rolled
back is dropped only after its ports were freed. In between a listener lingers
(`World.Lingers`), and the next client can lease the port that it is still bound to
(`acquires_bound_port`).

These are the only listeners that a port is leased over. In a run whose releases all
free the ports of their own listeners, every listener that is bound and does not
linger has its port leased, and nobody but itself counts on that port
(`World.Tidy.covered`). So a port that is leased has no bound listener, unless one
that lingers (`lingers_of_acquire`).
-/

namespace ReverseTunnel

/-! ## Who counts on a port -/

/-- Somebody who counts on a port of the pool: a listener, or a bind without outcome yet. -/
structure Hold where
  port : UInt16
  listener : Option Listener

/-- The hold of a listener, if it has a port of the pool. -/
def Listener.hold? (l : Listener) : Option Hold := l.poolPort.map fun port => ⟨port, some l⟩

/-- The holds of some listeners. -/
def holdsOf (ls : List Listener) : List Hold := ls.filterMap Listener.hold?

/-- The listeners of a client. -/
def Subscriber.listeners (s : Subscriber) : List Listener := s.holdings.elim [] Holdings.listeners

/-- The holds of the listeners of all clients. -/
def Registry.holds (r : Registry) : List Hold :=
  r.clients.entries.flatMap fun e => holdsOf e.2.listeners

theorem mem_holdsOf_iff {ls : List Listener} {h : Hold} :
    h ∈ holdsOf ls ↔ ∃ l ∈ ls, l.poolPort = some h.port ∧ h.listener = some l := by
  obtain ⟨port, listener⟩ := h
  simp only [holdsOf, List.mem_filterMap, Listener.hold?, Option.map_eq_some_iff, Hold.mk.injEq]
  refine exists_congr fun l => and_congr_right fun _ => ?_
  constructor
  · rintro ⟨port', hport, rfl, rfl⟩
    exact ⟨hport, rfl⟩
  · rintro ⟨hport, rfl⟩
    exact ⟨port, hport, rfl, rfl⟩

theorem holdsOf_cons (l : Listener) (ls : List Listener) :
    holdsOf (l :: ls) = l.hold?.toList ++ holdsOf ls := by
  cases hold : l.hold? with
  | none => simp [holdsOf, hold]
  | some h => simp [holdsOf, hold]

theorem holdsOf_subset {ls ls' : List Listener} (h : ls ⊆ ls') : holdsOf ls ⊆ holdsOf ls' := by
  intro hold hmem
  obtain ⟨l, hl, hport⟩ := mem_holdsOf_iff.1 hmem
  exact mem_holdsOf_iff.2 ⟨l, h hl, hport⟩

/-- Holds and grants of listeners are for the same ports. -/
theorem map_port_holdsOf (client : String) (ls : List Listener) :
    (holdsOf ls).map Hold.port = (grantsOf client ls).map Grant.port := by
  rw [holdsOf, grantsOf, List.map_filterMap, List.map_filterMap]
  congr 1
  funext l
  simp [Listener.hold?, Listener.grant?, Function.comp_def]

namespace Registry

variable {r r' : Registry} {h : Hold}

theorem mem_holds_iff :
    h ∈ r.holds ↔ ∃ name s, r.clients.get? name = some s ∧ h ∈ holdsOf s.listeners := by
  rw [holds, List.mem_flatMap]
  constructor
  · rintro ⟨⟨name, s⟩, hmem, hhold⟩
    exact ⟨name, s, NameMap.get?_eq_some_iff.2 hmem, hhold⟩
  · rintro ⟨name, s, hs, hhold⟩
    exact ⟨(name, s), NameMap.get?_eq_some_iff.1 hs, hhold⟩

theorem map_port_holds (r : Registry) : r.holds.map Hold.port = r.grants.map Grant.port := by
  rw [holds, grants, List.map_flatMap, List.map_flatMap]
  congr 1
  funext e
  obtain ⟨name, connection, _ | held⟩ := e
  · rfl
  · exact map_port_holdsOf held.clientName held.listeners

theorem holds_subset_of_clients
    (hclients : ∀ name s, r'.clients.get? name = some s → r.clients.get? name = some s) :
    r'.holds ⊆ r.holds := by
  intro h hmem
  obtain ⟨name, s, hs, hhold⟩ := mem_holds_iff.1 hmem
  exact mem_holds_iff.2 ⟨name, s, hclients name s hs, hhold⟩

/-- A new client holds nothing. -/
theorem holds_subscribe {name key : String} (hok : r.subscribe name key = .ok r') :
    r'.holds ⊆ r.holds := by
  obtain ⟨-, -, rfl⟩ := subscribe_eq_ok hok
  intro h hmem
  obtain ⟨n, s, hs, hhold⟩ := mem_holds_iff.1 hmem
  rw [NameMap.get?_insert] at hs
  split at hs
  · obtain rfl := Option.some.inj hs
    cases hhold
  · exact mem_holds_iff.2 ⟨n, s, hs, hhold⟩

/-- A client that commits holds the ports of its listeners. -/
theorem holds_commit {held : Holdings} (hok : r.commit held = .ok r') :
    r'.holds ⊆ r.holds ++ holdsOf held.listeners := by
  obtain ⟨-, -, -, rfl⟩ := commit_eq_ok hok
  intro h hmem
  obtain ⟨n, s, hs, hhold⟩ := mem_holds_iff.1 hmem
  rw [NameMap.get?_insert] at hs
  split at hs
  · obtain rfl := Option.some.inj hs
    exact List.mem_append_right _ hhold
  · exact List.mem_append_left _ (mem_holds_iff.2 ⟨n, s, hs, hhold⟩)

/-- What a client held passes to its teardown. -/
theorem holds_of_get? {name key : String} {held : Holdings}
    (hs : r.clients.get? name = some ⟨key, some held⟩) : holdsOf held.listeners ⊆ r.holds :=
  fun _ hmem => mem_holds_iff.2 ⟨name, _, hs, hmem⟩

end Registry

namespace Server

/-- The hold of a bind without outcome yet, if it is for a port of the pool. -/
def PendingBind.hold? (p : PendingBind) : Option Hold := p.poolPort.map fun port => ⟨port, none⟩

/-- The holds in the hands of a task. -/
def Phase.holds : Phase → List Hold
  | .opening _ _ batch | .committing _ batch => holdsOf batch.listeners
  | .binding _ pending _ batch => pending.hold?.toList ++ holdsOf batch.listeners
  | .rollingBack _ left _ _ => holdsOf left
  | .accepted | .reserved | .connecting | .channelOpen | .greeted _ | .dropping .. |
    .rejecting _ | .disconnecting | .done => []

/-- The holds in the hands of an end. -/
def EndPhase.holds : EndPhase → List Hold
  | .tearingDown _ left _ => holdsOf left
  | .leaving _ | .clearing _ | .unsubscribing .. | .done _ => []

/-- All holds. -/
def World.holds (w : World) : List Hold :=
  w.state.registry.holds ++
    ((w.tasks.flatMap fun t => t.phase.holds) ++ w.ends.flatMap EndPhase.holds)

theorem Phase.map_port_holds (phase : Phase) :
    phase.holds.map Hold.port = phase.grants.map Grant.port := by
  cases phase with
  | opening client left batch => exact map_port_holdsOf client batch.listeners
  | committing client batch => exact map_port_holdsOf client batch.listeners
  | rollingBack client left batch fault => exact map_port_holdsOf client left
  | binding client pending left batch =>
    rw [holds, grants, List.map_append, List.map_append, map_port_holdsOf client]
    cases hport : pending.poolPort with
    | none => simp [PendingBind.hold?, PendingBind.grant?, hport]
    | some port => simp [PendingBind.hold?, PendingBind.grant?, hport]
  | _ => rfl

theorem EndPhase.map_port_holds (e : EndPhase) :
    e.holds.map Hold.port = e.grants.map Grant.port := by
  cases e with
  | tearingDown client left channel => exact map_port_holdsOf client left
  | _ => rfl

/-- Holds and outstanding grants are for the same ports. -/
theorem World.map_port_holds (w : World) : w.holds.map Hold.port = w.grants.map Grant.port := by
  simp only [holds, grants, List.map_append, List.map_flatMap, Registry.map_port_holds,
    Phase.map_port_holds, EndPhase.map_port_holds]

/-- If everybody owns the ports of their grants, held ports are leased, and each is held
once. -/
theorem World.Owned.holds {w : World} (h : w.Owned) :
    (w.holds.map Hold.port).Nodup ∧
      ∀ hold ∈ w.holds, (w.state.pool.lease? hold.port).isSome = true := by
  constructor
  · rw [map_port_holds]
    have hports := PortPool.nodup_ports_grants w.state.pool
    obtain ⟨gs, hperm, hsub⟩ := h
    exact (hperm.map Grant.port).nodup_iff.1 ((hsub.map Grant.port).nodup hports)
  · intro hold hmem
    have hport : hold.port ∈ w.grants.map Grant.port :=
      map_port_holds w ▸ List.mem_map_of_mem hmem
    obtain ⟨g, hg, heq⟩ := List.mem_map.1 hport
    rw [← heq, PortPool.mem_grants_iff.1 (h.subset hg)]
    rfl

/-! ## Lingering listeners -/

/-- A batch gives up a listener whose port was freed, and will drop it. -/
def Phase.GivesUp (l : Listener) : Phase → Prop
  | .rollingBack _ left batch _ => l ∈ batch.listeners ∧ l ∉ left
  | .dropping batch _ => l ∈ batch.listeners
  | .accepted | .reserved | .connecting | .channelOpen | .greeted _ | .opening .. |
    .binding .. | .committing .. | .rejecting _ | .disconnecting | .done => False

/-- A listener that was told to close, or whose batch gave it up. -/
def World.Lingers (w : World) (l : Listener) : Prop :=
  w.state.closed.isClosed l = true ∨ ∃ t ∈ w.tasks, t.phase.GivesUp l

theorem isClosed_close {c : ClosedListeners} {l l' : Listener} :
    (c.close l).isClosed l' = true ↔ l'.handle = l.handle ∨ c.isClosed l' = true := by
  simp [ClosedListeners.close, ClosedListeners.isClosed]

@[simp]
theorem State.closed_releaseListener (s : State) (client : String) (l : Listener) :
    (s.releaseListener client l).closed = s.closed := by
  rw [releaseListener_eq]

@[simp]
theorem State.bound_releaseListener (s : State) (client : String) (l : Listener) :
    (s.releaseListener client l).bound = s.bound := by
  rw [releaseListener_eq]

theorem State.mem_bound_dropListeners {s : State} {ls : List Listener} {l : Listener} :
    l ∈ (s.dropListeners ls).bound ↔ l ∈ s.bound ∧ l ∉ ls := by
  simp [dropListeners]

variable {s s' : State} {w w' : World} {phase' : Phase} {l : Listener}

/-- A task tells no listener to close, and a listener that it gives up stays given up until
it is dropped. -/
theorem Task.Does.lingers {t : Task} (hdoes : t.Does s s' phase') :
    s'.closed = s.closed ∧ (t.phase.GivesUp l → phase'.GivesUp l ∨ l ∉ s'.bound) := by
  -- Only batches that are rolled back or dropped give a listener up.
  have hnone : ∀ {phase : Phase}, t.phase = phase → ¬ phase.GivesUp l →
      t.phase.GivesUp l → phase'.GivesUp l ∨ l ∉ s'.bound :=
    fun h hnot hgone => absurd (h ▸ hgone) hnot
  cases hdoes with
  | release h =>
    refine ⟨State.closed_releaseListener .., ?_⟩
    rw [h]
    rintro ⟨hbatch, hleft⟩
    exact .inl ⟨hbatch, fun hmem => hleft (List.mem_cons_of_mem _ hmem)⟩
  | released h =>
    refine ⟨rfl, ?_⟩
    rw [h]
    exact fun hgone => .inl hgone.1
  | drop h =>
    refine ⟨rfl, ?_⟩
    rw [h]
    exact fun hgone => .inr fun hbound => (State.mem_bound_dropListeners.1 hbound).2 hgone
  | unbind _ h => exact ⟨State.closed_releaseListener .., hnone h nofun⟩
  | abandon h =>
    rcases h with h | h
    · exact ⟨rfl, hnone h nofun⟩
    · exact ⟨rfl, hnone h nofun⟩
  | turnDown _ h =>
    rcases h with h | ⟨_, h⟩
    · exact ⟨rfl, hnone h nofun⟩
    · exact ⟨rfl, hnone h nofun⟩
  | fail _ h =>
    rcases h with ⟨_, h⟩ | h
    · exact ⟨rfl, hnone h nofun⟩
    · exact ⟨rfl, hnone h nofun⟩
  | leave h | reserve h | check h | register h | greet h | subscribe h | claim _ h | prepare _ h
  | lease _ h | listen _ h | opened h | commit h | reject h | delete h | rest h =>
    exact ⟨rfl, hnone h nofun⟩

/-- An end only tells listeners to close. -/
theorem EndPhase.Does.isClosed {e e' : EndPhase} (hdoes : e.Does s s' e')
    (h : s.closed.isClosed l = true) : s'.closed.isClosed l = true := by
  cases hdoes with
  | tearDown client l' left channel =>
    rw [State.tearDown, State.closed_releaseListener]
    exact isClosed_close.2 (.inr h)
  | _ => exact h

/-- A listener that lingers does so until it is not bound any more. -/
theorem Turn.lingers (h : Turn w w') (hbound : l ∈ w'.state.bound) (hlingers : w.Lingers l) :
    w'.Lingers l := by
  cases h with
  | accept key surroundings =>
    refine hlingers.imp_right ?_
    rintro ⟨t, ht, hgone⟩
    exact ⟨t, List.mem_append_left _ ht, hgone⟩
  | task before after t h =>
    obtain ⟨hclosed, hgives⟩ := (t.does_step w.state).lingers (l := l)
    rcases hlingers with hlingers | ⟨t', ht', hgone⟩
    · left
      change (t.step w.state).1.closed.isClosed l = true
      rw [hclosed]
      exact hlingers
    · -- The task that gave the listener up is this one, or one that does not move.
      right
      rw [h, List.mem_append, List.mem_cons] at ht'
      rcases ht' with ht' | rfl | ht'
      · exact ⟨t', List.mem_append_left _ ht', hgone⟩
      · refine ⟨_, List.mem_append_right _ List.mem_cons_self, ?_⟩
        exact (hgives hgone).resolve_right (not_not_intro hbound)
      · exact ⟨t', List.mem_append_right _ (List.mem_cons_of_mem _ ht'), hgone⟩
  | ending before after e h => exact hlingers.imp_left (e.does_step w.state).isClosed
  | acceptLoop l' =>
    rw [State.endAcceptLoop_eq]
    exact hlingers
  | _ => exact hlingers

/-! ## What a turn does to listeners and their ports -/

/-- What a turn does to the pool, the bound listeners and the holds, and the grant whose
release it issues. Of the holds that it takes away, a release leaves a listener gone. -/
inductive Shift (gone : Listener → Prop) (p : PortPool) (bound : List Listener) (hs : List Hold) :
    PortPool → List Listener → List Hold → Option Grant → Prop where
  /-- At most, listeners are dropped and holds given up. -/
  | keep {bound' : List Listener} {hs' : List Hold} (hbound : bound' ⊆ bound) (hholds : hs' ⊆ hs) :
      Shift gone p bound hs p bound' hs' none
  /-- A port is leased for a bind. -/
  | lease {owner tunnel : String} {port : UInt16} {p' : PortPool} {hs' : List Hold}
      (acquired : p.acquire owner tunnel = .ok (port, p')) (hholds : hs' ⊆ ⟨port, none⟩ :: hs) :
      Shift gone p bound hs p' bound hs' none
  /-- A bind succeeds, and its listener has the port from now on. -/
  | listen {hs' : List Hold} (l : Listener)
      (before : ∀ port, l.poolPort = some port → ⟨port, none⟩ ∈ hs)
      (after : ∀ port, l.poolPort = some port → ⟨port, some l⟩ ∈ hs')
      (hholds : hs' ⊆ l.hold?.toList ++ hs) :
      Shift gone p bound hs p (bound ++ [l]) hs' none
  /-- A release is issued on behalf of a hold. -/
  | free {g : Grant} {hs' : List Hold} (listener : Option Listener)
      (mem : ⟨g.port, listener⟩ ∈ hs) (hgone : ∀ l, listener = some l → gone l)
      (hholds : hs' ⊆ hs) :
      Shift gone p bound hs (p.released g.lease) bound hs' (some g)

section Shift

variable {gone gone' : Listener → Prop} {p p' : PortPool} {bound bound' : List Listener}
  {hs hs' : List Hold} {r : Option Grant}

/-- The holds that a turn does not concern stay. -/
theorem Shift.append (h : Shift gone p bound hs p' bound' hs' r) (rest : List Hold) :
    Shift gone p bound (hs ++ rest) p' bound' (hs' ++ rest) r := by
  cases h with
  | keep hbound hholds =>
    exact .keep hbound (List.append_subset.2 ⟨List.subset_append_of_subset_left _ hholds,
      List.subset_append_right _ _⟩)
  | lease acquired hholds =>
    exact .lease acquired (List.append_subset.2 ⟨List.subset_append_of_subset_left rest hholds,
      List.subset_cons_of_subset _ (List.subset_append_right _ _)⟩)
  | listen l before after hholds =>
    refine .listen l (fun port hport => List.mem_append_left _ (before port hport))
      (fun port hport => List.mem_append_left _ (after port hport)) ?_
    rw [← List.append_assoc]
    exact List.append_subset.2 ⟨List.subset_append_of_subset_left _ hholds,
      List.subset_append_right _ _⟩
  | free listener mem hgone hholds =>
    exact .free listener (List.mem_append_left _ mem) hgone
      (List.append_subset.2 ⟨List.subset_append_of_subset_left _ hholds,
        List.subset_append_right _ _⟩)

/-- Holds count as a set. -/
theorem Shift.congr {hs₁ hs₁' : List Hold} (h : Shift gone p bound hs p' bound' hs' r)
    (hsame : hs ⊆ hs₁) (hsame' : hs' ⊆ hs₁') (hback : hs₁' ⊆ hs') :
    Shift gone p bound hs₁ p' bound' hs₁' r := by
  cases h with
  | keep hbound hholds => exact .keep hbound (List.Subset.trans hback (List.Subset.trans hholds hsame))
  | lease acquired hholds =>
    exact .lease acquired (List.Subset.trans hback
      (List.Subset.trans hholds (List.cons_subset_cons _ hsame)))
  | listen l before after hholds =>
    refine .listen l (fun port hport => hsame (before port hport))
      (fun port hport => hsame' (after port hport))
      (List.Subset.trans hback (List.Subset.trans hholds ?_))
    exact List.append_subset.2 ⟨List.subset_append_left _ _,
      List.subset_append_of_subset_right _ hsame⟩
  | free listener mem hgone hholds =>
    exact .free listener (hsame mem) hgone
      (List.Subset.trans hback (List.Subset.trans hholds hsame))

theorem Shift.mono (h : Shift gone p bound hs p' bound' hs' r)
    (hgone : ∀ l, gone l → gone' l) : Shift gone' p bound hs p' bound' hs' r := by
  cases h with
  | keep hbound hholds => exact .keep hbound hholds
  | lease acquired hholds => exact .lease acquired hholds
  | listen l before after hholds => exact .listen l before after hholds
  | free listener mem hfreed hholds =>
    exact .free listener mem (fun l hl => hgone l (hfreed l hl)) hholds

/-- Freeing the port behind a listener, on behalf of somebody who holds that port. -/
theorem Shift.release (s : State) (client : String) (l : Listener) (hold? : Option Hold)
    {hs hs' : List Hold} (hport : hold?.map Hold.port = l.poolPort)
    (hmem : ∀ h ∈ hold?, h ∈ hs) (hgone : ∀ h ∈ hold?, ∀ l', h.listener = some l' → gone l')
    (hholds : hs' ⊆ hs) :
    Shift gone s.pool s.bound hs (s.releaseListener client l).pool s.bound hs'
      (l.grant? client) := by
  rw [State.releaseListener_eq]
  cases hold? with
  | none =>
    have hnone : l.poolPort = none := hport.symm
    have hgrant : l.grant? client = none := by simp [Listener.grant?, hnone]
    rw [hgrant, grantsOf_cons_none hnone]
    exact .keep (List.Subset.refl _) hholds
  | some h =>
    have hsome : l.poolPort = some h.port := hport.symm
    have hgrant : l.grant? client = some ⟨⟨client, l.name⟩, h.port⟩ := by
      simp [Listener.grant?, hsome]
    rw [hgrant, grantsOf_cons_some hsome]
    exact .free h.listener (hmem h rfl) (hgone h rfl) hholds

/-- Freeing the port of the next listener in line, which holds it. -/
theorem Shift.release_cons (s : State) (client : String) (l : Listener) (left : List Listener)
    (others : List Hold) (hgone : ∀ port, l.poolPort = some port → gone l) :
    Shift gone s.pool s.bound (others ++ holdsOf (l :: left)) (s.releaseListener client l).pool
      s.bound (others ++ holdsOf left) (l.grant? client) := by
  refine Shift.release s client l l.hold? ?_ ?_ ?_ ?_
  · simp [Listener.hold?, Function.comp_def]
  · intro hold hmem
    simp only [holdsOf_cons, List.mem_append, Option.mem_toList]
    exact .inr (.inl hmem)
  · intro hold hmem l' hl'
    obtain ⟨port, hport, rfl⟩ := Option.map_eq_some_iff.1 hmem
    obtain rfl := Option.some.inj hl'
    exact hgone port hport
  · refine List.append_subset.2 ⟨List.subset_append_left _ _, ?_⟩
    exact List.subset_append_of_subset_right _ (holdsOf_subset (List.subset_cons_self _ _))

end Shift

/-- A rollback has listeners of its batch left. -/
def Phase.LeftOfBatch : Phase → Prop
  | .rollingBack _ left batch _ => left ⊆ batch.listeners
  | .accepted | .reserved | .connecting | .channelOpen | .greeted _ | .opening .. |
    .binding .. | .committing .. | .dropping .. | .rejecting _ | .disconnecting | .done => True

theorem Task.Does.leftOfBatch {t : Task} (hdoes : t.Does s s' phase')
    (h : t.phase.LeftOfBatch) : phase'.LeftOfBatch := by
  cases hdoes with
  | unbind => exact List.Subset.refl _
  | fail => exact List.Subset.refl _
  | release hphase =>
    rw [hphase] at h
    exact (List.cons_subset.1 h).2
  | _ => trivial

/-- What one step of a task does to listeners and their ports. -/
theorem Task.Does.shift {t : Task} (hdoes : t.Does s s' phase') (hr : s.registry.Consistent)
    (hleft : t.phase.LeftOfBatch) (honce : (t.phase.holds.map Hold.port).Nodup) :
    ∃ r, Shift phase'.GivesUp s.pool s.bound (s.registry.holds ++ t.phase.holds) s'.pool s'.bound
      (s'.registry.holds ++ phase'.holds) r ∧ ∀ g, r = some g → t.release? = some g := by
  -- Most steps leave the pool and the listeners alone and at most pass holds on.
  have hkeep : ∀ {registry : Registry} {hs : List Hold}, registry.holds ⊆ s.registry.holds →
      hs ⊆ t.phase.holds → ∃ r, Shift phase'.GivesUp s.pool s.bound
        (s.registry.holds ++ t.phase.holds) s.pool s.bound (registry.holds ++ hs) r ∧
          ∀ g, r = some g → t.release? = some g := by
    intro registry hs hregistry hphase
    refine ⟨none, .keep (List.Subset.refl _) (List.append_subset.2 ⟨?_, ?_⟩), nofun⟩
    · exact List.subset_append_of_subset_left _ hregistry
    · exact List.subset_append_of_subset_right _ hphase
  have hsame : ∀ hs : List Hold, hs ⊆ hs := List.Subset.refl
  cases hdoes with
  | reserve h ok =>
    obtain ⟨-, -, rfl⟩ := Registry.reserve_eq_ok ok
    exact hkeep (hsame _) (List.nil_subset _)
  | abandon h =>
    exact hkeep (Registry.holds_subset_of_clients (shrinks_clear hr t.key).clients)
      (List.nil_subset _)
  | subscribe h ok => exact hkeep (Registry.holds_subscribe ok) (List.nil_subset _)
  | claim claim h =>
    rw [h] at hkeep ⊢
    exact hkeep (hsame _) (hsame _)
  | prepare address h =>
    rw [h] at hkeep ⊢
    exact hkeep (hsame _) (hsame _)
  | lease address h ok =>
    rw [h]
    refine ⟨none, .lease ok ?_, nofun⟩
    intro hold hmem
    simp only [Phase.holds, PendingBind.hold?, Option.map_some, Option.toList_some,
      List.mem_append, List.mem_cons, List.not_mem_nil, or_false] at hmem ⊢
    rcases hmem with hmem | hmem | hmem
    · exact .inr (.inl hmem)
    · exact .inl hmem
    · exact .inr (.inr hmem)
  | @listen client pending left batch address h quiet =>
    rw [h]
    refine ⟨none, .listen ⟨pending.name, address, pending.poolPort, s.nextHandle⟩ ?_ ?_ ?_, nofun⟩
    · intro port hport
      simp only at hport
      simp [Phase.holds, PendingBind.hold?, hport]
    · intro port hport
      refine List.mem_append_right _ (mem_holdsOf_iff.2 ⟨_, ?_, hport, rfl⟩)
      exact List.mem_append_right _ List.mem_cons_self
    · intro hold hmem
      simp only [Phase.holds, List.mem_append, mem_holdsOf_iff, List.mem_cons, List.not_mem_nil,
        or_false, Option.mem_toList, Listener.hold?] at hmem ⊢
      rcases hmem with hmem | ⟨l, hl | rfl, hport, hlistener⟩
      · exact .inr (.inl hmem)
      · exact .inr (.inr (.inr ⟨l, hl, hport, hlistener⟩))
      · obtain ⟨port, listener⟩ := hold
        simp only at hport hlistener
        exact .inl (by simp [hport, hlistener])
  | @unbind client pending left batch fault h issued =>
    have hstate := State.registry_releaseListener s client
      ⟨pending.name, pending.address, pending.poolPort, 0⟩
    rw [h, hstate, State.bound_releaseListener]
    refine ⟨_, Shift.release s client _ pending.hold? ?_ ?_ ?_ ?_,
      fun g hg => issued.trans hg⟩
    · simp [PendingBind.hold?, Function.comp_def]
    · intro hold hmem
      simp only [Phase.holds, List.mem_append, Option.mem_toList]
      exact .inr (.inl hmem)
    · intro hold hmem l hl
      obtain ⟨port, -, rfl⟩ := Option.map_eq_some_iff.1 hmem
      cases hl
    · refine List.append_subset.2 ⟨List.subset_append_left _ _, ?_⟩
      exact List.subset_append_of_subset_right _ (List.subset_append_right _ _)
  | opened h =>
    rw [h] at hkeep ⊢
    exact hkeep (hsame _) (hsame _)
  | commit h ok =>
    rw [h]
    refine ⟨none, .keep (List.Subset.refl _) ?_, nofun⟩
    simpa [Phase.holds, Task.holdings] using Registry.holds_commit ok
  | fail fault h =>
    rcases h with ⟨left, h⟩ | h
    · rw [h] at hkeep ⊢
      exact hkeep (hsame _) (hsame _)
    · rw [h] at hkeep ⊢
      exact hkeep (hsame _) (hsame _)
  | @release client l left batch fault h =>
    rw [h] at honce hleft
    rw [h, State.registry_releaseListener, State.bound_releaseListener]
    have hissued : t.release? = l.grant? client := by simp [Task.release?, h]
    refine ⟨_, Shift.release_cons s client l left _ fun port hport => ?_,
      fun g hg => hissued.trans hg⟩
    -- The listener is not among those left, whose ports are others.
    refine ⟨hleft List.mem_cons_self, fun hagain => ?_⟩
    have hhold : l.hold? = some ⟨port, some l⟩ := by simp [Listener.hold?, hport]
    rw [Phase.holds, holdsOf_cons, hhold] at honce
    refine (List.nodup_cons.1 honce).1 (List.mem_map.2 ⟨⟨port, some l⟩, ?_, rfl⟩)
    exact mem_holdsOf_iff.2 ⟨l, hagain, hport, rfl⟩
  | drop h =>
    refine ⟨none, .keep ?_ (List.append_subset.2 ⟨?_, List.nil_subset _⟩), nofun⟩
    · exact fun l hl => (State.mem_bound_dropListeners.1 hl).1
    · exact List.subset_append_left _ _
  | _ => exact hkeep (hsame _) (List.nil_subset _)

/-- What one step of an end does to listeners and their ports. -/
theorem EndPhase.Does.shift {e e' : EndPhase} (hdoes : e.Does s s' e')
    (hr : s.registry.Consistent) :
    ∃ r, Shift (fun l => s'.closed.isClosed l = true) s.pool s.bound (s.registry.holds ++ e.holds)
      s'.pool s'.bound (s'.registry.holds ++ e'.holds) r ∧ ∀ g, r = some g → e.release? = some g := by
  have hsame : s.registry.holds ++ e.holds ⊆ s.registry.holds ++ e.holds := List.Subset.refl _
  have hbound : s.bound ⊆ s.bound := List.Subset.refl _
  have hclients := (hdoes.shrinks hr).clients
  -- Nothing is held after a removal but what the client held before.
  have hremoved : ∀ {name key : String} {held : Option Holdings} {h : Holdings}
      {registry : Registry}, s.registry.clients.get? name = some ⟨key, held⟩ → held = some h →
      (∀ name s', registry.clients.get? name = some s' →
        s.registry.clients.get? name = some s') →
      registry.holds ++ holdsOf h.listeners ⊆ s.registry.holds ++ [] := by
    rintro name key held h registry hclient rfl hclients
    rw [List.append_nil]
    exact List.append_subset.2 ⟨Registry.holds_subset_of_clients hclients,
      Registry.holds_of_get? hclient⟩
  cases hdoes with
  | clear h =>
    refine ⟨none, .keep hbound (List.append_subset.2 ⟨?_, List.nil_subset _⟩), nofun⟩
    exact List.subset_append_of_subset_left _ (Registry.holds_subset_of_clients hclients)
  | miss h =>
    refine ⟨none, .keep hbound (List.append_subset.2 ⟨?_, List.nil_subset _⟩), nofun⟩
    exact List.subset_append_of_subset_left _ (Registry.holds_subset_of_clients hclients)
  | @remove key held registry h =>
    refine ⟨none, .keep hbound ?_, nofun⟩
    rcases Registry.clear_eq hr key with ⟨-, hclear⟩ | ⟨name, held', -, hclient, hclear⟩
    · rw [hclear] at h
      cases h
    · obtain ⟨rfl, -⟩ := Prod.mk.inj (hclear.symm.trans h)
      exact hremoved hclient rfl hclients
  | @unsubscribe key name held registry h =>
    refine ⟨none, .keep hbound ?_, nofun⟩
    rcases Registry.unsubscribe_eq hr key name with hnone | ⟨held', hclient, hremove⟩
    · rw [hnone] at h
      cases h
    · obtain ⟨rfl, -⟩ := Prod.mk.inj (hremove.symm.trans h)
      exact hremoved hclient rfl hclients
  | tearDown client l left channel =>
    rw [State.registry_tearDown]
    have hgone : ∀ port, l.poolPort = some port → (s.closed.close l).isClosed l = true :=
      fun _ _ => isClosed_close.2 (.inl rfl)
    simp only [State.tearDown, State.closed_releaseListener, State.bound_releaseListener]
    refine ⟨_, ?_, fun g hg => hg⟩
    exact Shift.release_cons { s with closed := s.closed.close l } client l left _ hgone
  | _ => exact ⟨none, .keep hbound hsame, nofun⟩

/-! ## Covered listeners -/

/-- The port of a listener is leased, and nobody but the listener counts on it. -/
def Covered (p : PortPool) (hs : List Hold) (l : Listener) : Prop :=
  ∀ port, l.poolPort = some port → (p.lease? port).isSome = true ∧
    ∀ h ∈ hs, h.port = port → h.listener = some l

/-- A listener that is bound and is not gone after a turn is covered, if all releases free
their own ports, and ports are held once. -/
theorem Shift.covered {gone : Listener → Prop} {p p' : PortPool} {bound bound' : List Listener}
    {hs hs' : List Hold} {r : Option Grant} (h : Shift gone p bound hs p' bound' hs' r)
    (hexact : ∀ g, r = some g → p.Frees g) (honce : (hs'.map Hold.port).Nodup)
    (hleased : ∀ h ∈ hs', (p'.lease? h.port).isSome = true) (hl : l ∈ bound')
    (hstays : ¬ gone l) (hbefore : l ∈ bound → Covered p hs l) : Covered p' hs' l := by
  intro port hport
  cases h with
  | keep hbound hholds =>
    obtain ⟨hlease, hown⟩ := hbefore (hbound hl) port hport
    exact ⟨hlease, fun h hmem => hown h (hholds hmem)⟩
  | @lease owner tunnel port' _ _ acquired hholds =>
    obtain ⟨hlease, hown⟩ := hbefore hl port hport
    obtain ⟨hfree, hgrants, -, -⟩ := PortPool.acquire_eq_ok acquired
    obtain ⟨lease, hgrant⟩ := Option.isSome_iff_exists.1 hlease
    constructor
    · have hmem : (⟨lease, port⟩ : Grant) ∈ p'.grants :=
        hgrants.mem_iff.2 (List.mem_cons_of_mem _ (PortPool.mem_grants_iff.2 hgrant))
      rw [PortPool.mem_grants_iff.1 hmem]
      rfl
    · intro h hmem heq
      rcases List.mem_cons.1 (hholds hmem) with rfl | hmem
      · -- The port of the listener is leased, so it is not the free one that was taken.
        have hnone : p.lease? port = none := by
          rw [← show port' = port from heq]
          exact (PortPool.mem_freePorts_iff.1 (hfree ▸ List.mem_cons_self)).2
        rw [hnone] at hgrant
        cases hgrant
      · exact hown h hmem heq
  | listen l' before after hholds =>
    rcases List.mem_append.1 hl with hl | hl
    · obtain ⟨hlease, hown⟩ := hbefore hl port hport
      refine ⟨hlease, fun h hmem heq => ?_⟩
      rcases List.mem_append.1 (hholds hmem) with hnew | hold
      · -- A bind for the port of the listener would have counted on that port.
        obtain ⟨port', hport', rfl⟩ := Option.map_eq_some_iff.1 (Option.mem_toList.1 hnew)
        cases hown _ (before port' hport') heq
      · exact hown h hold heq
    · obtain rfl := List.mem_singleton.1 hl
      have hmem := after port hport
      refine ⟨hleased _ hmem, fun h hmem' heq => ?_⟩
      obtain rfl : h = ⟨port, some l⟩ := List.inj_on_of_nodup_map honce hmem' hmem heq
      rfl
  | @free g _ listener mem hgone hholds =>
    obtain ⟨hlease, hown⟩ := hbefore hl port hport
    obtain ⟨lease, hgrant⟩ := Option.isSome_iff_exists.1 hlease
    have hne : g.port ≠ port := fun heq => hstays (hgone l (hown _ mem heq))
    have hfreed := PortPool.grants_released_of_frees (hexact g rfl)
    refine ⟨?_, fun h hmem => hown h (hholds hmem)⟩
    have hmem : (⟨lease, port⟩ : Grant) ∈ p.grants := PortPool.mem_grants_iff.2 hgrant
    rcases List.mem_cons.1 (hfreed.mem_iff.1 hmem) with heq | hmem
    · exact absurd (congrArg Grant.port heq).symm hne
    · rw [PortPool.mem_grants_iff.1 hmem]
      rfl

/-- What holds as long as all releases free their own ports: a listener that is bound and
does not linger is covered. -/
structure World.Tidy (w : World) : Prop where
  consistent : w.state.registry.Consistent
  owned : w.Owned
  leftOfBatch : ∀ t ∈ w.tasks, t.phase.LeftOfBatch
  covered : ∀ l ∈ w.state.bound, ¬ w.Lingers l → Covered w.state.pool w.holds l

/-- The holds of one task or end among those of all. -/
theorem mem_holds_pick {α : Type} (f : α → List Hold) (before after : List α) (a : α)
    (own rest : List Hold) {h : Hold} :
    h ∈ own ++ ((before ++ a :: after).flatMap f ++ rest) ↔
      h ∈ own ++ f a ++ ((before ++ after).flatMap f ++ rest) := by
  simp only [List.flatMap_append, List.flatMap_cons, List.mem_append]
  tauto

/-- What one turn does to listeners and their ports. -/
theorem World.Tidy.shift (h : w.Tidy) (hturn : Turn w w') :
    ∃ r, Shift w'.Lingers w.state.pool w.state.bound w.holds w'.state.pool w'.state.bound w'.holds
      r ∧ ∀ g, r = some g → Releases w w' g := by
  have hkeep : ∀ {bound : List Listener} {hs : List Hold}, bound ⊆ w.state.bound → hs ⊆ w.holds →
      Shift w'.Lingers w.state.pool w.state.bound w.holds w.state.pool bound hs none :=
    fun hbound hholds => .keep hbound hholds
  have hsame : w.state.bound ⊆ w.state.bound := List.Subset.refl _
  cases hturn with
  | accept key surroundings =>
    refine ⟨none, hkeep hsame ?_, nofun⟩
    intro hold hmem
    simpa [holds, Task.accept, Phase.holds] using hmem
  | task before after t ht =>
    have hmem : t ∈ w.tasks := by
      rw [ht]
      exact List.mem_append_right _ List.mem_cons_self
    have honce : (t.phase.holds.map Hold.port).Nodup := by
      refine h.owned.holds.1.sublist (List.Sublist.map _ ?_)
      refine List.Sublist.trans ?_ (List.sublist_append_right _ _)
      refine List.Sublist.trans ?_ (List.sublist_append_left _ _)
      rw [ht, List.flatMap_append, List.flatMap_cons]
      exact (List.sublist_append_left _ _).trans (List.sublist_append_right _ _)
    obtain ⟨r, hshift, hissued⟩ :=
      (t.does_step w.state).shift h.consistent (h.leftOfBatch t hmem) honce
    refine ⟨r, ?_, fun g hr => .task before after t ht (hissued g hr)⟩
    -- The step concerns the holds of this task; the others' are the rest.
    have hpick := fun a => @mem_holds_pick _ (fun t : Task => t.phase.holds) before after a
    refine ((hshift.append ((before ++ after).flatMap (fun t => t.phase.holds) ++
      w.ends.flatMap EndPhase.holds)).congr ?_ ?_ ?_).mono ?_
    · intro hold hmem
      rw [World.holds, ht]
      exact (hpick t _ _).2 hmem
    · exact fun hold hmem => (hpick _ _ _).2 hmem
    · exact fun hold hmem => (hpick _ _ _).1 hmem
    · exact fun l hgone => .inr ⟨_, List.mem_append_right _ List.mem_cons_self, hgone⟩
  | driver d hd fresh =>
    refine ⟨none, hkeep hsame ?_, nofun⟩
    intro hold hmem
    simpa [holds, EndPhase.holds] using hmem
  | ending before after e he =>
    obtain ⟨r, hshift, hissued⟩ := (e.does_step w.state).shift h.consistent
    refine ⟨r, ?_, fun g hr => .ending before after e he (hissued g hr)⟩
    have hpick : ∀ (a : EndPhase) (own : List Hold) {hold : Hold},
        hold ∈ own ++ ((w.tasks.flatMap fun t => t.phase.holds) ++
          (before ++ a :: after).flatMap EndPhase.holds) ↔
        hold ∈ own ++ a.holds ++ ((before ++ after).flatMap EndPhase.holds ++
          w.tasks.flatMap fun t => t.phase.holds) := by
      intro a own hold
      rw [← mem_holds_pick, List.mem_append, List.mem_append, List.mem_append, List.mem_append,
        or_comm (a := hold ∈ w.tasks.flatMap fun t => t.phase.holds)]
    refine ((hshift.append ((before ++ after).flatMap EndPhase.holds ++
      w.tasks.flatMap fun t => t.phase.holds)).congr ?_ ?_ ?_).mono ?_
    · intro hold hmem
      rw [World.holds, he]
      exact (hpick e _).2 hmem
    · exact fun hold hmem => (hpick _ _).2 hmem
    · exact fun hold hmem => (hpick _ _).1 hmem
    · exact fun l hclosed => .inl hclosed
  | unsubscribe key name =>
    refine ⟨none, hkeep hsame ?_, nofun⟩
    intro hold hmem
    simpa [holds, EndPhase.holds] using hmem
  | acceptLoop l =>
    have hbound : (w.state.endAcceptLoop l).bound ⊆ w.state.bound := by
      rw [State.endAcceptLoop]
      split
      · exact fun l' hl' => (State.mem_bound_dropListeners.1 hl').1
      · exact hsame
    refine ⟨none, ?_, nofun⟩
    rw [State.endAcceptLoop_eq]
    exact .keep hbound (List.Subset.refl _)
  | stop => exact ⟨none, hkeep hsame (List.Subset.refl _), nofun⟩
  | closeAll _ => exact ⟨none, hkeep hsame (List.Subset.refl _), nofun⟩

theorem Turn.leftOfBatch (h : Turn w w') (hleft : ∀ t ∈ w.tasks, t.phase.LeftOfBatch) :
    ∀ t ∈ w'.tasks, t.phase.LeftOfBatch := by
  cases h with
  | accept key surroundings =>
    intro t ht
    rcases List.mem_append.1 ht with ht | ht
    · exact hleft t ht
    · rw [List.mem_singleton.1 ht]
      trivial
  | task before after t h =>
    intro t' ht'
    have hold := hleft t (h ▸ List.mem_append_right _ List.mem_cons_self)
    rcases eq_or_mem_of_mem_append_cons ht' with rfl | ht'
    · exact (t.does_step w.state).leftOfBatch hold
    · exact hleft t' (h ▸ ht')
  | _ => exact hleft

/-- A turn whose releases free their own ports keeps the listeners covered. -/
theorem World.Tidy.turn (h : w.Tidy) (hturn : Turn w w')
    (hexact : EveryRelease PortPool.Frees w w') : w'.Tidy := by
  have howned := h.owned.turn hturn hexact
  obtain ⟨honce, hleased⟩ := howned.holds
  obtain ⟨r, hshift, hissued⟩ := h.shift hturn
  refine ⟨hturn.consistent h.consistent, howned, hturn.leftOfBatch h.leftOfBatch, ?_⟩
  intro l hl hstays
  refine hshift.covered (fun g hr => hexact g (hissued g hr)) honce hleased hl hstays ?_
  exact fun hbound => h.covered l hbound fun hlingers => hstays (hturn.lingers hl hlingers)

theorem World.Tidy.run {ws : List World} (h : w.Tidy) (hrun : (w :: ws).IsChain Turn)
    (hexact : (w :: ws).IsChain (EveryRelease PortPool.Frees)) : ∀ w' ∈ w :: ws, w'.Tidy := by
  induction ws generalizing w with
  | nil => simpa using h
  | cons next ws ih =>
    rw [List.isChain_cons_cons] at hrun hexact
    intro w' hw'
    rcases List.mem_cons.1 hw' with rfl | hw'
    · exact h
    · exact ih (h.turn hrun.1 hexact.1) hrun.2 hexact.2 w' hw'

theorem tidy_fresh (config : Config) (pool : PortPool) :
    World.Tidy ⟨State.fresh config pool, [], []⟩ :=
  ⟨Registry.consistent_empty, owned_start rfl, fun _ ht => absurd ht List.not_mem_nil,
    fun _ hl => absurd hl List.not_mem_nil⟩

/-- In every interleaved run from the start of a server whose releases are all issued for the
lowest ports with their leases: a listener that is still bound to the port that is leased next
was told to close, or its batch gave it up. -/
theorem lingers_of_acquire {config : Config} {listen : String → Except SystemError SocketAddress}
    {s₀ : State} {address : SocketAddress} (hstart : State.start config listen = .ok (s₀, address))
    {ws : List World} (hrun : (⟨s₀, [], []⟩ :: ws).IsChain Turn)
    (hlowest : (⟨s₀, [], []⟩ :: ws).IsChain (EveryRelease PortPool.IsLowest))
    {w : World} (hw : w ∈ ⟨s₀, [], []⟩ :: ws) {client tunnel : String} {port : UInt16}
    {pool : PortPool} (hacquire : w.state.pool.acquire client tunnel = .ok (port, pool)) :
    ∀ l ∈ w.state.bound, l.poolPort = some port → w.Lingers l := by
  obtain ⟨p₀, -, rfl⟩ := start_eq_ok hstart
  have hstarted := tidy_fresh config p₀
  have hexact := (hstarted.owned.run hrun).1.2 hlowest
  have htidy := hstarted.run hrun hexact w hw
  intro l hl hport
  by_contra hstays
  obtain ⟨hleased, -⟩ := htidy.covered l hl hstays port hport
  -- The port that is leased next is free now.
  obtain ⟨hfree, -⟩ := PortPool.acquire_eq_ok hacquire
  have hmem : port ∈ w.state.pool.freePorts := by
    rw [hfree]
    exact List.mem_cons_self
  rw [(PortPool.mem_freePorts_iff.1 hmem).2] at hleased
  cases hleased

/-- Control: a client has come and gone, and its listener is bound to the port that the next
client will get. -/
theorem lingers_of_acquire_departure :
    ∃ ws w, freshWorld.worlds? departure = some ws ∧ w ∈ freshWorld :: ws ∧
      (freshWorld :: ws).IsChain (EveryRelease PortPool.IsLowest) ∧
      (∃ pool, w.state.pool.acquire "b" "t" = .ok (7000, pool)) ∧
      ∃ l ∈ w.state.bound, l.poolPort = some 7000 ∧ w.Lingers l := by
  have hsome : (freshWorld.worlds? departure).isSome = true := by decide +kernel
  obtain ⟨ws, hws⟩ := Option.isSome_iff_exists.1 hsome
  have hchain := lowest_of_departure hws
  have hlast : freshWorld.after departure 15 ∈ freshWorld :: ws := by
    rw [World.after, hws, Option.getD_some, List.getD_eq_getElem?_getD]
    rcases hget : (freshWorld :: ws)[15]? with _ | w
    · exact List.mem_cons_self
    · exact List.mem_of_getElem? hget
  have hacquire : (freshWorld.after departure 15).state.pool.acquire "b" "t" =
      .ok (7000, ⟨7000, [some ⟨"b", "t"⟩, none], by decide⟩) := by decide +kernel
  have hbound : (freshWorld.after departure 15).state.bound = [⟨"t", ":7000", some 7000, 0⟩] := by
    decide +kernel
  have hmem : (⟨"t", ":7000", some 7000, 0⟩ : Listener) ∈
      (freshWorld.after departure 15).state.bound := by
    rw [hbound]
    exact List.mem_cons_self
  exact ⟨ws, _, hws, hlast, hchain, ⟨_, hacquire⟩, _, hmem, rfl,
    lingers_of_acquire start_twoPorts (isChain_of_worlds? hws) hchain hlast hacquire _ hmem rfl⟩

/-! ## A port that is leased while a listener is bound to it -/

/-- Client `a` comes and goes. Before its accept loop ends, client `b` comes and leases a
port. -/
def handover : List Choice :=
  departure ++ .accept "10.0.0.2:5000" (greeting "b") :: List.replicate 6 (.task 1)

/-- The port that `b` leases is free, and the listener opened for `a` is bound to it. -/
theorem acquires_bound_port :
    ∃ w w', Reaches freshWorld w ∧ Turn w w' ∧
      (∃ pool, w.state.pool.acquire "b" "t" = .ok (7000, pool) ∧ w'.state.pool = pool) ∧
      ∃ l ∈ w.state.bound, l.poolPort = some 7000 ∧ l ∈ w'.state.bound := by
  have hsome : (freshWorld.worlds? handover).isSome = true := by decide +kernel
  have hacquire : (freshWorld.after handover 21).state.pool.acquire "b" "t" =
      .ok (7000, (freshWorld.after handover 22).state.pool) := by decide +kernel
  have hbefore : (⟨"t", ":7000", some 7000, 0⟩ : Listener) ∈
      (freshWorld.after handover 21).state.bound := by decide +kernel
  have hafter : (⟨"t", ":7000", some 7000, 0⟩ : Listener) ∈
      (freshWorld.after handover 22).state.bound := by decide +kernel
  exact ⟨_, _, reaches_after hsome (by decide), turn_after hsome (by decide),
    ⟨_, hacquire, rfl⟩, _, hbefore, rfl, hafter⟩

end Server

end ReverseTunnel
