import ReverseTunnel.Proofs.Server.Tending

/-!
# Connections that use a key again

A connection is admitted under a key as soon as the registry does not know the key
any more. What is done on behalf of the connection before it names the key only,
and cannot tell its own entries from those of its successor.

In an orderly run this does no harm: the callback of a channel clears its key when
the task of the connection is done, and nobody unsubscribes a client of the key.
Then the registry knows the key as long as a task is underway under it, or a
driver, or a callback (`Exclusive`). So whoever is admitted under the key finds
nothing left of a predecessor (`vacant_of_admitted`).

Otherwise a predecessor can outlive its registration. Its task subscribes with the
pending entry of its successor, or deletes the channel of its successor; after an
unsubscription its callback clears the successor (`predecessor_hits_successor`).
-/

namespace ReverseTunnel.Server

/-! ## One connection at a time -/

/-- The task has begun and is not done. -/
def Phase.isUnderway : Phase → Bool
  | .accepted | .done => false
  | .reserved | .connecting | .channelOpen | .greeted _ | .opening .. | .binding .. |
    .committing .. | .rollingBack .. | .dropping .. | .rejecting _ | .disconnecting => true

/-- The task is underway under this key. -/
def Task.isUnderway (key : String) (t : Task) : Bool := t.key == key && t.phase.isUnderway

/-- The task has reserved this key, and has no channel yet. -/
def Task.isHolding (key : String) (t : Task) : Bool := t.key == key && t.phase.holdsKey

/-- The end is about to clear this key. -/
def EndPhase.isClearing (key : String) : EndPhase → Bool
  | .clearing key' => key' == key
  | .leaving _ | .unsubscribing .. | .tearingDown .. | .done _ => false

/-- There is at most one task underway under a key, and at most one channel that has
not been cleared. A task that has no channel yet is alone with the key. The registry
knows the key as long as there is one of them. -/
structure Exclusive (known : Prop) (underway holding channels : Nat) : Prop where
  task : underway ≤ 1
  channel : channels ≤ 1
  alone : 0 < holding → channels = 0
  known : 0 < underway + channels → known

section Steps

variable {key : String} {r : Registry} {s s' : State}

/-- The registry forgets a key in the step of a task only if the task has reserved it. -/
theorem Task.Does.known {t : Task} {phase : Phase} (hdoes : t.Does s s' phase)
    (hr : s.registry.Consistent) (hkey : t.key ≠ key ∨ t.phase.holdsKey = false)
    (h : Known s.registry key) : Known s'.registry key := by
  cases hdoes with
  | reserve _ ok => exact known_reserve ok (.inr h)
  | abandon hphase =>
    refine known_clear_of_ne hr (hkey.resolve_right fun hnot => ?_) h
    rcases hphase with hphase | hphase
    · rw [hphase] at hnot
      cases hnot
    · rw [hphase] at hnot
      cases hnot
  | subscribe _ ok => exact known_subscribe ok h
  | commit _ ok =>
    obtain ⟨-, -, -, rfl⟩ := Registry.commit_eq_ok ok
    exact h
  | unbind => rwa [State.registry_releaseListener]
  | release => rwa [State.registry_releaseListener]
  | _ => exact h

/-- The step of a task starts at most one driver, if the task has no channel yet. -/
theorem Task.Does.keys {t : Task} {phase : Phase} (hdoes : t.Does s s' phase) :
    s'.connections.drivers.map ChannelDriver.key = s.connections.drivers.map ChannelDriver.key ∨
      t.phase.holdsKey = true ∧ s'.connections.drivers.map ChannelDriver.key =
        s.connections.drivers.map ChannelDriver.key ++ [t.key] := by
  cases hdoes with
  | register hphase ok =>
    obtain ⟨-, rfl⟩ := ConnectionPool.register_eq_ok ok
    exact .inr ⟨by rw [hphase]; rfl, List.map_append⟩
  | unbind => exact .inl (by rw [State.connections_releaseListener])
  | release => exact .inl (by rw [State.connections_releaseListener])
  | delete => exact .inl (by rw [State.deleteChannel, (ConnectionPool.stops_delete _ _).keys])
  | _ => exact .inl rfl

/-- The step of a task with another key, or with a channel, starts none for the key. -/
theorem Task.Does.count_keys {t : Task} {phase : Phase} (hdoes : t.Does s s' phase)
    (hkey : t.key ≠ key ∨ t.phase.holdsKey = false) :
    (s'.connections.drivers.map ChannelDriver.key).count key =
      (s.connections.drivers.map ChannelDriver.key).count key := by
  rcases hdoes.keys with hsame | ⟨hholds, hnew⟩
  · rw [hsame]
  · have hne : t.key ≠ key := hkey.resolve_right fun hnot => by
      rw [hholds] at hnot
      cases hnot
    rw [hnew, List.count_append, List.count_singleton, if_neg (by simpa using hne), Nat.add_zero]

/-- Fewer tasks, and nothing new to them. -/
theorem Exclusive.mono {known known' : Prop} {underway underway' holding holding' channels : Nat}
    (h : Exclusive known underway holding channels) (hunderway : underway' ≤ underway)
    (hholding : holding' ≤ holding) (hknown : known → known') :
    Exclusive known' underway' holding' channels where
  task := Nat.le_trans hunderway h.task
  channel := h.channel
  alone hlt := h.alone (Nat.lt_of_lt_of_le hlt hholding)
  known hlt := hknown (h.known (Nat.lt_of_lt_of_le hlt (Nat.add_le_add_right hunderway channels)))

/-- The step of a task under the key, among others that it does not concern. -/
theorem Exclusive.own {t : Task} {phase : Phase} {underway holding cleared : Nat}
    (h : Exclusive (Known s.registry key) (underway + t.phase.isUnderway.toNat)
      (holding + t.phase.holdsKey.toNat)
      ((s.connections.drivers.map ChannelDriver.key).count key + cleared))
    (hholding : holding ≤ underway) (hr : s.registry.Consistent) (hdoes : t.Does s s' phase)
    (hkey : t.key = key) :
    Exclusive (Known s'.registry key) (underway + phase.isUnderway.toNat)
      (holding + phase.holdsKey.toNat)
      ((s'.connections.drivers.map ChannelDriver.key).count key + cleared) := by
  -- Once the channel is open, the task has nothing of the key to itself.
  have hlater : ∀ {old : Phase}, t.phase = old → old.isUnderway = true → old.holdsKey = false →
      phase.holdsKey = false →
      Exclusive (Known s'.registry key) (underway + phase.isUnderway.toNat)
        (holding + phase.holdsKey.toNat)
        ((s'.connections.drivers.map ChannelDriver.key).count key + cleared) := by
    rintro _ rfl hbegun hnot hnot'
    rw [hdoes.count_keys (.inr hnot)]
    refine h.mono ?_ ?_ (hdoes.known hr (.inr hnot))
    · rw [hbegun]
      exact Nat.add_le_add_left (Bool.toNat_le _) underway
    · rw [hnot']
      exact Nat.le_add_right _ _
  cases hdoes with
  | leave hphase =>
    rw [hphase] at h
    exact h
  | reserve hphase ok =>
    rw [hphase] at h
    have hknown := mt h.known (hkey ▸ not_known_of_reserve ok)
    simp only [Phase.isUnderway, Phase.holdsKey, Bool.toNat_false, Bool.toNat_true] at hknown ⊢
    exact ⟨by omega, by omega, fun _ => by omega, fun _ => known_reserve ok (.inl hkey.symm)⟩
  | check hphase =>
    rw [hphase] at h
    exact h
  | abandon hphase =>
    have hboth : t.phase.isUnderway = true ∧ t.phase.holdsKey = true := by
      rcases hphase with hphase | hphase
      · rw [hphase]
        exact ⟨rfl, rfl⟩
      · rw [hphase]
        exact ⟨rfl, rfl⟩
    obtain ⟨htask, hchannel, halone, -⟩ := h
    rw [hboth.1] at htask
    rw [hboth.2] at halone
    simp only [Phase.isUnderway, Phase.holdsKey, State.clear, Bool.toNat_false,
      Bool.toNat_true] at htask halone ⊢
    exact ⟨by omega, by omega, fun _ => by omega, fun hlt => by omega⟩
  | register hphase ok =>
    rw [hphase] at h
    obtain ⟨-, rfl⟩ := ConnectionPool.register_eq_ok ok
    obtain ⟨htask, hchannel, halone, hknown⟩ := h
    simp only [Phase.isUnderway, Phase.holdsKey, List.map_append, List.map_cons, List.map_nil,
      List.count_append, hkey, List.count_singleton_self, Bool.toNat_false,
      Bool.toNat_true] at htask halone hknown ⊢
    exact ⟨by omega, by omega, fun _ => by omega, fun _ => hknown (by omega)⟩
  | greet hphase => exact hlater hphase rfl rfl rfl
  | subscribe hphase => exact hlater hphase rfl rfl rfl
  | turnDown _ hphase =>
    rcases hphase with hphase | ⟨handshake, hphase⟩
    · exact hlater hphase rfl rfl rfl
    · exact hlater hphase rfl rfl rfl
  | claim _ hphase => exact hlater hphase rfl rfl rfl
  | prepare _ hphase => exact hlater hphase rfl rfl rfl
  | lease _ hphase => exact hlater hphase rfl rfl rfl
  | listen _ hphase => exact hlater hphase rfl rfl rfl
  | unbind _ hphase => exact hlater hphase rfl rfl rfl
  | opened hphase => exact hlater hphase rfl rfl rfl
  | commit hphase => exact hlater hphase rfl rfl rfl
  | fail _ hphase =>
    rcases hphase with ⟨left, hphase⟩ | hphase
    · exact hlater hphase rfl rfl rfl
    · exact hlater hphase rfl rfl rfl
  | release hphase => exact hlater hphase rfl rfl rfl
  | released hphase => exact hlater hphase rfl rfl rfl
  | drop hphase => exact hlater hphase rfl rfl rfl
  | reject hphase => exact hlater hphase rfl rfl rfl
  | delete hphase => exact hlater hphase rfl rfl rfl
  | rest hphase =>
    rw [hphase] at h
    exact h

/-- The step of a task, among others that it does not concern. -/
theorem Exclusive.task_step {t : Task} {phase : Phase} {underway holding cleared : Nat}
    (h : Exclusive (Known s.registry key) (underway + (t.isUnderway key).toNat)
      (holding + (t.isHolding key).toNat)
      ((s.connections.drivers.map ChannelDriver.key).count key + cleared))
    (hholding : holding ≤ underway) (hr : s.registry.Consistent) (hdoes : t.Does s s' phase) :
    Exclusive (Known s'.registry key) (underway + ((t.goTo phase).isUnderway key).toNat)
      (holding + ((t.goTo phase).isHolding key).toNat)
      ((s'.connections.drivers.map ChannelDriver.key).count key + cleared) := by
  by_cases hkey : t.key = key
  · have hold : t.isUnderway key = t.phase.isUnderway ∧ t.isHolding key = t.phase.holdsKey := by
      simp [Task.isUnderway, Task.isHolding, hkey]
    have hnew : (t.goTo phase).isUnderway key = phase.isUnderway ∧
        (t.goTo phase).isHolding key = phase.holdsKey := by
      simp [Task.isUnderway, Task.isHolding, Task.goTo, hkey]
    rw [hold.1, hold.2] at h
    rw [hnew.1, hnew.2]
    exact h.own hholding hr hdoes hkey
  · have hold : t.isUnderway key = false ∧ t.isHolding key = false := by
      simp [Task.isUnderway, Task.isHolding, hkey]
    have hnew : (t.goTo phase).isUnderway key = false ∧ (t.goTo phase).isHolding key = false := by
      simp [Task.isUnderway, Task.isHolding, Task.goTo, hkey]
    rw [hold.1, hold.2] at h
    rw [hnew.1, hnew.2, hdoes.count_keys (.inl hkey)]
    exact h.mono (Nat.le_refl _) (Nat.le_refl _) (hdoes.known hr (.inl hkey))

/-- The step of an end, among others that it does not concern. It is not to clear the
key while a task is underway, nor to unsubscribe a client of it. -/
theorem Exclusive.end_step {e e' : EndPhase} {underway holding cleared : Nat}
    (h : Exclusive (Known s.registry key) underway holding
      ((s.connections.drivers.map ChannelDriver.key).count key +
        (cleared + (e.isClearing key).toNat)))
    (hr : s.registry.Consistent) (hdoes : e.Does s s' e')
    (hleaving : ∀ d, e = .leaving d → d ∈ s.connections.drivers)
    (hafter : e = .clearing key → underway = 0 ∧ holding = 0)
    (hkept : ∀ name, e ≠ .unsubscribing key name) :
    Exclusive (Known s'.registry key) underway holding
      ((s'.connections.drivers.map ChannelDriver.key).count key +
        (cleared + (e'.isClearing key).toNat)) := by
  have hcleared : ∀ (key' : String) {registry : Registry}, e = .clearing key' →
      (s.registry.clear key').2 = registry →
      Exclusive (Known registry key) underway holding
        ((s.connections.drivers.map ChannelDriver.key).count key + cleared) := by
    rintro key' _ rfl rfl
    by_cases hkey : key' = key
    · obtain ⟨hunderway, hholding⟩ := hafter (congrArg EndPhase.clearing hkey)
      have hchannel := h.channel
      simp only [EndPhase.isClearing, hkey, beq_self_eq_true, Bool.toNat_true] at hchannel
      exact ⟨by omega, by omega, fun _ => by omega, fun _ => by omega⟩
    · have hnot : (key' == key) = false := beq_false_of_ne hkey
      simp only [EndPhase.isClearing, hnot, Bool.toNat_false, Nat.add_zero] at h
      exact h.mono (Nat.le_refl _) (Nat.le_refl _) (known_clear_of_ne hr hkey)
  have hunsubscribed : ∀ (key' name : String) {registry : Registry}, e = .unsubscribing key' name →
      (s.registry.unsubscribe key' name).2 = registry →
      Exclusive (Known registry key) underway holding
        ((s.connections.drivers.map ChannelDriver.key).count key + cleared) := by
    rintro key' name _ rfl rfl
    have hkey : key' ≠ key := fun heq => hkept name (congrArg (EndPhase.unsubscribing · name) heq)
    exact h.mono (Nat.le_refl _) (Nat.le_refl _) (known_unsubscribe_of_ne hr hkey name)
  cases hdoes with
  | leave d =>
    -- The driver becomes the callback of its key.
    have hperm := (List.perm_cons_erase (hleaving d rfl)).map ChannelDriver.key
    have hcount : (s.connections.drivers.map ChannelDriver.key).count key =
        ((s.connections.drivers.erase d).map ChannelDriver.key).count key +
          (d.key == key).toNat := by
      rw [hperm.count_eq, List.map_cons, List.count_cons]
      cases d.key == key <;> rfl
    rw [hcount, EndPhase.isClearing, Bool.toNat_false, Nat.add_zero, Nat.add_assoc,
      Nat.add_comm _ cleared] at h
    exact h
  | @clear key' _ hclear => exact hcleared key' rfl (by rw [hclear])
  | @remove key' _ _ hclear => exact hcleared key' rfl (by rw [hclear])
  | @miss key' name _ hmiss => exact hunsubscribed key' name rfl (by rw [hmiss])
  | @unsubscribe key' name _ _ hremoved => exact hunsubscribed key' name rfl (by rw [hremoved])
  | tearDown =>
    rw [State.registry_tearDown, State.connections_tearDown]
    exact h
  | delete client key' =>
    rw [State.deleteChannel, (ConnectionPool.stops_delete _ _).keys]
    exact h
  | finish => exact h
  | rest => exact h

end Steps

/-! ## Turns -/

/-- The driver that an end is about to finish. -/
def EndPhase.leaving? : EndPhase → Option ChannelDriver
  | .leaving d => some d
  | .clearing _ | .unsubscribing .. | .tearingDown .. | .done _ => none

/-- The callback of a channel with this key clears the key in the turn from one world to
another. -/
inductive CallsBack (w : World) (key : String) : World → Prop where
  | turn (before after : List EndPhase) (h : w.ends = before ++ .clearing key :: after) :
    CallsBack w key { w with
      state := ((EndPhase.clearing key).step w.state).1
      ends := before ++ ((EndPhase.clearing key).step w.state).2 :: after }

theorem CallsBack.mem {w w' : World} {key : String} (h : CallsBack w key w') :
    .clearing key ∈ w.ends := by
  cases h with
  | turn before after he =>
    rw [he]
    exact List.mem_append_right _ List.mem_cons_self

/-- What is known of the tasks and drivers of a key. -/
structure World.OnePerKey (w : World) (key : String) : Prop where
  consistent : w.state.registry.Consistent
  exclusive : Exclusive (Known w.state.registry key) (w.tasks.countP (Task.isUnderway key))
    (w.tasks.countP (Task.isHolding key))
    ((w.state.connections.drivers.map ChannelDriver.key).count key +
      w.ends.countP (EndPhase.isClearing key))
  /-- A driver that is about to finish was told to end. -/
  leaving : ∀ d, .leaving d ∈ w.ends → d ∈ w.state.connections.drivers ∧ d.cancelled = true
  /-- It finishes once. -/
  once : (w.ends.filterMap EndPhase.leaving?).Nodup
  /-- Nobody is about to delete the channel of the key. -/
  undeleted : ∀ client left, .tearingDown client left (some key) ∉ w.ends
  /-- The channel of the key has a driver. -/
  routed : ∀ channel, w.state.connections.channels.get? key = some channel →
    ∃ d ∈ w.state.connections.drivers, d.key = key ∧ d.channel = channel

theorem countP_append_cons {α : Type} (p : α → Bool) (before after : List α) (a : α) :
    (before ++ a :: after).countP p = (before ++ after).countP p + (p a).toNat := by
  rw [List.countP_append, List.countP_cons, List.countP_append, Nat.add_assoc]
  cases p a <;> rfl

/-- Telling drivers to end and removing channels leaves those that were told already, and
a driver for each channel that is left. -/
theorem routed_of_stops {p p' : ConnectionPool} {key : String} (hstops : p.Stops p')
    (h : ∀ channel, p.channels.get? key = some channel →
      ∃ d ∈ p.drivers, d.key = key ∧ d.channel = channel) :
    ∀ channel, p'.channels.get? key = some channel →
      ∃ d ∈ p'.drivers, d.key = key ∧ d.channel = channel := by
  intro channel hchannel
  obtain ⟨d, hd, rfl, rfl⟩ := h channel (hstops.routed _ _ hchannel)
  obtain ⟨d', hd', hkey, hnumber, -⟩ := hstops.told d hd
  exact ⟨d', hd', hkey, hnumber⟩

/-- The driver that finishes takes its own channel with it, if it is still there. -/
theorem routed_finish {p : ConnectionPool} {key : String} (d : ChannelDriver)
    (h : ∀ channel, p.channels.get? key = some channel →
      ∃ d ∈ p.drivers, d.key = key ∧ d.channel = channel) :
    ∀ channel, (p.finish d).channels.get? key = some channel →
      ∃ d' ∈ (p.finish d).drivers, d'.key = key ∧ d'.channel = channel := by
  intro channel hchannel
  have hother : p.channels.get? key = some channel ∧ (key = d.key → channel ≠ d.channel) := by
    simp only [ConnectionPool.finish] at hchannel
    split at hchannel
    · obtain ⟨hkey, hchannel⟩ := NameMap.get?_erase_eq_some_iff.1 hchannel
      exact ⟨hchannel, fun heq => absurd heq hkey⟩
    · next hgone =>
      refine ⟨hchannel, ?_⟩
      rintro rfl rfl
      exact hgone hchannel
  obtain ⟨d', hd', hkey, hnumber⟩ := h channel hother.1
  refine ⟨d', (List.mem_erase_of_ne ?_).2 hd', hkey, hnumber⟩
  rintro rfl
  exact hother.2 hkey.symm hnumber.symm

/-- Who is about to delete a channel has unsubscribed its client, or was about to before. -/
theorem EndPhase.Does.deletes {s s' : State} {e : EndPhase} {client key : String}
    {left : List Listener} (hdoes : e.Does s s' (.tearingDown client left (some key))) :
    (∃ name, e = .unsubscribing key name) ∨
      ∃ l, e = .tearingDown client (l :: left) (some key) := by
  cases hdoes with
  | unsubscribe => exact .inl ⟨_, rfl⟩
  | tearDown _ l => exact .inr ⟨l, rfl⟩

/-- What the step of a task does to the channels. -/
theorem Task.Does.connections {s s' : State} {t : Task} {phase : Phase} (hdoes : t.Does s s' phase) :
    s.connections.Stops s'.connections ∨ s.connections.register t.key = .ok s'.connections := by
  cases hdoes with
  | register _ ok => exact .inr ok
  | unbind => exact .inl (by rw [State.connections_releaseListener]; exact .refl _)
  | release => exact .inl (by rw [State.connections_releaseListener]; exact .refl _)
  | delete => exact .inl (ConnectionPool.stops_delete _ _)
  | _ => exact .inl (.refl _)

theorem EndPhase.Does.connections {s s' : State} {e e' : EndPhase} (hdoes : e.Does s s' e') :
    (s.connections.Stops s'.connections ∧ e'.leaving? = e.leaving?) ∨
      ∃ d, e = .leaving d ∧ e'.leaving? = none ∧ s'.connections = s.connections.finish d := by
  cases hdoes with
  | leave d => exact .inr ⟨d, rfl, rfl, rfl⟩
  | tearDown => exact .inl ⟨by rw [State.connections_tearDown]; exact .refl _, rfl⟩
  | delete => exact .inl ⟨ConnectionPool.stops_delete _ _, rfl⟩
  | _ => exact .inl ⟨.refl _, rfl⟩

/-- A step changes the phase of a task and nothing else of it. -/
theorem Task.step_eq_goTo (s : State) (t : Task) :
    (t.step s).2 = t.goTo (t.step s).2.phase := by
  have hkey := t.key_step s
  have hsurroundings := t.surroundings_step s
  generalize (t.step s).2 = t' at hkey hsurroundings ⊢
  obtain ⟨key, surroundings, phase⟩ := t'
  rw [Task.goTo, ← hkey, ← hsurroundings]

theorem filterMap_append_cons {α β : Type} (f : α → Option β) (before after : List α) (a : α) :
    (before ++ a :: after).filterMap f =
      before.filterMap f ++ ((f a).toList ++ after.filterMap f) := by
  rw [List.filterMap_append, List.filterMap_cons]
  cases f a <;> rfl

theorem leaving?_eq_some {e : EndPhase} {d : ChannelDriver} (h : e.leaving? = some d) :
    e = .leaving d := by
  cases e with
  | leaving d' => exact congrArg EndPhase.leaving (Option.some.inj h)
  | _ => cases h

/-- A task that holds the key is underway under it. -/
theorem isHolding_le (key : String) (ts : List Task) :
    ts.countP (Task.isHolding key) ≤ ts.countP (Task.isUnderway key) := by
  refine List.countP_mono_left fun t _ hholding => ?_
  simp only [Task.isHolding, Task.isUnderway, Bool.and_eq_true] at hholding ⊢
  refine ⟨hholding.1, ?_⟩
  cases hphase : t.phase <;> simp_all [Phase.holdsKey, Phase.isUnderway]

/-- Drivers that are about to finish stay when others are told to end. -/
theorem leaving_of_stops {p p' : ConnectionPool} {ends : List EndPhase} (hstops : p.Stops p')
    (h : ∀ d, .leaving d ∈ ends → d ∈ p.drivers ∧ d.cancelled = true) :
    ∀ d, .leaving d ∈ ends → d ∈ p'.drivers ∧ d.cancelled = true := by
  intro d hd
  obtain ⟨hmem, htold⟩ := h d hd
  exact ⟨hstops.mem_of_cancelled hmem htold, htold⟩

namespace World.OnePerKey

variable {w w' : World} {key : String}

/-- The turn of a task. -/
theorem task (h : w.OnePerKey key) {before after : List Task} {t : Task}
    (ht : w.tasks = before ++ t :: after) :
    World.OnePerKey ⟨(t.step w.state).1, before ++ (t.step w.state).2 :: after, w.ends⟩ key := by
  have hdoes := t.does_step w.state
  have hgoTo := t.step_eq_goTo w.state
  have hexclusive := h.exclusive
  rw [ht, countP_append_cons, countP_append_cons] at hexclusive
  have hnew := hexclusive.task_step (isHolding_le key _) h.consistent hdoes
  rw [← countP_append_cons, ← countP_append_cons, ← hgoTo] at hnew
  refine ⟨t.consistent_step h.consistent, hnew, ?_, h.once, h.undeleted, ?_⟩
  · rcases hdoes.connections with hstops | hregister
    · exact leaving_of_stops hstops h.leaving
    · intro d hd
      obtain ⟨-, hregistered⟩ := ConnectionPool.register_eq_ok hregister
      obtain ⟨hmem, htold⟩ := h.leaving d hd
      rw [hregistered]
      exact ⟨List.mem_append_left _ hmem, htold⟩
  · rcases hdoes.connections with hstops | hregister
    · exact routed_of_stops hstops h.routed
    · obtain ⟨-, hregistered⟩ := ConnectionPool.register_eq_ok hregister
      rw [hregistered]
      intro channel hchannel
      simp only [NameMap.get?_insert] at hchannel
      split at hchannel
      · next hkey =>
        cases hchannel
        exact ⟨_, List.mem_append_right _ List.mem_cons_self, hkey.symm, rfl⟩
      · obtain ⟨d, hd, hdriver⟩ := h.routed channel hchannel
        exact ⟨d, List.mem_append_left _ hd, hdriver⟩

/-- The turn of an end. -/
theorem ending (h : w.OnePerKey key) {before after : List EndPhase} {e : EndPhase}
    (he : w.ends = before ++ e :: after)
    (hafter : e = .clearing key → ∀ t ∈ w.tasks, t.isUnderway key = false)
    (hkept : ∀ name, .unsubscribing key name ∉ w.ends) :
    World.OnePerKey ⟨(e.step w.state).1, w.tasks, before ++ (e.step w.state).2 :: after⟩ key := by
  have hdoes := e.does_step w.state
  have hmem : e ∈ w.ends := by
    rw [he]
    exact List.mem_append_right _ List.mem_cons_self
  have hexclusive := h.exclusive
  rw [he, countP_append_cons] at hexclusive
  have hidle : e = .clearing key → w.tasks.countP (Task.isUnderway key) = 0 ∧
      w.tasks.countP (Task.isHolding key) = 0 := by
    intro heq
    have hnone : w.tasks.countP (Task.isUnderway key) = 0 :=
      List.countP_eq_zero.2 fun t ht => by simpa using hafter heq t ht
    exact ⟨hnone, Nat.eq_zero_of_le_zero (hnone ▸ isHolding_le key w.tasks)⟩
  have hnew := hexclusive.end_step h.consistent hdoes (fun d heq => (h.leaving d (heq ▸ hmem)).1)
    hidle fun name heq => hkept name (heq ▸ hmem)
  rw [← countP_append_cons] at hnew
  have hundeleted : ∀ client left,
      .tearingDown client left (some key) ∉ before ++ (e.step w.state).2 :: after := by
    intro client left hdeleting
    rcases eq_or_mem_of_mem_append_cons hdeleting with heq | hold
    · rw [← heq] at hdoes
      rcases hdoes.deletes with ⟨name, rfl⟩ | ⟨l, rfl⟩
      · exact hkept name hmem
      · exact h.undeleted client (l :: left) hmem
    · exact h.undeleted client left (he ▸ hold)
  have honce := h.once
  rw [he, filterMap_append_cons] at honce
  rcases hdoes.connections with ⟨hstops, hsame⟩ | ⟨d, rfl, hgone, hfinish⟩
  · refine ⟨e.consistent_step h.consistent, hnew, ?_, ?_, hundeleted,
      routed_of_stops hstops h.routed⟩
    · refine leaving_of_stops hstops fun d hd => h.leaving d ?_
      rcases eq_or_mem_of_mem_append_cons hd with heq | hold
      · rw [← leaving?_eq_some (by rw [← hsame, ← heq]; rfl)]
        exact hmem
      · exact he ▸ hold
    · rw [filterMap_append_cons, hsame]
      exact honce
  · have hdistinct : (before.filterMap EndPhase.leaving? ++
        d :: after.filterMap EndPhase.leaving?).Nodup := honce
    have hrest := List.nodup_middle.1 hdistinct
    -- No other end is to finish the driver that has finished.
    have hne : ∀ d', .leaving d' ∈ before ++ after → d' ≠ d := by
      rintro d' hmem' rfl
      apply hrest.notMem
      rw [← List.filterMap_append]
      exact List.mem_filterMap.2 ⟨_, hmem', rfl⟩
    refine ⟨EndPhase.consistent_step _ h.consistent, hnew, ?_, ?_, hundeleted, ?_⟩
    · intro d' hd'
      have hother : .leaving d' ∈ before ++ after := by
        simp only [List.mem_append, List.mem_cons] at hd' ⊢
        refine hd'.imp_right fun hd' => hd'.resolve_left fun heq => ?_
        rw [← heq] at hgone
        cases hgone
      have hold : .leaving d' ∈ w.ends := by
        rw [he]
        simp only [List.mem_append, List.mem_cons] at hother ⊢
        exact hother.imp_right .inr
      rw [hfinish]
      exact ⟨(List.mem_erase_of_ne (hne d' hother)).2 (h.leaving d' hold).1, (h.leaving d' hold).2⟩
    · rw [filterMap_append_cons, hgone]
      exact hrest.of_cons
    · rw [hfinish]
      exact routed_finish d h.routed

/-- One turn keeps it, if the callback of a channel waits for the task and no client of
the key is unsubscribed. -/
theorem turn (h : w.OnePerKey key) (hturn : Turn w w')
    (hafter : CallsBack w key w' → ∀ t ∈ w.tasks, t.isUnderway key = false)
    (hkept : ∀ name, .unsubscribing key name ∉ w.ends) : w'.OnePerKey key := by
  cases hturn with
  | accept key' surroundings =>
    refine ⟨h.consistent, ?_, h.leaving, h.once, h.undeleted, h.routed⟩
    have hexclusive := h.exclusive
    simpa [Task.isUnderway, Task.isHolding, Task.accept, Phase.isUnderway, Phase.holdsKey]
      using hexclusive
  | task before after t ht => exact h.task ht
  | driver d hd fresh =>
    have hstops := ConnectionPool.stops_cancel w.state.connections d.channel
    refine ⟨h.consistent, ?_, ?_, ?_, fun client left hd' => ?_, routed_of_stops hstops h.routed⟩
    · have hexclusive := h.exclusive
      rw [← hstops.keys] at hexclusive
      simpa [EndPhase.isClearing] using hexclusive
    · intro d' hd'
      rcases List.mem_append.1 hd' with hold | hnew
      · exact leaving_of_stops hstops h.leaving d' hold
      · cases List.mem_singleton.1 hnew
        refine ⟨List.mem_map.2 ⟨d, hd, ?_⟩, rfl⟩
        simp
    · rw [List.filterMap_append]
      refine List.nodup_append.2 ⟨h.once, List.nodup_singleton _, fun d' hd' d'' hd'' heq => ?_⟩
      obtain ⟨e, he, hleaving⟩ := List.mem_filterMap.1 hd'
      rw [leaving?_eq_some hleaving] at he
      refine fresh d' he ?_
      rw [heq, List.mem_singleton.1 hd'']
    · exact h.undeleted client left (by simpa using hd')
  | ending before after e he =>
    refine h.ending he (fun heq => hafter ?_) hkept
    subst heq
    exact .turn before after he
  | unsubscribe key' name =>
    refine ⟨h.consistent, ?_, fun d hd => h.leaving d (by simpa using hd), ?_,
      fun client left hd => h.undeleted client left (by simpa using hd), h.routed⟩
    · simpa [EndPhase.isClearing] using h.exclusive
    · rw [List.filterMap_append]
      change (w.ends.filterMap EndPhase.leaving? ++ []).Nodup
      rw [List.append_nil]
      exact h.once
  | acceptLoop l =>
    rw [State.endAcceptLoop_eq]
    exact ⟨h.consistent, h.exclusive, h.leaving, h.once, h.undeleted, h.routed⟩
  | stop => exact ⟨h.consistent, h.exclusive, h.leaving, h.once, h.undeleted, h.routed⟩
  | closeAll _ =>
    have hstops := ConnectionPool.stops_closeAll w.state.connections
    refine ⟨h.consistent, ?_, leaving_of_stops hstops h.leaving, h.once, h.undeleted,
      routed_of_stops hstops h.routed⟩
    exact hstops.keys ▸ h.exclusive

end World.OnePerKey

/-! ## Admission -/

/-- The key that an end is about to clear or to unsubscribe, or whose channel it is about
to remove. -/
def EndPhase.key? : EndPhase → Option String
  | .leaving d => some d.key
  | .clearing key | .unsubscribing key _ => some key
  | .tearingDown _ _ channel => channel
  | .done _ => none

/-- Nothing is left of any connection with this key, and nobody acts for one. -/
structure World.Vacant (w : World) (key : String) : Prop where
  registry : Forgot w.state.registry key
  channel : w.state.connections.channels.get? key = none
  task : ∀ t ∈ w.tasks, t.isUnderway key = false
  driver : ∀ d ∈ w.state.connections.drivers, d.key ≠ key
  ending : ∀ e ∈ w.ends, e.key? ≠ some key

/-- If the registry does not know the key, nothing is left of any connection with it. -/
theorem World.OnePerKey.vacant {w : World} {key : String} (h : w.OnePerKey key)
    (hkept : ∀ name, .unsubscribing key name ∉ w.ends) (hnot : ¬ Known w.state.registry key) :
    w.Vacant key := by
  have hnone := mt h.exclusive.known hnot
  have hunderway : w.tasks.countP (Task.isUnderway key) = 0 := by omega
  have hdrivers : (w.state.connections.drivers.map ChannelDriver.key).count key = 0 := by omega
  have hclearing : w.ends.countP (EndPhase.isClearing key) = 0 := by omega
  have hdriver : ∀ d ∈ w.state.connections.drivers, d.key ≠ key := fun d hd heq =>
    List.count_eq_zero.1 hdrivers (List.mem_map.2 ⟨d, hd, heq⟩)
  refine ⟨forgot_of_unknown h.consistent hnot, ?_, ?_, hdriver, ?_⟩
  · rw [Option.eq_none_iff_forall_ne_some]
    intro channel hchannel
    obtain ⟨d, hd, hkey, -⟩ := h.routed channel hchannel
    exact hdriver d hd hkey
  · exact fun t ht => by simpa using List.countP_eq_zero.1 hunderway t ht
  · intro e he hkey
    cases e with
    | leaving d => exact hdriver d (h.leaving d he).1 (Option.some.inj hkey)
    | clearing key' =>
      refine List.countP_eq_zero.1 hclearing _ he ?_
      rw [EndPhase.isClearing, Option.some.inj hkey, beq_self_eq_true]
    | unsubscribing key' name => exact hkept name (Option.some.inj hkey ▸ he)
    | tearingDown client left channel =>
      obtain rfl : channel = some key := hkey
      exact h.undeleted client left he
    | done removed => cases hkey

/-- A key becomes pending in the step of a task that reserves it. -/
theorem Task.Does.not_known {s s' : State} {t : Task} {phase : Phase} {key : String}
    (hdoes : t.Does s s' phase) (hr : s.registry.Consistent)
    (hbefore : s.registry.pending.contains key = false)
    (hafter : s'.registry.pending.contains key = true) : ¬ Known s.registry key := by
  -- No other step adds a pending key.
  have hshrinks : (∀ k, s'.registry.pending.contains k = true →
      s.registry.pending.contains k = true) → ¬ Known s.registry key := by
    intro hpending
    rw [hpending key hafter] at hbefore
    cases hbefore
  cases hdoes with
  | reserve _ ok =>
    by_cases hkey : key = t.key
    · rw [hkey]
      exact not_known_of_reserve ok
    · obtain ⟨-, -, rfl⟩ := Registry.reserve_eq_ok ok
      simp only [NameMap.contains, NameMap.get?_insert_of_ne hkey] at hafter hbefore
      rw [hbefore] at hafter
      cases hafter
  | abandon => exact hshrinks (shrinks_clear hr t.key).pending
  | subscribe _ ok =>
    obtain ⟨-, -, rfl⟩ := Registry.subscribe_eq_ok ok
    exact hshrinks fun k hk => (NameMap.contains_erase_iff.1 hk).2
  | commit _ ok =>
    obtain ⟨-, -, -, rfl⟩ := Registry.commit_eq_ok ok
    exact hshrinks fun _ hk => hk
  | unbind =>
    rw [State.registry_releaseListener] at hafter hshrinks
    exact hshrinks fun _ hk => hk
  | release =>
    rw [State.registry_releaseListener] at hafter hshrinks
    exact hshrinks fun _ hk => hk
  | _ => exact hshrinks fun _ hk => hk

theorem Turn.not_known {w w' : World} {key : String} (h : Turn w w')
    (hr : w.state.registry.Consistent) (hbefore : w.state.registry.pending.contains key = false)
    (hafter : w'.state.registry.pending.contains key = true) : ¬ Known w.state.registry key := by
  cases h with
  | task before after t _ => exact (t.does_step w.state).not_known hr hbefore hafter
  | ending before after e _ =>
    rw [((e.does_step w.state).shrinks hr).pending key hafter] at hbefore
    cases hbefore
  | acceptLoop l =>
    rw [State.endAcceptLoop_eq] at hafter
    rw [hafter] at hbefore
    cases hbefore
  | _ =>
    rw [hafter] at hbefore
    cases hbefore

/-- A run in which the callbacks for a key wait for the tasks under it, and no client of
the key is unsubscribed. -/
structure Orderly (w : Nat → World) (n : Nat) (key : String) : Prop where
  waits : ∀ i < n, CallsBack (w i) key (w (i + 1)) → ∀ t ∈ (w i).tasks, t.isUnderway key = false
  kept : ∀ i < n, ∀ name, .unsubscribing key name ∉ (w i).ends

/-- In an orderly run from the start of a server, whenever a connection is admitted under
a key, nothing is left of its predecessors: no registration, no channel, and no task,
driver or callback that could still take a step for one of them. -/
theorem vacant_of_admitted {config : Config} {listen : String → Except SystemError SocketAddress}
    {s₀ : State} {address : SocketAddress} (hstart : State.start config listen = .ok (s₀, address))
    {w : Nat → World} {n : Nat} (hfirst : w 0 = ⟨s₀, [], []⟩)
    (hrun : ∀ i < n, Turn (w i) (w (i + 1))) {key : String} (horderly : Orderly w n key)
    {i : Nat} (hi : i < n) (hbefore : (w i).state.registry.pending.contains key = false)
    (hafter : (w (i + 1)).state.registry.pending.contains key = true) : (w i).Vacant key := by
  obtain ⟨pool, -, rfl⟩ := start_eq_ok hstart
  have hall : ∀ k ≤ n, (w k).OnePerKey key := by
    intro k hk
    induction k with
    | zero =>
      rw [hfirst]
      exact ⟨Registry.consistent_empty, ⟨Nat.zero_le _, Nat.zero_le _, fun _ => rfl, nofun⟩,
        fun _ hd => (nomatch hd), List.nodup_nil, fun _ _ hd => (nomatch hd), nofun⟩
    | succ k ih =>
      exact (ih (Nat.le_of_succ_le hk)).turn (hrun k hk) (horderly.waits k hk) (horderly.kept k hk)
  have hone := hall i (Nat.le_of_lt hi)
  exact hone.vacant (horderly.kept i hi) ((hrun i hi).not_known hone.consistent hbefore hafter)

/-- Client `a` comes and goes; then client `b` comes from the same address. -/
def comeAgain : List Choice :=
  .accept "10.0.0.1:5000" (greeting "a") :: List.replicate 9 (.task 0) ++
    .driver 0 :: List.replicate 4 (.ending 0) ++
    [.accept "10.0.0.1:5000" (greeting "b"), .task 1]

/-- Control: the key was used before, and is free again when `b` is admitted. -/
theorem vacant_of_admitted_comeAgain :
    Orderly (freshWorld.after comeAgain) 17 "10.0.0.1:5000" ∧
      (freshWorld.after comeAgain 10).state.registry.connections.get? "10.0.0.1:5000" = some "a" ∧
      (freshWorld.after comeAgain 17).state.registry.pending.contains "10.0.0.1:5000" = true ∧
      (freshWorld.after comeAgain 16).Vacant "10.0.0.1:5000" := by
  have hsome : (freshWorld.worlds? comeAgain).isSome = true := by decide +kernel
  have hwaits : ∀ i < 17,
      (freshWorld.after comeAgain i).ends.any (EndPhase.isClearing "10.0.0.1:5000") = true →
        (freshWorld.after comeAgain i).tasks.all (fun t => !t.isUnderway "10.0.0.1:5000") = true := by
    decide +kernel
  have hkept : ∀ i < 17, (freshWorld.after comeAgain i).ends.all (fun e =>
      match e with
      | .unsubscribing .. => false
      | _ => true) = true := by decide +kernel
  have horderly : Orderly (freshWorld.after comeAgain) 17 "10.0.0.1:5000" := by
    refine ⟨fun i hi hcalls t ht => ?_, fun i hi name hmem => ?_⟩
    · have hclearing : (freshWorld.after comeAgain i).ends.any
          (EndPhase.isClearing "10.0.0.1:5000") = true :=
        List.any_eq_true.2 ⟨_, hcalls.mem, by simp [EndPhase.isClearing]⟩
      simpa using List.all_eq_true.1 (hwaits i hi hclearing) t ht
    · exact nomatch List.all_eq_true.1 (hkept i hi) _ hmem
  have hold : (freshWorld.after comeAgain 10).state.registry.connections.get? "10.0.0.1:5000" =
      some "a" := by decide +kernel
  have hbefore : (freshWorld.after comeAgain 16).state.registry.pending.contains
      "10.0.0.1:5000" = false := by decide +kernel
  have hafter : (freshWorld.after comeAgain 17).state.registry.pending.contains
      "10.0.0.1:5000" = true := by decide +kernel
  exact ⟨horderly, hold, hafter, vacant_of_admitted (w := freshWorld.after comeAgain) (n := 17)
    start_twoPorts rfl (fun i hi => turn_after hsome hi) horderly (by decide) hbefore hafter⟩

/-! ## A predecessor that outlives its registration -/

/-- Client `a` is greeted and its channel is lost before it subscribes. Its key is cleared,
and client `b` is admitted under it. -/
def overtaken : List Choice :=
  .accept "10.0.0.1:5000" (greeting "a") :: List.replicate 4 (.task 0) ++
    .driver 0 :: List.replicate 2 (.ending 0) ++
    [.accept "10.0.0.1:5000" (greeting "b"), .task 1]

/-- Before `b` is admitted, `a` finds that its key is not pending any more, and is about to
delete its channel. Then `b` opens a channel. -/
def rejectedLate : List Choice :=
  .accept "10.0.0.1:5000" (greeting "a") :: List.replicate 4 (.task 0) ++
    .driver 0 :: List.replicate 2 (.ending 0) ++ List.replicate 2 (.task 0) ++
    .accept "10.0.0.1:5000" (greeting "b") :: List.replicate 3 (.task 1)

/-- Client `a` is connected and is unsubscribed: it is torn down and its channel deleted. Then
`b` is admitted, and after that the driver of the channel ends. -/
def unsubscribed : List Choice :=
  connected ++ .unsubscribe "10.0.0.1:5000" "a" :: List.replicate 3 (.ending 0) ++
    [.accept "10.0.0.1:5000" (greeting "b"), .task 1, .driver 0, .ending 1]

/-- A step for client `a` takes away what client `b` has under the same key. The task of
`a` subscribes with the pending entry of `b`; or it deletes the channel of `b`, which has
the number 2; or, after an unsubscription, the callback of the channel of `a` clears the
pending entry of `b`. -/
theorem predecessor_hits_successor :
    (∃ w w', Reaches freshWorld w ∧ w.take? (.task 0) = some w' ∧
      w.tasks.map (Task.isHolding "10.0.0.1:5000") = [false, true] ∧
      w.state.registry.pending.contains "10.0.0.1:5000" = true ∧
      w'.state.registry.pending.contains "10.0.0.1:5000" = false ∧
      w'.state.registry.connections.get? "10.0.0.1:5000" = some "a") ∧
    (∃ w w', Reaches freshWorld w ∧ w.take? (.task 0) = some w' ∧
      w.tasks.map (Task.isUnderway "10.0.0.1:5000") = [true, true] ∧
      w.state.connections.channels.get? "10.0.0.1:5000" = some 2 ∧
      w'.state.connections.channels.get? "10.0.0.1:5000" = none) ∧
    ∃ w w', Reaches freshWorld w ∧ w.take? (.ending 1) = some w' ∧
      w.tasks.map (Task.isHolding "10.0.0.1:5000") = [false, true] ∧
      w.state.registry.pending.contains "10.0.0.1:5000" = true ∧
      w'.state.registry.pending.contains "10.0.0.1:5000" = false := by
  refine ⟨?_, ?_, ?_⟩
  · have hsome : (freshWorld.worlds? overtaken).isSome = true := by decide +kernel
    have htest : ((freshWorld.after overtaken 10).take? (.task 0)).map (fun w =>
          (w.state.registry.pending.contains "10.0.0.1:5000",
            w.state.registry.connections.get? "10.0.0.1:5000")) = some (false, some "a") := by
      decide +kernel
    obtain ⟨w', hw', htests⟩ := Option.map_eq_some_iff.1 htest
    simp only [Prod.mk.injEq] at htests
    exact ⟨_, w', reaches_after hsome (by decide), hw', by decide +kernel, by decide +kernel, htests⟩
  · have hsome : (freshWorld.worlds? rejectedLate).isSome = true := by decide +kernel
    have htest : ((freshWorld.after rejectedLate 14).take? (.task 0)).map (fun w =>
          w.state.connections.channels.get? "10.0.0.1:5000") = some none := by
      decide +kernel
    obtain ⟨w', hw', hnone⟩ := Option.map_eq_some_iff.1 htest
    exact ⟨_, w', reaches_after hsome (by decide), hw', by decide +kernel, by decide +kernel, hnone⟩
  · have hsome : (freshWorld.worlds? unsubscribed).isSome = true := by decide +kernel
    have htest : ((freshWorld.after unsubscribed 18).take? (.ending 1)).map (fun w =>
          w.state.registry.pending.contains "10.0.0.1:5000") = some false := by
      decide +kernel
    obtain ⟨w', hw', hcleared⟩ := Option.map_eq_some_iff.1 htest
    exact ⟨_, w', reaches_after hsome (by decide), hw', by decide +kernel, by decide +kernel,
      hcleared⟩

end ReverseTunnel.Server
