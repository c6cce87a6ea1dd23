import ReverseTunnel.Proofs.Server.Provision

/-!
# What comes of a control connection

The task of a new connection, carried through on its own, has one of four
outcomes (`finish_outcome`). Most of the ways in which it can fail come together:
before the channel is open they leave no trace, and after that the channel is
removed and its driver told to end. A task that opens tunnels ends like
`provision`, with the channel removed if that failed (`finish_eq_go`).
-/

namespace ReverseTunnel.Server

namespace Task

variable {s : State} {t : Task}

theorem finish_of_isDone (h : t.isDone = true) : finish s t = (s, t) := by
  rw [finish, dif_pos h]

theorem finish_step (h : t.isDone = false) : finish s t = finish (step s t).1 (step s t).2 := by
  rw [finish, dif_neg (by simp [h])]

theorem step_of_isDone (h : t.isDone = true) : step s t = (s, t) := by
  obtain ⟨key, surroundings, phase⟩ := t
  cases phase with
  | done => rfl
  | _ => cases h

/-- A task keeps its key. -/
theorem key_step (s : State) (t : Task) : (step s t).2.key = t.key := by
  obtain ⟨key, surroundings, phase⟩ := t
  cases phase with
  | opening client left batch =>
    cases left with
    | nil => rfl
    | cons next left =>
      simp only [step, openTunnel]
      repeat' split
      all_goals rfl
  | rollingBack client left batch fault => cases left <;> rfl
  | _ =>
    simp only [step, bindTunnel, abandon]
    repeat' split
    all_goals rfl

/-- Only a task that turns its client down comes to remove the channel. -/
theorem step_ne_disconnecting (s : State) (hrejecting : ∀ fault, t.phase ≠ .rejecting fault)
    (hdisconnecting : t.phase ≠ .disconnecting) : (step s t).2.phase ≠ .disconnecting := by
  obtain ⟨key, surroundings, phase⟩ := t
  cases phase with
  | rejecting fault => exact absurd rfl (hrejecting fault)
  | disconnecting => exact absurd rfl hdisconnecting
  | opening client left batch =>
    cases left with
    | nil =>
      intro h
      cases h
    | cons next left =>
      simp only [step, openTunnel]
      repeat' split
      all_goals
        intro h
        cases h
  | rollingBack client left batch fault =>
    intro h
    cases left <;> cases h
  | _ =>
    simp only [step, bindTunnel, abandon]
    repeat' split
    all_goals
      intro h
      cases h

/-- A task that turns its client down removes the channel. -/
theorem finish_rejecting (s : State) (key : String) (surroundings : Surroundings) (fault : Fault) :
    (finish s ⟨key, surroundings, .rejecting fault⟩).1 = s.deleteChannel key := by
  rw [finish_step rfl, finish_step rfl, finish_of_isDone rfl]
  rfl

/-- A task ends like the opening of its tunnels, and removes the channel if that
failed. -/
theorem finish_eq_go (s : State) (t : Task) (h : t.phase ≠ .disconnecting) :
    (finish s t).1 =
      match provision.go s t with
      | (s', .ok ()) => s'
      | (s', .error _) => s'.deleteChannel t.key := by
  -- `provision.go` takes the same steps, and stops where a task turns its client down.
  induction s, t using provision.go.induct with
  | case1 s t fault hphase =>
    obtain ⟨key, surroundings, phase⟩ := t
    simp only at hphase
    subst hphase
    rw [finish_rejecting, provision.go]
  | case2 s t hphase => exact absurd hphase h
  | case3 s t hphase =>
    obtain ⟨key, surroundings, phase⟩ := t
    simp only at hphase
    subst hphase
    rw [finish_of_isDone rfl, provision.go]
  | case4 s t hisDone hrejecting hdisconnecting hdone =>
    obtain ⟨key, surroundings, phase⟩ := t
    cases phase with
    | done => exact absurd rfl hdone
    | _ => cases hisDone
  | case5 s t hisDone hrejecting hdisconnecting hdone ih =>
    have hunfinished : t.isDone = false := by simpa using hisDone
    rw [finish_step hunfinished, go_step hunfinished hrejecting h,
      ih (step_ne_disconnecting s hrejecting h), key_step]

end Task

/-- A connection is dealt with when the steps of its task can be taken to the end. -/
theorem State.connect_of_steps {s : State} {key : String} {surroundings : Surroundings} {n : Nat}
    (hdone : (Task.steps s (.accept key surroundings) n).2.isDone = true) :
    s.connect key surroundings = (Task.steps s (.accept key surroundings) n).1.settle := by
  have hphase : (Task.accept key surroundings).phase ≠ .disconnecting := by
    intro h
    cases h
  rw [connect, Task.finish_eq_go s _ hphase, go_steps s _ n, provision.go,
    Task.phase_of_isDone hdone]

/-- What a control connection can come to: the state after its task was carried
through. -/
inductive Outcome (s : State) (key : String) (surroundings : Surroundings) : State → Prop where
  /-- It never had a channel. -/
  | turnedAway : Outcome s key surroundings s
  /-- Its hello was refused, or its client name was taken. -/
  | rejected {registry : Registry} {connections : ConnectionPool}
      (reserved : s.registry.reserve key = .ok registry)
      (opened : s.connections.register key = .ok connections) :
      Outcome s key surroundings ({ s with registry, connections }.deleteChannel key)
  /-- Its tunnels could not all be opened and committed. -/
  | undone {registry subscribed : Registry} {connections : ConnectionPool} {handshake : Handshake}
      {s' : State} {fault : Fault}
      (reserved : s.registry.reserve key = .ok registry)
      (opened : s.connections.register key = .ok connections)
      (authorized : authorizedHandshake s.config surroundings.hello = .ok handshake)
      (subscription : registry.subscribe handshake.clientName key = .ok subscribed)
      (failed : provision { s with registry := subscribed, connections } key
        handshake.clientName handshake.tunnels surroundings = (s', .error fault)) :
      Outcome s key surroundings (s'.deleteChannel key)
  /-- Its client is active. -/
  | admitted {registry subscribed : Registry} {connections : ConnectionPool}
      {handshake : Handshake} {s' : State}
      (reserved : s.registry.reserve key = .ok registry)
      (opened : s.connections.register key = .ok connections)
      (authorized : authorizedHandshake s.config surroundings.hello = .ok handshake)
      (subscription : registry.subscribe handshake.clientName key = .ok subscribed)
      (provisioned : provision { s with registry := subscribed, connections } key
        handshake.clientName handshake.tunnels surroundings = (s', .ok ())) :
      Outcome s key surroundings s'

namespace Task

/-- Giving up before the channel is open takes back the reservation. -/
theorem abandon_reserved {s : State} {key : String} {registry : Registry}
    (h : s.registry.reserve key = .ok registry) (surroundings : Surroundings) (phase : Phase) :
    abandon { s with registry } ⟨key, surroundings, phase⟩ = (s, ⟨key, surroundings, .done⟩) := by
  obtain ⟨hpending, -, rfl⟩ := Registry.reserve_eq_ok h
  have hcontains : (s.registry.pending.insert key ()).contains key = true :=
    NameMap.contains_iff.2 ⟨(), NameMap.get?_insert_self⟩
  simp only [abandon, State.clear, Registry.clear, hcontains, if_true, NameMap.erase_insert,
    NameMap.erase_eq_self hpending, goTo]

/-- The task of a new connection, carried through on its own. -/
theorem finish_outcome (s : State) (key : String) (surroundings : Surroundings) :
    Outcome s key surroundings (finish s (.accept key surroundings)).1 := by
  -- Every failure before the channel is open comes back to the state `s`.
  have haway : ∀ {s' : State} {phase : Phase},
      step s' ⟨key, surroundings, phase⟩ = (s, ⟨key, surroundings, .done⟩) →
      Outcome s key surroundings (finish s' ⟨key, surroundings, phase⟩).1 := by
    intro s' phase hstep
    cases hdone : isDone ⟨key, surroundings, phase⟩ with
    | true =>
      rw [step_of_isDone hdone] at hstep
      rw [finish_of_isDone hdone, hstep]
      exact .turnedAway
    | false =>
      rw [finish_step hdone, hstep, finish_of_isDone rfl]
      exact .turnedAway
  -- A step hands its state on to what the rest comes to.
  have hnext : ∀ {s₁ : State} {phase : Phase} (s₂ : State) (phase' : Phase),
      step s₁ ⟨key, surroundings, phase⟩ = (s₂, ⟨key, surroundings, phase'⟩) →
      isDone ⟨key, surroundings, phase⟩ = false →
      Outcome s key surroundings (finish s₂ ⟨key, surroundings, phase'⟩).1 →
      Outcome s key surroundings (finish s₁ ⟨key, surroundings, phase⟩).1 := by
    intro s₁ phase s₂ phase' hstep hdone houtcome
    rwa [finish_step hdone, hstep]
  cases hstopping : s.stopping with
  | true => exact haway (by simp [step, hstopping, goTo])
  | false =>
  cases hreserve : s.registry.reserve key with
  | error e => exact haway (by simp [step, hstopping, hreserve, goTo])
  | ok registry =>
  refine hnext { s with registry } .reserved
    (by simp [step, hstopping, hreserve, goTo]) rfl ?_
  have habandon := fun phase => abandon_reserved hreserve surroundings phase
  cases htls : surroundings.tlsSucceeds with
  | false => exact haway (by simp [step, htls, habandon])
  | true =>
  cases hfree : s.connections.checkFree key with
  | error e => exact haway (by simp [step, htls, hfree, habandon])
  | ok =>
  refine hnext { s with registry } .connecting
    (by simp [step, htls, hfree, goTo]) rfl ?_
  cases htransport : surroundings.transportSucceeds with
  | false => exact haway (by simp [step, htransport, habandon])
  | true =>
  cases hregister : s.connections.register key with
  | error e => exact haway (by simp [step, htransport, hregister, habandon])
  | ok connections =>
  refine hnext { s with registry, connections } .channelOpen
    (by simp [step, htransport, hregister, goTo]) rfl ?_
  cases hauthorized : authorizedHandshake s.config surroundings.hello with
  | error fault =>
    refine hnext { s with registry, connections } (.rejecting fault)
      (by simp [step, hauthorized, goTo]) rfl ?_
    rw [finish_rejecting]
    exact .rejected hreserve hregister
  | ok handshake =>
  refine hnext { s with registry, connections } (.greeted handshake)
    (by simp [step, hauthorized, goTo]) rfl ?_
  cases hsubscribe : registry.subscribe handshake.clientName key with
  | error e =>
    refine hnext { s with registry, connections } (.rejecting (.registry e))
      (by simp [step, hsubscribe, goTo]) rfl ?_
    rw [finish_rejecting]
    exact .rejected hreserve hregister
  | ok subscribed =>
  refine hnext { s with registry := subscribed, connections }
    (.opening handshake.clientName handshake.tunnels.entries .empty)
    (by simp [step, hsubscribe, goTo]) rfl ?_
  -- From here on the task only opens tunnels.
  have hend := finish_eq_go { s with registry := subscribed, connections }
    ⟨key, surroundings, .opening handshake.clientName handshake.tunnels.entries .empty⟩
    fun h => by cases h
  rw [← provision] at hend
  rw [hend]
  cases hprovision : provision { s with registry := subscribed, connections } key
      handshake.clientName handshake.tunnels surroundings with
  | mk s' result =>
    cases result with
    | ok => exact .admitted hreserve hregister hauthorized hsubscribe hprovision
    | error fault => exact .undone hreserve hregister hauthorized hsubscribe hprovision

end Task

end ReverseTunnel.Server
