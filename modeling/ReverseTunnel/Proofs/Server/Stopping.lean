import Mathlib.Data.List.Chain
import ReverseTunnel.Proofs.Server.Steps

/-!
# What goes on after a stop

To stop, a server tells all tasks so and removes every channel that there is
(`World.stopped`). A task asks only once whether the server stops, before it reserves
its key, so one that has asked carries on: it opens its channel and commits its
tunnels on a server that has stopped, and nobody removes them again
(`opens_after_stop`).

No other task does. Tasks go forward through their stages, and one that is still to
ask is turned away, so whoever opens a channel or commits an item after the stop was
under way when it came (`World.Traced`). The main theorem names that task for every
channel and every item of every later turn, and concludes that a stop is final if no
task was under way (`stop_final`).
-/

namespace ReverseTunnel

namespace Registry

variable {r r' : Registry} {name : String} {s : Subscriber}

/-- Removing a client adds none. -/
theorem clients_removeClient {other : String}
    (h : (r.removeClient other).2.clients.get? name = some s) : r.clients.get? name = some s := by
  cases hother : r.clients.get? other with
  | none =>
    rw [removeClient_of_get?_eq_none hother] at h
    exact h
  | some s' =>
    rw [removeClient_of_get? hother] at h
    exact (get?_clients_without_eq_some_iff.1 h).2

theorem clients_clear (key : String) (h : (r.clear key).2.clients.get? name = some s) :
    r.clients.get? name = some s := by
  rw [clear] at h
  split at h
  · exact h
  · split at h
    · exact h
    · exact clients_removeClient h

theorem clients_unsubscribe (key other : String)
    (h : (r.unsubscribe key other).2.clients.get? name = some s) : r.clients.get? name = some s := by
  rw [unsubscribe] at h
  split at h
  · exact clients_removeClient h
  · exact h

end Registry

namespace Server

/-! ## Stops -/

/-- The world when a stop is over: all tasks were told, and every channel was removed. -/
def World.stopped (w : World) : World :=
  { w with
    state := { w.state with stopping := true, connections := w.state.connections.closeAll } }

theorem reaches_stopped (w : World) : Reaches w w.stopped :=
  .turn (.turn .refl (.stop w)) (.closeAll { w with state := { w.state with stopping := true } } rfl)

/-- A turn during or after a stop. The tasks at some places asked whether the server stops
before it did, and may have been about to reserve their keys then. -/
inductive LateTurn (asked : List Nat) (w : World) : World → Prop where
  | turn {w' : World} (h : Turn w w') : LateTurn asked w w'
  | reserve {before after : List Task} {t : Task} {registry : Registry}
      (h : w.tasks = before ++ t :: after) (hphase : t.phase = .accepted)
      (hasked : before.length ∈ asked) (ok : w.state.registry.reserve t.key = .ok registry) :
      LateTurn asked w { w with
        state := { w.state with registry }
        tasks := before ++ t.goTo .reserved :: after }

/-- A task that does not stop by itself before this phase is over: it has not passed the
phase yet, and if it is only just accepted, it has already asked. -/
def Task.HeadsFor (asked : Prop) (phase : Phase) (t : Task) : Prop :=
  stage phase ≤ stage t.phase ∧ (t.phase = .accepted → asked)

variable {s s' : State} {t : Task} {w₀ w w' : World} {asked : List Nat} {phase : Phase}
  {key name : String} {channel : Nat} {held : Holdings}

theorem Task.headsFor_of_phase (h : t.phase = phase) (hphase : phase ≠ .accepted) (p : Prop) :
    t.HeadsFor p phase := by
  subst h
  exact ⟨Nat.le_refl _, fun haccepted => absurd haccepted hphase⟩

/-- Once the server stops, a task that heads for a phase did so before its step. -/
theorem Task.headsFor_of_step {p : Prop} (hstop : s.stopping = true) (hpos : 0 < stage phase)
    (h : (t.step s).2.HeadsFor p phase) : t.HeadsFor p phase := by
  obtain ⟨hstage, -⟩ := h
  by_cases haccepted : t.phase = .accepted
  · -- This task asks now, and is done.
    have hdone : (t.step s).2.phase = .done := by
      rw [step, haccepted]
      simp [hstop, goTo]
    rw [hdone] at hstage
    exact absurd hstage (Nat.not_le_of_lt hpos)
  · refine ⟨?_, fun h => absurd h haccepted⟩
    -- Stages are counted down, so the task had not passed the phase before its step.
    cases hdone : t.isDone with
    | true =>
      rw [step_of_isDone hdone] at hstage
      exact hstage
    | false =>
      apply Nat.le_trans hstage
      rcases step_decreases s t hdone with hlt | ⟨heq, -⟩
      · exact Nat.le_of_lt hlt
      · exact Nat.le_of_eq heq

/-! ## Origins -/

theorem Task.stopping_step (s : State) (t : Task) : (t.step s).1.stopping = s.stopping := by
  have hdoes := t.does_step s
  generalize (t.step s).1 = s' at hdoes
  generalize (t.step s).2.phase = phase at hdoes
  cases hdoes with
  | unbind => rw [State.releaseListener_eq]
  | release => rw [State.releaseListener_eq]
  | _ => rfl

theorem EndPhase.stopping_step (s : State) (e : EndPhase) :
    (e.step s).1.stopping = s.stopping := by
  have hdoes := e.does_step s
  generalize (e.step s).1 = s' at hdoes
  generalize (e.step s).2 = e' at hdoes
  cases hdoes with
  | tearDown => rw [State.tearDown, State.releaseListener_eq]
  | _ => rfl

/-- Whoever heads for a phase after a stop did so when the stop was over. -/
structure World.Traced (w₀ : World) (asked : List Nat) (w : World) : Prop where
  stopping : w.state.stopping = true
  length_le : w₀.tasks.length ≤ w.tasks.length
  origin : ∀ (place : Nat) (t : Task) phase, 0 < Task.stage phase → w.tasks[place]? = some t →
    t.HeadsFor (place ∈ asked) phase →
    ∃ t₀ : Task, w₀.tasks[place]? = some t₀ ∧ t₀.key = t.key ∧ t₀.HeadsFor (place ∈ asked) phase

theorem World.traced_stopped (w : World) (asked : List Nat) : w.Traced asked w.stopped :=
  ⟨rfl, Nat.le_refl _, fun _ t _ _ ht hheads => ⟨t, ht, rfl, hheads⟩⟩

/-- One task changes its phase, and heads for nothing that it did not head for. -/
theorem World.Traced.change (h : w₀.Traced asked w) {before after : List Task} {t t' : Task}
    {state : State} (ht : w.tasks = before ++ t :: after) (hstop : state.stopping = true)
    (hkey : t'.key = t.key) (hheads : ∀ phase, 0 < Task.stage phase →
      t'.HeadsFor (before.length ∈ asked) phase → t.HeadsFor (before.length ∈ asked) phase) :
    w₀.Traced asked { w with state, tasks := before ++ t' :: after } := by
  have hplace : w.tasks[before.length]? = some t := by
    rw [ht]
    exact getElem?_append_cons_self before after t
  refine ⟨hstop, ?_, ?_⟩
  · have hlength := h.length_le
    rw [ht] at hlength
    simpa using hlength
  · intro place t₁ phase hpos ht₁ hheads₁
    by_cases heq : place = before.length
    · subst heq
      simp only [getElem?_append_cons_self, Option.some.injEq] at ht₁
      subst ht₁
      rw [hkey]
      exact h.origin _ t phase hpos hplace (hheads phase hpos hheads₁)
    · have hsame : w.tasks[place]? = some t₁ := by
        rw [ht, ← ht₁]
        exact getElem?_append_cons_of_ne heq
      exact h.origin place t₁ phase hpos hsame hheads₁

/-- A late turn starts nothing new. -/
theorem World.Traced.turn (h : w₀.Traced asked w) (hasked : ∀ place ∈ asked, place < w₀.tasks.length)
    (hturn : LateTurn asked w w') : w₀.Traced asked w' := by
  cases hturn with
  | reserve ht hphase hmem ok =>
    -- This task had asked, so it headed for all that it heads for now.
    refine h.change ht ?_ ?_ fun phase hpos hheads => ⟨?_, fun _ => hmem⟩
    · exact h.stopping
    · rfl
    · rw [hphase]
      exact Nat.le_trans hheads.1 (Nat.le_succ 8)
  | turn hturn =>
    cases hturn with
    | accept key surroundings =>
      refine ⟨h.stopping, ?_, ?_⟩
      · have hlength := h.length_le
        rw [List.length_append]
        omega
      · intro place t phase hpos ht hheads
        by_cases hlt : place < w.tasks.length
        · rw [List.getElem?_append_left hlt] at ht
          exact h.origin place t phase hpos ht hheads
        · -- A task that is accepted late is none of those that asked.
          rw [List.getElem?_append_right (Nat.le_of_not_lt hlt), List.getElem?_singleton] at ht
          split at ht
          · obtain rfl := Option.some.inj ht
            have hplace := hasked place (hheads.2 rfl)
            have hlength := h.length_le
            omega
          · cases ht
    | task before after t ht =>
      refine h.change ht ?_ (t.key_step w.state) fun phase hpos hheads => ?_
      · rw [t.stopping_step]
        exact h.stopping
      · exact Task.headsFor_of_step h.stopping hpos hheads
    | ending before after e he =>
      refine ⟨?_, h.length_le, h.origin⟩
      change (e.step w.state).1.stopping = true
      rw [e.stopping_step]
      exact h.stopping
    | acceptLoop l =>
      rw [State.endAcceptLoop_eq]
      exact ⟨h.stopping, h.length_le, h.origin⟩
    | stop => exact ⟨rfl, h.length_le, h.origin⟩
    | _ => exact ⟨h.stopping, h.length_le, h.origin⟩

/-! ## Channels and items -/

/-- A channel that is there after the step of a task was there before, or the task opens
it. -/
theorem Task.Does.opens (hdoes : t.Does s s' phase)
    (hnew : s'.connections.channels.get? key = some channel) :
    s.connections.channels.get? key = some channel ∨ t.key = key ∧ t.phase = .connecting := by
  cases hdoes with
  | register h ok =>
    obtain ⟨-, rfl⟩ := ConnectionPool.register_eq_ok ok
    simp only [NameMap.get?_insert] at hnew
    split at hnew
    · next hkey => exact .inr ⟨hkey.symm, h⟩
    · exact .inl hnew
  | unbind =>
    rw [State.connections_releaseListener] at hnew
    exact .inl hnew
  | release =>
    rw [State.connections_releaseListener] at hnew
    exact .inl hnew
  | delete => exact .inl ((ConnectionPool.stops_delete _ _).routed _ _ hnew)
  | _ => exact .inl hnew

/-- An item that is there after the step of a task was there before, or the task commits
it. -/
theorem Task.Does.commits (hdoes : t.Does s s' phase)
    (hnew : s'.registry.clients.get? name = some ⟨key, some held⟩) :
    s.registry.clients.get? name = some ⟨key, some held⟩ ∨
      t.key = key ∧ t.phase = .committing name ⟨held.claims, held.listeners⟩ := by
  cases hdoes with
  | reserve _ ok =>
    obtain ⟨-, -, rfl⟩ := Registry.reserve_eq_ok ok
    exact .inl hnew
  | abandon => exact .inl (Registry.clients_clear _ hnew)
  | subscribe _ ok =>
    obtain ⟨-, -, rfl⟩ := Registry.subscribe_eq_ok ok
    rw [NameMap.get?_insert] at hnew
    split at hnew
    · cases hnew
    · exact .inl hnew
  | commit h ok =>
    obtain ⟨-, -, -, rfl⟩ := Registry.commit_eq_ok ok
    rw [NameMap.get?_insert] at hnew
    split at hnew
    · next hname =>
      simp only [Option.some.injEq, Subscriber.mk.injEq] at hnew
      obtain ⟨hkey, rfl⟩ := hnew
      subst hname
      exact .inr ⟨hkey, h⟩
    · exact .inl hnew
  | unbind =>
    rw [State.registry_releaseListener] at hnew
    exact .inl hnew
  | release =>
    rw [State.registry_releaseListener] at hnew
    exact .inl hnew
  | _ => exact .inl hnew

/-- An end opens no channel and commits no item. -/
theorem EndPhase.Does.keeps {e e' : EndPhase} (hdoes : e.Does s s' e') :
    (∀ key channel, s'.connections.channels.get? key = some channel →
      s.connections.channels.get? key = some channel) ∧
    (∀ name key held, s'.registry.clients.get? name = some ⟨key, some held⟩ →
      s.registry.clients.get? name = some ⟨key, some held⟩) := by
  have hsame : ∀ key channel, s.connections.channels.get? key = some channel →
      s.connections.channels.get? key = some channel := fun _ _ hnew => hnew
  cases hdoes with
  | leave d =>
    refine ⟨fun key channel hnew => ?_, fun _ _ _ hnew => hnew⟩
    simp only [ConnectionPool.finish] at hnew
    split at hnew
    · exact (NameMap.get?_erase_eq_some_iff.1 hnew).2
    · exact hnew
  | @clear cleared _ h =>
    refine ⟨hsame, fun name key held hnew => Registry.clients_clear cleared ?_⟩
    rw [h]
    exact hnew
  | @remove cleared _ _ h =>
    refine ⟨hsame, fun name key held hnew => Registry.clients_clear cleared ?_⟩
    rw [h]
    exact hnew
  | @miss left other _ h =>
    refine ⟨hsame, fun name key held hnew =>
      Registry.clients_unsubscribe left other ?_⟩
    rw [h]
    exact hnew
  | @unsubscribe left other _ _ h =>
    refine ⟨hsame, fun name key held hnew =>
      Registry.clients_unsubscribe left other ?_⟩
    rw [h]
    exact hnew
  | tearDown =>
    rw [State.connections_tearDown, State.registry_tearDown]
    exact ⟨hsame, fun _ _ _ hnew => hnew⟩
  | delete => exact ⟨(ConnectionPool.stops_delete _ _).routed, fun _ _ _ hnew => hnew⟩
  | _ => exact ⟨hsame, fun _ _ _ hnew => hnew⟩

/-- What is there after a turn and was not there before is the work of a task that was under
way when a stop was over. -/
structure LateWork (w₀ : World) (asked : List Nat) (w w' : World) : Prop where
  channel : ∀ key channel, w'.state.connections.channels.get? key = some channel →
    w.state.connections.channels.get? key = some channel ∨
      ∃ (place : Nat) (t : Task), w₀.tasks[place]? = some t ∧ t.key = key ∧
        t.HeadsFor (place ∈ asked) .connecting
  item : ∀ name key held, w'.state.registry.clients.get? name = some ⟨key, some held⟩ →
    w.state.registry.clients.get? name = some ⟨key, some held⟩ ∨
      ∃ (place : Nat) (t : Task), w₀.tasks[place]? = some t ∧ t.key = key ∧
        t.HeadsFor (place ∈ asked) (.committing name ⟨held.claims, held.listeners⟩)

/-- Nothing new after a turn that does not touch channels and clients. -/
theorem LateWork.of_keeps
    (hchannels : ∀ key channel, w'.state.connections.channels.get? key = some channel →
      w.state.connections.channels.get? key = some channel)
    (hitems : ∀ name key held, w'.state.registry.clients.get? name = some ⟨key, some held⟩ →
      w.state.registry.clients.get? name = some ⟨key, some held⟩) : LateWork w₀ asked w w' :=
  ⟨fun key channel h => .inl (hchannels key channel h),
    fun name key held h => .inl (hitems name key held h)⟩

/-- One late turn. -/
theorem World.Traced.lateWork (h : w₀.Traced asked w) (hturn : LateTurn asked w w') :
    LateWork w₀ asked w w' := by
  cases hturn with
  | reserve ht hphase hmem ok =>
    obtain ⟨-, -, rfl⟩ := Registry.reserve_eq_ok ok
    exact .of_keeps (fun _ _ => id) fun _ _ _ => id
  | turn hturn =>
    cases hturn with
    | task before after t ht =>
      have hdoes := t.does_step w.state
      have hplace : w.tasks[before.length]? = some t := by
        rw [ht]
        exact getElem?_append_cons_self before after t
      constructor
      · intro key channel hnew
        apply (hdoes.opens hnew).imp_right
        rintro ⟨rfl, hphase⟩
        exact ⟨_, h.origin _ t _ (by decide) hplace (Task.headsFor_of_phase hphase nofun _)⟩
      · intro name key held hnew
        apply (hdoes.commits hnew).imp_right
        rintro ⟨rfl, hphase⟩
        exact ⟨_, h.origin _ t _ (Nat.succ_pos 2) hplace (Task.headsFor_of_phase hphase nofun _)⟩
    | ending before after e he =>
      obtain ⟨hchannels, hitems⟩ := (e.does_step w.state).keeps
      exact .of_keeps hchannels hitems
    | acceptLoop l =>
      rw [State.endAcceptLoop_eq]
      exact .of_keeps (fun _ _ => id) fun _ _ _ => id
    | driver d hd fresh =>
      exact .of_keeps (ConnectionPool.stops_cancel _ _).routed fun _ _ _ => id
    | closeAll hstop =>
      exact .of_keeps (ConnectionPool.stops_closeAll _).routed fun _ _ _ => id
    | _ => exact .of_keeps (fun _ _ => id) fun _ _ _ => id

/-- All turns after a stop. -/
theorem World.Traced.run {ws : List World} (h : w₀.Traced asked w)
    (hasked : ∀ place ∈ asked, place < w₀.tasks.length)
    (hrun : (w :: ws).IsChain (LateTurn asked)) : (w :: ws).IsChain (LateWork w₀ asked) := by
  induction ws generalizing w with
  | nil => exact .singleton w
  | cons next ws ih =>
    rw [List.isChain_cons_cons] at hrun ⊢
    exact ⟨h.lateWork hrun.1, ih (h.turn hasked hrun.1) hrun.2⟩

/-- Over every run of turns after a stop, started at any world: each new channel and each new
item is the work of a task that was under way when the stop was over, had asked before whether
the server stops, and had not opened that channel or committed that item yet. If there was no
such task the stop is final: there is no channel any more, and no item but those from before. -/
theorem stop_final (w : World) {asked : List Nat} (hasked : ∀ place ∈ asked, place < w.tasks.length)
    {ws : List World} (hrun : (w.stopped :: ws).IsChain (LateTurn asked)) :
    (w.stopped :: ws).IsChain (LateWork w asked) ∧
      ((∀ (place : Nat) (t : Task) client batch, w.tasks[place]? = some t →
          ¬ t.HeadsFor (place ∈ asked) (.committing client batch)) →
        ∀ w' ∈ w.stopped :: ws, w'.state.connections.channels = .empty ∧
          ∀ name key held, w'.state.registry.clients.get? name = some ⟨key, some held⟩ →
            w.state.registry.clients.get? name = some ⟨key, some held⟩) := by
  have hwork := (w.traced_stopped asked).run hasked hrun
  refine ⟨hwork, fun hidle => ?_⟩
  apply hwork.induction
  · -- One turn. Whoever heads for the channel heads for the item that comes after it.
    rintro w₁ w₂ ⟨hchannel, hitem⟩ ⟨hempty, hitems⟩
    constructor
    · apply NameMap.ext_get?
      intro key
      rw [NameMap.get?_empty, Option.eq_none_iff_forall_ne_some]
      intro channel hnew
      rcases hchannel key channel hnew with hold | ⟨place, t, ht, -, hstage, hasked⟩
      · rw [hempty] at hold
        cases hold
      · exact hidle place t "" .empty ht ⟨Nat.le_trans (by decide) hstage, hasked⟩
    · intro name key held hnew
      rcases hitem name key held hnew with hold | ⟨place, t, ht, -, hheads⟩
      · exact hitems name key held hold
      · exact absurd hheads (hidle place t _ _ ht)
  · intro _
    refine ⟨?_, fun _ _ _ hnew => hnew⟩
    change w.state.connections.closeAll.channels = .empty
    rw [ConnectionPool.closeAll_eq]

/-- One client is about to open its channel, and another connection is just accepted. -/
def underway : List Choice :=
  [.accept "10.0.0.1:5000" (greeting "a"), .task 0, .task 0,
    .accept "10.0.0.2:5000" (greeting "b")]

/-- The first client carries on, and then the second connection is seen to. -/
def carryOn : List Choice := List.replicate 7 (.task 0) ++ [.task 1]

/-- Control: the stop comes in between. The first client has its channel in the end. -/
theorem stop_final_underway :
    ∃ ws, (freshWorld.after underway 4).stopped.worlds? carryOn = some ws ∧
      ((freshWorld.after underway 4).stopped :: ws).IsChain (LateTurn [1]) ∧
      ((freshWorld.after underway 4).stopped :: ws).IsChain
        (LateWork (freshWorld.after underway 4) [1]) ∧
      ((freshWorld.after underway 4).stopped.after carryOn 8).state.connections.channels.get?
        "10.0.0.1:5000" = some 1 := by
  have hsome : ((freshWorld.after underway 4).stopped.worlds? carryOn).isSome = true := by
    decide +kernel
  obtain ⟨ws, hws⟩ := Option.isSome_iff_exists.1 hsome
  have hlate : ((freshWorld.after underway 4).stopped :: ws).IsChain (LateTurn [1]) :=
    (isChain_of_worlds? hws).imp fun _ _ hturn => .turn hturn
  have hasked : ∀ place ∈ [1], place < (freshWorld.after underway 4).tasks.length := by
    decide +kernel
  exact ⟨ws, hws, hlate, (stop_final _ hasked hlate).1, by decide +kernel⟩

/-- A client that had asked before the stop opens its channel after it, commits its tunnels,
and is there for good: nobody is left that would remove it. -/
theorem opens_after_stop :
    ∃ w w', Reaches freshWorld w ∧ Reaches w w.stopped ∧ Reaches w.stopped w' ∧
      w.stopped.state.connections.channels.get? "10.0.0.1:5000" = none ∧
      w'.state.connections.channels.get? "10.0.0.1:5000" = some 1 ∧
      w.stopped.state.registry.clients.get? "a" = none ∧
      (∃ held, w'.state.registry.clients.get? "a" = some ⟨"10.0.0.1:5000", some held⟩) ∧
      w'.state.stopping = true ∧ w'.tasks.all Task.isDone = true ∧ w'.ends.isEmpty = true := by
  have hsome : (freshWorld.worlds? underway).isSome = true := by decide +kernel
  have hlate : ((freshWorld.after underway 4).stopped.worlds? carryOn).isSome = true := by
    decide +kernel
  have hclosed : (freshWorld.after underway 4).stopped.state.connections.channels.get?
      "10.0.0.1:5000" = none := by decide +kernel
  have hopened : ((freshWorld.after underway 4).stopped.after carryOn 8).state.connections.channels.get?
      "10.0.0.1:5000" = some 1 := by decide +kernel
  have hunknown : ((freshWorld.after underway 4).stopped.state.registry.clients.get? "a").isNone =
      true := by decide +kernel
  have hitem : (((freshWorld.after underway 4).stopped.after carryOn 8).state.registry.clients.get?
      "a").map (fun s => (s.connection, s.holdings)) =
        some ("10.0.0.1:5000",
          some ⟨"a", "10.0.0.1:5000", [], [⟨"t", ":7000", some 7000, 0⟩]⟩) := by decide +kernel
  obtain ⟨⟨key, held⟩, hclient, hheld⟩ := Option.map_eq_some_iff.1 hitem
  obtain ⟨rfl, rfl⟩ := Prod.mk.inj hheld
  exact ⟨_, _, reaches_after hsome (by decide), reaches_stopped _, reaches_after hlate (by decide),
    hclosed, hopened, Option.isNone_iff_eq_none.1 hunknown, ⟨_, hclient⟩, by decide +kernel,
    by decide +kernel, by decide +kernel⟩

end Server

end ReverseTunnel
