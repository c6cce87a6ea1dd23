import ReverseTunnel.Proofs.Server.Steps

/-!
# Who is left to clear a connection

A connection can lose its channel between any two steps of its task. Until its
channel is open the task gives its key back itself; from then on the end of the
driver clears the key. So as long as the registry knows the key, somebody is left
to clear it: the task, a driver, or an end (`Tended`).

This holds in every run in which all other connections have other keys and other
client names (`Parted`, `Tended.turn`). The steps of the others, and those that
unsubscribe the client, can only remove what would have to be cleared.
-/

namespace ReverseTunnel.Server

/-! ## Tasks and their clients -/

/-- The task has not subscribed its client yet. -/
def Phase.isEarly : Phase → Bool
  | .accepted | .reserved | .connecting | .channelOpen | .greeted _ => true
  | .opening .. | .binding .. | .committing .. | .rollingBack .. | .dropping .. | .rejecting _ |
    .disconnecting | .done => false

/-- The task has reserved its key, and its channel is not open yet. -/
def Phase.holdsKey : Phase → Bool
  | .reserved | .connecting => true
  | .accepted | .channelOpen | .greeted _ | .opening .. | .binding .. | .committing .. |
    .rollingBack .. | .dropping .. | .rejecting _ | .disconnecting | .done => false

/-- The client that a task has to do with. -/
def Phase.client? : Phase → Option String
  | .greeted handshake => some handshake.clientName
  | .opening client _ _ | .binding client _ _ _ | .committing client _ |
    .rollingBack client _ _ _ => some client
  | .accepted | .reserved | .connecting | .channelOpen | .dropping .. | .rejecting _ |
    .disconnecting | .done => none

namespace Task

/-- The task deals with this client over this connection. -/
def IsOf (t : Task) (key client : String) : Prop :=
  t.key = key ∧ ∀ name, t.phase.client? = some name → name = client

/-- The task has another key, and deals with another client. -/
def IsOther (t : Task) (key client : String) : Prop :=
  t.key ≠ key ∧ ∀ name, t.phase.client? = some name → name ≠ client

/-- The client that the hello of a task names, if its token is accepted. -/
def names? (config : Config) (t : Task) : Option String :=
  match authorizedHandshake config t.surroundings.hello with
  | .ok handshake => some handshake.clientName
  | .error _ => none

/-- The names of the tunnels that the hello of a task offers. -/
def offers (config : Config) (t : Task) : List String :=
  match authorizedHandshake config t.surroundings.hello with
  | .ok handshake => handshake.tunnels.names
  | .error _ => []

/-- What the task knows of its client is what the client said in its hello. -/
structure Honest (config : Config) (t : Task) : Prop where
  greeted : ∀ handshake, t.phase = .greeted handshake →
    authorizedHandshake config t.surroundings.hello = .ok handshake
  named : ∀ name, t.phase.client? = some name → t.names? config = some name

theorem honest_accept (config : Config) (key : String) (surroundings : Surroundings) :
    (accept key surroundings).Honest config :=
  ⟨nofun, nofun⟩

theorem Honest.step {s : State} {t : Task} (h : t.Honest s.config) :
    (t.step s).2.Honest s.config := by
  have hsurroundings := t.surroundings_step s
  have hdoes := t.does_step s
  -- Only the hello names a client; from then on the name is passed along.
  suffices hphase : (∀ handshake, (t.step s).2.phase = .greeted handshake →
        authorizedHandshake s.config t.surroundings.hello = .ok handshake) ∧
      ∀ name, (t.step s).2.phase.client? = some name → t.names? s.config = some name by
    rw [names?, ← hsurroundings] at hphase
    exact ⟨hphase.1, hphase.2⟩
  generalize (t.step s).1 = s' at hdoes
  generalize (t.step s).2.phase = phase at hdoes ⊢
  have hkept : ∀ {old : Phase} {client : String}, t.phase = old → old.client? = some client →
      phase.client? = some client →
      ∀ name, phase.client? = some name → t.names? s.config = some name := by
    rintro _ client rfl hold hnew name hname
    rw [hnew, Option.some.injEq] at hname
    exact h.named name (hname ▸ hold)
  cases hdoes with
  | greet _ ok =>
    refine ⟨fun handshake heq => ?_, fun name heq => ?_⟩
    · cases heq
      exact ok
    · cases heq
      rw [names?, ok]
  | subscribe hphase ok => exact ⟨nofun, hkept hphase rfl rfl⟩
  | claim _ hphase => exact ⟨nofun, hkept hphase rfl rfl⟩
  | prepare _ hphase => exact ⟨nofun, hkept hphase rfl rfl⟩
  | lease _ hphase => exact ⟨nofun, hkept hphase rfl rfl⟩
  | listen _ hphase => exact ⟨nofun, hkept hphase rfl rfl⟩
  | unbind _ hphase => exact ⟨nofun, hkept hphase rfl rfl⟩
  | opened hphase => exact ⟨nofun, hkept hphase rfl rfl⟩
  | fail _ hphase =>
    rcases hphase with ⟨left, hphase⟩ | hphase
    · exact ⟨nofun, hkept hphase rfl rfl⟩
    · exact ⟨nofun, hkept hphase rfl rfl⟩
  | release hphase => exact ⟨nofun, hkept hphase rfl rfl⟩
  | _ => exact ⟨nofun, nofun⟩

/-- What a task has still to open was offered in its hello. -/
theorem Honest.offers_eq {config : Config} {t : Task} (h : t.Honest config) {handshake : Handshake}
    (hphase : t.phase = .greeted handshake) : handshake.tunnels.names = t.offers config := by
  rw [offers, h.greeted handshake hphase]

end Task

/-! ## Somebody is left to clear the key -/

/-- What the registry knows of a connection and its client, and who will clear it.
The drivers are given by their keys. -/
structure Tended (key client : String) (r : Registry) (keys : List String)
    (ends : List EndPhase) (phase : Phase) : Prop where
  consistent : r.Consistent
  /-- The connection is that of the client, and of no other. -/
  paired : ∀ name connection held, r.clients.get? name = some ⟨connection, held⟩ →
    (name = client ↔ connection = key)
  cleared : Known r key → phase.holdsKey = true ∨ key ∈ keys ∨ .clearing key ∈ ends
  unsubscribed : phase.isEarly = true → r.clients.get? client = none

namespace Tended

variable {key client : String} {r r' : Registry} {keys keys' : List String}
  {ends ends' : List EndPhase} {phase phase' : Phase}

/-- Nothing has changed in the registry, and who was left to clear the key still is. -/
theorem mono (h : Tended key client r keys ends phase)
    (hheld : phase.holdsKey = true → phase'.holdsKey = true ∨ key ∈ keys')
    (hkeys : key ∈ keys → key ∈ keys' ∨ .clearing key ∈ ends')
    (hends : .clearing key ∈ ends → .clearing key ∈ ends')
    (hearly : phase'.isEarly = true → phase.isEarly = true) :
    Tended key client r keys' ends' phase' :=
  { consistent := h.consistent
    paired := h.paired
    cleared := fun hknown => by
      rcases h.cleared hknown with hphase | hdriver | hclearing
      · rcases hheld hphase with hphase | hdriver
        · exact .inl hphase
        · exact .inr (.inl hdriver)
      · exact .inr (hkeys hdriver)
      · exact .inr (.inr (hends hclearing))
    unsubscribed := fun hphase => h.unsubscribed (hearly hphase) }

/-- The registry does not know the key, and so nobody needs to clear it. -/
theorem of_unknown (hr : r.Consistent)
    (hpaired : ∀ name connection held, r.clients.get? name = some ⟨connection, held⟩ →
      (name = client ↔ connection = key))
    (hnot : ¬ Known r key) : Tended key client r keys ends phase where
  consistent := hr
  paired := hpaired
  cleared hknown := absurd hknown hnot
  unsubscribed _ := by
    rw [Option.eq_none_iff_forall_ne_some]
    rintro ⟨connection, held⟩ hclient
    rw [(hpaired client connection held hclient).1 rfl] at hclient
    exact Registry.clients_ne_of_connections hr (not_known_iff.1 hnot).2 client held hclient

/-- Clearing and unsubscribing leave those in place who were to clear the key. -/
theorem shrink (h : Tended key client r keys ends phase) (hr' : r'.Consistent)
    (hshrinks : Shrinks r r') : Tended key client r' keys ends phase where
  consistent := hr'
  paired name connection held hclient := h.paired name connection held (hshrinks.clients _ _ hclient)
  cleared hknown := h.cleared (hshrinks.known hknown)
  unsubscribed hearly := by
    rw [Option.eq_none_iff_forall_ne_some]
    intro s hclient
    have hnone := h.unsubscribed hearly
    rw [hshrinks.clients client s hclient] at hnone
    cases hnone

/-- Once the key is cleared nobody is needed any more. -/
theorem clear (h : Tended key client r keys ends phase) :
    Tended key client (r.clear key).2 keys' ends' phase' := by
  have hshrinks := shrinks_clear h.consistent key
  exact of_unknown (Registry.consistent_clear key h.consistent)
    (fun name connection held hclient => h.paired name connection held (hshrinks.clients _ _ hclient))
    (not_known_clear h.consistent key)

/-- A client that subscribes or commits leaves the pairing as it is, if it keeps to it itself. -/
theorem paired_insert (h : Tended key client r keys ends phase) {name connection : String}
    {held : Option Holdings} (hnew : name = client ↔ connection = key) :
    ∀ name' connection' held',
      (r.clients.insert name ⟨connection, held⟩).get? name' = some ⟨connection', held'⟩ →
        (name' = client ↔ connection' = key) := by
  intro name' connection' held' hget
  rw [NameMap.get?_insert] at hget
  split at hget
  · next heq =>
    cases hget
    rw [heq]
    exact hnew
  · exact h.paired name' connection' held' hget

/-- A step of the connection's own task. -/
theorem own {s s' : State} {t : Task}
    (h : Tended key client s.registry (s.connections.drivers.map ChannelDriver.key) ends t.phase)
    (ht : t.IsOf key client) (hdoes : t.Does s s' phase) :
    Tended key client s'.registry (s'.connections.drivers.map ChannelDriver.key) ends phase := by
  obtain ⟨hkey, hclient⟩ := ht
  cases hdoes with
  | leave hphase =>
    rw [hphase] at h
    exact h.mono nofun .inl id nofun
  | reserve hphase ok =>
    rw [hphase] at h
    have hconsistent := Registry.consistent_reserve h.consistent ok
    obtain ⟨-, -, rfl⟩ := Registry.reserve_eq_ok ok
    exact ⟨hconsistent, h.paired, fun _ => .inl rfl, fun _ => h.unsubscribed rfl⟩
  | check hphase =>
    rw [hphase] at h
    exact h.mono .inl .inl id fun _ => rfl
  | abandon =>
    rw [hkey]
    exact h.clear
  | register hphase ok =>
    rw [hphase] at h
    obtain ⟨-, rfl⟩ := ConnectionPool.register_eq_ok ok
    -- From now on the driver of the channel is there to clear the key.
    refine h.mono (fun _ => .inr ?_) (fun hdriver => .inl ?_) id fun _ => rfl
    · simp [hkey]
    · rw [List.map_append]
      exact List.mem_append_left _ hdriver
  | greet hphase =>
    rw [hphase] at h
    exact h.mono nofun .inl id fun _ => rfl
  | subscribe hphase ok =>
    rw [hphase] at h hclient
    have hname := hclient _ rfl
    have hconsistent := Registry.consistent_subscribe h.consistent ok
    obtain ⟨-, hpending, rfl⟩ := Registry.subscribe_eq_ok ok
    rw [hkey] at hpending
    refine ⟨hconsistent, h.paired_insert (by simp [hname, hkey]), fun _ => ?_, nofun⟩
    exact (h.cleared (.inl hpending)).imp_left nofun
  | turnDown _ hphase =>
    rcases hphase with hphase | ⟨handshake, hphase⟩
    · rw [hphase] at h
      exact h.mono nofun .inl id nofun
    · rw [hphase] at h
      exact h.mono nofun .inl id nofun
  | @commit _ batch _ hphase ok =>
    rw [hphase] at h
    have hconsistent := Registry.consistent_commit h.consistent ok
    obtain ⟨hold, -, -, rfl⟩ := Registry.commit_eq_ok ok
    exact ⟨hconsistent, h.paired_insert (h.paired _ _ _ hold), fun hknown => h.cleared hknown,
      nofun⟩
  | delete hphase =>
    rw [hphase] at h
    refine h.mono nofun (fun hdriver => .inl ?_) id nofun
    rw [State.deleteChannel, (ConnectionPool.stops_delete _ _).keys]
    exact hdriver
  | fail _ hphase =>
    rcases hphase with ⟨left, hphase⟩ | hphase
    · rw [hphase] at h
      exact h.mono nofun .inl id nofun
    · rw [hphase] at h
      exact h.mono nofun .inl id nofun
  | unbind _ hphase =>
    rw [hphase] at h
    rw [State.registry_releaseListener, State.connections_releaseListener]
    exact h.mono nofun .inl id nofun
  | release hphase =>
    rw [hphase] at h
    rw [State.registry_releaseListener, State.connections_releaseListener]
    exact h.mono nofun .inl id nofun
  | claim _ hphase => exact (hphase ▸ h).mono nofun .inl id nofun
  | prepare _ hphase => exact (hphase ▸ h).mono nofun .inl id nofun
  | lease _ hphase => exact (hphase ▸ h).mono nofun .inl id nofun
  | listen _ hphase => exact (hphase ▸ h).mono nofun .inl id nofun
  | opened hphase => exact (hphase ▸ h).mono nofun .inl id nofun
  | released hphase => exact (hphase ▸ h).mono nofun .inl id nofun
  | drop hphase => exact (hphase ▸ h).mono nofun .inl id nofun
  | reject hphase => exact (hphase ▸ h).mono nofun .inl id nofun
  | rest hphase => exact (hphase ▸ h).mono nofun .inl id nofun

/-- A step of the task of another connection. -/
theorem other {s s' : State} {t : Task}
    (h : Tended key client s.registry (s.connections.drivers.map ChannelDriver.key) ends phase)
    (ht : t.IsOther key client) (hdoes : t.Does s s' phase') :
    Tended key client s'.registry (s'.connections.drivers.map ChannelDriver.key) ends phase := by
  obtain ⟨hkey, hclient⟩ := ht
  have hsame : ∀ {keys' : List String},
      (key ∈ s.connections.drivers.map ChannelDriver.key → key ∈ keys') →
        Tended key client s.registry keys' ends phase :=
    fun hkeys => h.mono .inl (fun hdriver => .inl (hkeys hdriver)) id id
  cases hdoes with
  | reserve _ ok =>
    have hconsistent := Registry.consistent_reserve h.consistent ok
    obtain ⟨-, -, rfl⟩ := Registry.reserve_eq_ok ok
    refine ⟨hconsistent, h.paired, fun hknown => h.cleared (hknown.imp_left fun hpending => ?_),
      h.unsubscribed⟩
    rwa [NameMap.contains, NameMap.get?_insert_of_ne (Ne.symm hkey)] at hpending
  | abandon =>
    exact h.shrink (Registry.consistent_clear t.key h.consistent) (shrinks_clear h.consistent t.key)
  | register _ ok =>
    obtain ⟨-, rfl⟩ := ConnectionPool.register_eq_ok ok
    refine hsame fun hdriver => ?_
    rw [List.map_append]
    exact List.mem_append_left _ hdriver
  | @subscribe handshake _ hphase ok =>
    have hname : handshake.clientName ≠ client := hclient _ (by rw [hphase]; rfl)
    have hconsistent := Registry.consistent_subscribe h.consistent ok
    obtain ⟨-, -, rfl⟩ := Registry.subscribe_eq_ok ok
    refine ⟨hconsistent, h.paired_insert (by simp [hname, hkey]), fun hknown => h.cleared ?_,
      fun hearly => ?_⟩
    · refine hknown.imp (fun hpending => (NameMap.contains_erase_iff.1 hpending).2) ?_
      rintro ⟨name, hconnection⟩
      exact ⟨name, by rwa [NameMap.get?_insert_of_ne (Ne.symm hkey)] at hconnection⟩
    · rw [NameMap.get?_insert_of_ne hname.symm]
      exact h.unsubscribed hearly
  | @commit name batch _ hphase ok =>
    have hname : name ≠ client := hclient _ (by rw [hphase]; rfl)
    have hconsistent := Registry.consistent_commit h.consistent ok
    obtain ⟨hold, -, -, rfl⟩ := Registry.commit_eq_ok ok
    refine ⟨hconsistent, h.paired_insert (h.paired _ _ _ hold), fun hknown => h.cleared hknown,
      fun hearly => ?_⟩
    exact (NameMap.get?_insert_of_ne hname.symm).trans (h.unsubscribed hearly)
  | delete =>
    refine hsame fun hdriver => ?_
    rw [State.deleteChannel, (ConnectionPool.stops_delete _ _).keys]
    exact hdriver
  | unbind => simpa using h
  | release => simpa using h
  | _ => exact h

/-- A step of an end. -/
theorem ending {s s' : State} {before after : List EndPhase} {e e' : EndPhase}
    (h : Tended key client s.registry (s.connections.drivers.map ChannelDriver.key)
      (before ++ e :: after) phase)
    (hdoes : e.Does s s' e') :
    Tended key client s'.registry (s'.connections.drivers.map ChannelDriver.key)
      (before ++ e' :: after) phase := by
  -- An end that was not to clear the key is not missed.
  have hends : e ≠ .clearing key → .clearing key ∈ before ++ e :: after →
      .clearing key ∈ before ++ e' :: after := by
    intro hne hmem
    simp only [List.mem_append, List.mem_cons] at hmem ⊢
    rcases hmem with hmem | heq | hmem
    · exact .inl hmem
    · exact absurd heq.symm hne
    · exact .inr (.inr hmem)
  have hcleared : ∀ (key' : String) {registry : Registry}, e = .clearing key' →
      (s.registry.clear key').2 = registry →
      Tended key client registry (s.connections.drivers.map ChannelDriver.key)
        (before ++ e' :: after) phase := by
    rintro key' _ heq rfl
    by_cases hkey : key' = key
    · rw [hkey]
      exact h.clear
    · have hshrunk := h.shrink (Registry.consistent_clear key' h.consistent)
        (shrinks_clear h.consistent key')
      refine hshrunk.mono .inl .inl (hends fun heq' => hkey ?_) id
      rw [heq, EndPhase.clearing.injEq] at heq'
      exact heq'
  have hunsubscribed : ∀ (key' name : String) {registry : Registry}, e = .unsubscribing key' name →
      (s.registry.unsubscribe key' name).2 = registry →
      Tended key client registry (s.connections.drivers.map ChannelDriver.key)
        (before ++ e' :: after) phase := by
    rintro key' name _ rfl rfl
    have hshrunk := h.shrink (Registry.consistent_unsubscribe key' name h.consistent)
      (shrinks_unsubscribe h.consistent key' name)
    exact hshrunk.mono .inl .inl (hends nofun) id
  cases hdoes with
  | leave d =>
    refine h.mono .inl (fun hdriver => ?_) (hends nofun) id
    obtain ⟨d', hd', hkey⟩ := List.mem_map.1 hdriver
    by_cases heq : d' = d
    · refine .inr ?_
      rw [← hkey, heq]
      simp
    · exact .inl (List.mem_map.2 ⟨d', (List.mem_erase_of_ne heq).2 hd', hkey⟩)
  | @clear key' _ hclear => exact hcleared key' rfl (by rw [hclear])
  | @remove key' _ _ hclear => exact hcleared key' rfl (by rw [hclear])
  | @miss key' name _ hmiss => exact hunsubscribed key' name rfl (by rw [hmiss])
  | @unsubscribe key' name _ _ hremoved => exact hunsubscribed key' name rfl (by rw [hremoved])
  | tearDown =>
    rw [State.registry_tearDown, State.connections_tearDown]
    exact h.mono .inl .inl (hends nofun) id
  | delete client' key' =>
    refine h.mono .inl (fun hdriver => .inl ?_) (hends nofun) id
    rw [State.deleteChannel, (ConnectionPool.stops_delete _ _).keys]
    exact hdriver
  | finish => exact h.mono .inl .inl (hends nofun) id
  | rest => exact h.mono .inl .inl (hends nofun) id

end Tended

/-- The registry holds nothing of a connection. -/
structure Forgot (r : Registry) (key : String) : Prop where
  pending : r.pending.contains key = false
  connection : r.connections.get? key = none
  client : ∀ name held, r.clients.get? name ≠ some ⟨key, held⟩
  host : ∀ host route, r.hosts.get? host = some route → route.connection ≠ key

/-- A consistent registry that does not know a key holds nothing of it. -/
theorem forgot_of_unknown {r : Registry} {key : String} (hr : r.Consistent)
    (hnot : ¬ Known r key) : Forgot r key where
  pending := (not_known_iff.1 hnot).1
  connection := (not_known_iff.1 hnot).2
  client := Registry.clients_ne_of_connections hr (not_known_iff.1 hnot).2
  host := by
    rintro host route hroute rfl
    obtain ⟨name, place, held, ⟨connection, howns⟩, claim, -, -, rfl⟩ := (hr.indexed host route).1 hroute
    rw [← (hr.own name connection held howns).2] at howns
    exact Registry.clients_ne_of_connections hr (not_known_iff.1 hnot).2 name _ howns

/-! ## Runs in which the others have other keys and names -/

/-- What every task knows of its client is what the client said. -/
def World.Honest (w : World) : Prop := ∀ t ∈ w.tasks, t.Honest w.state.config

/-- The connection at this place has this key and names this client, and no other
connection has or names either of them. -/
structure World.Apart (w : World) (p : Nat) (key client : String) : Prop where
  own : ∀ t, w.tasks[p]? = some t →
    t.key = key ∧ ∀ name, t.names? w.state.config = some name → name = client
  others : ∀ q t, q ≠ p → w.tasks[q]? = some t →
    t.key ≠ key ∧ t.names? w.state.config ≠ some client

/-- The task at this place deals with this client over this connection, and no other
task with either of them. -/
structure World.Parted (w : World) (p : Nat) (key client : String) : Prop where
  own : ∀ t, w.tasks[p]? = some t → t.IsOf key client
  others : ∀ q t, q ≠ p → w.tasks[q]? = some t → t.IsOther key client

/-- The phase of the task at a place; one that is still to come is accepted first. -/
def World.phaseAt (w : World) (p : Nat) : Phase := (w.tasks[p]?.map Task.phase).getD .accepted

namespace World

variable {w w' : World} {p : Nat} {key client : String}

theorem Honest.turn (h : w.Honest) (hturn : Turn w w') : w'.Honest := by
  intro t' ht'
  rw [hturn.config]
  cases hturn with
  | accept key surroundings =>
    rcases List.mem_append.1 ht' with hold | hnew
    · exact h t' hold
    · rw [List.mem_singleton.1 hnew]
      exact Task.honest_accept _ key surroundings
  | task before after t ht =>
    rcases eq_or_mem_of_mem_append_cons ht' with rfl | hold
    · exact (h t (by rw [ht]; simp)).step
    · exact h t' (ht ▸ hold)
  | _ => exact h t' ht'

/-- Connections that are apart were so before. -/
theorem Apart.before (h : w'.Apart p key client) (hturn : Turn w w') : w.Apart p key client := by
  have hnames : ∀ {t t' : Task}, t'.surroundings = t.surroundings →
      t'.names? w'.state.config = t.names? w.state.config := by
    intro t t' hsurroundings
    rw [Task.names?, Task.names?, hturn.config, hsurroundings]
  refine ⟨fun t ht => ?_, fun q t hq ht => ?_⟩
  · obtain ⟨t', ht', hkey, hsurroundings⟩ := hturn.task_before ht
    rw [← hkey, ← hnames hsurroundings]
    exact h.own t' ht'
  · obtain ⟨t', ht', hkey, hsurroundings⟩ := hturn.task_before ht
    rw [← hkey, ← hnames hsurroundings]
    exact h.others q t' hq ht'

theorem Apart.parted (h : w.Apart p key client) (hhonest : w.Honest) : w.Parted p key client where
  own t ht := by
    obtain ⟨hkey, hname⟩ := h.own t ht
    exact ⟨hkey, fun name hphase => hname name ((hhonest t (List.mem_of_getElem? ht)).named _ hphase)⟩
  others q t hq ht := by
    obtain ⟨hkey, hname⟩ := h.others q t hq ht
    refine ⟨hkey, ?_⟩
    rintro name hphase rfl
    exact hname ((hhonest t (List.mem_of_getElem? ht)).named _ hphase)

theorem phaseAt_eq {t : Task} (h : w.tasks[p]? = some t) : w.phaseAt p = t.phase := by
  simp [phaseAt, h]

theorem phaseAt_accept (w : World) (p : Nat) (key : String) (surroundings : Surroundings) :
    World.phaseAt { w with tasks := w.tasks ++ [.accept key surroundings] } p = w.phaseAt p := by
  simp only [phaseAt, List.getElem?_append]
  split
  · rfl
  · next hge =>
    rw [List.getElem?_eq_none (Nat.le_of_not_lt hge)]
    rcases p - w.tasks.length with _ | n
    · rfl
    · rfl

/-- The step of a task is seen at its own place. -/
theorem phaseAt_task {before after : List Task} {t : Task} (h : w.tasks = before ++ t :: after)
    (p : Nat) :
    (p = before.length ∧ w.tasks[p]? = some t ∧
      ∀ s t', World.phaseAt ⟨s, before ++ t' :: after, w.ends⟩ p = t'.phase) ∨
    p ≠ before.length ∧ w.tasks[before.length]? = some t ∧
      ∀ s t', World.phaseAt ⟨s, before ++ t' :: after, w.ends⟩ p = w.phaseAt p := by
  have hget : w.tasks[before.length]? = some t := by
    rw [h]
    exact getElem?_append_cons_self before after t
  by_cases hp : p = before.length
  · refine .inl ⟨hp, hp ▸ hget, fun s t' => ?_⟩
    exact phaseAt_eq (hp ▸ getElem?_append_cons_self before after t')
  · refine .inr ⟨hp, hget, fun s t' => ?_⟩
    rw [phaseAt, phaseAt, h]
    exact congrArg (fun t => (t.map Task.phase).getD .accepted) (getElem?_append_cons_of_ne hp)

/-- What the registry knows of the connection, and who will clear it. -/
def IsTended (w : World) (p : Nat) (key client : String) : Prop :=
  Tended key client w.state.registry (w.state.connections.drivers.map ChannelDriver.key) w.ends
    (w.phaseAt p)

/-- One turn leaves somebody to clear the key. -/
theorem IsTended.turn (h : w.IsTended p key client) (hparted : w.Parted p key client)
    (hturn : Turn w w') : w'.IsTended p key client := by
  rw [IsTended] at h ⊢
  cases hturn with
  | accept key' surroundings =>
    rw [phaseAt_accept]
    exact h
  | task before after t ht =>
    rcases phaseAt_task ht p with ⟨-, hget, hphase⟩ | ⟨hp, hget, hphase⟩
    · rw [phaseAt_eq hget] at h
      rw [hphase]
      exact h.own (hparted.own t hget) (t.does_step w.state)
    · rw [hphase]
      exact h.other (hparted.others _ t (Ne.symm hp) hget) (t.does_step w.state)
  | driver d hd fresh =>
    refine h.mono .inl (fun hdriver => .inl ?_) (List.mem_append_left _) id
    exact (ConnectionPool.stops_cancel w.state.connections d.channel).keys ▸ hdriver
  | ending before after e he =>
    rw [he] at h
    exact h.ending (e.does_step w.state)
  | unsubscribe key' name => exact h.mono .inl .inl (List.mem_append_left _) id
  | acceptLoop l =>
    rw [State.endAcceptLoop_eq]
    exact h
  | stop => exact h
  | closeAll _ =>
    refine h.mono .inl (fun hdriver => .inl ?_) id id
    exact (ConnectionPool.stops_closeAll w.state.connections).keys ▸ hdriver

/-- Once its task and the end of its driver are over, the registry does not know the
connection. -/
theorem IsTended.unknown (h : w.IsTended p key client) (hphase : (w.phaseAt p).holdsKey = false)
    (hdrivers : ∀ d ∈ w.state.connections.drivers, d.key ≠ key)
    (hends : .clearing key ∉ w.ends) : ¬ Known w.state.registry key := by
  intro hknown
  rcases h.cleared hknown with hheld | hdriver | hclearing
  · rw [hphase] at hheld
    cases hheld
  · obtain ⟨d, hd, hkey⟩ := List.mem_map.1 hdriver
    exact hdrivers d hd hkey
  · exact hends hclearing

end World

end ReverseTunnel.Server
