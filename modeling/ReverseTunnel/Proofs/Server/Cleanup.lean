import ReverseTunnel.Proofs.PortPool.Ledger
import ReverseTunnel.Proofs.Server.Tending

/-!
# What is left of a connection

A connection can lose its channel between any two steps of its task. Then
`clear`, a rollback or a teardown gives back what it has registered and leased,
and an unsubscription may have been quicker than each of them.

Whichever comes first, the registry does not know the key any more once the task
and the callback of the channel are over, and every port that was leased for the
connection has been freed by exactly one release (`cleaned_up`). This holds for
every run in which all other connections have other keys and other client names.
Of the ports it is said only when no unsubscription of the client has any still to
release. One that came first has left nothing to the callback, which can be over
while the ports are leased (`port_left_to_unsubscription`).

The grants of the client are those behind its entry in the registry, those of its
task, and those of the ends that tear it down (`World.held`). Every turn is an
entry of the ledger of these grants (`World.Accounted.entry`): the steps of the
connection's own task (`Task.Does.entry`), those of the ends
(`EndPhase.Does.entry`), and those of all others, which leave the grants of the
client alone (`Task.Does.apart`).
-/

namespace ReverseTunnel

namespace Server

/-! ## The ledger of a connection -/

theorem owner_of_mem_grantsOf {client : String} {ls : List Listener} {g : Grant}
    (h : g ∈ grantsOf client ls) : g.lease.owner = client := by
  obtain ⟨l, -, -, hlease⟩ := mem_grantsOf_iff.1 h
  rw [hlease]

/-- The grants behind what a client owns in the registry. -/
def heldBy (r : Registry) (client : String) : List Grant :=
  (r.clients.get? client).elim [] Subscriber.grants

theorem heldBy_congr {r r' : Registry} {client : String}
    (h : r'.clients.get? client = r.clients.get? client) : heldBy r' client = heldBy r client := by
  rw [heldBy, heldBy, h]

theorem heldBy_of_get? {r : Registry} {client : String} {s : Subscriber}
    (h : r.clients.get? client = some s) : heldBy r client = s.grants := by
  rw [heldBy, h]
  rfl

theorem heldBy_of_get?_eq_none {r : Registry} {client : String}
    (h : r.clients.get? client = none) : heldBy r client = [] := by
  rw [heldBy, h]
  rfl

/-- The tunnels that a task has still to open. Before it subscribes, these are all that
its hello offers. -/
def Phase.toOpen (offered : List String) : Phase → List String
  | .accepted | .reserved | .connecting | .channelOpen | .greeted _ => offered
  | .opening _ left _ | .binding _ _ left _ => left.map Prod.fst
  | .committing .. | .rollingBack .. | .dropping .. | .rejecting _ | .disconnecting | .done => []

section Steps

variable {key client : String} {offered : List String} {r : Registry} {keys : List String}
  {ends : List EndPhase} {phase phase' : Phase} {s s' : State}

/-- A task holds grants of its own client only. -/
theorem Phase.client?_of_mem_grants {g : Grant} (h : g ∈ phase.grants) :
    phase.client? = some g.lease.owner := by
  cases phase with
  | opening name left batch => exact congrArg some (owner_of_mem_grantsOf h).symm
  | binding name pending left batch =>
    rcases List.mem_append.1 h with hpending | hbatch
    · rw [Option.mem_toList, PendingBind.grant?, Option.map_eq_some_iff] at hpending
      obtain ⟨port, -, rfl⟩ := hpending
      rfl
    · exact congrArg some (owner_of_mem_grantsOf hbatch).symm
  | committing name batch => exact congrArg some (owner_of_mem_grantsOf h).symm
  | rollingBack name left batch fault => exact congrArg some (owner_of_mem_grantsOf h).symm
  | _ => cases h

theorem Tended.get?_clients_clear (h : Tended key client r keys ends phase) {key' : String}
    (hkey : key' ≠ key) : (r.clear key').2.clients.get? client = r.clients.get? client := by
  rcases Registry.clear_eq h.consistent key' with ⟨-, hclear⟩ | ⟨name, held, -, hclient, hclear⟩
  · rw [hclear]
  · rw [hclear]
    refine NameMap.get?_erase_of_ne ?_
    rintro rfl
    exact hkey ((h.paired _ _ _ hclient).1 rfl)

/-- Freeing the port behind a listener of somebody else frees no port of the client. -/
theorem ofOwner_releaseListener_of_ne (s : State) (l : Listener) {name : String}
    (hname : name ≠ client) :
    (ofOwner client (s.releaseListener name l).pool.grants).Perm
      (ofOwner client s.pool.grants) := by
  rw [State.releaseListener_eq]
  cases hport : l.poolPort with
  | none =>
    rw [grantsOf_cons_none hport]
    exact .refl _
  | some port =>
    rw [grantsOf_cons_some hport]
    exact PortPool.ofOwner_released_of_ne hname

/-- A step of the task of another connection leaves the ledger of the client alone. -/
theorem Task.Does.apart {t : Task} (hdoes : t.Does s s' phase')
    (htended : Tended key client s.registry keys ends phase) (ht : t.IsOther key client) :
    heldBy s'.registry client = heldBy s.registry client ∧
      (ofOwner client s'.pool.grants).Perm (ofOwner client s.pool.grants) := by
  obtain ⟨hkey, hclient⟩ := ht
  cases hdoes with
  | reserve _ ok =>
    obtain ⟨-, -, rfl⟩ := Registry.reserve_eq_ok ok
    exact ⟨rfl, .refl _⟩
  | abandon =>
    exact ⟨heldBy_congr (htended.get?_clients_clear hkey), .refl _⟩
  | @subscribe handshake _ hphase ok =>
    have hname : handshake.clientName ≠ client := hclient _ (by rw [hphase]; rfl)
    obtain ⟨-, -, rfl⟩ := Registry.subscribe_eq_ok ok
    exact ⟨heldBy_congr (NameMap.get?_insert_of_ne hname.symm), .refl _⟩
  | lease _ hphase ok =>
    exact ⟨rfl, PortPool.ofOwner_acquire_of_ne ok (hclient _ (by rw [hphase]; rfl))⟩
  | unbind _ hphase =>
    rw [State.registry_releaseListener]
    exact ⟨rfl, ofOwner_releaseListener_of_ne _ _ (hclient _ (by rw [hphase]; rfl))⟩
  | commit hphase ok =>
    have hname := hclient _ (by rw [hphase]; rfl)
    obtain ⟨-, -, -, rfl⟩ := Registry.commit_eq_ok ok
    exact ⟨heldBy_congr (NameMap.get?_insert_of_ne hname.symm), .refl _⟩
  | release hphase =>
    rw [State.registry_releaseListener]
    exact ⟨rfl, ofOwner_releaseListener_of_ne _ _ (hclient _ (by rw [hphase]; rfl))⟩
  | _ => exact ⟨rfl, .refl _⟩

/-- Freeing the port behind a listener of the client takes its grant away. -/
theorem entry_releaseListener (s : State) (client : String) (l : Listener) (others rest : List Grant)
    {names names' : List String} (hnames : names'.Sublist names) :
    Entry client s.pool (others ++ ((l.grant? client).toList ++ rest)) names
      (s.releaseListener client l).pool (others ++ rest) names' (l.grant? client) := by
  rw [State.releaseListener_eq]
  cases hport : l.poolPort with
  | none =>
    have hnone : l.grant? client = none := by simp [Listener.grant?, hport]
    rw [hnone, grantsOf_cons_none hport]
    exact .stay (.refl _) hnames
  | some port =>
    have hsome : l.grant? client = some ⟨⟨client, l.name⟩, port⟩ := by simp [Listener.grant?, hport]
    rw [hsome, grantsOf_cons_some hport]
    exact .free rfl List.perm_middle hnames

/-- A step of the connection's own task is an entry of the ledger. -/
theorem Task.Does.entry {t : Task} (hdoes : t.Does s s' phase')
    (htended : Tended key client s.registry keys ends t.phase) (ht : t.IsOf key client)
    (hoffered : ∀ handshake, t.phase = .greeted handshake → handshake.tunnels.names = offered) :
    Entry client s.pool (heldBy s.registry client ++ t.phase.grants) (t.phase.toOpen offered)
      s'.pool (heldBy s'.registry client ++ phase'.grants) (phase'.toOpen offered) t.release? := by
  obtain ⟨tkey, surroundings, phase⟩ := t
  obtain ⟨hkey, hclient⟩ := ht
  simp only at htended hoffered hclient hkey ⊢
  -- Only a lease and a release touch the pool. The other steps pass grants on, and
  -- what was to be opened stays so at most.
  cases hdoes with
  | leave hphase =>
    obtain rfl : phase = _ := hphase
    exact .stay (.refl _) (List.nil_sublist _)
  | reserve hphase ok =>
    obtain rfl : phase = _ := hphase
    obtain ⟨-, -, rfl⟩ := Registry.reserve_eq_ok ok
    exact .stay (.refl _) (.refl _)
  | check hphase =>
    obtain rfl : phase = _ := hphase
    exact .stay (.refl _) (.refl _)
  | abandon hphase =>
    have hcleared : Tended key client (s.registry.clear key).2 keys ends .accepted := htended.clear
    have hafter : heldBy (s.clear tkey).2.registry client = [] := by
      rw [hkey]
      exact heldBy_of_get?_eq_none (hcleared.unsubscribed rfl)
    rcases hphase with hphase | hphase
    · obtain rfl : phase = _ := hphase
      simp only [heldBy_of_get?_eq_none (htended.unsubscribed rfl), hafter]
      exact .stay (.refl _) (List.nil_sublist _)
    · obtain rfl : phase = _ := hphase
      simp only [heldBy_of_get?_eq_none (htended.unsubscribed rfl), hafter]
      exact .stay (.refl _) (List.nil_sublist _)
  | register hphase ok =>
    obtain rfl : phase = _ := hphase
    exact .stay (.refl _) (.refl _)
  | greet hphase ok =>
    obtain rfl : phase = _ := hphase
    exact .stay (.refl _) (.refl _)
  | @subscribe handshake _ hphase ok =>
    obtain rfl : phase = _ := hphase
    obtain ⟨hfree, -, rfl⟩ := Registry.subscribe_eq_ok ok
    obtain rfl := hclient _ rfl
    have hopened : handshake.tunnels.entries.map Prod.fst = offered := hoffered handshake rfl
    rw [heldBy_of_get?_eq_none hfree, heldBy_of_get? NameMap.get?_insert_self]
    exact .stay (.refl _) (hopened ▸ List.Sublist.refl _)
  | turnDown fault hphase =>
    rcases hphase with hphase | ⟨handshake, hphase⟩
    · obtain rfl : phase = _ := hphase
      exact .stay (.refl _) (List.nil_sublist _)
    · obtain rfl : phase = _ := hphase
      exact .stay (.refl _) (List.nil_sublist _)
  | claim _ hphase =>
    obtain rfl : phase = _ := hphase
    exact .stay (.refl _) (List.sublist_cons_self _ _)
  | prepare address hphase =>
    obtain rfl : phase = _ := hphase
    exact .stay (.refl _) (List.sublist_cons_self _ _)
  | lease address hphase ok =>
    obtain rfl : phase = _ := hphase
    obtain rfl := hclient _ rfl
    exact .lease ok List.perm_middle
  | listen address hphase quiet =>
    obtain rfl : phase = _ := hphase
    rw [quiet]
    refine .stay (List.Perm.append_left _ ?_) (.refl _)
    simp only [Phase.grants]
    rw [grantsOf_append, grantsOf_cons, grantsOf_nil, List.append_nil]
    exact List.perm_append_comm
  | unbind fault hphase issued =>
    obtain rfl : phase = _ := hphase
    obtain rfl := hclient _ rfl
    rw [issued, State.registry_releaseListener]
    exact entry_releaseListener s _ ⟨_, _, _, 0⟩ _ _ (List.nil_sublist _)
  | opened hphase =>
    obtain rfl : phase = _ := hphase
    exact .stay (.refl _) (.refl _)
  | commit hphase ok =>
    obtain rfl : phase = _ := hphase
    obtain rfl := hclient _ rfl
    obtain ⟨hold, -, -, rfl⟩ := Registry.commit_eq_ok ok
    have hbefore := heldBy_of_get? hold
    rw [Task.holdings] at hbefore
    rw [hbefore, heldBy_of_get? NameMap.get?_insert_self]
    exact .stay (List.perm_append_comm) (.refl _)
  | fail fault hphase =>
    rcases hphase with ⟨left, hphase⟩ | hphase
    · obtain rfl : phase = _ := hphase
      exact .stay (.refl _) (List.nil_sublist _)
    · obtain rfl : phase = _ := hphase
      exact .stay (.refl _) (.refl _)
  | release hphase =>
    obtain rfl : phase = _ := hphase
    obtain rfl := hclient _ rfl
    rw [State.registry_releaseListener]
    simp only [Phase.grants, grantsOf_cons]
    exact entry_releaseListener s _ _ _ _ (.refl _)
  | released hphase =>
    obtain rfl : phase = _ := hphase
    exact .stay (.refl _) (.refl _)
  | drop hphase =>
    obtain rfl : phase = _ := hphase
    exact .stay (.refl _) (.refl _)
  | reject hphase =>
    obtain rfl : phase = _ := hphase
    exact .stay (.refl _) (.refl _)
  | delete hphase =>
    obtain rfl : phase = _ := hphase
    exact .stay (.refl _) (.refl _)
  | rest hphase =>
    obtain rfl : phase = _ := hphase
    exact .stay (.refl _) (.refl _)

/-- The grants of a client that is removed pass to whoever removes it. -/
theorem heldBy_without (hr : r.Consistent) {name : String} {subscriber : Subscriber}
    (hclient : r.clients.get? name = some subscriber) (client : String) :
    heldBy (r.without name subscriber) client ++ ofOwner client subscriber.grants =
      heldBy r client := by
  have howner := fun g => hr.owner_eq (g := g) hclient
  by_cases hname : name = client
  · rw [hname] at hclient howner ⊢
    rw [heldBy_of_get?_eq_none NameMap.get?_erase_self, heldBy_of_get? hclient, List.nil_append]
    exact ofOwner_eq_self howner
  · have hsame : heldBy (r.without name subscriber) client = heldBy r client :=
      heldBy_congr (NameMap.get?_erase_of_ne (Ne.symm hname))
    rw [hsame, ofOwner_eq_nil fun g hg => (howner g hg).symm ▸ hname, List.append_nil]

theorem heldBy_clear (hr : r.Consistent) (key client : String) :
    heldBy (r.clear key).2 client ++ ofOwner client (heldGrants (r.clear key).1) =
      heldBy r client := by
  rcases Registry.clear_eq hr key with ⟨-, hclear⟩ | ⟨name, held, -, hclient, hclear⟩
  · rw [hclear]
    exact List.append_nil _
  · rw [hclear]
    exact heldBy_without hr hclient client

theorem heldBy_unsubscribe (hr : r.Consistent) (key name client : String) :
    heldBy (r.unsubscribe key name).2 client ++
      ofOwner client (heldGrants (r.unsubscribe key name).1) = heldBy r client := by
  rcases Registry.unsubscribe_eq hr key name with hsame | ⟨held, hclient, hremoved⟩
  · rw [hsame]
    exact List.append_nil _
  · rw [hremoved]
    exact heldBy_without hr hclient client

/-- A step of an end is an entry of the ledger; a release for somebody else is none. -/
theorem EndPhase.Does.entry {e e' : EndPhase} (hdoes : e.Does s s' e')
    (hr : s.registry.Consistent) (client : String) (names : List String) :
    Entry client s.pool (heldBy s.registry client ++ ofOwner client e.grants) names
      s'.pool (heldBy s'.registry client ++ ofOwner client e'.grants) names
      (e.release?.filter fun g => g.lease.owner == client) := by
  have hcleared := fun key => heldBy_clear hr key client
  have hunsubscribed := fun key name => heldBy_unsubscribe hr key name client
  cases hdoes with
  | @clear key _ hclear =>
    have hsame := hcleared key
    rw [hclear] at hsame
    exact .stay (.of_eq (hsame.trans (List.append_nil _).symm)) (.refl _)
  | @remove key _ _ hclear =>
    have hsame := hcleared key
    rw [hclear] at hsame
    exact .stay (.of_eq (hsame.trans (List.append_nil _).symm)) (.refl _)
  | @miss key name _ hmiss =>
    have hsame := hunsubscribed key name
    rw [hmiss] at hsame
    exact .stay (.of_eq (hsame.trans (List.append_nil _).symm)) (.refl _)
  | @unsubscribe key name _ _ hremoved =>
    have hsame := hunsubscribed key name
    rw [hremoved] at hsame
    exact .stay (.of_eq (hsame.trans (List.append_nil _).symm)) (.refl _)
  | tearDown name l left channel =>
    rw [State.registry_tearDown]
    simp only [EndPhase.grants, EndPhase.release?]
    by_cases hname : name = client
    · rw [hname, ofOwner_eq_self fun g => owner_of_mem_grantsOf,
        ofOwner_eq_self fun g => owner_of_mem_grantsOf, grantsOf_cons]
      have hself : (l.grant? client).filter (fun g => g.lease.owner == client) = l.grant? client := by
        cases hport : l.poolPort <;> simp [Listener.grant?, hport]
      rw [hself]
      exact entry_releaseListener { s with closed := s.closed.close l } client l _ _ (.refl _)
    · have hnone : ∀ ls, ofOwner client (grantsOf name ls) = [] := fun ls =>
        ofOwner_eq_nil fun g hg => (owner_of_mem_grantsOf hg).symm ▸ hname
      have hquiet : (l.grant? name).filter (fun g => g.lease.owner == client) = none := by
        cases hport : l.poolPort <;> simp [Listener.grant?, hport, hname]
      rw [hnone, hnone, hquiet]
      exact .keep (ofOwner_releaseListener_of_ne _ l hname) (.refl _) (.refl _)
  | _ => exact .stay (.refl _) (.refl _)

/-- Whoever tears the client down has cleared its key, or will delete its channel. -/
def HandsOver (key client : String) (e : EndPhase) : Prop :=
  ∀ left channel, e = .tearingDown client left channel → channel = none ∨ channel = some key

theorem EndPhase.Does.handsOver {e e' : EndPhase} (hdoes : e.Does s s' e')
    (htended : Tended key client s.registry keys ends phase) (he : HandsOver key client e) :
    HandsOver key client e' := by
  rintro left channel rfl
  cases hdoes with
  | remove => exact .inl rfl
  | @unsubscribe key' name held _ hremoved =>
    rcases Registry.unsubscribe_eq htended.consistent key' name with hsame | ⟨held', hclient, hremoved'⟩
    · rw [hsame] at hremoved
      cases hremoved
    · -- The client that was removed is the one of the connection, so the key is too.
      rw [hremoved'] at hremoved
      obtain ⟨rfl, -⟩ := Prod.mk.inj hremoved
      have hname := (htended.consistent.own name key' held hclient).1
      exact .inr (congrArg some ((htended.paired _ _ _ hclient).1 hname.symm))
  | tearDown _ l => exact he (l :: left) channel rfl

end Steps

/-! ## Turns -/

/-- The grants of the client: behind its entry in the registry, in the hands of its task,
and of the ends that tear it down. -/
def World.held (w : World) (p : Nat) (client : String) : List Grant :=
  heldBy w.state.registry client ++
    ((w.phaseAt p).grants ++ ofOwner client (w.ends.flatMap EndPhase.grants))

/-- The tunnels that the connection at a place has still to open. -/
def World.toOpen (w : World) (p : Nat) (offered : List String) : List String :=
  (w.phaseAt p).toOpen offered

/-- What is known of a connection in a run in which the others are apart from it. -/
structure World.Accounted (w : World) (p : Nat) (key client : String) : Prop where
  honest : w.Honest
  parted : w.Parted p key client
  tended : w.IsTended p key client
  handed : ∀ e ∈ w.ends, HandsOver key client e

section Turns

variable {w w' : World} {p : Nat} {key client : String} {offered : List String}

/-- The turn of a task is an entry of the ledger; a release for somebody else is none. -/
theorem World.Accounted.entry_task (h : w.Accounted p key client)
    (hoffered : ∀ t, w.tasks[p]? = some t → t.offers w.state.config = offered)
    {before after : List Task} {t : Task} (ht : w.tasks = before ++ t :: after) :
    Entry client w.state.pool (w.held p client) (w.toOpen p offered) (t.step w.state).1.pool
      (World.held ⟨(t.step w.state).1, before ++ (t.step w.state).2 :: after, w.ends⟩ p client)
      (World.toOpen ⟨(t.step w.state).1, before ++ (t.step w.state).2 :: after, w.ends⟩ p offered)
      (t.release?.filter fun g => g.lease.owner == client) := by
  have htended := h.tended
  rw [World.IsTended] at htended
  rcases w.phaseAt_task ht p with ⟨-, hget, hphase⟩ | ⟨hp, hget, hphase⟩
  · have hown := h.parted.own t hget
    have hself : (t.release?.filter fun g => g.lease.owner == client) = t.release? := by
      cases hissued : t.release? with
      | none => rfl
      | some g =>
        have hclient := Phase.client?_of_mem_grants (Task.mem_grants_of_release? hissued)
        simp [hown.2 _ hclient]
    have hhonest := h.honest t (List.mem_of_getElem? hget)
    rw [World.phaseAt_eq hget] at htended
    have hentry := (t.does_step w.state).entry htended hown fun handshake hgreeted =>
      (hhonest.offers_eq hgreeted).trans (hoffered t hget)
    have hall := hentry.append (ofOwner client (w.ends.flatMap EndPhase.grants))
    rw [hself, World.held, World.held, World.toOpen, World.toOpen, hphase, World.phaseAt_eq hget]
    exact hall.perm (.of_eq (List.append_assoc _ _ _)) (.of_eq (List.append_assoc _ _ _))
  · have hother := h.parted.others _ t (Ne.symm hp) hget
    have hquiet : (t.release?.filter fun g => g.lease.owner == client) = none := by
      rw [Option.filter_eq_none_iff]
      intro g hissued howner
      have hclient := Phase.client?_of_mem_grants (Task.mem_grants_of_release? hissued)
      exact hother.2 _ hclient (by simpa using howner)
    obtain ⟨hheld, hpool⟩ := (t.does_step w.state).apart htended hother
    rw [hquiet, World.held, World.held, World.toOpen, World.toOpen, hphase, hheld]
    exact .keep hpool (.refl _) (.refl _)

/-- The turn of an end is one too. -/
theorem World.Accounted.entry_ending (h : w.Accounted p key client) (offered : List String)
    {before after : List EndPhase} {e : EndPhase} (he : w.ends = before ++ e :: after) :
    Entry client w.state.pool (w.held p client) (w.toOpen p offered) (e.step w.state).1.pool
      (World.held ⟨(e.step w.state).1, w.tasks, before ++ (e.step w.state).2 :: after⟩ p client)
      (w.toOpen p offered) (e.release?.filter fun g => g.lease.owner == client) := by
  have hentry := (e.does_step w.state).entry h.tended.consistent client (w.toOpen p offered)
  -- The grants of this end are picked from those of all ends.
  have hpick : ∀ (own : List Grant) (e : EndPhase),
      ((own ++ ofOwner client e.grants) ++
        ((w.phaseAt p).grants ++ ofOwner client ((before ++ after).flatMap EndPhase.grants))).Perm
      (own ++ ((w.phaseAt p).grants ++
        ofOwner client ((before ++ e :: after).flatMap EndPhase.grants))) := by
    intro own e
    have hends : ((before ++ e :: after).flatMap EndPhase.grants).Perm
        (e.grants ++ (before ++ after).flatMap EndPhase.grants) :=
      List.perm_middle.flatMap_right EndPhase.grants
    have howned := perm_ofOwner client hends
    rw [ofOwner_append] at howned
    rw [List.append_assoc]
    refine List.Perm.append_left own (List.Perm.trans ?_ (howned.symm.append_left _))
    rw [← List.append_assoc, ← List.append_assoc]
    exact List.perm_append_comm.append_right _
  rw [World.held, World.held, he]
  exact (hentry.append _).perm (hpick _ e) (hpick _ _)

/-- A release for the client is an entry that says so. -/
theorem World.Accounted.entry_releases (h : w.Accounted p key client)
    (hoffered : ∀ t, w.tasks[p]? = some t → t.offers w.state.config = offered) {g : Grant}
    (hreleases : Releases w w' g) (howner : g.lease.owner = client) :
    Entry client w.state.pool (w.held p client) (w.toOpen p offered) w'.state.pool
      (w'.held p client) (w'.toOpen p offered) (some g) := by
  cases hreleases with
  | task before after t ht issued =>
    have hentry := h.entry_task hoffered ht
    rwa [issued, Option.filter_some_pos (by simpa using howner)] at hentry
  | ending before after e he issued =>
    have hentry := h.entry_ending offered he
    rwa [issued, Option.filter_some_pos (by simpa using howner)] at hentry

/-- Every turn is an entry of the ledger, and tells exactly the releases for the client. -/
theorem World.Accounted.entry (h : w.Accounted p key client)
    (hoffered : ∀ t, w.tasks[p]? = some t → t.offers w.state.config = offered)
    (hturn : Turn w w') :
    ∃ r, Entry client w.state.pool (w.held p client) (w.toOpen p offered) w'.state.pool
        (w'.held p client) (w'.toOpen p offered) r ∧
      ∀ g, g.lease.owner = client → (Releases w w' g ↔ r = some g) := by
  suffices hissued : ∃ r, Entry client w.state.pool (w.held p client) (w.toOpen p offered)
      w'.state.pool (w'.held p client) (w'.toOpen p offered) r ∧
        ∀ g, r = some g → Releases w w' g by
    obtain ⟨r, hentry, hr⟩ := hissued
    refine ⟨r, hentry, fun g howner => ⟨fun hreleases => ?_, hr g⟩⟩
    exact hentry.unique (h.entry_releases hoffered hreleases howner)
  cases hturn with
  | accept key' surroundings =>
    refine ⟨none, ?_, nofun⟩
    rw [World.held, World.held, World.toOpen, World.toOpen, World.phaseAt_accept]
    exact .stay (.refl _) (.refl _)
  | task before after t ht =>
    refine ⟨_, h.entry_task hoffered ht, fun g hg => .task before after t ht ?_⟩
    exact (Option.filter_eq_some_iff.1 hg).1
  | ending before after e he =>
    refine ⟨_, h.entry_ending offered he, fun g hg => .ending before after e he ?_⟩
    exact (Option.filter_eq_some_iff.1 hg).1
  | driver d hd fresh =>
    refine ⟨none, .stay (.of_eq ?_) (.refl _), nofun⟩
    simp [World.held, World.phaseAt, EndPhase.grants]
  | unsubscribe key' name =>
    refine ⟨none, .stay (.of_eq ?_) (.refl _), nofun⟩
    simp [World.held, World.phaseAt, EndPhase.grants]
  | acceptLoop l =>
    refine ⟨none, ?_, nofun⟩
    rw [State.endAcceptLoop_eq]
    exact .stay (.refl _) (.refl _)
  | stop => exact ⟨none, .stay (.refl _) (.refl _), nofun⟩
  | closeAll _ => exact ⟨none, .stay (.refl _) (.refl _), nofun⟩

/-- One turn keeps what is known of the connection, if the others stay apart. -/
theorem World.Accounted.turn (h : w.Accounted p key client) (hturn : Turn w w')
    (hapart : w'.Apart p key client) : w'.Accounted p key client where
  honest := h.honest.turn hturn
  parted := hapart.parted (h.honest.turn hturn)
  tended := h.tended.turn h.parted hturn
  handed := by
    have hnew : ∀ e₀, HandsOver key client e₀ → ∀ e ∈ w.ends ++ [e₀], HandsOver key client e := by
      intro e₀ he₀ e he
      rcases List.mem_append.1 he with hold | hlast
      · exact h.handed e hold
      · exact List.mem_singleton.1 hlast ▸ he₀
    cases hturn with
    | driver d hd fresh => exact hnew _ nofun
    | unsubscribe key' name => exact hnew _ nofun
    | ending before after e₀ he₀ =>
      intro e he
      rcases eq_or_mem_of_mem_append_cons he with rfl | hold
      · have htended := h.tended
        exact (e₀.does_step w.state).handsOver htended (h.handed e₀ (by rw [he₀]; simp))
      · exact h.handed e (he₀ ▸ hold)
    | _ => exact h.handed

end Turns

/-! ## Runs -/

/-- The channel of a connection has ended, and so has the callback that clears what the
connection registered and tears down its client. -/
structure World.Over (w : World) (key client : String) : Prop where
  driver : ∀ d ∈ w.state.connections.drivers, d.key ≠ key
  cleared : .clearing key ∉ w.ends
  tornDown : ∀ left, .tearingDown client left none ∉ w.ends

/-- An unsubscription of the connection's client is under way, and has still to release
this grant. -/
def World.Unsubscribing (w : World) (key client : String) (g : Grant) : Prop :=
  ∃ left, .tearingDown client left (some key) ∈ w.ends ∧ g ∈ grantsOf client left

/-- Once a connection is over its registration is gone, and all its grants that are left
are those that an unsubscription has still to release. -/
theorem World.Accounted.forgot {w : World} {p : Nat} {key client : String}
    (h : w.Accounted p key client) {t : Task} (ht : w.tasks[p]? = some t)
    (hdone : t.phase = .done) (hover : w.Over key client) :
    Forgot w.state.registry key ∧ ∀ g ∈ w.held p client, w.Unsubscribing key client g := by
  have hphase : w.phaseAt p = .done := (World.phaseAt_eq ht).trans hdone
  have hnot := h.tended.unknown (by rw [hphase]; rfl) hover.driver hover.cleared
  refine ⟨forgot_of_unknown h.tended.consistent hnot, fun g hg => ?_⟩
  have hfree : w.state.registry.clients.get? client = none := by
    rw [Option.eq_none_iff_forall_ne_some]
    rintro ⟨connection, held⟩ hclient
    rw [(h.tended.paired _ _ _ hclient).1 rfl] at hclient
    exact Registry.clients_ne_of_connections h.tended.consistent (not_known_iff.1 hnot).2 client held hclient
  rw [World.held, heldBy_of_get?_eq_none hfree, hphase, List.nil_append] at hg
  obtain ⟨hmem, howner⟩ := mem_ofOwner.1 hg
  obtain ⟨e, he, hge⟩ := List.mem_flatMap.1 hmem
  cases e with
  | tearingDown name left channel =>
    obtain rfl : name = client := (owner_of_mem_grantsOf hge).symm.trans howner
    rcases h.handed _ he left channel rfl with rfl | rfl
    · exact absurd he (hover.tornDown left)
    · exact ⟨left, he, hge⟩
  | _ => cases hge

theorem Task.nodup_offers (config : Config) (t : Task) : (t.offers config).Nodup := by
  rw [offers]
  split
  · exact NameMap.nodup_names _
  · exact List.nodup_nil

/-- At the start nothing is known of any connection. -/
theorem accounted_start (config : Config) (pool : PortPool) (p : Nat) (key client : String) :
    World.Accounted ⟨State.fresh config pool, [], []⟩ p key client where
  honest _ ht := absurd ht List.not_mem_nil
  parted := ⟨fun _ ht => (nomatch ht), fun _ _ _ ht => (nomatch ht)⟩
  tended := Tended.of_unknown Registry.consistent_empty (fun _ _ _ h => (nomatch h))
    (not_known_iff.2 ⟨rfl, rfl⟩)
  handed _ he := absurd he List.not_mem_nil

section Run

variable {w : Nat → World} {n p : Nat} {key client : String}

/-- What the other connections are called at the end of a run, and what a connection
offers, is fixed throughout the run. -/
theorem apart_of_run (hrun : ∀ i < n, Turn (w i) (w (i + 1))) {t : Task}
    (ht : (w n).tasks[p]? = some t) (hapart : (w n).Apart p key client) (k : Nat) (hk : k ≤ n) :
    (w k).Apart p key client ∧ ∀ t', (w k).tasks[p]? = some t' →
      t'.offers (w k).state.config = t.offers (w n).state.config := by
  induction hk using Nat.decreasingInduction with
  | self =>
    refine ⟨hapart, fun t' ht' => ?_⟩
    rw [ht] at ht'
    cases ht'
    rfl
  | of_succ k hk ih =>
    refine ⟨ih.1.before (hrun k hk), fun t' ht' => ?_⟩
    obtain ⟨t'', ht'', -, hsurroundings⟩ := (hrun k hk).task_before ht'
    rw [← ih.2 t'' ht'', (hrun k hk).config, Task.offers, Task.offers, hsurroundings]

/-- The grants of a connection that all others stay apart from are accounted for
throughout a run. -/
theorem accounted_of_run {config : Config} {pool : PortPool}
    (hfirst : w 0 = ⟨State.fresh config pool, [], []⟩) (hrun : ∀ i < n, Turn (w i) (w (i + 1)))
    (hapart : ∀ k ≤ n, (w k).Apart p key client) (k : Nat) (hk : k ≤ n) :
    (w k).Accounted p key client := by
  induction k with
  | zero =>
    rw [hfirst]
    exact accounted_start config pool p key client
  | succ k ih => exact (ih (Nat.le_of_succ_le hk)).turn (hrun k hk) (hapart _ hk)

end Run

/-- Exactly one of the first turns of a run issues the release of a grant, and this
release frees the port of the grant. -/
def ReleasedOnce (w : Nat → World) (n : Nat) (g : Grant) : Prop :=
  ∃ j < n, Releases (w j) (w (j + 1)) g ∧ (w j).state.pool.Frees g ∧
    ∀ j' < n, Releases (w j') (w (j' + 1)) g → j' = j

section Run

variable {config : Config} {listen : String → Except SystemError SocketAddress} {s₀ : State}
  {address : SocketAddress} {w : Nat → World} {n p : Nat} {t : Task} {key client : String}

/-- Once a connection is over, each port that was leased for it was released exactly once
and is not leased any more; or an unsubscription has still to release it, and nobody has
done so yet. -/
theorem released_or_unsubscribing (hstart : State.start config listen = .ok (s₀, address))
    (hfirst : w 0 = ⟨s₀, [], []⟩) (hrun : ∀ i < n, Turn (w i) (w (i + 1)))
    (ht : (w n).tasks[p]? = some t) (hdone : t.phase = .done)
    (hapart : (w n).Apart p key client) (hover : (w n).Over key client) :
    Forgot (w n).state.registry key ∧
    ∀ i < n, ∀ g : Grant, g.lease.owner = client → g ∉ (w i).state.pool.grants →
      g ∈ (w (i + 1)).state.pool.grants →
        ReleasedOnce w n g ∧ g ∉ (w n).state.pool.grants ∨
        (w n).Unsubscribing key client g ∧ ∀ j < n, ¬ Releases (w j) (w (j + 1)) g := by
  obtain ⟨pool, hpool, rfl⟩ := start_eq_ok hstart
  have hfixed := apart_of_run hrun ht hapart
  have haccounted := accounted_of_run hfirst hrun (fun k hk => (hfixed k hk).1)
  have hentry : ∀ k < n, ∃ r, Entry client (w k).state.pool ((w k).held p client)
      ((w k).toOpen p (t.offers (w n).state.config)) (w (k + 1)).state.pool
      ((w (k + 1)).held p client) ((w (k + 1)).toOpen p (t.offers (w n).state.config)) r ∧
        ∀ g, g.lease.owner = client → (Releases (w k) (w (k + 1)) g ↔ r = some g) :=
    fun k hk => (haccounted k (Nat.le_of_lt hk)).entry (hfixed k (Nat.le_of_lt hk)).2 (hrun k hk)
  have hbalanced : ∀ k ≤ n, Balanced client (w k).state.pool ((w k).held p client)
      ((w k).toOpen p (t.offers (w n).state.config)) := by
    intro k hk
    induction k with
    | zero =>
      rw [hfirst]
      refine ⟨?_, t.nodup_offers _⟩
      change (ofOwner client pool.grants).Perm []
      rw [hpool]
      exact .refl _
    | succ k ih =>
      obtain ⟨r, hr, -⟩ := hentry k hk
      exact (ih (Nat.le_of_succ_le hk)).entry hr
  obtain ⟨hforgot, hleft⟩ := (haccounted n (Nat.le_refl n)).forgot ht hdone hover
  refine ⟨hforgot, fun i hi g howner hbefore hafter => ?_⟩
  have hheld : ∀ k ≤ n, (g ∈ (w k).held p client ↔ g ∈ (w k).state.pool.grants) :=
    fun k hk => (hbalanced k hk).mem_iff howner
  rcases released_once (hbalanced 0 (Nat.zero_le n)) hentry hi
      (mt (hheld i (Nat.le_of_lt hi)).1 hbefore) ((hheld (i + 1) hi).2 hafter) with
    ⟨hmem, hnone⟩ | ⟨hgone, j, hj, hreleases, honly⟩
  · exact .inr ⟨hleft g hmem, hnone⟩
  · refine .inl ⟨⟨j, hj, hreleases, ?_, honly⟩, mt (hheld n (Nat.le_refl n)).2 hgone⟩
    obtain ⟨r, hr, hissued⟩ := hentry j hj
    rw [(hissued g howner).1 hreleases] at hr
    exact (hbalanced j (Nat.le_of_lt hj)).frees hr.mem_of_released

/-- In every interleaved run from the start of a server in which the other connections
have other keys and other client names: once the task of a connection is done and the
callback of its channel is over, the registry holds nothing of it. If no unsubscription
of its client has ports still to release, every port that was leased for it on the way
was released exactly once and is not leased any more. -/
theorem cleaned_up (hstart : State.start config listen = .ok (s₀, address))
    (hfirst : w 0 = ⟨s₀, [], []⟩) (hrun : ∀ i < n, Turn (w i) (w (i + 1)))
    (ht : (w n).tasks[p]? = some t) (hdone : t.phase = .done)
    (hapart : (w n).Apart p key client) (hover : (w n).Over key client) :
    Forgot (w n).state.registry key ∧
    ((∀ g, ¬ (w n).Unsubscribing key client g) →
      ∀ i < n, ∀ g : Grant, g.lease.owner = client → g ∉ (w i).state.pool.grants →
        g ∈ (w (i + 1)).state.pool.grants →
          ReleasedOnce w n g ∧ g ∉ (w n).state.pool.grants) := by
  obtain ⟨hforgot, hports⟩ :=
    released_or_unsubscribing hstart hfirst hrun ht hdone hapart hover
  refine ⟨hforgot, fun hquiet i hi g howner hbefore hafter => ?_⟩
  rcases hports i hi g howner hbefore hafter with hreleased | ⟨hleft, -⟩
  · exact hreleased
  · exact absurd hleft (hquiet g)

end Run

/-! ## A connection that is cut off -/

/-- Whether a connection is apart can be read off the tasks and their places. -/
instance World.decidableApart (w : World) (p : Nat) (key client : String) :
    Decidable (w.Apart p key client) :=
  decidable_of_iff
    (∀ e ∈ w.tasks.zipIdx,
      (e.2 = p → e.1.key = key ∧ ∀ name ∈ e.1.names? w.state.config, name = client) ∧
      (e.2 ≠ p → e.1.key ≠ key ∧ e.1.names? w.state.config ≠ some client)) <| by
    constructor
    · intro h
      refine ⟨fun t ht => ?_, fun q t hq ht => ?_⟩
      · exact (h (t, p) (List.mk_mem_zipIdx_iff_getElem?.2 ht)).1 rfl
      · exact (h (t, q) (List.mk_mem_zipIdx_iff_getElem?.2 ht)).2 hq
    · rintro ⟨hown, hothers⟩ ⟨t, q⟩ he
      have ht := List.mk_mem_zipIdx_iff_getElem?.1 he
      refine ⟨?_, fun hq => hothers q t hq ht⟩
      rintro rfl
      exact hown t ht

/-- The end is the callback of a channel with this key, or tears down the client that one
has cleared. -/
def EndPhase.isCallback (key client : String) : EndPhase → Bool
  | .clearing key' => key' == key
  | .tearingDown name _ none => name == client
  | .leaving _ | .unsubscribing .. | .tearingDown _ _ (some _) | .done _ => false

instance World.decidableOver (w : World) (key client : String) : Decidable (w.Over key client) :=
  decidable_of_iff
    ((∀ d ∈ w.state.connections.drivers, d.key ≠ key) ∧
      ∀ e ∈ w.ends, e.isCallback key client = false) <| by
    constructor
    · rintro ⟨hdrivers, hends⟩
      refine ⟨hdrivers, fun he => ?_, fun left he => ?_⟩
      · simpa [EndPhase.isCallback] using hends _ he
      · simpa [EndPhase.isCallback] using hends _ he
    -- Conversely, each of the two kinds of callback is ruled out by its own clause.
    · rintro ⟨hdrivers, hcleared, htornDown⟩
      refine ⟨hdrivers, fun e he => ?_⟩
      rw [← Bool.not_eq_true]
      intro hcallback
      cases e with
      | clearing key' => exact hcleared (beq_iff_eq.1 hcallback ▸ he)
      | tearingDown name left channel =>
        cases channel with
        | none => exact htornDown left (beq_iff_eq.1 hcallback ▸ he)
        | some key' => cases hcallback
      | _ => cases hcallback

/-- The end is over. -/
def EndPhase.isDone : EndPhase → Bool
  | .done _ => true
  | _ => false

/-- Ends that are over have nothing to release. -/
theorem not_unsubscribing_of_isDone {w : World} (h : ∀ e ∈ w.ends, e.isDone = true)
    (key client : String) (g : Grant) : ¬ w.Unsubscribing key client g := by
  rintro ⟨left, he, -⟩
  exact Bool.false_ne_true (h _ he)

/-- Client `b` is connected. Client `a` connects and binds its listener; then its channel
is lost and its name is cleared, so that its task cannot commit and rolls back. -/
def cutOff : List Choice :=
  .accept "10.0.0.1:5000" (greeting "b") :: List.replicate 9 (.task 0) ++
    .accept "10.0.0.2:5000" (greeting "a") :: List.replicate 7 (.task 1) ++
    .driver 1 :: List.replicate 2 (.ending 0) ++ List.replicate 7 (.task 1)

/-- Control: nothing is left of `a`, and its port was released once, by its task. -/
theorem cleaned_up_cutOff :
    (freshWorld.after cutOff 28).Apart 1 "10.0.0.2:5000" "a" ∧
      (freshWorld.after cutOff 28).Over "10.0.0.2:5000" "a" ∧
      (∀ g, ¬ (freshWorld.after cutOff 28).Unsubscribing "10.0.0.2:5000" "a" g) ∧
      Forgot (freshWorld.after cutOff 28).state.registry "10.0.0.2:5000" ∧
      ReleasedOnce (freshWorld.after cutOff) 28 ⟨⟨"a", "t"⟩, 7001⟩ ∧
      (⟨⟨"a", "t"⟩, 7001⟩ : Grant) ∉ (freshWorld.after cutOff 28).state.pool.grants := by
  have hsome : (freshWorld.worlds? cutOff).isSome = true := by decide +kernel
  have htask : (freshWorld.after cutOff 28).tasks[1]?.map Task.isDone = some true := by
    decide +kernel
  have hapart : (freshWorld.after cutOff 28).Apart 1 "10.0.0.2:5000" "a" := by decide +kernel
  have hover : (freshWorld.after cutOff 28).Over "10.0.0.2:5000" "a" := by decide +kernel
  have hends : ∀ e ∈ (freshWorld.after cutOff 28).ends, e.isDone = true := by decide +kernel
  have hquiet := not_unsubscribing_of_isDone hends "10.0.0.2:5000" "a"
  have hleased : (⟨⟨"a", "t"⟩, 7001⟩ : Grant) ∉ (freshWorld.after cutOff 16).state.pool.grants ∧
      ⟨⟨"a", "t"⟩, 7001⟩ ∈ (freshWorld.after cutOff 17).state.pool.grants := by decide +kernel
  obtain ⟨t, ht, hdone⟩ := Option.map_eq_some_iff.1 htask
  obtain ⟨hforgot, hports⟩ := cleaned_up (w := freshWorld.after cutOff) (n := 28) start_twoPorts rfl
    (fun i hi => turn_after hsome hi) ht (Task.phase_of_isDone hdone) hapart hover
  exact ⟨hapart, hover, hquiet, hforgot, hports hquiet 16 (by decide) _ rfl hleased.1 hleased.2⟩

/-- Client `a` is connected and is taken from the registry to be unsubscribed. Before its
listener is torn down the channel is lost, and the callback finds nothing to clear. After
that the unsubscription goes on. -/
def unsubscribedFirst : List Choice :=
  connected ++ [.unsubscribe "10.0.0.1:5000" "a", .ending 0, .driver 0, .ending 1, .ending 1,
    .ending 0]

/-- After 15 of these turns the task of `a` is done and the callback of its channel is over,
and the port of `a` is leased and was never released. It is for the unsubscription to
release it, which it does with its next turn. -/
theorem port_left_to_unsubscription :
    let w := freshWorld.after unsubscribedFirst
    let port : Grant := ⟨⟨"a", "t"⟩, 7000⟩
    State.start twoPortConfig (fun _ => .ok ⟨.v4, "127.0.0.1", 7000⟩) =
        .ok (State.fresh twoPortConfig twoPorts, ⟨.v4, "127.0.0.1", 7000⟩) ∧
      w 0 = ⟨State.fresh twoPortConfig twoPorts, [], []⟩ ∧
      (∀ i < 15, Turn (w i) (w (i + 1))) ∧
      (∃ t, (w 15).tasks[0]? = some t ∧ t.phase = .done) ∧
      (w 15).Apart 0 "10.0.0.1:5000" "a" ∧ (w 15).Over "10.0.0.1:5000" "a" ∧
      port ∉ (w 6).state.pool.grants ∧ port ∈ (w 7).state.pool.grants ∧
      (∀ j < 15, ¬ Releases (w j) (w (j + 1)) port) ∧ port ∈ (w 15).state.pool.grants ∧
      Releases (w 15) (w 16) port := by
  intro w port
  have hsome : (freshWorld.worlds? unsubscribedFirst).isSome = true := by decide +kernel
  have hrun : ∀ i < 15, Turn (w i) (w (i + 1)) :=
    fun i hi => turn_after hsome (Nat.lt_succ_of_lt hi)
  have htask : (freshWorld.after unsubscribedFirst 15).tasks[0]?.map Task.isDone = some true := by
    decide +kernel
  have hapart : (freshWorld.after unsubscribedFirst 15).Apart 0 "10.0.0.1:5000" "a" := by
    decide +kernel
  have hover : (freshWorld.after unsubscribedFirst 15).Over "10.0.0.1:5000" "a" := by
    decide +kernel
  have hbefore : (⟨⟨"a", "t"⟩, 7000⟩ : Grant) ∉
      (freshWorld.after unsubscribedFirst 6).state.pool.grants := by decide +kernel
  have hafter : (⟨⟨"a", "t"⟩, 7000⟩ : Grant) ∈
      (freshWorld.after unsubscribedFirst 7).state.pool.grants := by decide +kernel
  have hleft : (⟨⟨"a", "t"⟩, 7000⟩ : Grant) ∈
      (freshWorld.after unsubscribedFirst 15).state.pool.grants := by decide +kernel
  have hissued : (freshWorld.after unsubscribedFirst 15).ends[0]?.bind EndPhase.release? =
      some ⟨⟨"a", "t"⟩, 7000⟩ := by decide +kernel
  obtain ⟨t, ht, hdone⟩ := Option.map_eq_some_iff.1 htask
  have hphase := Task.phase_of_isDone hdone
  obtain ⟨-, hports⟩ := released_or_unsubscribing start_twoPorts rfl hrun ht hphase hapart hover
  refine ⟨start_twoPorts, rfl, hrun, ⟨t, ht, hphase⟩, hapart, hover, hbefore, hafter, ?_, hleft,
    releases_of_take? (take?_after hsome rfl) hissued⟩
  -- The port is leased to the end, so nobody can have released it.
  rcases hports 6 (by decide) port rfl hbefore hafter with ⟨-, hfree⟩ | ⟨-, hnone⟩
  · exact absurd hleft hfree
  · exact hnone

end Server

end ReverseTunnel
