import ReverseTunnel.Server.Hello
import ReverseTunnel.Server.State

/-!
# The task of one control connection

A task takes an accepted connection from its key to its tunnels. It reserves the
key, opens the channel, asks for the hello, subscribes the client, opens its
tunnels one by one in name order and commits them together. When a tunnel cannot
be opened or committed, the ports of the batch are freed, its listeners dropped,
and the client is told why and disconnected.

Every step touches the shared state at most once, so that tasks may take turns
between any two steps. What the world does to the task (the transport, the
answer to the hello, the outcome of every bind) is fixed when it starts.
-/

namespace ReverseTunnel.Server

/-- What the world does to one task. -/
structure Surroundings where
  /-- The TLS handshake succeeds, or there is none. -/
  tlsSucceeds : Bool
  /-- The transport handshake succeeds. -/
  transportSucceeds : Bool
  hello : HelloAnswer
  /-- The outcome of the bind with this number: the address as it is reported. -/
  bind : Nat → Protocol → String → Except Fault String

/-- The tunnels of a client opened so far. -/
structure Batch where
  claims : List HostClaim
  listeners : List Listener

/-- The batch before the first tunnel. -/
def Batch.empty : Batch := ⟨[], []⟩

/-- A listener that is about to be bound. -/
structure PendingBind where
  name : String
  protocol : Protocol
  address : String
  poolPort : Option UInt16

/-- Where a task stands. -/
inductive Phase where
  | accepted
  /-- The key is reserved. -/
  | reserved
  /-- The key was free when it was asked for. -/
  | connecting
  /-- The channel is open. -/
  | channelOpen
  /-- The client's token was accepted. -/
  | greeted (handshake : Handshake)
  /-- These tunnels are still to be opened. -/
  | opening (client : String) (left : List (String × Tunnel)) (batch : Batch)
  | binding (client : String) (pending : PendingBind) (left : List (String × Tunnel))
    (batch : Batch)
  | committing (client : String) (batch : Batch)
  /-- The ports of these listeners are still to be freed. -/
  | rollingBack (client : String) (left : List Listener) (batch : Batch) (fault : Fault)
  | dropping (batch : Batch) (fault : Fault)
  /-- The client is being told why it is turned down. -/
  | rejecting (fault : Fault)
  /-- The channel is about to be removed. -/
  | disconnecting
  | done

/-- The task of an accepted connection. -/
structure Task where
  key : String
  surroundings : Surroundings
  phase : Phase

namespace Task

/-- The task of a connection that was just accepted. -/
def accept (key : String) (surroundings : Surroundings) : Task := ⟨key, surroundings, .accepted⟩

/-- The task at another phase. -/
def goTo (t : Task) (phase : Phase) : Task := { t with phase }

/-- The batch failed: its ports are to be freed. -/
def fail (t : Task) (client : String) (batch : Batch) (fault : Fault) : Task :=
  t.goTo (.rollingBack client batch.listeners batch fault)

/-- The task gives up before its channel is open. -/
def abandon (s : State) (t : Task) : State × Task := ((s.clear t.key).2, t.goTo .done)

/-- Opens the next tunnel, up to the bind. An empty token counts as none. -/
def openTunnel (s : State) (t : Task) (client name : String) (tunnel : Tunnel)
    (left : List (String × Tunnel)) (batch : Batch) : State × Task :=
  let bind (address : String) (port : Option UInt16) : Task :=
    t.goTo (.binding client ⟨name, tunnel.protocol, address, port⟩ left batch)
  match tunnel.protocol with
  | .http | .sni =>
    if Text.isBlankText tunnel.host then (s, t.fail client batch (.registry (.emptyHost name)))
    else
      let claim : HostClaim :=
        ⟨tunnel.host, name, tunnel.protocol, tunnel.auth.filter fun a => a != ""⟩
      (s, t.goTo (.opening client left { batch with claims := batch.claims ++ [claim] }))
  | .unix => (s, bind tunnel.address none)
  | .tcp | .tcp4 | .tcp6 =>
    match BindAddress.parse tunnel.address with
    | .fixed address => (s, bind address none)
    | .auto host =>
      match s.pool.acquire client name with
      | .error e => (s, t.fail client batch (.pool e))
      | .ok (port, pool) =>
        ({ s with pool }, bind ((BindAddress.auto host).withPort port) (some port))

/-- The outcome of a bind. A port that was taken for it is freed if it failed. -/
def bindTunnel (s : State) (t : Task) (client : String) (p : PendingBind)
    (left : List (String × Tunnel)) (batch : Batch) : State × Task :=
  match t.surroundings.bind batch.listeners.length p.protocol p.address with
  | .ok address =>
    let (l, s) := s.openListener p.name address p.poolPort
    (s, t.goTo (.opening client left { batch with listeners := batch.listeners ++ [l] }))
  | .error fault =>
    (if p.poolPort.isSome then s.releasePort client p.name else s, t.fail client batch fault)

/-- What the client of a batch will own. -/
def holdings (t : Task) (client : String) (batch : Batch) : Holdings :=
  ⟨client, t.key, batch.claims, batch.listeners⟩

/-- One step of a task. -/
def step (s : State) (t : Task) : State × Task :=
  match t.phase with
  | .accepted =>
    if s.stopping then (s, t.goTo .done)
    else
      match s.registry.reserve t.key with
      | .ok registry => ({ s with registry }, t.goTo .reserved)
      | .error _ => (s, t.goTo .done)
  | .reserved =>
    if !t.surroundings.tlsSucceeds then abandon s t
    else
      match s.connections.checkFree t.key with
      | .ok () => (s, t.goTo .connecting)
      | .error _ => abandon s t
  | .connecting =>
    if !t.surroundings.transportSucceeds then abandon s t
    else
      match s.connections.register t.key with
      | .ok connections => ({ s with connections }, t.goTo .channelOpen)
      | .error _ => abandon s t
  | .channelOpen =>
    match authorizedHandshake s.config t.surroundings.hello with
    | .ok handshake => (s, t.goTo (.greeted handshake))
    | .error fault => (s, t.goTo (.rejecting fault))
  | .greeted handshake =>
    match s.registry.subscribe handshake.clientName t.key with
    | .ok registry =>
      ({ s with registry },
        t.goTo (.opening handshake.clientName handshake.tunnels.entries .empty))
    | .error e => (s, t.goTo (.rejecting (.registry e)))
  | .opening client [] batch => (s, t.goTo (.committing client batch))
  | .opening client ((name, tunnel) :: left) batch => openTunnel s t client name tunnel left batch
  | .binding client pending left batch => bindTunnel s t client pending left batch
  | .committing client batch =>
    match s.registry.commit (t.holdings client batch) with
    | .ok registry => ({ s with registry }, t.goTo .done)
    | .error e => (s, t.fail client batch (.registry e))
  | .rollingBack client (l :: left) batch fault =>
    (s.releaseListener client l, t.goTo (.rollingBack client left batch fault))
  | .rollingBack _ [] batch fault => (s, t.goTo (.dropping batch fault))
  | .dropping batch fault => (s.dropListeners batch.listeners, t.goTo (.rejecting fault))
  | .rejecting _ => (s, t.goTo .disconnecting)
  | .disconnecting => (s.deleteChannel t.key, t.goTo .done)
  | .done => (s, t)

/-- The phases in the order in which a task passes them. -/
def stage : Phase → Nat
  | .accepted => 9
  | .reserved => 8
  | .connecting => 7
  | .channelOpen => 6
  | .greeted _ => 5
  | .opening .. | .binding .. => 4
  | .committing .. => 3
  | .rollingBack .. => 2
  | .dropping .. | .rejecting _ | .disconnecting => 1
  | .done => 0

/-- The work left within a stage. -/
def left : Phase → Nat
  | .opening _ left _ => 2 * left.length
  | .binding _ _ left _ => 2 * left.length + 1
  | .rollingBack _ left _ _ => left.length
  | .dropping .. => 2
  | .rejecting _ => 1
  | .accepted | .reserved | .connecting | .channelOpen | .greeted _ | .committing .. |
    .disconnecting | .done => 0

/-- The task has nothing left to do. -/
def isDone (t : Task) : Bool :=
  match t.phase with
  | .done => true
  | _ => false

/-- Every step of an unfinished task leaves less to do. -/
theorem step_decreases (s : State) (t : Task) (h : t.isDone = false) :
    stage (step s t).2.phase < stage t.phase ∨
      stage (step s t).2.phase = stage t.phase ∧ left (step s t).2.phase < left t.phase := by
  obtain ⟨key, surroundings, phase⟩ := t
  cases phase with
  | done => simp [isDone] at h
  | opening client rest batch =>
    cases rest with
    | nil => simp [step, goTo, stage]
    | cons e rest =>
      obtain ⟨name, tunnel⟩ := e
      simp only [step, openTunnel]
      repeat' split
      all_goals simp [goTo, fail, stage, left]
      all_goals omega
  | rollingBack client rest batch fault =>
    cases rest <;> simp [step, goTo, stage, left]
  | _ =>
    simp only [step, bindTunnel, abandon]
    repeat' split
    all_goals simp [goTo, fail, stage, left]

/-- The task runs on without another one taking a turn. -/
def finish (s : State) (t : Task) : State × Task :=
  if _h : t.isDone then (s, t) else finish (step s t).1 (step s t).2
termination_by (stage t.phase, left t.phase)
decreasing_by
  rcases step_decreases s t (by simpa using _h) with h' | ⟨h', h''⟩
  · exact Prod.Lex.left _ _ h'
  · rw [h']
    exact Prod.Lex.right _ h''

end Task

end ReverseTunnel.Server
