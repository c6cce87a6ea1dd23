import ReverseTunnel.Server.State

/-!
# The end of a control connection

A connection ends in one of two ways. Its driver ends: the channel leaves the
pool, what the key registered is cleared, and the listeners of a cleared client
are torn down one by one. Or the client is unsubscribed by name: its listeners
are torn down first, and then its channel is removed. Both are tasks that other
tasks may interrupt between two steps.
-/

namespace ReverseTunnel.Server

/-- Where the end of a connection stands. -/
inductive EndPhase where
  /-- The driver is about to remove its channel. -/
  | leaving (driver : ChannelDriver)
  /-- What the key registered is about to be cleared. -/
  | clearing (key : String)
  /-- A client is about to be unsubscribed. -/
  | unsubscribing (key name : String)
  /-- These listeners of a removed client are still to be torn down; afterwards
  the channel of the key, if one is named, is removed. -/
  | tearingDown (client : String) (left : List Listener) (channel : Option String)
  /-- The end is over; it tells whether a client was removed. -/
  | done (removed : Bool)

namespace EndPhase

/-- One step of an end. -/
def step (s : State) : EndPhase → State × EndPhase
  | .leaving driver => ({ s with connections := s.connections.finish driver }, .clearing driver.key)
  | .clearing key =>
    match s.clear key with
    | (none, s) => (s, .done false)
    | (some h, s) => (s, .tearingDown h.clientName h.listeners none)
  | .unsubscribing key name =>
    match s.registry.unsubscribe key name with
    | (none, registry) => ({ s with registry }, .done false)
    | (some h, registry) => ({ s with registry }, .tearingDown h.clientName h.listeners (some key))
  | .tearingDown client (l :: left) channel =>
    (s.tearDown client l, .tearingDown client left channel)
  | .tearingDown _ [] channel =>
    match channel with
    | some key => (s.deleteChannel key, .done true)
    | none => (s, .done true)
  | .done removed => (s, .done removed)

/-- Tears down the listeners of a removed client one after the other. -/
def tearDownAll (s : State) (client : String) (ls : List Listener) : State :=
  ls.foldl (fun s l => s.tearDown client l) s

/-- The rest of an end without another task taking a turn, and whether a client
was removed. -/
def finish (s : State) : EndPhase → State × Bool
  | .leaving driver =>
    let s := { s with connections := s.connections.finish driver }
    match s.clear driver.key with
    | (none, s) => (s, false)
    | (some h, s) => (tearDownAll s h.clientName h.listeners, true)
  | .clearing key =>
    match s.clear key with
    | (none, s) => (s, false)
    | (some h, s) => (tearDownAll s h.clientName h.listeners, true)
  | .unsubscribing key name =>
    match s.registry.unsubscribe key name with
    | (none, registry) => ({ s with registry }, false)
    | (some h, registry) =>
      ((tearDownAll { s with registry } h.clientName h.listeners).deleteChannel key, true)
  | .tearingDown client ls channel =>
    let s := tearDownAll s client ls
    match channel with
    | some key => (s.deleteChannel key, true)
    | none => (s, true)
  | .done removed => (s, removed)

/-- A step changes nothing about how an end comes out. -/
theorem finish_step (s : State) (e : EndPhase) :
    finish (step s e).1 (step s e).2 = finish s e := by
  cases e with
  | leaving driver => rfl
  | clearing key =>
    simp only [step, finish]
    rcases s.clear key with ⟨_ | h, s'⟩ <;> rfl
  | unsubscribing key name =>
    simp only [step, finish]
    rcases s.registry.unsubscribe key name with ⟨_ | h, r⟩ <;> rfl
  | tearingDown client ls channel =>
    cases ls with
    | nil => cases channel <;> rfl
    | cons l ls => rfl
  | done removed => rfl

end EndPhase

end ReverseTunnel.Server
