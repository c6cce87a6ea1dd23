import ReverseTunnel.Server.Ending
import ReverseTunnel.Server.Task

/-!
# Runs of a server

In a sequential run every event is carried through before the next one: tasks
finish, drivers that were told to end have ended, and the accept loops of closed
listeners are gone. In an interleaved run any task may take the next turn.
-/

namespace ReverseTunnel.Server

namespace State

/-- Every driver that was told to end has ended, and so has every accept loop
that was told to close. -/
def settle (s : State) : State :=
  let s := (s.connections.drivers.filter fun d => d.cancelled).foldl
    (fun s d => (EndPhase.finish s (.leaving d)).1) s
  { s with bound := s.bound.filter fun l => !s.closed.isClosed l }

/-- Takes a new control connection through its task. -/
def connect (s : State) (key : String) (surroundings : Surroundings) : State :=
  (Task.finish s (.accept key surroundings)).1.settle

/-- The far side of a control connection goes away. -/
def disconnect (s : State) (key : String) : State :=
  { s with connections := s.connections.peerClosed key }.settle

/-- Drops a client that still has this connection; the answer tells whether it
had. -/
def unsubscribe (s : State) (key name : String) : Bool × State :=
  let (s, removed) := EndPhase.finish s (.unsubscribing key name)
  (removed, s.settle)

/-- Stops the server: no further connection is let in, and every channel goes. -/
def stop (s : State) : State :=
  if s.stopping then s
  else { s with stopping := true, connections := s.connections.closeAll }.settle

end State

/-- What can happen to a server. -/
inductive Event where
  | connect (key : String) (surroundings : Surroundings)
  | disconnect (key : String)
  | unsubscribe (key name : String)
  | stop

/-- The state after an event that was carried through. -/
def State.apply (s : State) : Event → State
  | .connect key surroundings => s.connect key surroundings
  | .disconnect key => s.disconnect key
  | .unsubscribe key name => (s.unsubscribe key name).2
  | .stop => s.stop

/-- The state after some events. -/
def State.run (s : State) (events : List Event) : State := events.foldl State.apply s

/-- Opens the tunnels of a subscribed client and commits them, from the first
step to the last; the fault if that failed, once the batch is rolled back. -/
def provision (s : State) (key client : String) (tunnels : NameMap Tunnel)
    (surroundings : Surroundings) : State × Except Fault Unit :=
  go s ⟨key, surroundings, .opening client tunnels.entries .empty⟩
where
  go (s : State) (t : Task) : State × Except Fault Unit :=
    match t.phase with
    | .rejecting fault => (s, .error fault)
    | .disconnecting | .done => (s, .ok ())
    | _ => if _h : t.isDone then (s, .ok ()) else go (t.step s).1 (t.step s).2
  termination_by (Task.stage t.phase, Task.left t.phase)
  decreasing_by
    rcases Task.step_decreases s t (by simpa using _h) with h' | ⟨h', h''⟩
    · exact Prod.Lex.left _ _ h'
    · rw [h']
      exact Prod.Lex.right _ h''

/-- A server with its unfinished tasks. -/
structure World where
  state : State
  tasks : List Task
  ends : List EndPhase

/-- One turn of an interleaved run. -/
inductive Turn : World → World → Prop where
  /-- A connection is accepted. -/
  | accept (w : World) (key : String) (surroundings : Surroundings) :
    Turn w { w with tasks := w.tasks ++ [.accept key surroundings] }
  /-- A task takes one step. -/
  | task (w : World) (before after : List Task) (t : Task) (h : w.tasks = before ++ t :: after) :
    Turn w { w with
      state := (t.step w.state).1
      tasks := before ++ (t.step w.state).2 :: after }
  /-- A driver begins to end, told so or because its far side went away. It does so
  once, and to be told again changes nothing. -/
  | driver (w : World) (d : ChannelDriver) (h : d ∈ w.state.connections.drivers)
      (fresh : ∀ d', .leaving d' ∈ w.ends → d'.channel ≠ d.channel) :
    Turn w { w with
      state := { w.state with connections := w.state.connections.cancel d.channel }
      ends := w.ends ++ [.leaving { d with cancelled := true }] }
  /-- An end takes one step. -/
  | ending (w : World) (before after : List EndPhase) (e : EndPhase)
      (h : w.ends = before ++ e :: after) :
    Turn w { w with
      state := (e.step w.state).1
      ends := before ++ (e.step w.state).2 :: after }
  /-- A client is to be unsubscribed. -/
  | unsubscribe (w : World) (key name : String) :
    Turn w { w with ends := w.ends ++ [.unsubscribing key name] }
  /-- The accept loop of a closed listener ends. -/
  | acceptLoop (w : World) (l : Listener) : Turn w { w with state := w.state.endAcceptLoop l }
  /-- The server is told to stop. -/
  | stop (w : World) : Turn w { w with state := { w.state with stopping := true } }
  /-- Once it was told to stop, every channel is removed. -/
  | closeAll (w : World) (h : w.state.stopping = true) :
    Turn w { w with state := { w.state with connections := w.state.connections.closeAll } }

/-- The worlds that an interleaved run can reach. -/
inductive Reaches (start : World) : World → Prop where
  | refl : Reaches start start
  | turn {w w' : World} (before : Reaches start w) (h : Turn w w') : Reaches start w'

end ReverseTunnel.Server
