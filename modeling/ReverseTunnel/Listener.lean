/-!
# Public listeners

A listener is a public socket that the server opened for a tunnel. Its handle
tells it from every other listener: closing a listener means that its handle is
among the closed ones, and its accept loop ends some time after that.
-/

namespace ReverseTunnel

/-- A public socket opened for a tunnel. -/
structure Listener where
  /-- The name of the tunnel. -/
  name : String
  /-- The address as it is reported. -/
  address : String
  /-- The port of the pool behind it, if there is one. -/
  poolPort : Option UInt16
  /-- What tells this listener from all others. -/
  handle : Nat
  deriving DecidableEq

/-- The handles of the listeners that were told to close. -/
structure ClosedListeners where
  handles : List Nat
  deriving DecidableEq

namespace ClosedListeners

/-- No listener was told to close. -/
def empty : ClosedListeners := ⟨[]⟩

/-- Tells a listener to close. -/
def close (c : ClosedListeners) (l : Listener) : ClosedListeners := ⟨l.handle :: c.handles⟩

/-- Tells several listeners to close. -/
def closeAll (c : ClosedListeners) (ls : List Listener) : ClosedListeners := ls.foldl close c

/-- The listener was told to close. -/
def isClosed (c : ClosedListeners) (l : Listener) : Bool := c.handles.contains l.handle

end ClosedListeners

end ReverseTunnel
