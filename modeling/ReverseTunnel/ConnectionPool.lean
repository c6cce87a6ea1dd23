import ReverseTunnel.ControlMessage
import ReverseTunnel.Http.Message
import ReverseTunnel.NameMap

/-!
# The pool of control connections

The pool holds at most one channel per key. Every channel has a number of its
own and a driver that runs until the channel ends; the driver then removes the
channel, if the key still leads to that very channel, and reports the key once.
Deleting a channel removes it at once and tells its driver to end.

Each operation is one step, so that a run in which several tasks take turns is
a list of steps.
-/

namespace ReverseTunnel

open Http

/-- Why the pool refuses a call, or an exchange fails. -/
inductive ConnectionFault where
  | notFound (key : String)
  | duplicateKey (key : String)
  | transport
  | invalidRequest
  | peerStatus (status : Status)
  | protocol (fault : ProtocolError)
  deriving DecidableEq

/-- The wording of a fault. -/
def ConnectionFault.message : ConnectionFault → String
  | .notFound key => "No connection for " ++ key
  | .duplicateKey key => "Connection " ++ key ++ " already registered"
  | .transport => "Transport error"
  | .invalidRequest => "Invalid request"
  | .peerStatus status => "Peer answered " ++ status.text
  | .protocol fault => "Protocol error: " ++ fault.message

/-- The driver of a channel. -/
structure ChannelDriver where
  /-- The number of its channel. -/
  channel : Nat
  key : String
  /-- It was told to end. -/
  cancelled : Bool
  deriving DecidableEq

/-- The channels, the running drivers, and the keys reported so far, last first. -/
structure ConnectionPool where
  channels : NameMap Nat
  drivers : List ChannelDriver
  nextChannel : Nat
  reported : List String

namespace ConnectionPool

/-- The pool without channels. -/
def empty : ConnectionPool := ⟨.empty, [], 1, []⟩

instance : Inhabited ConnectionPool := ⟨empty⟩

/-- The key has a channel. -/
def contains (p : ConnectionPool) (key : String) : Bool := p.channels.contains key

/-- The number of channels. -/
def size (p : ConnectionPool) : Nat := p.channels.size

/-- Whether a key may get a channel. This is asked before the transport
handshake and once more when the channel is registered. -/
def checkFree (p : ConnectionPool) (key : String) : Except ConnectionFault Unit :=
  if p.contains key then .error (.duplicateKey key) else .ok ()

/-- Registers a channel after its transport handshake, and starts its driver. -/
def register (p : ConnectionPool) (key : String) : Except ConnectionFault ConnectionPool :=
  match p.checkFree key with
  | .error e => .error e
  | .ok () =>
    .ok { p with
      channels := p.channels.insert key p.nextChannel
      drivers := p.drivers ++ [⟨p.nextChannel, key, false⟩]
      nextChannel := p.nextChannel + 1 }

/-- The pool in which the driver of a channel was told to end. -/
def cancel (p : ConnectionPool) (channel : Nat) : ConnectionPool :=
  { p with drivers := p.drivers.map fun d =>
      if d.channel = channel then { d with cancelled := true } else d }

/-- Removes the channel of a key; the answer tells whether there was one. -/
def delete (p : ConnectionPool) (key : String) : Bool × ConnectionPool :=
  match p.channels.get? key with
  | none => (false, p)
  | some channel => (true, { p with channels := p.channels.erase key }.cancel channel)

/-- Removes every channel. -/
def closeAll (p : ConnectionPool) : ConnectionPool :=
  p.channels.entries.foldl (fun p e => p.cancel e.2) { p with channels := .empty }

/-- The driver of a channel ends: its channel leaves the map if it is still
there, and the key is reported. -/
def finish (p : ConnectionPool) (d : ChannelDriver) : ConnectionPool :=
  { p with
    channels := if p.channels.get? d.key = some d.channel then p.channels.erase d.key
      else p.channels
    drivers := p.drivers.erase d
    reported := d.key :: p.reported }

/-- All drivers that were told to end have ended. -/
def settle (p : ConnectionPool) : ConnectionPool :=
  (p.drivers.filter fun d => d.cancelled).foldl finish p

/-- The far side of a key's channel goes away. -/
def peerClosed (p : ConnectionPool) (key : String) : ConnectionPool :=
  match p.channels.get? key with
  | none => p
  | some channel => p.cancel channel

/-- The URL of the client behind a key. -/
def url (key : String) : String := "http://" ++ key ++ "/"

/-- The target of a hello to the client behind a key. -/
def connectUri (key : String) : Except ConnectionFault Uri :=
  match Uri.authority? key with
  | some uri => .ok uri
  | none => .error .invalidRequest

/-- The channel of a key. -/
def sender (p : ConnectionPool) (key : String) : Except ConnectionFault Nat :=
  match p.channels.get? key with
  | some channel => .ok channel
  | none => .error (.notFound key)

/-- The request that opens an exchange for a message. -/
def exchangeRequest (key : String) (m : ControlMessage) : Except ConnectionFault Request :=
  match Uri.parse? (url key) with
  | none => .error .invalidRequest
  | some uri =>
    match m.write .empty with
    | (_, .error e) => .error (.protocol e)
    | (headers, .ok ()) => .ok ⟨"PUT", uri, headers, []⟩

/-- The request of an exchange, and the channel that it goes over. -/
def openExchange (p : ConnectionPool) (key : String) (m : ControlMessage) :
    Except ConnectionFault (Nat × Request) := do
  let request ← exchangeRequest key m
  let channel ← p.sender key
  return (channel, request)

/-- The body of an exchange that the peer answered. -/
def exchangeBody (response : Response) : Except ConnectionFault Body :=
  if response.status = .ok then .ok response.body else .error (.peerStatus response.status)

end ConnectionPool

end ReverseTunnel
