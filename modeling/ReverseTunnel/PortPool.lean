import ReverseTunnel.Text.Blank
import ReverseTunnel.Text.Numeral
import ReverseTunnel.Text.Quoted
import ReverseTunnel.Text.Split

/-!
# The pool of public ports

The ports from `first` up to, but not including, `first + slots.length` are
leased one at a time. A lease names its owner and the tunnel it serves. The
lowest free port is leased first, and a release that names no port frees the
lowest one that fits. No port number overflows (`toNat_portAt`).
-/

namespace ReverseTunnel

/-- Who holds a port, and for which tunnel. -/
structure Lease where
  owner : String
  tunnel : String
  deriving DecidableEq

/-- A range of ports, each free or leased. -/
structure PortPool where
  first : UInt16
  slots : List (Option Lease)
  fits : first.toNat + slots.length ≤ 65535
  deriving DecidableEq

/-- Why a pool cannot be made, or a port not be leased or released. -/
inductive PoolError where
  | invalidRange (range : String)
  | exhausted
  | ownerNotFound (owner : String)
  deriving DecidableEq

/-- The wording of a pool error. -/
def PoolError.message : PoolError → String
  | .invalidRange range =>
    "Invalid port range " ++ Text.quoted range ++ ", expected \"first:last\" with last > first"
  | .exhausted => "Address pool exhausted"
  | .ownerNotFound owner => "No port owned by " ++ owner

namespace PortPool

/-- The free pool of the ports from `first` up to, but not including, `last`. -/
def ofBounds (first last : UInt16) : Except PoolError PortPool :=
  if h : first < last then
    .ok ⟨first, List.replicate (last.toNat - first.toNat) none, by
      have h1 : first.toNat < last.toNat := h
      have h2 := last.toNat_lt
      rw [List.length_replicate]
      omega⟩
  else .error (.invalidRange (toString first.toNat ++ ":" ++ toString last.toNat))

/-- The bounds that a text of the form `first:last` gives. -/
def parseBounds? (range : String) : Option (UInt16 × UInt16) := do
  let (first, last) ← Text.splitFirst ':' (Text.trim range)
  let first ← Text.unsigned? 65535 (Text.trim first)
  let last ← Text.unsigned? 65535 (Text.trim last)
  return (first.toUInt16, last.toUInt16)

/-- The free pool of a range given as a text. -/
def parse (range : String) : Except PoolError PortPool :=
  match parseBounds? range with
  | none => .error (.invalidRange range)
  | some (first, last) => (ofBounds first last).mapError fun _ => .invalidRange range

/-- The number of ports in the range. -/
def capacity (p : PortPool) : Nat := p.slots.length

/-- The number of leased ports. -/
def inUse (p : PortPool) : Nat := p.slots.countP Option.isSome

/-- The port of a slot. -/
def portAt (p : PortPool) (index : Nat) : UInt16 := p.first + index.toUInt16

/-- The lease of a port, if the port is in the range and leased. -/
def lease? (p : PortPool) (port : UInt16) : Option Lease :=
  if p.first ≤ port then (p.slots[port.toNat - p.first.toNat]?).join else none

/-- The pool with the lease of one slot changed. -/
def setSlot (p : PortPool) (index : Nat) (lease : Option Lease) : PortPool :=
  ⟨p.first, p.slots.set index lease, by rw [List.length_set]; exact p.fits⟩

/-- The lowest free slot. -/
def freeSlot? (p : PortPool) : Option Nat := p.slots.findIdx? Option.isNone

/-- The lowest slot whose lease satisfies a test. -/
def slotOf? (p : PortPool) (test : Lease → Bool) : Option Nat :=
  p.slots.findIdx? fun slot => slot.any test

/-- Leases the lowest free port. -/
def acquire (p : PortPool) (owner tunnel : String) : Except PoolError (UInt16 × PortPool) :=
  match p.freeSlot? with
  | some index => .ok (p.portAt index, p.setSlot index (some ⟨owner, tunnel⟩))
  | none => .error .exhausted

/-- Frees the lowest port of an owner. -/
def release (p : PortPool) (owner : String) : Except PoolError PortPool :=
  match p.slotOf? fun lease => lease.owner == owner with
  | some index => .ok (p.setSlot index none)
  | none => .error (.ownerNotFound owner)

/-- Frees the lowest port that an owner holds for one tunnel. -/
def releaseTunnel (p : PortPool) (owner tunnel : String) : Except PoolError (UInt16 × PortPool) :=
  match p.slotOf? fun lease => lease.owner == owner && lease.tunnel == tunnel with
  | some index => .ok (p.portAt index, p.setSlot index none)
  | none => .error (.ownerNotFound (owner ++ "/" ++ tunnel))

/-- The lowest port of an owner. -/
def portOf (p : PortPool) (owner : String) : Except PoolError UInt16 :=
  match p.slotOf? fun lease => lease.owner == owner with
  | some index => .ok (p.portAt index)
  | none => .error (.ownerNotFound owner)

theorem toNat_portAt (p : PortPool) {index : Nat} (h : index < p.slots.length) :
    (p.portAt index).toNat = p.first.toNat + index := by
  have hf := p.fits
  rw [portAt, UInt16.toNat_add, Nat.toUInt16, UInt16.toNat_ofNat']
  omega

end PortPool

end ReverseTunnel
