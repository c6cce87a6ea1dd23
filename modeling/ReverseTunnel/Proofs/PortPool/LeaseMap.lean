import Mathlib.Data.List.Nodup
import Mathlib.Logic.Function.Basic
import Mathlib.Order.Bounds.Basic
import Mathlib.Order.Interval.Set.Basic
import ReverseTunnel.Proofs.PortPool.Grants

/-!
# The pool as a map from ports to leases

A pool over `[first, last)` stands for a partial map from port numbers to leases
(`PortPool.held`). The rules of such a map are `LeaseMap.Answers`: leasing takes the
least free port, a release and a lookup take the least port whose lease fits, and a
call that finds no port is refused and changes nothing. Port numbers are natural
numbers here, so that a sum that overflowed could not satisfy the rules.

Every call of the pool looks for the lowest slot of some kind (`PortPool.call_eq`),
and thereby answers as the map does (`PortPool.answers_call`). The rules leave no
choice (`LeaseMap.Answers.unique`), so over any list of calls the answers that they
allow are those of the pool (`PortPool.run_iff`). The main theorem adds the books of
the pool: ports in use are those leased and not yet released (`refines_leaseMap`).
-/

namespace ReverseTunnel

/-! ## Maps from ports to leases -/

/-- The leases of ports, by their numbers. A port without a lease is free. -/
abbrev LeaseMap := Nat → Option Lease

/-- One call of a pool. -/
inductive PoolCall where
  | acquire (owner tunnel : String)
  | release (owner : String)
  | releaseTunnel (owner tunnel : String)
  | portOf (owner : String)

/-- What a call answers: a port, where it names one, or why it is refused. -/
abbrev PoolAnswer (Port : Type) := Except PoolError (Option Port)

namespace LeaseMap

/-- The free ports of a range. -/
def free (held : LeaseMap) (ports : Set Nat) : Set Nat := {n | n ∈ ports ∧ held n = none}

/-- The ports of a range that an owner holds. -/
def ofOwner (held : LeaseMap) (ports : Set Nat) (owner : String) : Set Nat :=
  {n | n ∈ ports ∧ ∃ tunnel, held n = some ⟨owner, tunnel⟩}

/-- The ports of a range that an owner holds for a tunnel. -/
def ofTunnel (held : LeaseMap) (ports : Set Nat) (owner tunnel : String) : Set Nat :=
  {n | n ∈ ports ∧ held n = some ⟨owner, tunnel⟩}

/-- What a call answers in a map over a range of ports, and the map afterwards. -/
inductive Answers (ports : Set Nat) (held : LeaseMap) : PoolCall → PoolAnswer Nat → LeaseMap → Prop
  | acquire {owner tunnel : String} {port : Nat} (h : IsLeast (held.free ports) port) :
      Answers ports held (.acquire owner tunnel) (.ok (some port))
        (Function.update held port (some ⟨owner, tunnel⟩))
  | exhausted {owner tunnel : String} (h : held.free ports = ∅) :
      Answers ports held (.acquire owner tunnel) (.error .exhausted) held
  | release {owner : String} {port : Nat} (h : IsLeast (held.ofOwner ports owner) port) :
      Answers ports held (.release owner) (.ok none) (Function.update held port none)
  | notReleased {owner : String} (h : held.ofOwner ports owner = ∅) :
      Answers ports held (.release owner) (.error (.ownerNotFound owner)) held
  | releaseTunnel {owner tunnel : String} {port : Nat}
      (h : IsLeast (held.ofTunnel ports owner tunnel) port) :
      Answers ports held (.releaseTunnel owner tunnel) (.ok (some port))
        (Function.update held port none)
  | tunnelNotReleased {owner tunnel : String} (h : held.ofTunnel ports owner tunnel = ∅) :
      Answers ports held (.releaseTunnel owner tunnel)
        (.error (.ownerNotFound (owner ++ "/" ++ tunnel))) held
  | portOf {owner : String} {port : Nat} (h : IsLeast (held.ofOwner ports owner) port) :
      Answers ports held (.portOf owner) (.ok (some port)) held
  | notFound {owner : String} (h : held.ofOwner ports owner = ∅) :
      Answers ports held (.portOf owner) (.error (.ownerNotFound owner)) held

/-- What some calls answer one after the other, and the map afterwards. -/
inductive Run (ports : Set Nat) :
    LeaseMap → List PoolCall → List (PoolAnswer Nat) → LeaseMap → Prop
  | nil {held : LeaseMap} : Run ports held [] [] held
  | cons {held held₁ held₂ : LeaseMap} {call : PoolCall} {answer : PoolAnswer Nat}
      {calls : List PoolCall} {answers : List (PoolAnswer Nat)}
      (first : Answers ports held call answer held₁) (rest : Run ports held₁ calls answers held₂) :
      Run ports held (call :: calls) (answer :: answers) held₂

/-- A set with a least element is not empty. -/
theorem ne_empty_of_isLeast {ports : Set Nat} {port : Nat} (h : IsLeast ports port) :
    ports ≠ ∅ := by
  intro hempty
  have hmem := h.1
  rw [hempty] at hmem
  exact hmem

/-- The rules leave no choice. -/
theorem Answers.unique {ports : Set Nat} {held held₁ held₂ : LeaseMap} {call : PoolCall}
    {answer₁ answer₂ : PoolAnswer Nat} (h₁ : Answers ports held call answer₁ held₁)
    (h₂ : Answers ports held call answer₂ held₂) : answer₁ = answer₂ ∧ held₁ = held₂ := by
  -- Two rules for one call are the same one, or one of them asks for no port at all.
  cases h₁ with
  | acquire h =>
    cases h₂ with
    | acquire h' =>
      rw [h.unique h']
      exact ⟨rfl, rfl⟩
    | exhausted h' => exact absurd h' (ne_empty_of_isLeast h)
  | exhausted h =>
    cases h₂ with
    | acquire h' => exact absurd h (ne_empty_of_isLeast h')
    | exhausted _ => exact ⟨rfl, rfl⟩
  | release h =>
    cases h₂ with
    | release h' =>
      rw [h.unique h']
      exact ⟨rfl, rfl⟩
    | notReleased h' => exact absurd h' (ne_empty_of_isLeast h)
  | notReleased h =>
    cases h₂ with
    | release h' => exact absurd h (ne_empty_of_isLeast h')
    | notReleased _ => exact ⟨rfl, rfl⟩
  | releaseTunnel h =>
    cases h₂ with
    | releaseTunnel h' =>
      rw [h.unique h']
      exact ⟨rfl, rfl⟩
    | tunnelNotReleased h' => exact absurd h' (ne_empty_of_isLeast h)
  | tunnelNotReleased h =>
    cases h₂ with
    | releaseTunnel h' => exact absurd h (ne_empty_of_isLeast h')
    | tunnelNotReleased _ => exact ⟨rfl, rfl⟩
  | portOf h =>
    cases h₂ with
    | portOf h' =>
      rw [h.unique h']
      exact ⟨rfl, rfl⟩
    | notFound h' => exact absurd h' (ne_empty_of_isLeast h)
  | notFound h =>
    cases h₂ with
    | portOf h' => exact absurd h (ne_empty_of_isLeast h')
    | notFound _ => exact ⟨rfl, rfl⟩

end LeaseMap

/-! ## Calls of the pool -/

namespace PoolCall

/-- The slots that a call looks for. -/
def looksFor : PoolCall → Option Lease → Bool
  | .acquire _ _, slot => slot.isNone
  | .release owner, slot | .portOf owner, slot => slot.any fun lease => lease.owner == owner
  | .releaseTunnel owner tunnel, slot =>
    slot.any fun lease => lease.owner == owner && lease.tunnel == tunnel

/-- What a call writes to the slot that it finds, if it writes to it. -/
def writes? : PoolCall → Option (Option Lease)
  | .acquire owner tunnel => some (some ⟨owner, tunnel⟩)
  | .release _ | .releaseTunnel _ _ => some none
  | .portOf _ => none

/-- The call answers the port that it finds. -/
def namesPort : PoolCall → Bool
  | .release _ => false
  | .acquire _ _ | .releaseTunnel _ _ | .portOf _ => true

/-- Why a call that finds no slot is refused. -/
def refusal : PoolCall → PoolError
  | .acquire _ _ => .exhausted
  | .release owner | .portOf owner => .ownerNotFound owner
  | .releaseTunnel owner tunnel => .ownerNotFound (owner ++ "/" ++ tunnel)

/-- The call leases a port if it succeeds. -/
def leases : PoolCall → Bool
  | .acquire _ _ => true
  | .release _ | .releaseTunnel _ _ | .portOf _ => false

/-- The call frees a port if it succeeds. -/
def frees : PoolCall → Bool
  | .release _ | .releaseTunnel _ _ => true
  | .acquire _ _ | .portOf _ => false

end PoolCall

/-- An answer with the number of its port. -/
def PoolAnswer.numbered (answer : PoolAnswer UInt16) : PoolAnswer Nat :=
  answer.map (Option.map UInt16.toNat)

/-- How many calls of a kind succeeded. -/
def successes (kind : PoolCall → Bool) (log : List (PoolCall × PoolAnswer UInt16)) : Nat :=
  log.countP fun e => kind e.1 && e.2.isOk

namespace PortPool

variable {p : PortPool}

/-- The leases of the ports of a pool. -/
def held (p : PortPool) : LeaseMap := fun n =>
  if p.first.toNat ≤ n then (p.slots[n - p.first.toNat]?).join else none

/-- The numbers of the ports of a pool. -/
def range (p : PortPool) : Set Nat := Set.Ico p.first.toNat (p.first.toNat + p.capacity)

/-- What a call answers, and the pool afterwards. -/
def call (p : PortPool) : PoolCall → PoolAnswer UInt16 × PortPool
  | .acquire owner tunnel =>
    match p.acquire owner tunnel with
    | .ok (port, p') => (.ok (some port), p')
    | .error e => (.error e, p)
  | .release owner =>
    match p.release owner with
    | .ok p' => (.ok none, p')
    | .error e => (.error e, p)
  | .releaseTunnel owner tunnel =>
    match p.releaseTunnel owner tunnel with
    | .ok (port, p') => (.ok (some port), p')
    | .error e => (.error e, p)
  | .portOf owner => ((p.portOf owner).map some, p)

/-- What some calls answer one after the other, and the pool afterwards. -/
def run (p : PortPool) : List PoolCall → List (PoolAnswer UInt16) × PortPool
  | [] => ([], p)
  | c :: calls => ((p.call c).1 :: ((p.call c).2.run calls).1, ((p.call c).2.run calls).2)

/-- Every call looks for the lowest slot of its kind, and writes to no other one. -/
theorem call_eq (p : PortPool) (c : PoolCall) :
    p.call c =
      match p.slots.findIdx? c.looksFor with
      | none => (.error c.refusal, p)
      | some i =>
        (.ok (if c.namesPort then some (p.portAt i) else none), c.writes?.elim p (p.setSlot i)) := by
  -- The four functions have one body each; the search in it is the one of the call.
  cases c with
  | acquire owner tunnel =>
    have hsearch : p.freeSlot? = p.slots.findIdx? (PoolCall.acquire owner tunnel).looksFor := rfl
    simp only [call, acquire, hsearch]
    cases p.slots.findIdx? (PoolCall.acquire owner tunnel).looksFor <;> rfl
  | release owner =>
    have hsearch : p.slotOf? (fun lease => lease.owner == owner) =
        p.slots.findIdx? (PoolCall.release owner).looksFor := rfl
    simp only [call, release, hsearch]
    cases p.slots.findIdx? (PoolCall.release owner).looksFor <;> rfl
  | releaseTunnel owner tunnel =>
    have hsearch : p.slotOf? (fun lease => lease.owner == owner && lease.tunnel == tunnel) =
        p.slots.findIdx? (PoolCall.releaseTunnel owner tunnel).looksFor := rfl
    simp only [call, releaseTunnel, hsearch]
    cases p.slots.findIdx? (PoolCall.releaseTunnel owner tunnel).looksFor <;> rfl
  | portOf owner =>
    have hsearch : p.slotOf? (fun lease => lease.owner == owner) =
        p.slots.findIdx? (PoolCall.portOf owner).looksFor := rfl
    simp only [call, portOf, hsearch]
    cases p.slots.findIdx? (PoolCall.portOf owner).looksFor <;> rfl

/-! ## Slots and numbers -/

theorem mem_range_iff {n : Nat} :
    n ∈ p.range ↔ p.first.toNat ≤ n ∧ n - p.first.toNat < p.slots.length := by
  simp only [range, capacity, Set.mem_Ico]
  omega

/-- What stands in the slot of a port of the range. -/
theorem held_of_lt {i : Nat} (hi : i < p.slots.length) :
    p.held (p.first.toNat + i) = p.slots[i] := by
  have hle : p.first.toNat ≤ p.first.toNat + i := Nat.le_add_right _ _
  simp [held, hle, hi]

/-- Writing a slot changes the lease of its port and of no other one. -/
theorem held_setSlot {i : Nat} (hi : i < p.slots.length) (l : Option Lease) :
    (p.setSlot i l).held = Function.update p.held (p.first.toNat + i) l := by
  funext n
  by_cases hn : n = p.first.toNat + i
  · subst hn
    have hlt : i < (p.setSlot i l).slots.length := by simpa [setSlot] using hi
    rw [Function.update_self]
    refine (held_of_lt hlt).trans ?_
    simp [setSlot]
  · rw [Function.update_of_ne hn]
    change (if p.first.toNat ≤ n then ((p.slots.set i l)[n - p.first.toNat]?).join else none) =
      p.held n
    rw [held]
    by_cases hle : p.first.toNat ≤ n
    · rw [if_pos hle, if_pos hle, List.getElem?_set_ne (by omega)]
    · rw [if_neg hle, if_neg hle]

/-- The lowest slot that satisfies a test is that of the least port whose lease does. -/
theorem isLeast_of_findIdx? {test : Option Lease → Bool} {i : Nat}
    (h : p.slots.findIdx? test = some i) :
    IsLeast {n | n ∈ p.range ∧ test (p.held n) = true} (p.first.toNat + i) := by
  obtain ⟨hi, htest, hbefore⟩ := List.findIdx?_eq_some_iff_getElem.1 h
  constructor
  · refine ⟨mem_range_iff.2 (by omega), ?_⟩
    rw [held_of_lt hi]
    exact htest
  · rintro n ⟨hn, hheld⟩
    obtain ⟨hle, hlt⟩ := mem_range_iff.1 hn
    -- A smaller port has a smaller slot, and the search went past that one.
    by_contra hsmaller
    have hskipped := hbefore (n - p.first.toNat) (by omega)
    rw [← held_of_lt hlt, Nat.add_sub_cancel' hle] at hskipped
    exact hskipped hheld

/-- When no slot satisfies a test, the lease of no port does. -/
theorem eq_empty_of_findIdx? {test : Option Lease → Bool} (h : p.slots.findIdx? test = none) :
    {n | n ∈ p.range ∧ test (p.held n) = true} = ∅ := by
  rw [List.findIdx?_eq_none_iff] at h
  apply Set.eq_empty_of_forall_notMem
  rintro n ⟨hn, hheld⟩
  obtain ⟨hle, hlt⟩ := mem_range_iff.1 hn
  have hslot := h p.slots[n - p.first.toNat] (List.getElem_mem hlt)
  rw [← held_of_lt hlt, Nat.add_sub_cancel' hle, hheld] at hslot
  cases hslot

/-! ## One call -/

theorem any_owner_iff {slot : Option Lease} {owner : String} :
    (slot.any fun lease => lease.owner == owner) = true ↔ ∃ tunnel, slot = some ⟨owner, tunnel⟩ := by
  constructor
  · intro h
    obtain ⟨⟨owner', tunnel⟩, rfl, howner⟩ := (Option.any_eq_true _ slot).1 h
    obtain rfl : owner' = owner := by simpa using howner
    exact ⟨tunnel, rfl⟩
  · rintro ⟨tunnel, rfl⟩
    simp

theorem any_lease_iff {slot : Option Lease} {owner tunnel : String} :
    (slot.any fun lease => lease.owner == owner && lease.tunnel == tunnel) = true ↔
      slot = some ⟨owner, tunnel⟩ := by
  constructor
  · intro h
    obtain ⟨⟨owner', tunnel'⟩, rfl, hlease⟩ := (Option.any_eq_true _ slot).1 h
    obtain ⟨rfl, rfl⟩ : owner' = owner ∧ tunnel' = tunnel := by simpa using hlease
    rfl
  · rintro rfl
    simp

/-- The ports of the slots that a call looks for. -/
def fitting (p : PortPool) (c : PoolCall) : Set Nat :=
  {n | n ∈ p.range ∧ c.looksFor (p.held n) = true}

theorem fitting_acquire (p : PortPool) (owner tunnel : String) :
    p.fitting (.acquire owner tunnel) = p.held.free p.range := by
  ext n
  exact and_congr_right fun _ => Option.isNone_iff_eq_none

theorem fitting_release (p : PortPool) (owner : String) :
    p.fitting (.release owner) = p.held.ofOwner p.range owner := by
  ext n
  exact and_congr_right fun _ => any_owner_iff

theorem fitting_releaseTunnel (p : PortPool) (owner tunnel : String) :
    p.fitting (.releaseTunnel owner tunnel) = p.held.ofTunnel p.range owner tunnel := by
  ext n
  exact and_congr_right fun _ => any_lease_iff

theorem fitting_portOf (p : PortPool) (owner : String) :
    p.fitting (.portOf owner) = p.held.ofOwner p.range owner := by
  ext n
  exact and_congr_right fun _ => any_owner_iff

/-- A call that finds a port follows the rule for it. -/
theorem answers_found {c : PoolCall} {n : Nat} (h : IsLeast (p.fitting c) n) :
    LeaseMap.Answers p.range p.held c (.ok (if c.namesPort then some n else none))
      (c.writes?.elim p.held (Function.update p.held n)) := by
  cases c with
  | acquire owner tunnel =>
    rw [fitting_acquire] at h
    exact .acquire h
  | release owner =>
    rw [fitting_release] at h
    exact .release h
  | releaseTunnel owner tunnel =>
    rw [fitting_releaseTunnel] at h
    exact .releaseTunnel h
  | portOf owner =>
    rw [fitting_portOf] at h
    exact .portOf h

/-- A call that finds no port is refused by the rule for it. -/
theorem answers_refused {c : PoolCall} (h : p.fitting c = ∅) :
    LeaseMap.Answers p.range p.held c (.error c.refusal) p.held := by
  cases c with
  | acquire owner tunnel =>
    rw [fitting_acquire] at h
    exact .exhausted h
  | release owner =>
    rw [fitting_release] at h
    exact .notReleased h
  | releaseTunnel owner tunnel =>
    rw [fitting_releaseTunnel] at h
    exact .tunnelNotReleased h
  | portOf owner =>
    rw [fitting_portOf] at h
    exact .notFound h

/-- Every call of the pool answers as its map does. -/
theorem answers_call (p : PortPool) (c : PoolCall) :
    LeaseMap.Answers p.range p.held c (p.call c).1.numbered (p.call c).2.held := by
  rw [call_eq]
  cases hfind : p.slots.findIdx? c.looksFor with
  | none => exact answers_refused (eq_empty_of_findIdx? hfind)
  | some i =>
    have hi : i < p.slots.length := (List.findIdx?_eq_some_iff_getElem.1 hfind).1
    have hanswers := answers_found (isLeast_of_findIdx? hfind)
    -- The port that is answered has the number of the slot: the sum does not overflow.
    have hport : (PoolAnswer.numbered (.ok (if c.namesPort then some (p.portAt i) else none))) =
        .ok (if c.namesPort then some (p.first.toNat + i) else none) := by
      rw [← toNat_portAt p hi]
      split <;> rfl
    have hheld : (c.writes?.elim p (p.setSlot i)).held =
        c.writes?.elim p.held (Function.update p.held (p.first.toNat + i)) := by
      cases c.writes? with
      | none => rfl
      | some l => exact held_setSlot hi l
    simp only [hport, hheld]
    exact hanswers

/-- A call leaves the range as it is. -/
theorem range_call (p : PortPool) (c : PoolCall) :
    (p.call c).2.first = p.first ∧ (p.call c).2.capacity = p.capacity := by
  rw [call_eq]
  cases p.slots.findIdx? c.looksFor with
  | none => exact ⟨rfl, rfl⟩
  | some i =>
    cases c.writes? with
    | none => exact ⟨rfl, rfl⟩
    | some l => exact ⟨rfl, List.length_set⟩

/-! ## Ports in use -/

/-- Writing a slot changes the number of leased ports by what it adds and takes away. -/
theorem inUse_setSlot {i : Nat} (hi : i < p.slots.length) (l : Option Lease) :
    (p.setSlot i l).inUse + p.slots[i].isSome.toNat = p.inUse + l.isSome.toNat := by
  have hsplit : p.slots = p.slots.take i ++ p.slots[i] :: p.slots.drop (i + 1) := by simp
  have hset : (p.setSlot i l).slots = p.slots.take i ++ l :: p.slots.drop (i + 1) := by
    simp only [setSlot]
    rw [List.set_eq_take_append_cons_drop, if_pos hi]
  have hcount : ∀ x : Option Lease,
      (p.slots.take i ++ x :: p.slots.drop (i + 1)).countP Option.isSome =
        (p.slots.take i).countP Option.isSome + (p.slots.drop (i + 1)).countP Option.isSome +
          x.isSome.toNat := by
    intro x
    rw [List.countP_append, List.countP_cons]
    cases x with
    | none => simp
    | some lease => simp [Nat.add_assoc]
  have hold : p.inUse = _ := (congrArg (List.countP Option.isSome) hsplit).trans (hcount _)
  have hnew : (p.setSlot i l).inUse = _ :=
    (congrArg (List.countP Option.isSome) hset).trans (hcount _)
  omega

/-- A call that succeeds leases one port, frees one, or does neither, as its kind says. -/
theorem inUse_call (p : PortPool) (c : PoolCall) :
    (p.call c).2.inUse + (c.frees && (p.call c).1.isOk).toNat =
      p.inUse + (c.leases && (p.call c).1.isOk).toNat := by
  rw [call_eq]
  cases hfind : p.slots.findIdx? c.looksFor with
  | none => simp [Except.isOk, Except.toBool]
  | some i =>
    obtain ⟨hi, hslot, -⟩ := List.findIdx?_eq_some_iff_getElem.1 hfind
    -- What a call looks for tells whether the slot that it writes was leased.
    have hcount := fun l => inUse_setSlot hi l
    cases c with
    | acquire owner tunnel =>
      have hfree : p.slots[i].isSome = false := Option.isSome_eq_false_iff.2 hslot
      have := hcount (some ⟨owner, tunnel⟩)
      rw [hfree] at this
      exact this
    | release owner =>
      have hleased := Option.isSome_of_any hslot
      have := hcount none
      rw [hleased] at this
      exact this
    | releaseTunnel owner tunnel =>
      have hleased := Option.isSome_of_any hslot
      have := hcount none
      rw [hleased] at this
      exact this
    | portOf owner => rfl

/-! ## Runs -/

/-- Over any list of calls, what the rules of the map allow is what the pool does. -/
theorem run_iff {p : PortPool} {calls : List PoolCall} {answers : List (PoolAnswer Nat)}
    {held : LeaseMap} :
    LeaseMap.Run p.range p.held calls answers held ↔
      answers = (p.run calls).1.map PoolAnswer.numbered ∧ held = (p.run calls).2.held := by
  -- On the calls: each one is answered in one way only, and leaves the range as it is.
  induction calls generalizing p answers with
  | nil =>
    constructor
    · intro hrun
      cases hrun
      exact ⟨rfl, rfl⟩
    · rintro ⟨rfl, rfl⟩
      exact .nil
  | cons c calls ih =>
    have hrange : (p.call c).2.range = p.range := by
      obtain ⟨hfirst, hcapacity⟩ := range_call p c
      rw [range, range, hfirst, hcapacity]
    have hrest := @ih (p.call c).2
    rw [hrange] at hrest
    constructor
    · intro hrun
      cases hrun with
      | cons hfirst hlater =>
        obtain ⟨rfl, rfl⟩ := hfirst.unique (answers_call p c)
        obtain ⟨rfl, rfl⟩ := hrest.1 hlater
        exact ⟨rfl, rfl⟩
    · rintro ⟨rfl, rfl⟩
      exact .cons (answers_call p c) (hrest.2 ⟨rfl, rfl⟩)

theorem range_run (p : PortPool) (calls : List PoolCall) :
    (p.run calls).2.first = p.first ∧ (p.run calls).2.capacity = p.capacity := by
  induction calls generalizing p with
  | nil => exact ⟨rfl, rfl⟩
  | cons c calls ih =>
    obtain ⟨hfirst, hcapacity⟩ := range_call p c
    obtain ⟨hfirst', hcapacity'⟩ := ih (p.call c).2
    exact ⟨hfirst'.trans hfirst, hcapacity'.trans hcapacity⟩

/-- The ports in use are those leased by now, less those freed. -/
theorem inUse_run (p : PortPool) (calls : List PoolCall) :
    (p.run calls).2.inUse + successes PoolCall.frees (calls.zip (p.run calls).1) =
      p.inUse + successes PoolCall.leases (calls.zip (p.run calls).1) := by
  induction calls generalizing p with
  | nil => rfl
  | cons c calls ih =>
    have hfirst := inUse_call p c
    have hrest := ih (p.call c).2
    have hcons : ∀ kind : PoolCall → Bool,
        successes kind ((c :: calls).zip (p.run (c :: calls)).1) =
          successes kind (calls.zip ((p.call c).2.run calls).1) +
            (kind c && (p.call c).1.isOk).toNat := by
      intro kind
      simp only [run, successes, List.zip_cons_cons, List.countP_cons]
      cases kind c && (p.call c).1.isOk <;> rfl
    rw [hcons, hcons]
    change ((p.call c).2.run calls).2.inUse + _ = _
    omega

/-- A pool that was just made leases no port. -/
theorem ofBounds_of_lt {first last : UInt16} (h : first < last) :
    ∃ p₀, ofBounds first last = .ok p₀ ∧ p₀.first = first ∧
      p₀.slots = List.replicate (last.toNat - first.toNat) none := by
  rw [ofBounds, dif_pos h]
  exact ⟨_, rfl, rfl, rfl⟩

theorem held_eq_none_of_replicate {n : Nat} (h : p.slots = List.replicate n none) :
    p.held = fun _ => none := by
  funext port
  rw [held, h, List.getElem?_replicate]
  split
  · split <;> rfl
  · rfl

end PortPool

/-- The pool of the ports from `first` up to, but not including, `last` is a map from these
ports to leases, empty at first. Over any calls it answers as the rules of the map say, and
as nothing else that they allow. No port has two leases. The ports in use are those leased
less those freed, and never more than there are. The number of the port of a slot is the sum
of `first` and the slot's index, which fits into 16 bits. -/
theorem refines_leaseMap {first last : UInt16} (h : first < last) (calls : List PoolCall) :
    ∃ p₀, PortPool.ofBounds first last = .ok p₀ ∧
      (∀ answers held,
        LeaseMap.Run (Set.Ico first.toNat last.toNat) (fun _ => none) calls answers held ↔
          answers = (p₀.run calls).1.map PoolAnswer.numbered ∧ held = (p₀.run calls).2.held) ∧
      ((p₀.run calls).2.grants.map Grant.port).Nodup ∧
      (p₀.run calls).2.inUse + successes PoolCall.frees (calls.zip (p₀.run calls).1) =
        successes PoolCall.leases (calls.zip (p₀.run calls).1) ∧
      (p₀.run calls).2.inUse ≤ (p₀.run calls).2.capacity ∧
      (p₀.run calls).2.capacity = last.toNat - first.toNat ∧
      ∀ i < (p₀.run calls).2.capacity, first.toNat + i < UInt16.size ∧
        ((p₀.run calls).2.portAt i).toNat = first.toNat + i := by
  obtain ⟨p₀, hp₀, hfirst, hslots⟩ := PortPool.ofBounds_of_lt h
  have hcapacity : p₀.capacity = last.toNat - first.toNat := by
    rw [PortPool.capacity, hslots, List.length_replicate]
  have hlt : first.toNat < last.toNat := h
  have hrange : p₀.range = Set.Ico first.toNat last.toNat := by
    rw [PortPool.range, hfirst, hcapacity, Nat.add_sub_cancel' (Nat.le_of_lt hlt)]
  have hempty := PortPool.held_eq_none_of_replicate hslots
  have hnone : p₀.inUse = 0 := by simp [PortPool.inUse, hslots]
  obtain ⟨hfirst', hcapacity'⟩ := PortPool.range_run p₀ calls
  refine ⟨p₀, hp₀, ?_, PortPool.nodup_ports_grants _, ?_, List.countP_le_length, ?_, ?_⟩
  · intro answers held
    rw [← hrange, ← hempty]
    exact PortPool.run_iff
  · have hbooks := PortPool.inUse_run p₀ calls
    rwa [hnone, Nat.zero_add] at hbooks
  · rw [hcapacity', hcapacity]
  · intro i hi
    have hsum := PortPool.toNat_portAt _ hi
    rw [hfirst', hfirst] at hsum
    have hlast := last.toNat_lt
    rw [hcapacity', hcapacity] at hi
    exact ⟨by rw [UInt16.size]; omega, hsum⟩

/-- The calls of two clients that share the two highest ports of a range. -/
def sharedPorts : List PoolCall :=
  [.acquire "a" "t", .acquire "a" "t", .acquire "b" "u", .releaseTunnel "a" "t", .portOf "a",
    .release "b", .acquire "b" "u"]

/-- Control: a range that ends at the highest port that a range can end at. One label holds
both ports, a third lease is refused, and a release takes the lower port of the two. -/
theorem refines_leaseMap_sharedPorts :
    (65533 : UInt16) < 65535 ∧ ∃ p₀, PortPool.ofBounds 65533 65535 = .ok p₀ ∧
      LeaseMap.Run (Set.Ico 65533 65535) (fun _ => none) sharedPorts
        [.ok (some 65533), .ok (some 65534), .error .exhausted, .ok (some 65533),
          .ok (some 65534), .error (.ownerNotFound "b"), .ok (some 65533)]
        (p₀.run sharedPorts).2.held ∧
      (p₀.run sharedPorts).2.inUse + 1 = 3 := by
  have h : (65533 : UInt16) < 65535 := by decide
  obtain ⟨p₀, hp₀, hrun, -, hbooks, -⟩ := refines_leaseMap h sharedPorts
  obtain rfl : ⟨65533, [none, none], by decide⟩ = p₀ := Except.ok.inj hp₀
  exact ⟨h, _, hp₀, (hrun _ _).2 ⟨by rfl, rfl⟩, hbooks⟩

end ReverseTunnel
