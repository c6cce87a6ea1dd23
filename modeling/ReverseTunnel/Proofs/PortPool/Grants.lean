import Mathlib.Data.List.Find
import Mathlib.Data.List.Perm.Basic
import ReverseTunnel.PortPool

/-!
# Grants of the port pool

A pool is known by its range and by the lease of each port (`ext_lease?`). Two
lists in ascending order of the ports say the same: the free ports and the
grants, which are the leased ports with their leases. Leasing takes the first
free port (`acquire_eq`), and a release for a client's tunnel takes the first
grant of that lease (`releaseTunnel_eq`). Up to order, leasing adds one grant
(`grants_assign_some`) and a release removes one (`grants_assign_none`).

A release does not name the port that it is to free. It frees the port of a
given grant exactly when no lower port has the same lease (`frees_iff`).
-/

namespace ReverseTunnel

/-- A leased port with its lease. -/
structure Grant where
  lease : Lease
  port : UInt16
  deriving DecidableEq

namespace PortPool

variable {p p' : PortPool} {port : UInt16} {lease : Lease}

/-- The ports of the range in ascending order. -/
def ports (p : PortPool) : List UInt16 := (List.range p.slots.length).map p.portAt

/-- The free ports in ascending order. -/
def freePorts (p : PortPool) : List UInt16 := p.ports.filter fun port => (p.lease? port).isNone

/-- The grants in ascending order of their ports. -/
def grants (p : PortPool) : List Grant :=
  p.ports.filterMap fun port => (p.lease? port).map fun lease => ⟨lease, port⟩

/-- The pool with the lease of a port of the range changed. -/
def assign (p : PortPool) (port : UInt16) (lease : Option Lease) : PortPool :=
  p.setSlot (port.toNat - p.first.toNat) lease

/-! ## Ports and slots -/

theorem portAt_lt_portAt {i j : Nat} (hij : i < j) (hj : j < p.slots.length) :
    p.portAt i < p.portAt j := by
  rw [UInt16.lt_iff_toNat_lt, toNat_portAt p (Nat.lt_trans hij hj), toNat_portAt p hj]
  omega

theorem sorted_ports (p : PortPool) : p.ports.Pairwise (· < ·) := by
  rw [ports, List.pairwise_map]
  refine (List.pairwise_lt_range (n := p.slots.length)).imp_of_mem fun _ hj hij => ?_
  exact portAt_lt_portAt hij (List.mem_range.1 hj)

theorem mem_ports_iff : port ∈ p.ports ↔
    p.first ≤ port ∧ port.toNat - p.first.toNat < p.slots.length := by
  simp only [ports, List.mem_map, List.mem_range, UInt16.le_iff_toNat_le]
  constructor
  · rintro ⟨i, hi, rfl⟩
    rw [toNat_portAt p hi]
    omega
  · rintro ⟨hle, hlt⟩
    refine ⟨_, hlt, UInt16.toNat_inj.1 ?_⟩
    rw [toNat_portAt p hlt]
    omega

theorem lease?_portAt {i : Nat} (h : i < p.slots.length) :
    p.lease? (p.portAt i) = p.slots[i] := by
  have hnat := toNat_portAt p h
  have hle : p.first ≤ p.portAt i := by
    rw [UInt16.le_iff_toNat_le, hnat]
    omega
  have hindex : (p.portAt i).toNat - p.first.toNat = i := by omega
  simp [lease?, hle, hindex, h]

theorem slots_eq_map_lease? (p : PortPool) : p.slots = p.ports.map p.lease? := by
  refine List.ext_getElem (by simp [ports]) fun i hi _ => ?_
  simp [ports, lease?_portAt hi]

/-- A leased port lies in the range. -/
theorem mem_ports_of_lease? (h : p.lease? port = some lease) : port ∈ p.ports := by
  rw [mem_ports_iff]
  simp only [lease?] at h
  split at h
  · next hle =>
    refine ⟨hle, ?_⟩
    by_contra hge
    rw [List.getElem?_eq_none (Nat.le_of_not_lt hge)] at h
    cases h
  · cases h

@[simp]
theorem ports_assign (l : Option Lease) : (p.assign port l).ports = p.ports := by
  simp only [ports, assign, setSlot, List.length_set]
  rfl

theorem lease?_assign (h : port ∈ p.ports) (l : Option Lease) (other : UInt16) :
    (p.assign port l).lease? other = if other = port then l else p.lease? other := by
  obtain ⟨hle, hlt⟩ := mem_ports_iff.1 h
  rw [UInt16.le_iff_toNat_le] at hle
  simp only [lease?, assign, setSlot, UInt16.le_iff_toNat_le]
  by_cases heq : other = port
  · subst heq
    simp [hle, hlt]
  · have hne : other.toNat ≠ port.toNat := fun h => heq (UInt16.toNat_inj.1 h)
    rw [if_neg heq]
    by_cases hother : p.first.toNat ≤ other.toNat
    · rw [if_pos hother, if_pos hother, List.getElem?_set_ne (by omega)]
    · rw [if_neg hother, if_neg hother]

/-- Two pools over the same ports with the same leases are equal. -/
theorem ext_lease? (hfirst : p.first = p'.first) (hports : p.ports = p'.ports)
    (h : ∀ port, p.lease? port = p'.lease? port) : p = p' := by
  have hlength : p.slots.length = p'.slots.length := by
    have := congrArg List.length hports
    simpa [ports] using this
  have hslots : p.slots = p'.slots := by
    refine List.ext_getElem hlength fun i hi hi' => ?_
    have hport : p.portAt i = p'.portAt i := by simp only [portAt, hfirst]
    rw [← lease?_portAt hi, ← lease?_portAt hi', hport, h]
  cases p
  cases p'
  simp only at hfirst hslots
  subst hfirst hslots
  rfl

/-! ## Grants and free ports -/

theorem mem_grants_iff {g : Grant} : g ∈ p.grants ↔ p.lease? g.port = some g.lease := by
  obtain ⟨lease, port⟩ := g
  simp only [grants, List.mem_filterMap, Option.map_eq_some_iff, Grant.mk.injEq]
  constructor
  · rintro ⟨port', -, lease', h, rfl, rfl⟩
    exact h
  · intro h
    exact ⟨port, mem_ports_of_lease? h, lease, h, rfl, rfl⟩

theorem mem_freePorts_iff : port ∈ p.freePorts ↔ port ∈ p.ports ∧ p.lease? port = none := by
  simp [freePorts]

theorem sorted_freePorts (p : PortPool) : p.freePorts.Pairwise (· < ·) :=
  (sorted_ports p).filter _

theorem sorted_grants (p : PortPool) : p.grants.Pairwise fun g g' => g.port < g'.port := by
  refine List.Pairwise.filterMap _ (fun a b hab g hg g' hg' => ?_) (sorted_ports p)
  simp only [Option.map_eq_some_iff] at hg hg'
  obtain ⟨-, -, rfl⟩ := hg
  obtain ⟨-, -, rfl⟩ := hg'
  exact hab

/-- Every port has one slot, so it appears once among the grants. -/
theorem nodup_ports_grants (p : PortPool) : (p.grants.map Grant.port).Nodup := by
  rw [List.Nodup, List.pairwise_map]
  exact (sorted_grants p).imp fun hlt heq => absurd (heq ▸ hlt) (UInt16.lt_irrefl _)

theorem nodup_grants (p : PortPool) : p.grants.Nodup :=
  (sorted_grants p).imp fun hlt heq => absurd (heq ▸ hlt) (UInt16.lt_irrefl _)

/-- Every slot that is leased is a grant. -/
theorem inUse_eq_length_grants (p : PortPool) : p.inUse = p.grants.length := by
  rw [inUse, slots_eq_map_lease?, List.countP_map, grants, List.length_filterMap_eq_countP]
  congr 1
  funext port
  simp

/-- A pool that was just made has no grants. -/
theorem grants_of_parse {range : String} (h : parse range = .ok p) : p.grants = [] := by
  have hslots : ∃ n, p.slots = List.replicate n none := by
    simp only [parse] at h
    split at h
    · cases h
    · simp only [ofBounds] at h
      split at h
      · cases h
        exact ⟨_, rfl⟩
      · cases h
  obtain ⟨n, hn⟩ := hslots
  rw [← List.length_eq_zero_iff, ← inUse_eq_length_grants, inUse, hn]
  simp

/-- Two pools over the same range with the same grants are equal. -/
theorem ext_grants (hfirst : p.first = p'.first) (hports : p.ports = p'.ports)
    (h : p.grants.Perm p'.grants) : p = p' := by
  refine ext_lease? hfirst hports fun port => ?_
  have hmem : ∀ lease, p.lease? port = some lease ↔ p'.lease? port = some lease := fun lease => by
    have := h.mem_iff (a := ⟨lease, port⟩)
    rwa [mem_grants_iff, mem_grants_iff] at this
  exact Option.ext hmem

theorem grants_assign_some (hport : port ∈ p.ports) (hfree : p.lease? port = none)
    (lease : Lease) :
    (p.assign port (some lease)).grants.Perm (⟨lease, port⟩ :: p.grants) := by
  have hnew : (⟨lease, port⟩ : Grant) ∉ p.grants := by
    rw [mem_grants_iff, hfree]
    exact nofun
  refine (List.perm_ext_iff_of_nodup (nodup_grants _)
    (List.nodup_cons.2 ⟨hnew, nodup_grants _⟩)).2 fun ⟨lease', port'⟩ => ?_
  rw [List.mem_cons, mem_grants_iff, mem_grants_iff, lease?_assign hport, Grant.mk.injEq]
  by_cases heq : port' = port
  · simp [heq, hfree, eq_comm]
  · simp [heq]

theorem grants_assign_none {g : Grant} (h : g ∈ p.grants) :
    p.grants.Perm (g :: (p.assign g.port none).grants) := by
  have hlease := mem_grants_iff.1 h
  have hport := mem_ports_of_lease? hlease
  have hgone : g ∉ (p.assign g.port none).grants := by
    rw [mem_grants_iff, lease?_assign hport, if_pos rfl]
    exact nofun
  refine (List.perm_ext_iff_of_nodup (nodup_grants _)
    (List.nodup_cons.2 ⟨hgone, nodup_grants _⟩)).2 fun ⟨lease', port'⟩ => ?_
  rw [List.mem_cons, mem_grants_iff, mem_grants_iff, lease?_assign hport]
  obtain ⟨lease, port⟩ := g
  by_cases heq : port' = port
  · simp only [heq, hlease, Option.some.injEq, Grant.mk.injEq, and_true, if_true, reduceCtorEq,
      or_false]
    exact eq_comm
  · simp [heq]

theorem freePorts_assign_some (hport : port ∈ p.ports) (lease : Lease) :
    (p.assign port (some lease)).freePorts = p.freePorts.filter fun other => other != port := by
  rw [freePorts, freePorts, ports_assign, List.filter_filter]
  refine List.filter_congr fun other _ => ?_
  rw [lease?_assign hport]
  by_cases heq : other = port <;> simp [heq]

/-! ## Leasing and releasing -/

theorem findIdx?_eq_find?_range {α : Type} (xs : List α) (q : α → Bool) :
    xs.findIdx? q = (List.range xs.length).find? fun i => xs[i]?.any q := by
  refine Option.ext fun i => ?_
  rw [List.findIdx?_eq_some_iff_getElem, List.find?_range_eq_some]
  constructor
  · rintro ⟨hlt, hq, hbefore⟩
    refine ⟨by simpa [hlt] using hq, List.mem_range.2 hlt, fun j hj => ?_⟩
    simpa [Nat.lt_trans hj hlt] using hbefore j hj
  · rintro ⟨hq, hlt, hbefore⟩
    rw [List.mem_range] at hlt
    refine ⟨hlt, by simpa [hlt] using hq, fun j hj => ?_⟩
    simpa [Nat.lt_trans hj hlt] using hbefore j hj

/-- A search of the slots is a search of the ports. -/
theorem map_portAt_findIdx? (q : Option Lease → Bool) :
    (p.slots.findIdx? q).map p.portAt = p.ports.find? fun port => q (p.lease? port) := by
  rw [findIdx?_eq_find?_range, ports, List.find?_map]
  congr 1
  refine List.find?_congr fun i hi => ?_
  have hlt := List.mem_range.1 hi
  simp [lease?_portAt hlt, hlt]

theorem setSlot_eq_assign {i : Nat} (h : i < p.slots.length) (l : Option Lease) :
    p.setSlot i l = p.assign (p.portAt i) l := by
  rw [assign, toNat_portAt p h, Nat.add_sub_cancel_left]

/-- Leasing takes the lowest free port. -/
theorem acquire_eq (p : PortPool) (owner tunnel : String) :
    p.acquire owner tunnel =
      match p.freePorts with
      | [] => .error .exhausted
      | port :: _ => .ok (port, p.assign port (some ⟨owner, tunnel⟩)) := by
  have hfind : (p.slots.findIdx? Option.isNone).map p.portAt = p.freePorts.head? := by
    rw [map_portAt_findIdx?, freePorts, List.head?_filter]
  rw [acquire, freeSlot?]
  cases hindex : p.slots.findIdx? Option.isNone with
  | none =>
    rw [hindex, Option.map_none, eq_comm, List.head?_eq_none_iff] at hfind
    rw [hfind]
  | some i =>
    have hlt : i < p.slots.length := (List.findIdx?_eq_some_iff_getElem.1 hindex).1
    rw [hindex, Option.map_some, eq_comm, List.head?_eq_some_iff] at hfind
    obtain ⟨rest, hrest⟩ := hfind
    rw [hrest]
    simp only [setSlot_eq_assign hlt]

/-- Leasing takes the first free port from the list, and the others stay. -/
theorem acquire_eq_ok {owner tunnel : String} (h : p.acquire owner tunnel = .ok (port, p')) :
    p.freePorts = port :: p'.freePorts ∧
      p'.grants.Perm (⟨⟨owner, tunnel⟩, port⟩ :: p.grants) ∧
      p'.first = p.first ∧ p'.ports = p.ports := by
  rw [acquire_eq] at h
  cases hfree : p.freePorts with
  | nil => rw [hfree] at h; cases h
  | cons port₀ rest =>
    rw [hfree] at h
    simp only [Except.ok.injEq, Prod.mk.injEq] at h
    obtain ⟨rfl, rfl⟩ := h
    obtain ⟨hport, hlease⟩ := mem_freePorts_iff.1 (hfree ▸ List.mem_cons_self)
    refine ⟨?_, grants_assign_some hport hlease _, rfl, ports_assign _⟩
    -- The free ports ascend, so the first one is not among the others.
    have hsorted := sorted_freePorts p
    rw [hfree, List.pairwise_cons] at hsorted
    rw [freePorts_assign_some hport, hfree, List.filter_cons_of_neg (by simp)]
    congr 1
    refine (List.filter_eq_self.2 fun other hother => ?_).symm
    have hne : port₀ ≠ other := fun heq =>
      absurd (heq ▸ hsorted.1 other hother) (UInt16.lt_irrefl _)
    simpa using hne.symm

/-- A release for a client's tunnel takes the lowest grant of that lease. -/
theorem releaseTunnel_eq (p : PortPool) (owner tunnel : String) :
    p.releaseTunnel owner tunnel =
      match p.grants.find? fun g => g.lease == ⟨owner, tunnel⟩ with
      | none => .error (.ownerNotFound (owner ++ "/" ++ tunnel))
      | some g => .ok (g.port, p.assign g.port none) := by
  -- The slots are searched for the owner and the tunnel, the grants for the lease.
  let q : Lease → Bool := fun lease => lease.owner == owner && lease.tunnel == tunnel
  have hq : ∀ lease : Lease, (lease == ⟨owner, tunnel⟩) = q lease := fun ⟨o, t⟩ => by
    rw [Bool.eq_iff_iff]
    simp [q]
  have hfind : (p.slots.findIdx? fun slot => slot.any q).map p.portAt =
      (p.grants.find? fun g => g.lease == ⟨owner, tunnel⟩).map Grant.port := by
    rw [map_portAt_findIdx?, grants, List.find?_filterMap]
    simp only [Option.any_map, hq]
    cases h : p.ports.find? fun port => (p.lease? port).any q with
    | none => rfl
    | some port =>
      have hfound := List.find?_some h
      obtain ⟨lease, hlease, -⟩ := (Option.any_eq_true q (p.lease? port)).1 hfound
      simp [hlease]
  rw [releaseTunnel, slotOf?]
  cases hindex : p.slots.findIdx? fun slot => slot.any q with
  | none =>
    rw [hindex, Option.map_none, eq_comm, Option.map_eq_none_iff] at hfind
    rw [hfind]
  | some i =>
    have hlt : i < p.slots.length := (List.findIdx?_eq_some_iff_getElem.1 hindex).1
    rw [hindex, Option.map_some, eq_comm, Option.map_eq_some_iff] at hfind
    obtain ⟨g, hg, hport⟩ := hfind
    rw [hg]
    simp only [setSlot_eq_assign hlt, hport]

/-- The first grant of a lease has the lowest of its ports. -/
theorem find?_grants_eq_some {g₀ : Grant}
    (h : (p.grants.find? fun g => g.lease == lease) = some g₀) :
    g₀.lease = lease ∧ ∀ g ∈ p.grants, g.lease = lease → g₀.port ≤ g.port := by
  obtain ⟨hlease, before, after, hgrants, hbefore⟩ := List.find?_eq_some_iff_append.1 h
  have hsorted := sorted_grants p
  rw [hgrants, List.pairwise_append, List.pairwise_cons] at hsorted
  refine ⟨by simpa using hlease, fun g hg hsame => ?_⟩
  rw [hgrants, List.mem_append, List.mem_cons] at hg
  rcases hg with hg | rfl | hg
  · have hnot := hbefore g hg
    simp [hsame] at hnot
  · exact UInt16.le_refl _
  · exact UInt16.le_of_lt (hsorted.2.1.1 g hg)

/-- The release for the tunnel of a grant frees the port of that grant. -/
def Frees (p : PortPool) (g : Grant) : Prop :=
  ∃ p', p.releaseTunnel g.lease.owner g.lease.tunnel = .ok (g.port, p')

/-- No lower port has the lease of a grant. -/
def IsLowest (p : PortPool) (g : Grant) : Prop :=
  ∀ g' ∈ p.grants, g'.lease = g.lease → g.port ≤ g'.port

/-- The release for the tunnel of a grant frees its port exactly when no lower port
has the same lease. -/
theorem frees_iff {g : Grant} (h : g ∈ p.grants) : p.Frees g ↔ p.IsLowest g := by
  cases hfind : p.grants.find? fun g' => g'.lease == g.lease with
  | none =>
    have hnone := List.find?_eq_none.1 hfind g h
    simp at hnone
  | some g₀ =>
    obtain ⟨hlease, hleast⟩ := find?_grants_eq_some hfind
    have hrelease : p.releaseTunnel g.lease.owner g.lease.tunnel =
        .ok (g₀.port, p.assign g₀.port none) := by
      rw [releaseTunnel_eq, hfind]
    simp only [Frees, hrelease, Except.ok.injEq, Prod.mk.injEq, exists_and_left, exists_eq', and_true]
    constructor
    · intro hport g' hg' hsame
      exact hport ▸ hleast g' hg' hsame
    · intro hlow
      exact UInt16.le_antisymm (hleast g h rfl) (hlow g₀ (List.mem_of_find?_eq_some hfind) hlease)

/-- The pool after a release for a lease; a release for a lease that nobody holds
changes nothing. -/
def released (p : PortPool) (lease : Lease) : PortPool :=
  match p.releaseTunnel lease.owner lease.tunnel with
  | .ok (_, p') => p'
  | .error _ => p

theorem released_eq (p : PortPool) (lease : Lease) :
    p.released lease =
      match p.grants.find? fun g => g.lease == lease with
      | none => p
      | some g => p.assign g.port none := by
  rw [released, releaseTunnel_eq]
  cases p.grants.find? fun g => g.lease == lease <;> rfl

@[simp]
theorem first_released (p : PortPool) (lease : Lease) : (p.released lease).first = p.first := by
  rw [released_eq]
  split <;> rfl

@[simp]
theorem ports_released (p : PortPool) (lease : Lease) : (p.released lease).ports = p.ports := by
  rw [released_eq]
  split
  · rfl
  · exact ports_assign none

/-- A release for a lease that is held takes away its lowest grant. -/
theorem grants_released {g : Grant} (h : g ∈ p.grants) :
    ∃ g₀, g₀.lease = g.lease ∧ p.grants.Perm (g₀ :: (p.released g.lease).grants) := by
  rw [released_eq]
  split
  · next hnone =>
    have hnot := List.find?_eq_none.1 hnone g h
    simp at hnot
  · next g₀ hfind =>
    exact ⟨g₀, (find?_grants_eq_some hfind).1,
      grants_assign_none (List.mem_of_find?_eq_some hfind)⟩

/-- A release that frees the port of a grant takes that grant away. -/
theorem grants_released_of_frees {g : Grant} (h : p.Frees g) :
    p.grants.Perm (g :: (p.released g.lease).grants) := by
  obtain ⟨p', hp'⟩ := h
  rw [releaseTunnel_eq] at hp'
  rw [released_eq]
  split at hp'
  · cases hp'
  · next g₀ hfind =>
    simp only [Except.ok.injEq, Prod.mk.injEq] at hp'
    -- The release takes a grant with this lease, and frees this port.
    have hg : g₀ = g := by
      obtain ⟨lease, port⟩ := g
      obtain ⟨lease₀, port₀⟩ := g₀
      have hlease := (find?_grants_eq_some hfind).1
      simp only at hlease hp'
      rw [hlease, hp'.1]
    rw [hfind, hg]
    exact grants_assign_none (hg ▸ List.mem_of_find?_eq_some hfind)

/-- What a release leaves: everything but the lowest grant of its lease. -/
theorem mem_grants_released_iff {g : Grant} :
    g ∈ (p.released lease).grants ↔ g ∈ p.grants ∧ (g.lease = lease → ¬ p.IsLowest g) := by
  rw [released_eq]
  cases hfind : p.grants.find? fun g => g.lease == lease with
  | none =>
    have hnobody : g ∈ p.grants → g.lease ≠ lease := by
      intro hg
      simpa using List.find?_eq_none.1 hfind g hg
    exact ⟨fun hg => ⟨hg, fun hsame => absurd hsame (hnobody hg)⟩, And.left⟩
  | some g₀ =>
    have hg₀ := List.mem_of_find?_eq_some hfind
    obtain ⟨hlease, hleast⟩ := find?_grants_eq_some hfind
    have hperm := grants_assign_none hg₀
    have hnodup := hperm.nodup_iff.1 (nodup_grants p)
    rw [hperm.mem_iff, List.mem_cons]
    constructor
    · intro hleft
      refine ⟨.inr hleft, ?_⟩
      intro hsame hlow
      -- Two lowest grants of one lease are one grant.
      have hport : g.port = g₀.port :=
        UInt16.le_antisymm (hlow g₀ hg₀ (hlease.trans hsame.symm))
          (hleast g (hperm.mem_iff.2 (List.mem_cons_of_mem _ hleft)) hsame)
      have heq : g = g₀ := by
        cases g
        cases g₀
        simp only at hport hsame hlease
        rw [hport, hsame, hlease]
      rw [heq] at hleft
      exact (List.nodup_cons.1 hnodup).1 hleft
    · rintro ⟨rfl | hleft, hnot⟩
      · refine absurd ?_ (hnot hlease)
        intro g' hg' hsame
        exact hleast g' hg' (hsame.trans hlease)
      · exact hleft

/-- The only grant of its lease is the one that a release frees. -/
theorem frees_of_only {g : Grant} {rest : List Grant} (h : p.grants.Perm (g :: rest))
    (honly : ∀ g' ∈ rest, g'.lease ≠ g.lease) : p.Frees g := by
  refine (frees_iff (h.mem_iff.2 List.mem_cons_self)).2 fun g' hg' hsame => ?_
  rcases List.mem_cons.1 (h.mem_iff.1 hg') with rfl | hrest
  · exact UInt16.le_refl _
  · exact absurd hsame (honly g' hrest)

/-- The pool after one release for each of some grants. -/
def releasedAll (p : PortPool) (gs : List Grant) : PortPool :=
  gs.foldl (fun p g => p.released g.lease) p

@[simp]
theorem first_releasedAll (p : PortPool) (gs : List Grant) :
    (p.releasedAll gs).first = p.first := by
  induction gs generalizing p with
  | nil => rfl
  | cons g gs ih => exact (ih _).trans (first_released p g.lease)

@[simp]
theorem ports_releasedAll (p : PortPool) (gs : List Grant) :
    (p.releasedAll gs).ports = p.ports := by
  induction gs generalizing p with
  | nil => rfl
  | cons g gs ih => exact (ih _).trans (ports_released p g.lease)

/-- What releases for different leases leave: everything but the lowest grant of each. -/
theorem mem_grants_releasedAll_iff {gs : List Grant} (hnodup : (gs.map Grant.lease).Nodup)
    {g : Grant} : g ∈ (p.releasedAll gs).grants ↔
      g ∈ p.grants ∧ (g.lease ∈ gs.map Grant.lease → ¬ p.IsLowest g) := by
  induction gs generalizing p with
  | nil => exact ⟨fun hg => ⟨hg, fun hmem => absurd hmem List.not_mem_nil⟩, And.left⟩
  | cons first gs ih =>
    rw [List.map_cons, List.nodup_cons] at hnodup
    obtain ⟨hfirst, hrest⟩ := hnodup
    -- The first release does not touch the grants of the leases that follow.
    have hlowest : g.lease ∈ gs.map Grant.lease →
        ((p.released first.lease).IsLowest g ↔ p.IsLowest g) := by
      intro hmem
      have hother : g.lease ≠ first.lease := fun hsame => hfirst (hsame ▸ hmem)
      have hsame : ∀ g', g'.lease = g.lease →
          (g' ∈ (p.released first.lease).grants ↔ g' ∈ p.grants) := by
        intro g' hg'
        rw [mem_grants_released_iff]
        exact ⟨And.left, fun hin => ⟨hin, fun heq => absurd (hg'.symm.trans heq) hother⟩⟩
      constructor
      · intro hlow g' hg' hlease
        exact hlow g' ((hsame g' hlease).2 hg') hlease
      · intro hlow g' hg' hlease
        exact hlow g' ((hsame g' hlease).1 hg') hlease
    have hstep : p.releasedAll (first :: gs) = (p.released first.lease).releasedAll gs := rfl
    rw [hstep, ih hrest, mem_grants_released_iff, List.map_cons, List.mem_cons, and_assoc]
    refine and_congr_right fun _ => ?_
    constructor
    · rintro ⟨hone, hothers⟩ (hsame | hmem)
      · exact hone hsame
      · rw [← hlowest hmem]
        exact hothers hmem
    · intro hall
      refine ⟨fun hsame => hall (.inl hsame), ?_⟩
      intro hmem
      rw [hlowest hmem]
      exact hall (.inr hmem)

/-- Releases for grants whose leases nobody else holds take away those grants. -/
theorem grants_releasedAll {gs rest : List Grant} (h : p.grants.Perm (gs ++ rest))
    (hnodup : (gs.map Grant.lease).Nodup) (honly : ∀ g ∈ gs, ∀ g' ∈ rest, g'.lease ≠ g.lease) :
    (p.releasedAll gs).grants.Perm rest := by
  induction gs generalizing p with
  | nil => exact h
  | cons g gs ih =>
    rw [List.map_cons, List.nodup_cons] at hnodup
    -- Neither the releases that follow nor the rest have this lease.
    have hfrees : p.Frees g := by
      refine frees_of_only h fun g' hg' => ?_
      rcases List.mem_append.1 hg' with hg' | hg'
      · exact fun hsame => hnodup.1 (hsame ▸ List.mem_map_of_mem hg')
      · exact honly g List.mem_cons_self g' hg'
    have hperm := grants_released_of_frees hfrees
    exact ih ((List.perm_cons g).1 (hperm.symm.trans h)) hnodup.2
      fun g' hg' => honly g' (List.mem_cons_of_mem _ hg')

/-- The releases for the grants that a pool has more than another bring it back to
that one, if their leases are all different and new. -/
theorem releasedAll_eq {gs : List Grant} (h : p'.grants.Perm (gs ++ p.grants))
    (hfirst : p'.first = p.first) (hports : p'.ports = p.ports)
    (hnodup : (gs.map Grant.lease).Nodup) (honly : ∀ g ∈ gs, ∀ g' ∈ p.grants, g'.lease ≠ g.lease) :
    p'.releasedAll gs = p := by
  refine ext_grants ?_ ?_ (grants_releasedAll h hnodup honly)
  · rw [first_releasedAll, hfirst]
  · rw [ports_releasedAll, hports]

/-- A port that was leased for a new lease is the one that its release frees. -/
theorem released_acquire {owner tunnel : String} (h : p.acquire owner tunnel = .ok (port, p'))
    (hnew : ∀ g ∈ p.grants, g.lease ≠ ⟨owner, tunnel⟩) : p'.released ⟨owner, tunnel⟩ = p := by
  obtain ⟨-, hgrants, hfirst, hports⟩ := acquire_eq_ok h
  have hback : p'.releasedAll [⟨⟨owner, tunnel⟩, port⟩] = p := by
    refine releasedAll_eq hgrants hfirst hports (by simp) fun g hg g' hg' => ?_
    rw [List.mem_singleton.1 hg]
    exact hnew g' hg'
  exact hback

end PortPool

end ReverseTunnel
