import Mathlib.Data.List.Nodup
import ReverseTunnel.Proofs.PortPool.Grants

/-!
# The ledger of one client

What a server does for one client, seen from the port pool, is a list of entries:
a port is leased for a tunnel that was to be opened, or a release is issued for a
grant of the client, or nothing changes for it (`Entry`). No two grants of the
client are for one tunnel, and none is for a tunnel that is still to be opened
(`Balanced`). A release names a tunnel and not a port, so this is what makes it
free the port of its own grant (`Balanced.frees`).

Every entry keeps the ledger balanced (`Balanced.entry`), and therefore a grant is
released at most once, and gone from then on (`released_once`).
-/

namespace ReverseTunnel

/-! ## The grants of one client -/

/-- The grants of a client among some grants. -/
def ofOwner (client : String) (gs : List Grant) : List Grant :=
  gs.filter fun g => g.lease.owner == client

section ofOwner

variable {client : String} {gs gs' : List Grant} {g : Grant}

theorem mem_ofOwner : g ∈ ofOwner client gs ↔ g ∈ gs ∧ g.lease.owner = client := by
  simp [ofOwner]

theorem ofOwner_append (client : String) (gs gs' : List Grant) :
    ofOwner client (gs ++ gs') = ofOwner client gs ++ ofOwner client gs' :=
  List.filter_append gs gs'

theorem ofOwner_eq_self (h : ∀ g ∈ gs, g.lease.owner = client) : ofOwner client gs = gs :=
  List.filter_eq_self.2 fun g hg => by simpa using h g hg

theorem ofOwner_eq_nil (h : ∀ g ∈ gs, g.lease.owner ≠ client) : ofOwner client gs = [] :=
  List.filter_eq_nil_iff.2 fun g hg => by simpa using h g hg

theorem ofOwner_cons_self (h : g.lease.owner = client) (gs : List Grant) :
    ofOwner client (g :: gs) = g :: ofOwner client gs :=
  List.filter_cons_of_pos (by simpa using h)

theorem ofOwner_cons_of_ne (h : g.lease.owner ≠ client) (gs : List Grant) :
    ofOwner client (g :: gs) = ofOwner client gs :=
  List.filter_cons_of_neg (by simpa using h)

theorem perm_ofOwner (client : String) (h : gs.Perm gs') :
    (ofOwner client gs).Perm (ofOwner client gs') :=
  h.filter _

end ofOwner

namespace PortPool

variable {p p' : PortPool} {client : String}

/-- A lease of somebody else is none of the client's. -/
theorem ofOwner_acquire_of_ne {owner tunnel : String} {port : UInt16}
    (h : p.acquire owner tunnel = .ok (port, p')) (hne : owner ≠ client) :
    (ofOwner client p'.grants).Perm (ofOwner client p.grants) := by
  obtain ⟨-, hgrants, -, -⟩ := acquire_eq_ok h
  have hperm := perm_ofOwner client hgrants
  rwa [ofOwner_cons_of_ne hne] at hperm

/-- A release for somebody else frees no port of the client. -/
theorem ofOwner_released_of_ne {lease : Lease} (hne : lease.owner ≠ client) :
    (ofOwner client (p.released lease).grants).Perm (ofOwner client p.grants) := by
  by_cases hheld : ∃ g ∈ p.grants, g.lease = lease
  · obtain ⟨g, hg, rfl⟩ := hheld
    obtain ⟨g₀, hlease, hgrants⟩ := grants_released hg
    have hperm := perm_ofOwner client hgrants
    rw [ofOwner_cons_of_ne (by rwa [hlease])] at hperm
    exact hperm.symm
  · have hnone : p.grants.find? (fun g => g.lease == lease) = none :=
      List.find?_eq_none.2 fun g hg => by simpa using fun h => hheld ⟨g, hg, h⟩
    rw [released_eq, hnone]

end PortPool

/-! ## The ledger of one client -/

/-- What a turn does to the pool, to the grants of the client, and to the tunnels that
it has still to open; and the grant whose release it issues. -/
inductive Entry (client : String) (p : PortPool) (held : List Grant) :
    List String → PortPool → List Grant → List String → Option Grant → Prop where
  | keep {names names' : List String} {p' : PortPool} {held' : List Grant}
      (pool : (ofOwner client p'.grants).Perm (ofOwner client p.grants))
      (grants : held'.Perm held) (opened : names'.Sublist names) :
      Entry client p held names p' held' names' none
  | lease {names : List String} {tunnel : String} {port : UInt16} {p' : PortPool}
      {held' : List Grant} (acquired : p.acquire client tunnel = .ok (port, p'))
      (grants : held'.Perm (⟨⟨client, tunnel⟩, port⟩ :: held)) :
      Entry client p held (tunnel :: names) p' held' names none
  | free {g : Grant} {names names' : List String} {held' : List Grant}
      (owner : g.lease.owner = client) (grants : held.Perm (g :: held'))
      (opened : names'.Sublist names) :
      Entry client p held names (p.released g.lease) held' names' (some g)

/-- The tunnels that the client has grants for, or has still to open. -/
def tunnelsInUse (held : List Grant) (names : List String) : List String :=
  held.map (fun g => g.lease.tunnel) ++ names

/-- The grants of the client are those that the pool has for it. They are for
different tunnels, and for none that is still to be opened. -/
structure Balanced (client : String) (p : PortPool) (held : List Grant) (names : List String) :
    Prop where
  leased : (ofOwner client p.grants).Perm held
  distinct : (tunnelsInUse held names).Nodup

section Ledger

variable {client : String} {p p' : PortPool} {held held' : List Grant} {names names' : List String}
  {r r' : Option Grant}

namespace Entry

/-- Nothing happens to the pool and the grants. -/
theorem stay (h : held'.Perm held) (hnames : names'.Sublist names) :
    Entry client p held names p held' names' none :=
  .keep (.refl _) h hnames

theorem append (h : Entry client p held names p' held' names' r) (rest : List Grant) :
    Entry client p (held ++ rest) names p' (held' ++ rest) names' r := by
  cases h with
  | keep hpool hgrants hnames => exact .keep hpool (hgrants.append_right rest) hnames
  | lease hacquired hgrants => exact .lease hacquired (hgrants.append_right rest)
  | free howner hgrants hnames => exact .free howner (hgrants.append_right rest) hnames

theorem perm {held₁ held₁' : List Grant} (h : Entry client p held names p' held' names' r)
    (hperm : held.Perm held₁) (hperm' : held'.Perm held₁') :
    Entry client p held₁ names p' held₁' names' r := by
  cases h with
  | keep hpool hgrants hnames =>
    exact .keep hpool (hperm'.symm.trans (hgrants.trans hperm)) hnames
  | lease hacquired hgrants =>
    exact .lease hacquired (hperm'.symm.trans (hgrants.trans (hperm.cons _)))
  | free howner hgrants hnames =>
    exact .free howner (hperm.symm.trans (hgrants.trans (hperm'.cons _))) hnames

/-- The grants before and after a turn tell for which of them a release was issued. -/
theorem unique {p₁ p₁' : PortPool} {names₁ names₁' : List String}
    (h : Entry client p held names p' held' names' r)
    (h' : Entry client p₁ held names₁ p₁' held' names₁' r') : r = r' := by
  cases h with
  | keep hpool hgrants hnames =>
    cases h' with
    | keep => rfl
    | lease => rfl
    | free howner' hgrants' hnames' =>
      have hlength := (hgrants.trans hgrants').length_eq
      simp only [List.length_cons] at hlength
      omega
  | lease hacquired hgrants =>
    cases h' with
    | keep => rfl
    | lease => rfl
    | free howner' hgrants' hnames' =>
      have hlength := (hgrants.trans (hgrants'.cons _)).length_eq
      simp only [List.length_cons] at hlength
      omega
  | @free g _ _ _ howner hgrants hnames =>
    cases h' with
    | keep hpool' hgrants' hnames' =>
      have hlength := (hgrants'.trans hgrants).length_eq
      simp only [List.length_cons] at hlength
      omega
    | lease hacquired' hgrants' =>
      have hlength := (hgrants'.trans (hgrants.cons _)).length_eq
      simp only [List.length_cons] at hlength
      omega
    | @free g' _ _ _ howner' hgrants' hnames' =>
      -- Both grants are the one that occurs once more before than after.
      by_contra hne
      have hcount := (hgrants.symm.trans hgrants').count_eq g
      have hne' : g' ≠ g := fun heq => hne (by rw [heq])
      rw [List.count_cons_self, List.count_cons_of_ne hne'] at hcount
      omega

theorem mem_or_released (h : Entry client p held names p' held' names' r) {g : Grant}
    (hg : g ∈ held) : g ∈ held' ∨ r = some g := by
  cases h with
  | keep hpool hgrants hnames => exact .inl (hgrants.mem_iff.2 hg)
  | lease hacquired hgrants => exact .inl (hgrants.mem_iff.2 (List.mem_cons_of_mem _ hg))
  | free howner hgrants hnames =>
    rcases List.mem_cons.1 (hgrants.mem_iff.1 hg) with heq | hkept
    · exact .inr (congrArg some heq.symm)
    · exact .inl hkept

/-- A release is issued for a grant that the client had. -/
theorem mem_of_released {g : Grant} (h : Entry client p held names p' held' names' (some g)) :
    g ∈ held := by
  cases h with
  | free howner hgrants hnames => exact hgrants.mem_iff.2 List.mem_cons_self

theorem names_subset (h : Entry client p held names p' held' names' r) : names' ⊆ names := by
  cases h with
  | keep hpool hgrants hnames => exact hnames.subset
  | lease hacquired hgrants => exact List.subset_cons_self _ _
  | free howner hgrants hnames => exact hnames.subset

/-- A new grant is for a tunnel that was to be opened. -/
theorem mem_names_of_new (h : Entry client p held names p' held' names' r) {g : Grant}
    (hbefore : g ∉ held) (hafter : g ∈ held') : g.lease.tunnel ∈ names ∧ r = none := by
  cases h with
  | keep hpool hgrants hnames => exact absurd (hgrants.mem_iff.1 hafter) hbefore
  | lease hacquired hgrants =>
    rcases List.mem_cons.1 (hgrants.mem_iff.1 hafter) with rfl | hold
    · exact ⟨List.mem_cons_self, rfl⟩
    · exact absurd hold hbefore
  | free howner hgrants hnames =>
    exact absurd (hgrants.mem_iff.2 (List.mem_cons_of_mem _ hafter)) hbefore

/-- A tunnel without a grant that is not to be opened either stays so. -/
theorem tunnelsInUse_subset (h : Entry client p held names p' held' names' r) :
    tunnelsInUse held' names' ⊆ tunnelsInUse held names := by
  intro tunnel hmem
  rw [tunnelsInUse, List.mem_append] at hmem ⊢
  rcases hmem with hheld | hnames
  · obtain ⟨g, hg, rfl⟩ := List.mem_map.1 hheld
    by_cases hold : g ∈ held
    · exact .inl (List.mem_map_of_mem hold)
    · exact .inr (h.mem_names_of_new hold hg).1
  · exact .inr (h.names_subset hnames)

end Entry

namespace Balanced

/-- Of two grants for one tunnel one would be too many. -/
theorem eq_of_tunnel (h : Balanced client p held names) {g g' : Grant} (hg : g ∈ held)
    (hg' : g' ∈ held) (htunnel : g.lease.tunnel = g'.lease.tunnel) : g = g' :=
  List.inj_on_of_nodup_map (List.Nodup.of_append_left h.distinct) hg hg' htunnel

/-- A tunnel that is still to be opened has no grant yet. -/
theorem tunnel_notMem (h : Balanced client p held names) {g : Grant} (hg : g ∈ held) :
    g.lease.tunnel ∉ names := fun hmem =>
  List.disjoint_of_nodup_append h.distinct (List.mem_map_of_mem hg) hmem

theorem owner_eq (h : Balanced client p held names) {g : Grant} (hg : g ∈ held) :
    g.lease.owner = client :=
  (mem_ofOwner.1 (h.leased.mem_iff.2 hg)).2

theorem mem_iff (h : Balanced client p held names) {g : Grant} (howner : g.lease.owner = client) :
    g ∈ held ↔ g ∈ p.grants := by
  rw [← h.leased.mem_iff, mem_ofOwner, and_iff_left howner]

/-- The release for a grant of the client frees the port of this very grant. -/
theorem frees (h : Balanced client p held names) {g : Grant} (hg : g ∈ held) : p.Frees g := by
  have howner := h.owner_eq hg
  refine (PortPool.frees_iff ((h.mem_iff howner).1 hg)).2 fun g' hg' hlease => ?_
  have hheld : g' ∈ held := (h.mem_iff (by rw [hlease, howner])).2 hg'
  rw [h.eq_of_tunnel hg hheld (by rw [hlease])]
  exact UInt16.le_refl _

/-- One turn keeps the ledger balanced. -/
theorem entry (h : Balanced client p held names) (hentry : Entry client p held names p' held' names' r) :
    Balanced client p' held' names' := by
  cases hentry with
  | keep hpool hgrants hnames =>
    refine ⟨hpool.trans (h.leased.trans hgrants.symm), ?_⟩
    have hperm := (hgrants.map fun g => g.lease.tunnel).append_right names'
    exact hperm.nodup_iff.2 (h.distinct.sublist (hnames.append_left _))
  | @lease _ tunnel port _ _ hacquired hgrants =>
    obtain ⟨-, hpool, -, -⟩ := PortPool.acquire_eq_ok hacquired
    constructor
    · have hperm := perm_ofOwner client hpool
      have hself := ofOwner_cons_self (g := ⟨⟨client, tunnel⟩, port⟩) rfl p.grants
      rw [hself] at hperm
      exact hperm.trans ((h.leased.cons _).trans hgrants.symm)
    · have hperm := (hgrants.map fun g => g.lease.tunnel).append_right names'
      rw [List.map_cons, List.cons_append] at hperm
      exact (hperm.trans List.perm_middle.symm).nodup_iff.2 h.distinct
  | @free g _ _ _ howner hgrants hnames =>
    have hfrees := h.frees (hgrants.mem_iff.2 List.mem_cons_self)
    constructor
    · have hperm := perm_ofOwner client (PortPool.grants_released_of_frees hfrees)
      rw [ofOwner_cons_self howner] at hperm
      exact (List.perm_cons g).1 (hperm.symm.trans (h.leased.trans hgrants))
    · have hperm := (hgrants.map fun g => g.lease.tunnel).append_right names
      have hnodup := hperm.nodup_iff.1 h.distinct
      rw [List.map_cons, List.cons_append, List.nodup_cons] at hnodup
      exact hnodup.2.sublist (hnames.append_left _)

/-- Once it is released, a tunnel has no grant any more and is not to be opened. -/
theorem tunnel_gone (h : Balanced client p held names) {g : Grant}
    (hentry : Entry client p held names p' held' names' (some g)) :
    g.lease.tunnel ∉ tunnelsInUse held' names' := by
  cases hentry with
  | free howner hgrants hnames =>
    have hperm := (hgrants.map fun g => g.lease.tunnel).append_right names
    have hnodup := hperm.nodup_iff.1 h.distinct
    rw [List.map_cons, List.cons_append, List.nodup_cons] at hnodup
    exact fun hmem => hnodup.1 ((hnames.append_left _).subset hmem)

end Balanced

end Ledger

/-- A grant that turns up once the ledger was balanced is kept until a release is issued
for it, once. -/
theorem released_once {client : String} {n : Nat} {pool : Nat → PortPool} {held : Nat → List Grant}
    {names : Nat → List String} {released : Nat → Grant → Prop}
    (hstart : Balanced client (pool 0) (held 0) (names 0))
    (hentry : ∀ k < n, ∃ r,
      Entry client (pool k) (held k) (names k) (pool (k + 1)) (held (k + 1)) (names (k + 1)) r ∧
        ∀ g, g.lease.owner = client → (released k g ↔ r = some g))
    {i : Nat} (hi : i < n) {g : Grant} (hbefore : g ∉ held i) (hafter : g ∈ held (i + 1)) :
    (g ∈ held n ∧ ∀ j < n, ¬ released j g) ∨ g ∉ held n ∧ ∃ j < n, released j g ∧
      ∀ j' < n, released j' g → j' = j := by
  have hbalanced : ∀ k ≤ n, Balanced client (pool k) (held k) (names k) := by
    intro k hk
    induction k with
    | zero => exact hstart
    | succ k ih =>
      obtain ⟨r, hr, -⟩ := hentry k hk
      exact (ih (Nat.le_of_succ_le hk)).entry hr
  have howner : g.lease.owner = client := (hbalanced (i + 1) hi).owner_eq hafter
  -- As long as the tunnel is to be opened, no release for it was issued.
  have hunopened : ∀ k ≤ n, g.lease.tunnel ∈ names k → ∀ j < k, ¬ released j g := by
    intro k hk
    induction k with
    | zero => exact fun _ j hj => absurd hj (Nat.not_lt_zero j)
    | succ k ih =>
      intro hmem j hj hreleased
      obtain ⟨r, hr, hissued⟩ := hentry k hk
      have hold := hr.names_subset hmem
      rcases Nat.lt_succ_iff_lt_or_eq.1 hj with hlt | rfl
      · exact ih (Nat.le_of_succ_le hk) hold j hlt hreleased
      · rw [(hissued g howner).1 hreleased] at hr
        exact (hbalanced j (Nat.le_of_succ_le hk)).tunnel_notMem hr.mem_of_released hold
  -- From its lease on the grant is held, until it is released and its tunnel gone.
  have hall : ∀ k, i + 1 ≤ k → k ≤ n →
      (g ∈ held k ∧ ∀ j < k, ¬ released j g) ∨
      g.lease.tunnel ∉ tunnelsInUse (held k) (names k) ∧
        ∃ j < k, released j g ∧ ∀ j' < k, released j' g → j' = j := by
    intro k hk
    induction k, hk using Nat.le_induction with
    | base =>
      intro _
      obtain ⟨r, hr, hissued⟩ := hentry i hi
      obtain ⟨hmem, rfl⟩ := hr.mem_names_of_new hbefore hafter
      refine .inl ⟨hafter, fun j hj hreleased => ?_⟩
      rcases Nat.lt_succ_iff_lt_or_eq.1 hj with hlt | rfl
      · exact hunopened i (Nat.le_of_lt hi) hmem j hlt hreleased
      · exact absurd ((hissued g howner).1 hreleased) nofun
    | succ k hk ih =>
      intro hkn
      obtain ⟨r, hr, hissued⟩ := hentry k hkn
      rcases ih (Nat.le_of_succ_le hkn) with ⟨hheld, hnone⟩ | ⟨hgone, j, hj, hreleased, honly⟩
      · rcases hr.mem_or_released hheld with hkept | rfl
        · refine .inl ⟨hkept, fun j hj hreleased => ?_⟩
          rcases Nat.lt_succ_iff_lt_or_eq.1 hj with hlt | rfl
          · exact hnone j hlt hreleased
          · rw [(hissued g howner).1 hreleased] at hr
            have hgone := (hbalanced j (Nat.le_of_succ_le hkn)).tunnel_gone hr
            exact absurd (List.mem_append_left _ (List.mem_map_of_mem hkept)) hgone
        · refine .inr ⟨(hbalanced k (Nat.le_of_succ_le hkn)).tunnel_gone hr, k, Nat.lt_succ_self k,
            (hissued g howner).2 rfl, fun j' hj' hreleased => ?_⟩
          rcases Nat.lt_succ_iff_lt_or_eq.1 hj' with hlt | heq
          · exact absurd hreleased (hnone j' hlt)
          · exact heq
      · refine .inr ⟨fun hmem => hgone (hr.tunnelsInUse_subset hmem), j, Nat.lt_succ_of_lt hj, hreleased,
          fun j' hj' hreleased' => ?_⟩
        rcases Nat.lt_succ_iff_lt_or_eq.1 hj' with hlt | rfl
        · exact honly j' hlt hreleased'
        · rw [(hissued g howner).1 hreleased'] at hr
          exact absurd (List.mem_append_left _ (List.mem_map_of_mem hr.mem_of_released)) hgone
  refine (hall n hi (Nat.le_refl n)).imp_right fun ⟨hgone, hexists⟩ => ⟨fun hmem => hgone ?_, hexists⟩
  exact List.mem_append_left _ (List.mem_map_of_mem hmem)

end ReverseTunnel
