import Mathlib.Data.List.Perm.Basic
import ReverseTunnel.NameMap

/-!
# Maps from names after a change

What a map answers once a name is set or removed, and its entries up to order:
a map is one of its entries and the map without that name
(`entries_perm_erase`). A name that is set and removed again leaves no trace
(`erase_insert`), and setting the entries of a map one after the other makes it anew
(`ofList_entries`).
-/

namespace ReverseTunnel.NameMap

variable {α : Type} {m : NameMap α} {name other : String} {value : α}

theorem contains_iff : m.contains name = true ↔ ∃ value, m.get? name = some value :=
  Option.isSome_iff_exists

theorem contains_eq_false_iff : m.contains name = false ↔ m.get? name = none := by
  simp [contains]

@[simp]
theorem get?_insert_self : (m.insert name value).get? name = some value := by
  rw [get?_insert, if_pos rfl]

theorem get?_insert_of_ne (h : other ≠ name) : (m.insert name value).get? other = m.get? other := by
  rw [get?_insert, if_neg h]

@[simp]
theorem get?_erase_self : (m.erase name).get? name = none := by
  rw [get?_erase, if_pos rfl]

theorem get?_erase_of_ne (h : other ≠ name) : (m.erase name).get? other = m.get? other := by
  rw [get?_erase, if_neg h]

theorem get?_erase_eq_some_iff :
    (m.erase name).get? other = some value ↔ other ≠ name ∧ m.get? other = some value := by
  rw [get?_erase]
  by_cases h : other = name
  · simp [h]
  · simp [h]

theorem contains_erase_iff :
    (m.erase name).contains other = true ↔ other ≠ name ∧ m.contains other = true := by
  simp only [contains_iff, get?_erase_eq_some_iff, exists_and_left]

/-- Removing a name that has no value changes nothing. -/
theorem erase_eq_self (h : m.get? name = none) : m.erase name = m := by
  refine ext_get? fun other => ?_
  rw [get?_erase]
  split
  · next heq => rw [heq, h]
  · rfl

/-- A name that is set and removed again leaves the map without it. -/
theorem erase_insert : (m.insert name value).erase name = m.erase name := by
  refine ext_get? fun other => ?_
  rw [get?_erase, get?_erase, get?_insert]
  split <;> rfl

theorem lookupIn_eq_none_of_notMem {l : List (String × α)} (h : name ∉ l.map Prod.fst) :
    lookupIn name l = none := by
  induction l with
  | nil => rfl
  | cons e rest ih =>
    rw [List.map_cons, List.mem_cons, not_or] at h
    rw [lookupIn, if_neg (Ne.symm h.1), ih h.2]

theorem mem_names_iff : name ∈ m.names ↔ ∃ value, m.get? name = some value := by
  simp only [names, List.mem_map, get?_eq_some_iff, Prod.exists, exists_and_right, exists_eq_right]

theorem nodup_entries (m : NameMap α) : m.entries.Nodup :=
  m.sorted.imp fun hlt heq => absurd (heq ▸ hlt) (String.lt_irrefl _)

theorem nodup_names (m : NameMap α) : m.names.Nodup := by
  rw [names, List.Nodup, List.pairwise_map]
  exact m.sorted.imp fun hlt heq => absurd (heq ▸ hlt) (String.lt_irrefl _)

section Split

variable {before after : List (String × α)} (h : m.entries = before ++ (name, value) :: after)
include h

/-- Before an entry of a map stand those of the lesser names. -/
theorem mem_before_iff {e : String × α} : e ∈ before ↔ e ∈ m.entries ∧ e.1 < name := by
  have hsorted := m.sorted
  rw [h, List.pairwise_append, List.pairwise_cons] at hsorted
  obtain ⟨-, ⟨hafter, -⟩, hbefore⟩ := hsorted
  constructor
  · intro he
    refine ⟨?_, hbefore e he _ List.mem_cons_self⟩
    rw [h]
    exact List.mem_append_left _ he
  · rintro ⟨he, hlt⟩
    rw [h, List.mem_append, List.mem_cons] at he
    rcases he with he | rfl | he
    · exact he
    · exact absurd hlt (String.lt_irrefl _)
    · exact absurd (String.lt_trans hlt (hafter e he)) (String.lt_irrefl _)

/-- After an entry of a map stand those of the greater names. -/
theorem mem_after_iff {e : String × α} : e ∈ after ↔ e ∈ m.entries ∧ name < e.1 := by
  have hsorted := m.sorted
  rw [h, List.pairwise_append, List.pairwise_cons] at hsorted
  obtain ⟨-, ⟨hafter, -⟩, hbefore⟩ := hsorted
  constructor
  · intro he
    refine ⟨?_, hafter e he⟩
    rw [h]
    exact List.mem_append_right _ (List.mem_cons_of_mem _ he)
  · rintro ⟨he, hlt⟩
    rw [h, List.mem_append, List.mem_cons] at he
    rcases he with he | rfl | he
    · exact absurd (String.lt_trans hlt (hbefore e he _ List.mem_cons_self)) (String.lt_irrefl _)
    · exact absurd hlt (String.lt_irrefl _)
    · exact he

end Split

/-- The entries of a map with a name set: that entry, and those of the other names. -/
theorem entries_insert_perm (m : NameMap α) (name : String) (value : α) :
    (m.insert name value).entries.Perm ((name, value) :: (m.erase name).entries) := by
  have hnew : (name, value) ∉ (m.erase name).entries := by
    intro hmem
    rw [← get?_eq_some_iff, get?_erase_self] at hmem
    cases hmem
  refine (List.perm_ext_iff_of_nodup (nodup_entries _)
    (List.nodup_cons.2 ⟨hnew, nodup_entries _⟩)).2 fun ⟨n, v⟩ => ?_
  rw [List.mem_cons, ← get?_eq_some_iff, ← get?_eq_some_iff, get?_insert, get?_erase,
    Prod.mk.injEq]
  by_cases hn : n = name
  · simp [hn, eq_comm]
  · simp [hn]

/-- The entries of a map: that of one of its names, and those of the other names. -/
theorem entries_perm_erase (h : m.get? name = some value) :
    m.entries.Perm ((name, value) :: (m.erase name).entries) := by
  have hself : m.insert name value = m := by
    refine ext_get? fun other => ?_
    rw [get?_insert]
    split
    · next heq => rw [heq, h]
    · rfl
  have hperm := entries_insert_perm m name value
  rwa [hself] at hperm

/-- What a map answers once sorted entries are set one after the other. -/
theorem get?_foldl_insert_of_sorted {l : List (String × α)} (h : l.Pairwise fun a b => a.1 < b.1)
    (m : NameMap α) (name : String) :
    (l.foldl (fun m e => m.insert e.1 e.2) m).get? name = (lookupIn name l).or (m.get? name) := by
  induction l generalizing m with
  | nil => rfl
  | cons e rest ih =>
    rw [List.pairwise_cons] at h
    rw [List.foldl_cons, ih h.2, get?_insert, lookupIn]
    by_cases heq : e.1 = name
    · subst heq
      rw [if_pos rfl, if_pos rfl, lookupIn_eq_none_of_forall_lt h.1]
      rfl
    · rw [if_neg (Ne.symm heq), if_neg heq]

/-- A map is made of its entries. -/
theorem ofList_entries (m : NameMap α) : ofList m.entries = m := by
  refine ext_get? fun name => ?_
  rw [ofList, get?_foldl_insert_of_sorted m.sorted, get?_empty, Option.or_none]
  rfl

end ReverseTunnel.NameMap
