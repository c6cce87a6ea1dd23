/-!
# Maps from names

A map from names to values, held as a list of entries in ascending order of the
names. The order of characters is that of their code points, which is also the
order of the names' UTF-8 bytes. Every operation is described by what `get?`
answers after it (`get?_insert`, `get?_erase`), and two maps that answer alike
are equal (`ext_get?`).
-/

namespace ReverseTunnel

/-- A finite map from names, its entries sorted by name. -/
structure NameMap (α : Type) where
  entries : List (String × α)
  sorted : entries.Pairwise fun a b => a.1 < b.1

namespace NameMap

variable {α β : Type}

/-- The map without entries. -/
def empty : NameMap α := ⟨[], List.Pairwise.nil⟩

instance : EmptyCollection (NameMap α) := ⟨empty⟩

instance : Inhabited (NameMap α) := ⟨empty⟩

/-- The value that a list of entries gives a name. -/
def lookupIn (name : String) : List (String × α) → Option α
  | [] => none
  | (n, v) :: rest => if n = name then some v else lookupIn name rest

/-- The value of a name. -/
def get? (m : NameMap α) (name : String) : Option α := lookupIn name m.entries

/-- The name has a value. -/
def contains (m : NameMap α) (name : String) : Bool := (m.get? name).isSome

/-- The names in ascending order. -/
def names (m : NameMap α) : List String := m.entries.map Prod.fst

/-- The values in the order of their names. -/
def values (m : NameMap α) : List α := m.entries.map Prod.snd

/-- The number of entries. -/
def size (m : NameMap α) : Nat := m.entries.length

/-- The map has no entry. -/
def isEmpty (m : NameMap α) : Bool := m.entries.isEmpty

/-- Sorted entries with the value of one name set. -/
def insertIn (name : String) (value : α) : List (String × α) → List (String × α)
  | [] => [(name, value)]
  | (n, v) :: rest =>
    if name < n then (name, value) :: (n, v) :: rest
    else if n = name then (name, value) :: rest
    else (n, v) :: insertIn name value rest

theorem mem_insertIn {name : String} {value : α} {l : List (String × α)} {e : String × α}
    (h : e ∈ insertIn name value l) : e = (name, value) ∨ e ∈ l := by
  induction l with
  | nil => simpa [insertIn] using h
  | cons a rest ih =>
    obtain ⟨n, v⟩ := a
    simp only [insertIn] at h
    split at h
    · simpa using h
    · split at h
      · simp only [List.mem_cons] at h ⊢
        rcases h with h | h
        · exact .inl h
        · exact .inr (.inr h)
      · simp only [List.mem_cons] at h ⊢
        rcases h with h | h
        · exact .inr (.inl h)
        · rcases ih h with h | h
          · exact .inl h
          · exact .inr (.inr h)

theorem lt_of_not_lt_of_ne {a b : String} (h : ¬a < b) (hne : b ≠ a) : b < a := by
  rcases Std.Trichotomous.rel_or_eq_or_rel_swap (r := (· < · : String → String → Prop))
    (a := a) (b := b)
    with h1 | h1 | h1
  · exact absurd h1 h
  · exact absurd h1.symm hne
  · exact h1

theorem sorted_insertIn (name : String) (value : α) (l : List (String × α))
    (h : l.Pairwise fun a b => a.1 < b.1) :
    (insertIn name value l).Pairwise fun a b => a.1 < b.1 := by
  induction l with
  | nil => simp [insertIn]
  | cons a rest ih =>
    obtain ⟨n, v⟩ := a
    rw [List.pairwise_cons] at h
    simp only [insertIn]
    split
    · next hlt =>
      refine List.pairwise_cons.2 ⟨?_, List.pairwise_cons.2 h⟩
      intro e he
      simp only [List.mem_cons] at he
      rcases he with rfl | he
      · exact hlt
      · exact String.lt_trans hlt (h.1 e he)
    · next hlt =>
      split
      · next heq =>
        subst heq
        exact List.pairwise_cons.2 ⟨h.1, h.2⟩
      · next hne =>
        refine List.pairwise_cons.2 ⟨?_, ih h.2⟩
        intro e he
        rcases mem_insertIn he with rfl | he
        · exact lt_of_not_lt_of_ne hlt hne
        · exact h.1 e he

/-- The map with the value of a name set; a value it had before is replaced. -/
def insert (m : NameMap α) (name : String) (value : α) : NameMap α :=
  ⟨insertIn name value m.entries, sorted_insertIn name value m.entries m.sorted⟩

/-- The map without the entries that fail a test. -/
def filter (m : NameMap α) (p : String → α → Bool) : NameMap α :=
  ⟨m.entries.filter fun e => p e.1 e.2, m.sorted.filter _⟩

/-- The map without a name. -/
def erase (m : NameMap α) (name : String) : NameMap α := m.filter fun n _ => n != name

/-- The map of the entries of a list; of two entries for a name the later one counts. -/
def ofList (l : List (String × α)) : NameMap α :=
  l.foldl (fun m e => m.insert e.1 e.2) empty

/-- The map with every value changed by a function. -/
def map (f : α → β) (m : NameMap α) : NameMap β :=
  ⟨m.entries.map fun e => (e.1, f e.2), by
    rw [List.pairwise_map]
    exact m.sorted⟩

theorem lookupIn_eq_none_of_forall_lt {name : String} {l : List (String × α)}
    (h : ∀ e ∈ l, name < e.1) : lookupIn name l = none := by
  induction l with
  | nil => rfl
  | cons a rest ih =>
    have ha : a.1 ≠ name := fun heq => by
      have hlt := h a (by simp)
      rw [heq] at hlt
      exact absurd hlt (String.lt_irrefl name)
    simp only [lookupIn, if_neg ha]
    exact ih fun e he => h e (by simp [he])

theorem lookupIn_insertIn (name n' : String) (value : α) (l : List (String × α)) :
    lookupIn n' (insertIn name value l) = if n' = name then some value else lookupIn n' l := by
  induction l with
  | nil => simp [insertIn, lookupIn, eq_comm]
  | cons a rest ih =>
    obtain ⟨n, v⟩ := a
    simp only [insertIn]
    split
    · simp [lookupIn, eq_comm]
    · split
      · next heq =>
        subst heq
        by_cases h : n' = n
        · simp [lookupIn, h]
        · simp [lookupIn, h, Ne.symm h]
      · next hne =>
        simp only [lookupIn, ih]
        by_cases h : n = n'
        · subst h
          simp [hne]
        · simp [h]

theorem get?_insert (m : NameMap α) (name n' : String) (value : α) :
    (m.insert name value).get? n' = if n' = name then some value else m.get? n' :=
  lookupIn_insertIn name n' value m.entries

theorem lookupIn_filter_ne (name n' : String) (l : List (String × α)) :
    lookupIn n' (l.filter fun e => e.1 != name) = if n' = name then none else lookupIn n' l := by
  induction l with
  | nil => simp [lookupIn]
  | cons a rest ih =>
    obtain ⟨n, v⟩ := a
    by_cases h : n = name
    · subst h
      rw [List.filter_cons_of_neg (by simp), ih]
      by_cases h' : n' = n
      · simp [h']
      · simp [lookupIn, h', Ne.symm h']
    · rw [List.filter_cons_of_pos (by simp [h])]
      simp only [lookupIn, ih]
      by_cases h' : n = n'
      · subst h'
        simp [h]
      · simp [h']

theorem get?_erase (m : NameMap α) (name n' : String) :
    (m.erase name).get? n' = if n' = name then none else m.get? n' :=
  lookupIn_filter_ne name n' m.entries

@[simp]
theorem get?_empty (name : String) : (empty : NameMap α).get? name = none := rfl

theorem lookupIn_eq_some_iff {name : String} {value : α} {l : List (String × α)}
    (h : l.Pairwise fun a b => a.1 < b.1) :
    lookupIn name l = some value ↔ (name, value) ∈ l := by
  induction l with
  | nil => simp [lookupIn]
  | cons a rest ih =>
    obtain ⟨n, v⟩ := a
    rw [List.pairwise_cons] at h
    by_cases hn : n = name
    · subst hn
      simp only [lookupIn, if_true, Option.some.injEq, List.mem_cons, Prod.mk.injEq, true_and]
      constructor
      · exact fun hv => .inl hv.symm
      · rintro (hv | hmem)
        · exact hv.symm
        · exact absurd (h.1 _ hmem) (String.lt_irrefl n)
    · simp only [lookupIn, if_neg hn, ih h.2, List.mem_cons, Prod.mk.injEq]
      constructor
      · exact .inr
      · rintro (⟨hv, -⟩ | hmem)
        · exact absurd hv.symm hn
        · exact hmem

/-- A map answers a name with a value exactly when it holds that entry. -/
theorem get?_eq_some_iff {m : NameMap α} {name : String} {value : α} :
    m.get? name = some value ↔ (name, value) ∈ m.entries :=
  lookupIn_eq_some_iff m.sorted

@[ext]
theorem ext {m m' : NameMap α} (h : m.entries = m'.entries) : m = m' := by
  cases m
  cases m'
  simp_all

theorem entries_eq_of_lookupIn {l l' : List (String × α)}
    (hl : l.Pairwise fun a b => a.1 < b.1) (hl' : l'.Pairwise fun a b => a.1 < b.1)
    (h : ∀ name, lookupIn name l = lookupIn name l') : l = l' := by
  have hmem : ∀ e, e ∈ l ↔ e ∈ l' := fun e => by
    rw [← lookupIn_eq_some_iff hl, ← lookupIn_eq_some_iff hl', h]
  have hn : l.Nodup := hl.imp fun hlt heq => absurd (heq ▸ hlt) (String.lt_irrefl _)
  have hn' : l'.Nodup := hl'.imp fun hlt heq => absurd (heq ▸ hlt) (String.lt_irrefl _)
  have hperm : l.Perm l' := (List.perm_ext_iff_of_nodup hn hn').2 hmem
  exact hperm.eq_of_pairwise (fun a b _ _ hab hba =>
    absurd (String.lt_trans hab hba) (String.lt_irrefl _)) hl hl'

/-- Two maps with the same answers are equal. -/
theorem ext_get? {m m' : NameMap α} (h : ∀ name, m.get? name = m'.get? name) : m = m' :=
  ext (entries_eq_of_lookupIn m.sorted m'.sorted h)

end NameMap

end ReverseTunnel
