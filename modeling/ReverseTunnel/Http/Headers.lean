import ReverseTunnel.Http.Field

/-!
# Header maps

The header fields of a message: a name may have several values, whose order
counts; the order of different names does not. `getAll` is the view by which the
operations are described.
-/

namespace ReverseTunnel.Http

/-- The header fields of a message in the order in which they were added. -/
structure Headers where
  fields : List (FieldName × FieldValue)
  deriving DecidableEq

namespace Headers

/-- No header fields. -/
def empty : Headers := ⟨[]⟩

instance : Inhabited Headers := ⟨empty⟩

/-- The values of a name in order. -/
def getAll (h : Headers) (name : FieldName) : List FieldValue :=
  (h.fields.filter fun f => f.1 == name).map Prod.snd

/-- The first value of a name. -/
def get? (h : Headers) (name : FieldName) : Option FieldValue := (h.getAll name).head?

/-- The name has a value. -/
def contains (h : Headers) (name : FieldName) : Bool := h.fields.any fun f => f.1 == name

/-- One more value of a name, after those it has. -/
def append (h : Headers) (name : FieldName) (value : FieldValue) : Headers :=
  ⟨h.fields ++ [(name, value)]⟩

/-- The headers without a name. -/
def remove (h : Headers) (name : FieldName) : Headers :=
  ⟨h.fields.filter fun f => f.1 != name⟩

/-- The headers with one value for a name, in place of those it had. -/
def insert (h : Headers) (name : FieldName) (value : FieldValue) : Headers :=
  (h.remove name).append name value

/-- The headers with a value for a name that has none. -/
def insertIfAbsent (h : Headers) (name : FieldName) (value : FieldValue) : Headers :=
  if h.contains name then h else h.append name value

/-- The headers without the names of a list. -/
def removeAll (h : Headers) (names : List FieldName) : Headers := names.foldl remove h

/-- The fields by name; values of one name stay in order. -/
def sortedFields (h : Headers) : List (FieldName × FieldValue) :=
  h.fields.mergeSort fun a b => decide (a.1.text ≤ b.1.text)

theorem getAll_append (h : Headers) (name n : FieldName) (value : FieldValue) :
    (h.append name value).getAll n = h.getAll n ++ if n = name then [value] else [] := by
  by_cases hn : n = name
  · subst hn
    simp [getAll, append]
  · simp [getAll, append, hn, Ne.symm hn]

theorem getAll_remove (h : Headers) (name n : FieldName) :
    (h.remove name).getAll n = if n = name then [] else h.getAll n := by
  simp only [getAll, remove, List.filter_filter]
  by_cases hn : n = name
  · subst hn
    simp
  · rw [if_neg hn]
    congr 1
    apply List.filter_congr
    intro f _
    by_cases hf : f.1 = n
    · simp [hf, hn]
    · simp [hf]

theorem getAll_insert (h : Headers) (name n : FieldName) (value : FieldValue) :
    (h.insert name value).getAll n = if n = name then [value] else h.getAll n := by
  rw [insert, getAll_append, getAll_remove]
  by_cases hn : n = name <;> simp [hn]

theorem getAll_removeAll (h : Headers) (names : List FieldName) (n : FieldName) :
    (h.removeAll names).getAll n = if n ∈ names then [] else h.getAll n := by
  simp only [removeAll]
  induction names generalizing h with
  | nil => simp
  | cons name rest ih =>
    simp only [List.foldl_cons, ih, getAll_remove, List.mem_cons]
    by_cases h1 : n ∈ rest <;> by_cases h2 : n = name <;> simp [h1, h2]

theorem contains_eq_true_iff (h : Headers) (name : FieldName) :
    h.contains name = true ↔ h.getAll name ≠ [] := by
  simp [contains, getAll]

theorem getAll_insertIfAbsent (h : Headers) (name n : FieldName) (value : FieldValue) :
    (h.insertIfAbsent name value).getAll n =
      if n = name ∧ h.getAll name = [] then [value] else h.getAll n := by
  rw [insertIfAbsent]
  by_cases hc : h.contains name = true
  · have := (contains_eq_true_iff h name).1 hc
    simp [hc, this]
  · have hnil : h.getAll name = [] := by
      rw [contains_eq_true_iff] at hc
      simpa using hc
    rw [if_neg hc, getAll_append]
    by_cases hn : n = name
    · subst hn
      simp [hnil]
    · simp [hn]

end Headers

end ReverseTunnel.Http
