import ReverseTunnel.Http.HopByHop

/-!
# What crosses a hop

The fields of a message after `Headers.removeHopByHop`, name by name. `Connection` and `Upgrade`
are there exactly if the message asks to switch protocols, each with one value
(`getAll_connection_removeHopByHop`, `getAll_upgrade_removeHopByHop`). Of the other fields those
are gone that belong to a connection, and the rest is as it was (`getAll_removeHopByHop`).

What is left asks for the same protocol and lists no name but `Upgrade` itself
(`upgradeProtocol_removeHopByHop`, `mem_listedNames_removeHopByHop`). So a second hop drops
nothing more, whatever other fields were added in between (`getAll_removeHopByHop_of_passed`).

Nor does it move anything: the fields after a hop are those that are kept, in their order, and the
switch of protocols behind them (`fields_removeHopByHop`), which a second hop takes out and puts
back in the same place (`removeHopByHop_removeHopByHop`). The last section says exactly what a hop
keeps, with the listed names as the tokens of the readable `Connection` values (`Lists`).
-/

namespace ReverseTunnel.Http.Headers

/-- The field belongs to the connection of the message that carries it. -/
def IsHopByHop (h : Headers) (name : FieldName) : Prop :=
  name ∈ h.listedNames ∨ name ∈ hopByHopNames

instance (h : Headers) (name : FieldName) : Decidable (h.IsHopByHop name) :=
  inferInstanceAs (Decidable (_ ∨ _))

/-! ## What the names and the protocol depend on -/

theorem connectionTokens_congr {h h' : Headers}
    (hc : h.getAll .connection = h'.getAll .connection) :
    h.connectionTokens = h'.connectionTokens := by
  rw [connectionTokens, connectionTokens, hc]

theorem listedNames_congr {h h' : Headers}
    (hc : h.getAll .connection = h'.getAll .connection) : h.listedNames = h'.listedNames := by
  rw [listedNames, listedNames, connectionTokens_congr hc]

theorem upgradeProtocol_congr {h h' : Headers}
    (hc : h.getAll .connection = h'.getAll .connection)
    (hu : h.getAll .upgrade = h'.getAll .upgrade) : h.upgradeProtocol = h'.upgradeProtocol := by
  rw [upgradeProtocol, upgradeProtocol, connectionTokens_congr hc, get?, get?, hu]

/-- Headers whose only `Connection` value is `upgrade` list that name. -/
theorem connectionTokens_of_upgrade {h : Headers}
    (hc : h.getAll .connection = [.literal "upgrade"]) : h.connectionTokens = ["upgrade"] := by
  rw [connectionTokens, hc]
  decide +kernel

theorem connectionTokens_of_nil {h : Headers} (hc : h.getAll .connection = []) :
    h.connectionTokens = [] := by
  rw [connectionTokens, hc]
  rfl

/-! ## The fields after a hop -/

/-- Two inserts after the removal, or none. -/
theorem getAll_removeHopByHop_eq (h : Headers) (name : FieldName) :
    h.removeHopByHop.getAll name =
      match h.upgradeProtocol with
      | some protocol =>
        if name = .upgrade then [protocol]
        else if name = .connection then [.literal "upgrade"]
        else if h.IsHopByHop name then [] else h.getAll name
      | none => if h.IsHopByHop name then [] else h.getAll name := by
  have hkept : ((h.removeAll h.listedNames).removeAll hopByHopNames).getAll name =
      if h.IsHopByHop name then [] else h.getAll name := by
    rw [getAll_removeAll, getAll_removeAll]
    by_cases hfixed : name ∈ hopByHopNames
    · have hhop : h.IsHopByHop name := .inr hfixed
      rw [if_pos hfixed, if_pos hhop]
    · by_cases hlisted : name ∈ h.listedNames
      · have hhop : h.IsHopByHop name := .inl hlisted
        rw [if_neg hfixed, if_pos hlisted, if_pos hhop]
      · have hstays : ¬ h.IsHopByHop name := fun hhop => hhop.elim hlisted hfixed
        rw [if_neg hfixed, if_neg hlisted, if_neg hstays]
  rw [removeHopByHop]
  cases h.upgradeProtocol with
  | none => exact hkept
  | some protocol =>
    dsimp only
    rw [getAll_insert, getAll_insert, hkept]

theorem isHopByHop_connection (h : Headers) : h.IsHopByHop .connection :=
  .inr List.mem_cons_self

theorem isHopByHop_upgrade (h : Headers) : h.IsHopByHop .upgrade :=
  .inr (by decide)

/-- `Connection` crosses a hop for a switch of protocols only. -/
theorem getAll_connection_removeHopByHop (h : Headers) :
    h.removeHopByHop.getAll .connection =
      (h.upgradeProtocol.map fun _ => FieldValue.literal "upgrade").toList := by
  have hne : FieldName.connection ≠ .upgrade := by decide
  rw [getAll_removeHopByHop_eq]
  cases h.upgradeProtocol with
  | none => exact if_pos h.isHopByHop_connection
  | some protocol =>
    dsimp only
    rw [if_neg hne]
    exact if_pos rfl

/-- `Upgrade` crosses a hop for a switch of protocols only. -/
theorem getAll_upgrade_removeHopByHop (h : Headers) :
    h.removeHopByHop.getAll .upgrade = h.upgradeProtocol.toList := by
  rw [getAll_removeHopByHop_eq]
  cases h.upgradeProtocol with
  | none => exact if_pos h.isHopByHop_upgrade
  | some protocol => exact if_pos rfl

/-- Any other field crosses a hop as it is, unless it belongs to the connection. -/
theorem getAll_removeHopByHop (h : Headers) {name : FieldName} (hc : name ≠ .connection)
    (hu : name ≠ .upgrade) :
    h.removeHopByHop.getAll name = if h.IsHopByHop name then [] else h.getAll name := by
  rw [getAll_removeHopByHop_eq]
  cases h.upgradeProtocol with
  | none => rfl
  | some protocol =>
    dsimp only
    rw [if_neg hu, if_neg hc]

/-! ## The next hop -/

/-- The protocol that a message asks for is the one that it asked for before the hop. -/
theorem upgradeProtocol_removeHopByHop (h : Headers) :
    h.removeHopByHop.upgradeProtocol = h.upgradeProtocol := by
  have hc := h.getAll_connection_removeHopByHop
  have hu := h.getAll_upgrade_removeHopByHop
  rw [upgradeProtocol, get?, hu]
  cases hprotocol : h.upgradeProtocol with
  | none =>
    rw [hprotocol] at hc
    rw [connectionTokens_of_nil hc]
    rfl
  | some protocol =>
    rw [hprotocol] at hc
    rw [connectionTokens_of_upgrade hc]
    exact if_pos (by decide +kernel)

/-- After a hop a message lists no name but `Upgrade`. -/
theorem mem_listedNames_removeHopByHop {h : Headers} {name : FieldName}
    (hname : name ∈ h.removeHopByHop.listedNames) : name = .upgrade := by
  have hc := h.getAll_connection_removeHopByHop
  rw [listedNames] at hname
  cases hprotocol : h.upgradeProtocol with
  | none =>
    rw [hprotocol] at hc
    rw [connectionTokens_of_nil hc] at hname
    cases hname
  | some protocol =>
    rw [hprotocol] at hc
    rw [connectionTokens_of_upgrade hc] at hname
    simpa [FieldName.upgrade] using hname

/-- A second hop drops nothing, as long as the fields that belong to connections are those that
the first one left. -/
theorem getAll_removeHopByHop_of_passed {h passed : Headers}
    (hfixed : ∀ name ∈ hopByHopNames, passed.getAll name = h.removeHopByHop.getAll name)
    (name : FieldName) : passed.removeHopByHop.getAll name = passed.getAll name := by
  have hc := hfixed .connection List.mem_cons_self
  have hu := hfixed .upgrade (by decide)
  have hprotocol : passed.upgradeProtocol = h.upgradeProtocol :=
    (upgradeProtocol_congr hc hu).trans h.upgradeProtocol_removeHopByHop
  by_cases hconnection : name = .connection
  · subst hconnection
    rw [getAll_connection_removeHopByHop, hprotocol, hc, getAll_connection_removeHopByHop]
  by_cases hupgrade : name = .upgrade
  · subst hupgrade
    rw [getAll_upgrade_removeHopByHop, hprotocol, hu, getAll_upgrade_removeHopByHop]
  rw [getAll_removeHopByHop passed hconnection hupgrade]
  by_cases hmem : name ∈ hopByHopNames
  · -- The first hop has dropped these fields.
    have hhop : passed.IsHopByHop name := .inr hmem
    rw [if_pos hhop, hfixed name hmem, getAll_removeHopByHop h hconnection hupgrade]
    exact (if_pos (.inr hmem)).symm
  · have hstays : ¬ passed.IsHopByHop name := by
      rintro (hlisted | hmem')
      · rw [listedNames_congr hc] at hlisted
        exact hupgrade (mem_listedNames_removeHopByHop hlisted)
      · exact hmem hmem'
    exact if_neg hstays

/-! ## Exactly what a hop keeps -/

/-- A readable `Connection` value has a token that stands for the name: a piece between commas,
without the blanks around it, that is not empty. -/
def Lists (h : Headers) (name : FieldName) : Prop :=
  ∃ value ∈ h.getAll .connection, ∃ text, value.text? = some text ∧
    ∃ token ∈ Text.pieces ',' text, Text.trim token ≠ "" ∧ name = .ofText (Text.trim token)

theorem mem_connectionTokens_iff {h : Headers} {token : String} :
    token ∈ h.connectionTokens ↔ ∃ value ∈ h.getAll .connection, ∃ text, value.text? = some text ∧
      ∃ piece ∈ Text.pieces ',' text, token = Text.trim piece := by
  rw [connectionTokens, List.mem_flatMap]
  constructor
  · rintro ⟨value, hvalue, htoken⟩
    cases htext : value.text? with
    | none =>
      rw [htext] at htoken
      cases htoken
    | some text =>
      rw [htext] at htoken
      obtain ⟨piece, hpiece, rfl⟩ := List.mem_map.1 htoken
      exact ⟨value, hvalue, text, htext, piece, hpiece, rfl⟩
  · rintro ⟨value, hvalue, text, htext, piece, hpiece, rfl⟩
    refine ⟨value, hvalue, ?_⟩
    rw [htext]
    exact List.mem_map_of_mem hpiece

theorem mem_listedNames_iff {h : Headers} {name : FieldName} :
    name ∈ h.listedNames ↔ h.Lists name := by
  rw [listedNames, List.mem_map]
  constructor
  · rintro ⟨token, htoken, rfl⟩
    obtain ⟨hmem, hnonempty⟩ := List.mem_filter.1 htoken
    obtain ⟨value, hvalue, text, htext, piece, hpiece, rfl⟩ := mem_connectionTokens_iff.1 hmem
    exact ⟨value, hvalue, text, htext, piece, hpiece, bne_iff_ne.1 hnonempty, rfl⟩
  · rintro ⟨value, hvalue, text, htext, piece, hpiece, hnonempty, rfl⟩
    refine ⟨Text.trim piece, List.mem_filter.2 ⟨?_, bne_iff_ne.2 hnonempty⟩, rfl⟩
    exact mem_connectionTokens_iff.2 ⟨value, hvalue, text, htext, piece, hpiece, rfl⟩

/-- A token asks for a switch of protocols exactly if it stands for the name `Upgrade`. -/
theorem sameIgnoringCase_upgrade_iff {token : String} :
    Text.sameIgnoringCase token "upgrade" = true ↔
      token ≠ "" ∧ .upgrade = FieldName.ofText token := by
  rw [Text.sameIgnoringCase, beq_iff_eq]
  constructor
  · intro hsame
    refine ⟨?_, ?_⟩
    · rintro rfl
      exact absurd hsame (by decide)
    · simp only [FieldName.upgrade, FieldName.ofText, hsame]
  · rintro ⟨-, hname⟩
    exact (congrArg FieldName.text hname).symm

/-- The protocol that is asked for is the first `Upgrade` value, if `Connection` lists the name. -/
theorem upgradeProtocol_eq_some_iff {h : Headers} {protocol : FieldValue} :
    h.upgradeProtocol = some protocol ↔ h.Lists .upgrade ∧ h.get? .upgrade = some protocol := by
  have hasks : (h.connectionTokens.any fun token => Text.sameIgnoringCase token "upgrade") = true ↔
      h.Lists .upgrade := by
    rw [List.any_eq_true]
    constructor
    · rintro ⟨token, htoken, hsame⟩
      obtain ⟨hnonempty, hname⟩ := sameIgnoringCase_upgrade_iff.1 hsame
      obtain ⟨value, hvalue, text, htext, piece, hpiece, rfl⟩ := mem_connectionTokens_iff.1 htoken
      exact ⟨value, hvalue, text, htext, piece, hpiece, hnonempty, hname⟩
    · rintro ⟨value, hvalue, text, htext, piece, hpiece, hname⟩
      refine ⟨Text.trim piece, ?_, sameIgnoringCase_upgrade_iff.2 hname⟩
      exact mem_connectionTokens_iff.2 ⟨value, hvalue, text, htext, piece, hpiece, rfl⟩
  rw [upgradeProtocol, ← hasks]
  split
  · next hlists => exact (and_iff_right hlists).symm
  · next hlists => exact iff_of_false (fun h => by cases h) fun h => hlists h.1

theorem fields_removeAll (h : Headers) (names : List FieldName) :
    (h.removeAll names).fields = h.fields.filter fun f => f.1 ∉ names := by
  rw [removeAll]
  induction names generalizing h with
  | nil => exact (List.filter_eq_self.2 fun f _ => by simp).symm
  | cons name rest ih =>
    rw [List.foldl_cons, ih, remove, List.filter_filter]
    apply List.filter_congr
    intro f _
    by_cases hname : f.1 = name
    · simp [hname]
    · simp [hname]

/-- The fields that belong to no connection. -/
def keptFields (h : Headers) : List (FieldName × FieldValue) :=
  h.fields.filter fun f => ¬ h.IsHopByHop f.1

theorem notMem_of_mem_keptFields {h : Headers} {f : FieldName × FieldValue}
    (hf : f ∈ h.keptFields) : f.1 ∉ hopByHopNames := by
  have hkept := of_decide_eq_true (List.mem_filter.1 hf).2
  exact fun hmem => hkept (.inr hmem)

theorem filter_keptFields (h : Headers) (name : FieldName) (hname : name ∈ hopByHopNames) :
    (h.keptFields.filter fun f => f.1 != name) = h.keptFields := by
  rw [List.filter_eq_self]
  intro f hf
  rw [bne_iff_ne]
  rintro rfl
  exact notMem_of_mem_keptFields hf hname

theorem all_isFieldByte_upgrade : (utf8 "upgrade").all isFieldByte = true := by decide

/-- The two fields that ask for a protocol. -/
def switchFields (protocol? : Option FieldValue) : List (FieldName × FieldValue) :=
  protocol?.elim [] fun protocol =>
    [(.connection, .literal "upgrade" all_isFieldByte_upgrade), (.upgrade, protocol)]

/-- The fields after a hop: those that belong to no connection as they were, and behind them the
switch of protocols, if the message asks for one. -/
theorem fields_removeHopByHop (h : Headers) :
    h.removeHopByHop.fields = h.keptFields ++ switchFields h.upgradeProtocol := by
  have hkept : ((h.removeAll h.listedNames).removeAll hopByHopNames).fields = h.keptFields := by
    rw [fields_removeAll, fields_removeAll, List.filter_filter]
    apply List.filter_congr
    intro f _
    simp [IsHopByHop, and_comm]
  rw [removeHopByHop]
  cases h.upgradeProtocol with
  | none =>
    rw [switchFields, Option.elim_none, List.append_nil]
    exact hkept
  | some protocol =>
    -- Nothing that is kept has one of the two names, so inserting them is adding them.
    have hconnection := h.filter_keptFields .connection List.mem_cons_self
    have hupgrade := h.filter_keptFields .upgrade (by decide)
    have hne : (FieldName.connection != .upgrade) = true := by decide
    simp only [insert, append, remove, hkept, hconnection, List.filter_append, hupgrade,
      List.filter_cons, hne, List.filter_nil, if_true, List.append_assoc]
    rfl

theorem isHopByHop_removeHopByHop_iff {h : Headers} {name : FieldName} :
    h.removeHopByHop.IsHopByHop name ↔ name ∈ hopByHopNames := by
  constructor
  · rintro (hlisted | hmem)
    · rw [mem_listedNames_removeHopByHop hlisted]
      decide
    · exact hmem
  · exact Or.inr

/-- A second hop finds nothing to remove and the same switch to put back. -/
theorem removeHopByHop_removeHopByHop (h : Headers) :
    h.removeHopByHop.removeHopByHop = h.removeHopByHop := by
  have hkept : h.removeHopByHop.keptFields = h.keptFields := by
    have hnames : h.removeHopByHop.keptFields =
        h.removeHopByHop.fields.filter fun f => f.1 ∉ hopByHopNames := by
      apply List.filter_congr
      intro f _
      simp only [isHopByHop_removeHopByHop_iff]
    have hswitch : ((switchFields h.upgradeProtocol).filter fun f => f.1 ∉ hopByHopNames) = [] := by
      cases h.upgradeProtocol with
      | none => rfl
      | some protocol => rfl
    rw [hnames, fields_removeHopByHop, List.filter_append, hswitch, List.append_nil,
      List.filter_eq_self]
    intro f hf
    exact decide_eq_true (notMem_of_mem_keptFields hf)
  have hfields : h.removeHopByHop.removeHopByHop.fields = h.removeHopByHop.fields := by
    rw [fields_removeHopByHop, hkept, upgradeProtocol_removeHopByHop, ← fields_removeHopByHop]
  exact congrArg Headers.mk hfields

/-- Any headers after a hop. `Connection` and `Upgrade` are there with one value each if `Connection`
lists `Upgrade` and there is an `Upgrade` value, the first of which is the one that crosses. Another
field is gone if `Connection` lists it or it always belongs to a connection, and else it has its
values in their order. What is left asks for the same protocol, and a second hop changes nothing. -/
theorem removeHopByHop_exact (h : Headers) :
    (∀ name, name ≠ .connection → name ≠ .upgrade →
      (h.Lists name ∨ name ∈ hopByHopNames → h.removeHopByHop.getAll name = []) ∧
      (¬ h.Lists name → name ∉ hopByHopNames →
        h.removeHopByHop.getAll name = h.getAll name)) ∧
    (∀ protocol, h.upgradeProtocol = some protocol →
      h.removeHopByHop.getAll .connection = [.literal "upgrade"] ∧
      h.removeHopByHop.getAll .upgrade = [protocol]) ∧
    (h.upgradeProtocol = none →
      h.removeHopByHop.getAll .connection = [] ∧ h.removeHopByHop.getAll .upgrade = []) ∧
    (∀ protocol, h.upgradeProtocol = some protocol ↔
      h.Lists .upgrade ∧ h.get? .upgrade = some protocol) ∧
    h.removeHopByHop.upgradeProtocol = h.upgradeProtocol ∧
    h.removeHopByHop.removeHopByHop = h.removeHopByHop := by
  refine ⟨?_, ?_, ?_, ?_, ?_, ?_⟩
  · intro name hconnection hupgrade
    rw [getAll_removeHopByHop h hconnection hupgrade]
    refine ⟨?_, ?_⟩
    · intro hhop
      exact if_pos (hhop.imp_left mem_listedNames_iff.2)
    · intro hlists hfixed
      refine if_neg ?_
      rintro (hlisted | hmem)
      · exact hlists (mem_listedNames_iff.1 hlisted)
      · exact hfixed hmem
  · intro protocol hprotocol
    rw [getAll_connection_removeHopByHop, getAll_upgrade_removeHopByHop, hprotocol]
    exact ⟨rfl, rfl⟩
  · intro hprotocol
    rw [getAll_connection_removeHopByHop, getAll_upgrade_removeHopByHop, hprotocol]
    exact ⟨rfl, rfl⟩
  · intro protocol
    exact upgradeProtocol_eq_some_iff
  · exact h.upgradeProtocol_removeHopByHop
  · exact h.removeHopByHop_removeHopByHop

end ReverseTunnel.Http.Headers
