import ReverseTunnel.Http.Forwarded
import ReverseTunnel.Proofs.SocketAddress

/-!
# The list of callers

A caller's address is written without commas and blanks, so it is one element of the list that it
is added to. After a hop the list is one value, and its last element is the address of the caller
that the hop saw (`appendForwardedFor_eq`), whatever the caller itself sent.

What stands in front of it is the first line of the list only. A caller that sends the list in
several lines loses the later ones, so the list grows by one address and is otherwise kept exactly
if the later lines are empty (`callers_appendForwardedFor_iff`).
-/

namespace ReverseTunnel

open Http

namespace Http

/-- The elements of a list that stands in a field value; a value that cannot be read has none. -/
def FieldValue.elements (value : FieldValue) : List String :=
  match value.text? with
  | some text => (Text.pieces ',' text).map Text.trim
  | none => []

/-- What is read from a value can be read. -/
theorem FieldValue.isReadable_of_text? {value : FieldValue} {s : String}
    (h : value.text? = some s) : IsReadable s := by
  rw [text?] at h
  split at h
  · next hreadable =>
    cases h
    have hascii : ∀ b ∈ value.bytes, b.toNat < 0x80 := by
      intro b hb
      have hbyte := List.all_eq_true.1 hreadable b hb
      simp only [isReadableByte, Bool.or_eq_true, Bool.and_eq_true, decide_eq_true_eq, beq_iff_eq,
        UInt8.lt_iff_toNat_lt] at hbyte
      rcases hbyte with ⟨-, hlt⟩ | rfl
      · exact Nat.lt_succ_of_lt hlt
      · decide
    rw [IsReadable, utf8_asciiText hascii]
    exact hreadable
  · cases h

theorem isReadable_callersWith (h : Headers) {ip : String} (hip : IsReadable ip) :
    IsReadable (h.callersWith ip) := by
  rw [Headers.callersWith]
  split
  · next callers hread =>
    obtain ⟨value, -, htext⟩ := Option.bind_eq_some_iff.1 hread
    have hcallers := FieldValue.isReadable_of_text? htext
    split
    · exact hip
    · apply isReadable_append _ hip
      exact isReadable_append hcallers (by decide)
  · exact hip

end Http

namespace Http.Headers

/-- The list of callers ends with the address that was added. -/
theorem getLast?_callersWith (h : Headers) {ip : String}
    (hip : SocketAddress.IsIp ip) :
    ((Text.pieces ',' (h.callersWith ip)).map Text.trim).getLast? = some ip := by
  have hbounds := SocketAddress.bounds_of_isIp hip
  have hcomma : ',' ∉ ip.toList := fun hmem => absurd (hbounds ',' hmem) (by decide)
  have htrimmed : Text.trimList ip.toList = ip.toList :=
    Text.trimList_eq_self fun c hc => SocketAddress.isBlank_eq_false (hbounds c hc)
  have halone : ((Text.pieces ',' ip).map Text.trim).getLast? = some ip := by
    rw [Text.pieces_of_notMem hcomma, List.map_singleton, List.getLast?_singleton, Text.trim,
      htrimmed, String.ofList_toList]
  rw [callersWith]
  split
  · next callers _ =>
    split
    · exact halone
    · have hspaced : ',' ∉ ' ' :: ip.toList := by
        simpa using hcomma
      have hlist : callers ++ ", " ++ ip =
          String.ofList (callers.toList ++ ',' :: ' ' :: ip.toList) := by
        rw [← String.toList_inj, String.toList_ofList]
        simp
      rw [hlist, List.getLast?_map, Text.getLast?_pieces_append _ hspaced, Option.map_some,
        Text.trim, String.toList_ofList, Text.trimList_cons_of_isBlank (by decide), htrimmed,
        String.ofList_toList]
  · exact halone

/-- A hop leaves one list of callers, and it ends with the address of the caller. -/
theorem appendForwardedFor_eq (h : Headers) {ip : String}
    (hip : SocketAddress.IsIp ip) :
    ∃ value, h.appendForwardedFor ip = h.insert .forwardedFor value ∧
      value.elements.getLast? = some ip := by
  have hreadable : IsReadable (h.callersWith ip) := by
    apply isReadable_callersWith
    exact SocketAddress.isReadable_of_bounds (SocketAddress.bounds_of_isIp hip)
  obtain ⟨value, hvalue⟩ := FieldValue.exists_ofText? hreadable
  refine ⟨value, ?_, ?_⟩
  · rw [appendForwardedFor, hvalue]
  · have htext := FieldValue.text?_of_ofText? hvalue
    rw [if_pos hreadable] at htext
    rw [FieldValue.elements, htext]
    exact h.getLast?_callersWith hip

/-! ## What is kept of the list -/

/-- The texts that stand in the values of a field, in order and without those that are empty. -/
def nonEmptyTexts (values : List FieldValue) : List String :=
  (values.filterMap FieldValue.text?).filter fun text => text != ""

/-- The callers that a request names, one text for each line that names any. -/
def callers (h : Headers) : List String := nonEmptyTexts (h.getAll .forwardedFor)

/-- The lines of a list field are one list. -/
def joined (texts : List String) : String := ", ".intercalate texts

theorem nonEmpty_singleton {text : String} (h : text ≠ "") :
    [text].filter (fun text => text != "") = [text] :=
  List.filter_cons_of_pos (bne_iff_ne.2 h)

theorem nonEmptyTexts_append (first later : List FieldValue) :
    nonEmptyTexts (first ++ later) = nonEmptyTexts first ++ nonEmptyTexts later := by
  rw [nonEmptyTexts, List.filterMap_append, List.filter_append]
  rfl

theorem text?_of_isReadable {value : FieldValue} (h : value.isReadable = true) :
    value.text? = some (asciiText value.bytes) := by
  rw [FieldValue.text?, if_pos h]

theorem asciiText_eq_empty_iff (bytes : Bytes) : asciiText bytes = "" ↔ bytes = [] := by
  rw [← String.toList_inj, asciiText, String.toList_ofList, String.toList_empty, List.map_eq_nil_iff]

/-- A value that can be read names nobody exactly if it has no bytes. -/
theorem nonEmptyTexts_eq_nil_iff {values : List FieldValue}
    (h : ∀ value ∈ values, value.isReadable = true) :
    nonEmptyTexts values = [] ↔ ∀ value ∈ values, value.bytes = [] := by
  have hmem : ∀ text, text ∈ nonEmptyTexts values ↔
      ∃ value ∈ values, text = asciiText value.bytes ∧ value.bytes ≠ [] := by
    intro text
    simp only [nonEmptyTexts, List.mem_filter, List.mem_filterMap, bne_iff_ne]
    constructor
    · rintro ⟨⟨value, hvalue, htext⟩, hne⟩
      rw [text?_of_isReadable (h value hvalue), Option.some.injEq] at htext
      refine ⟨value, hvalue, htext.symm, fun hnil => hne ?_⟩
      rw [← htext, asciiText_eq_empty_iff, hnil]
    · rintro ⟨value, hvalue, rfl, hne⟩
      exact ⟨⟨value, hvalue, text?_of_isReadable (h value hvalue)⟩,
        fun hempty => hne ((asciiText_eq_empty_iff _).1 hempty)⟩
  constructor
  · intro hnil value hvalue
    apply Decidable.byContradiction
    intro hne
    have htext := (hmem _).2 ⟨value, hvalue, rfl, hne⟩
    rw [hnil] at htext
    cases htext
  · intro hempty
    apply List.eq_nil_iff_forall_not_mem.2
    intro text htext
    obtain ⟨value, hvalue, -, hne⟩ := (hmem text).1 htext
    exact hne (hempty value hvalue)

/-- The new value is the first line and the address; of the later lines nothing is read. -/
theorem callersWith_eq_joined (h : Headers) (ip : String) :
    h.callersWith ip = joined (nonEmptyTexts ((h.getAll .forwardedFor).take 1) ++ [ip]) := by
  rw [callersWith, get?]
  cases h.getAll .forwardedFor with
  | nil => rfl
  | cons value later =>
    rw [List.head?_cons, Option.bind_some, List.take_succ_cons, List.take_zero, nonEmptyTexts]
    cases htext : value.text? with
    | none =>
      rw [List.filterMap_cons_none htext]
      rfl
    | some text =>
      rw [List.filterMap_cons_some htext, List.filterMap_nil]
      by_cases hempty : text = ""
      · subst hempty
        rfl
      · rw [nonEmpty_singleton hempty]
        dsimp only
        rw [if_neg hempty]
        rfl

theorem joined_singleton (text : String) : joined [text] = text := String.intercalate_singleton

/-- Texts that were left out before the last one are missed. -/
theorem joined_append_eq_iff (kept lost : List String) (last : String) :
    joined (kept ++ [last]) = joined (kept ++ lost ++ [last]) ↔ lost = [] := by
  constructor
  · intro heq
    -- The kept texts cancel one by one; what is left tells the two lists apart by their length.
    induction kept with
    | nil =>
      apply Decidable.byContradiction
      intro hne
      have hlengths := congrArg String.length heq
      rw [List.nil_append, List.nil_append, joined, joined,
        String.intercalate_append_of_ne_nil hne (List.cons_ne_nil _ _)] at hlengths
      simp only [String.intercalate_singleton, String.length_append] at hlengths
      have hcomma : ", ".length = 2 := by decide
      omega
    | cons text rest ih =>
      apply ih
      simp only [List.cons_append, joined] at heq
      rw [String.intercalate_cons_of_ne_nil (by simp),
        String.intercalate_cons_of_ne_nil (by simp)] at heq
      exact String.append_right_inj _ |>.1 heq
  · rintro rfl
    rw [List.append_nil]

theorem remove_insert (h : Headers) (name : FieldName) (value : FieldValue) :
    (h.insert name value).remove name = h.remove name := by
  simp [insert, append, remove, List.filter_append, List.filter_filter]

/--
A hop writes the first line of the list and the address of the caller into one value and leaves
all other fields as they are. The later lines are dropped unread, so the list grows by the caller
alone exactly if they name nobody.
-/
theorem callers_appendForwardedFor_iff (h : Headers)
    (hreadable : ∀ value ∈ h.getAll .forwardedFor, value.isReadable = true) {ip : String}
    (hip : SocketAddress.IsIp ip) :
    (joined (h.appendForwardedFor ip).callers = joined (h.callers ++ [ip]) ↔
      ∀ value ∈ (h.getAll .forwardedFor).drop 1, value.bytes = []) ∧
    (h.appendForwardedFor ip).callers =
      [joined (nonEmptyTexts ((h.getAll .forwardedFor).take 1) ++ [ip])] ∧
    (h.appendForwardedFor ip).remove .forwardedFor = h.remove .forwardedFor := by
  have hipReadable := SocketAddress.isReadable_of_bounds (SocketAddress.bounds_of_isIp hip)
  have hlist := isReadable_callersWith h hipReadable
  obtain ⟨value, hvalue⟩ := FieldValue.exists_ofText? hlist
  have htext := FieldValue.text?_of_ofText? hvalue
  rw [if_pos hlist] at htext
  have hafter : h.appendForwardedFor ip = h.insert .forwardedFor value := by
    rw [appendForwardedFor, hvalue]
  have hcallers : (h.appendForwardedFor ip).callers =
      [joined (nonEmptyTexts ((h.getAll .forwardedFor).take 1) ++ [ip])] := by
    have hne : h.callersWith ip ≠ "" := by
      intro hempty
      have hlast := h.getLast?_callersWith hip
      rw [hempty] at hlast
      cases hlast
      exact absurd hip (by decide)
    rw [callers, hafter, getAll_insert, if_pos rfl, nonEmptyTexts,
      List.filterMap_cons_some htext, List.filterMap_nil, nonEmpty_singleton hne,
      callersWith_eq_joined]
  refine ⟨?_, hcallers, ?_⟩
  · have hsplit : h.callers = nonEmptyTexts ((h.getAll .forwardedFor).take 1) ++
        nonEmptyTexts ((h.getAll .forwardedFor).drop 1) := by
      rw [← nonEmptyTexts_append, List.take_append_drop, callers]
    have hlater : ∀ value ∈ (h.getAll .forwardedFor).drop 1, value.isReadable = true := by
      intro value hvalue
      exact hreadable value (List.mem_of_mem_drop hvalue)
    rw [hcallers, hsplit, joined_singleton, joined_append_eq_iff, nonEmptyTexts_eq_nil_iff hlater]
  · rw [hafter, remove_insert]

/-- An empty line behind the list costs nothing. -/
theorem callers_appendForwardedFor_emptyLine :
    let before : Headers := ⟨[(.forwardedFor, .literal "192.0.2.11"),
      (.authorization, .literal "Basic Zm9v"), (.forwardedFor, ⟨[], rfl⟩)]⟩
    joined (before.appendForwardedFor "203.0.113.7").callers =
        joined (before.callers ++ ["203.0.113.7"]) ∧
      joined (before.callers ++ ["203.0.113.7"]) = "192.0.2.11, 203.0.113.7" ∧
      (before.appendForwardedFor "203.0.113.7").remove .forwardedFor =
        ⟨[(.authorization, .literal "Basic Zm9v")]⟩ := by
  intro before
  have hip : SocketAddress.IsIp "203.0.113.7" := by decide +kernel
  obtain ⟨hiff, -, hrest⟩ := callers_appendForwardedFor_iff before (by decide +kernel) hip
  refine ⟨hiff.2 (by decide +kernel), by decide +kernel, ?_⟩
  rw [hrest]
  decide +kernel

/-- The second line of a list is lost. -/
theorem laterCaller_dropped :
    let before : Headers := ⟨[(.forwardedFor, .literal "192.0.2.11"),
      (.forwardedFor, .literal "192.0.2.12")]⟩
    (∀ value ∈ before.getAll .forwardedFor, value.isReadable = true) ∧
      SocketAddress.IsIp "203.0.113.7" ∧
      joined (before.callers ++ ["203.0.113.7"]) = "192.0.2.11, 192.0.2.12, 203.0.113.7" ∧
      joined (before.appendForwardedFor "203.0.113.7").callers = "192.0.2.11, 203.0.113.7" := by
  decide +kernel

end Http.Headers

end ReverseTunnel
