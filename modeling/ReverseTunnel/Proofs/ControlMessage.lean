import Mathlib.Logic.Basic
import ReverseTunnel.ControlMessage
import ReverseTunnel.Proofs.Bytes

/-!
# What of a control message comes across

A message is written if its texts may stand in field values: any bytes from the space up,
without DEL, and tabs. It is read back only if they can be read as texts, which takes
printable ASCII and tabs (`read_write_iff`). Between the two lie the texts with characters
beyond ASCII: they are written, and the reader refuses them (`read_of_write`).

The headers that a message is written into may hold anything. What was there before in the five
fields is gone once the message is written, all values of it, and everything else stays; which text
is refused, in writing or in reading, is the first that has to be (`written_and_read`).
-/

namespace ReverseTunnel

open Http

/-- The text can be read from a field value. -/
def IsReadable (s : String) : Prop := (utf8 s).all isReadableByte = true

instance (s : String) : Decidable (IsReadable s) := inferInstanceAs (Decidable (_ = true))

/-- The text may stand in a field value. -/
def IsFieldText (s : String) : Prop := (utf8 s).all isFieldByte = true

instance (s : String) : Decidable (IsFieldText s) := inferInstanceAs (Decidable (_ = true))

/-- The bytes of a character can be read exactly if it is printable ASCII or a tab. -/
theorem all_isReadableByte_utf8EncodeChar {c : Char} :
    (String.utf8EncodeChar c).all isReadableByte = true ↔
      (0x20 ≤ c.toNat ∧ c.toNat < 0x7F) ∨ c = '\t' := by
  by_cases hc : c.toNat ≤ 0x7F
  · have htab : c = '\t' ↔ c.toNat = 9 := by
      rw [← Char.toNat_inj]
      rfl
    have hbyte : c.toNat % 256 = c.toNat := by omega
    rw [utf8EncodeChar_of_le hc, htab]
    simp [isReadableByte, UInt8.le_iff_toNat_le, UInt8.lt_iff_toNat_lt, ← UInt8.toNat_inj, hbyte]
  · -- Beyond ASCII there is a byte, and it cannot be read.
    refine iff_of_false ?_ ?_
    · intro hall
      have hlength : 0 < (String.utf8EncodeChar c).length := by
        rw [String.length_utf8EncodeChar]
        exact c.utf8Size_pos
      obtain ⟨b, hb⟩ := List.exists_mem_of_length_pos hlength
      have hbeyond := le_of_mem_utf8EncodeChar (Nat.lt_of_not_le hc) hb
      have hreadable := List.all_eq_true.1 hall b hb
      simp only [isReadableByte, Bool.or_eq_true, Bool.and_eq_true, decide_eq_true_eq, beq_iff_eq,
        UInt8.lt_iff_toNat_lt] at hreadable
      rcases hreadable with ⟨-, hlt⟩ | rfl
      · exact Nat.not_lt.2 hbeyond (Nat.lt_succ_of_lt hlt)
      · exact absurd hbeyond (by decide)
    · rintro (⟨-, hlt⟩ | rfl)
      · exact hc (Nat.le_of_lt hlt)
      · exact hc (by decide)

/-- The texts that can be read are those of printable ASCII and tabs. -/
theorem isReadable_iff {s : String} :
    IsReadable s ↔ ∀ c ∈ s.toList, (0x20 ≤ c.toNat ∧ c.toNat < 0x7F) ∨ c = '\t' := by
  rw [IsReadable, utf8_eq_flatMap, List.all_flatMap, List.all_eq_true]
  simp only [all_isReadableByte_utf8EncodeChar]

theorem isFieldText_of_isReadable {s : String} (h : IsReadable s) : IsFieldText s := by
  rw [IsReadable, List.all_eq_true] at h
  rw [IsFieldText, List.all_eq_true]
  exact fun b hb => FieldValue.isFieldByte_of_isReadableByte (h b hb)

theorem isReadable_append {s t : String} (hs : IsReadable s) (ht : IsReadable t) :
    IsReadable (s ++ t) := by
  rw [isReadable_iff] at hs ht ⊢
  intro c hc
  rw [String.toList_append, List.mem_append] at hc
  rcases hc with hc | hc
  · exact hs c hc
  · exact ht c hc

namespace Http

theorem Headers.get?_insert (h : Headers) (name n : FieldName) (value : FieldValue) :
    (h.insert name value).get? n = if n = name then some value else h.get? n := by
  rw [get?, getAll_insert]
  split <;> rfl

namespace FieldValue

/-- A value that a text forms has the bytes of the text. -/
theorem bytes_of_ofText? {s : String} {value : FieldValue} (h : ofText? s = some value) :
    value.bytes = utf8 s := by
  simp only [ofText?, ofBytes?] at h
  split at h
  · cases h
    rfl
  · cases h

/-- The texts that form a value are those that may stand in one. -/
theorem isSome_ofText?_iff {s : String} : (ofText? s).isSome ↔ IsFieldText s := by
  simp only [ofText?, ofBytes?]
  split
  · next hs => exact iff_of_true rfl hs
  · next hs => exact iff_of_false Bool.false_ne_true hs

/-- A text that can be read forms a value. -/
theorem exists_ofText? {s : String} (h : IsReadable s) : ∃ value, ofText? s = some value :=
  Option.isSome_iff_exists.1 (isSome_ofText?_iff.2 (isFieldText_of_isReadable h))

/-- A value is read as the text that formed it, if that can be read. -/
theorem text?_of_ofText? {s : String} {value : FieldValue} (h : ofText? s = some value) :
    value.text? = if IsReadable s then some s else none := by
  have hbytes := bytes_of_ofText? h
  by_cases hs : IsReadable s
  · have hascii : ∀ b ∈ utf8 s, b.toNat < 0x80 := by
      intro b hb
      have hreadable := List.all_eq_true.1 hs b hb
      simp only [isReadableByte, Bool.or_eq_true, Bool.and_eq_true, decide_eq_true_eq, beq_iff_eq,
        UInt8.lt_iff_toNat_lt] at hreadable
      rcases hreadable with ⟨-, hlt⟩ | rfl
      · exact Nat.lt_succ_of_lt hlt
      · decide
    have hreadable : value.isReadable = true := by
      rw [isReadable, hbytes]
      exact hs
    rw [if_pos hs, text?, if_pos hreadable, hbytes, asciiText_utf8 hascii]
  · have hunreadable : ¬ value.isReadable = true := by
      rw [isReadable, hbytes]
      exact hs
    rw [if_neg hs, text?, if_neg hunreadable]

end FieldValue

end Http

namespace ControlMessage

theorem all_isFieldByte_proxy : (utf8 "proxy").all isFieldByte = true := by decide

/-- The headers with the five fields of a message. -/
def withFields (h : Headers) (protocol : Protocol) (host tunnel remote : FieldValue) : Headers :=
  ((((h.insert (.ofText actionField) (.literal "proxy" all_isFieldByte_proxy)).insert
    (.ofText protocolField) (protocolValue protocol)).insert (.ofText hostField) host).insert
      (.ofText tunnelField) tunnel).insert (.ofText remoteField) remote

/-- A message is written whole exactly if its texts form values. -/
theorem write_eq_ok_iff {m : ControlMessage} {h headers : Headers} :
    m.write h = (headers, .ok ()) ↔
      ∃ host tunnel remote, FieldValue.ofText? m.host = some host ∧
        FieldValue.ofText? m.tunnel = some tunnel ∧ FieldValue.ofText? m.remote = some remote ∧
        headers = withFields h m.protocol host tunnel remote := by
  simp only [write, writeField]
  cases hhost : FieldValue.ofText? m.host with
  | none => simp
  | some host =>
    cases htunnel : FieldValue.ofText? m.tunnel with
    | none => simp
    | some tunnel =>
      cases hremote : FieldValue.ofText? m.remote with
      | none => simp
      | some remote => simp [withFields, eq_comm]

/-- What a field reads as whose value a text formed. -/
theorem readField_of_get? {name s : String} {value : FieldValue} {h : Headers}
    (hget : h.get? (.ofText name) = some value) (hvalue : FieldValue.ofText? s = some value) :
    readField name h = if IsReadable s then .ok (some s) else .error (.invalidHeader name) := by
  simp only [readField, hget, FieldValue.text?_of_ofText? hvalue]
  by_cases hs : IsReadable s
  · rw [if_pos hs, if_pos hs]
  · rw [if_neg hs, if_neg hs]

theorem ofText?_protocolValue (p : Protocol) :
    FieldValue.ofText? p.name = some (protocolValue p) ∧ IsReadable p.name := by
  cases p <;> decide

/-- Each of the five fields has one value. -/
theorem getAll_withFields (h : Headers) (protocol : Protocol) (host tunnel remote : FieldValue) :
    (withFields h protocol host tunnel remote).getAll (.ofText actionField) =
        [.literal "proxy"] ∧
      (withFields h protocol host tunnel remote).getAll (.ofText protocolField) =
        [protocolValue protocol] ∧
      (withFields h protocol host tunnel remote).getAll (.ofText hostField) = [host] ∧
      (withFields h protocol host tunnel remote).getAll (.ofText tunnelField) = [tunnel] ∧
      (withFields h protocol host tunnel remote).getAll (.ofText remoteField) = [remote] := by
  simp only [withFields, Headers.getAll_insert]
  exact ⟨rfl, rfl, rfl, rfl, rfl⟩

/-- The values of the five fields. -/
theorem get?_withFields (h : Headers) (protocol : Protocol) (host tunnel remote : FieldValue) :
    (withFields h protocol host tunnel remote).get? (.ofText actionField) =
        some (.literal "proxy") ∧
      (withFields h protocol host tunnel remote).get? (.ofText protocolField) =
        some (protocolValue protocol) ∧
      (withFields h protocol host tunnel remote).get? (.ofText hostField) = some host ∧
      (withFields h protocol host tunnel remote).get? (.ofText tunnelField) = some tunnel ∧
      (withFields h protocol host tunnel remote).get? (.ofText remoteField) = some remote := by
  obtain ⟨haction, hprotocol, hhost, htunnel, hremote⟩ :=
    getAll_withFields h protocol host tunnel remote
  simp only [Headers.get?, haction, hprotocol, hhost, htunnel, hremote]
  exact ⟨rfl, rfl, rfl, rfl, rfl⟩

/-- No other field changes. -/
theorem get?_withFields_of_notMem {name : FieldName}
    (hother : name ∉ [actionField, protocolField, hostField, tunnelField, remoteField].map
      FieldName.ofText) (h : Headers) (protocol : Protocol) (host tunnel remote : FieldValue) :
    (withFields h protocol host tunnel remote).get? name = h.get? name := by
  simp only [List.map_cons, List.map_nil, List.mem_cons, List.not_mem_nil, or_false,
    not_or] at hother
  obtain ⟨haction, hprotocol, hhost, htunnel, hremote⟩ := hother
  rw [withFields, Headers.get?_insert, if_neg hremote, Headers.get?_insert, if_neg htunnel,
    Headers.get?_insert, if_neg hhost, Headers.get?_insert, if_neg hprotocol, Headers.get?_insert,
    if_neg haction]

/-- Headers with the action and a protocol are read as far as the texts can be read. -/
theorem read_of_requireField {h : Headers} {protocol : Protocol}
    (haction : requireField actionField h = .ok "proxy")
    (hprotocol : requireField protocolField h = .ok protocol.name) :
    read h = (do
      let host ← fieldOrEmpty hostField h
      let tunnel ← fieldOrEmpty tunnelField h
      let remote ← fieldOrEmpty remoteField h
      return ⟨protocol, host, tunnel, remote⟩) := by
  simp only [read, haction, hprotocol, bind, Except.bind, Protocol.parse?_name]
  rfl

/-- A message that was written is read as it was, or refused for the first text that cannot
be read. -/
theorem read_of_write {m : ControlMessage} {h headers : Headers}
    (hwrite : m.write h = (headers, .ok ())) :
    read headers =
      if ¬ IsReadable m.host then .error (.invalidHeader hostField)
      else if ¬ IsReadable m.tunnel then .error (.invalidHeader tunnelField)
      else if ¬ IsReadable m.remote then .error (.invalidHeader remoteField)
      else .ok m := by
  obtain ⟨host, tunnel, remote, hhost, htunnel, hremote, rfl⟩ := write_eq_ok_iff.1 hwrite
  obtain ⟨haction, hprotocol, hgetHost, hgetTunnel, hgetRemote⟩ :=
    get?_withFields h m.protocol host tunnel remote
  have hproxy : FieldValue.ofText? "proxy" = some (.literal "proxy") := by decide
  have hproxyReadable : IsReadable "proxy" := by decide
  obtain ⟨hname, hnameReadable⟩ := ofText?_protocolValue m.protocol
  have hreadAction : requireField actionField (withFields h m.protocol host tunnel remote) =
      .ok "proxy" := by
    rw [requireField, readField_of_get? haction hproxy, if_pos hproxyReadable]
  have hreadProtocol : requireField protocolField (withFields h m.protocol host tunnel remote) =
      .ok m.protocol.name := by
    rw [requireField, readField_of_get? hprotocol hname, if_pos hnameReadable]
  rw [read_of_requireField hreadAction hreadProtocol, fieldOrEmpty, fieldOrEmpty, fieldOrEmpty,
    readField_of_get? hgetHost hhost, readField_of_get? hgetTunnel htunnel,
    readField_of_get? hgetRemote hremote]
  by_cases hreadHost : IsReadable m.host
  · by_cases hreadTunnel : IsReadable m.tunnel
    · by_cases hreadRemote : IsReadable m.remote
      · simp only [hreadHost, hreadTunnel, hreadRemote]
        rfl
      · simp only [hreadHost, hreadTunnel, hreadRemote]
        rfl
    · simp only [hreadHost, hreadTunnel]
      rfl
  · simp only [hreadHost]
    rfl

/-! ## Writing over headers that are there

The headers may hold fields of these names already. Writing goes through the texts one after the
other (`write_eq_writeTexts`), so what it refuses and what it leaves alone is shown by induction on
the texts. -/

/-- The texts of a message with their fields, in the order in which they are written and read. -/
def texts (m : ControlMessage) : List (String × String) :=
  [(hostField, m.host), (tunnelField, m.tunnel), (remoteField, m.remote)]

/-- All fields of a message with their texts. -/
def fields (m : ControlMessage) : List (String × String) :=
  (actionField, "proxy") :: (protocolField, m.protocol.name) :: m.texts

/-- The field of the first text that is not in a class. -/
def firstOutside (p : String → Prop) [DecidablePred p] (texts : List (String × String)) :
    Option String :=
  (texts.find? fun t => ¬ p t.2).map Prod.fst

/-- What comes of texts of which one field is to be refused, or none. -/
def refuse {α : Type} (field? : Option String) (a : α) : Except ProtocolError α :=
  field?.elim (.ok a) fun field => .error (.invalidHeader field)

/-- The headers after writing texts up to the first that forms no value. -/
def writeTexts : List (String × String) → Headers → Headers × Except ProtocolError Unit
  | [], h => (h, .ok ())
  | (field, text) :: rest, h =>
    match writeField field text h with
    | .error e => (h, .error e)
    | .ok h => writeTexts rest h

section

variable {p : String → Prop} [DecidablePred p] {α : Type}

theorem firstOutside_cons (t : String × String) (rest : List (String × String)) :
    firstOutside p (t :: rest) = if p t.2 then firstOutside p rest else some t.1 := by
  by_cases ht : p t.2
  · simp [firstOutside, ht]
  · simp [firstOutside, ht]

theorem firstOutside_eq_none_iff {texts : List (String × String)} :
    firstOutside p texts = none ↔ ∀ t ∈ texts, p t.2 := by
  simp [firstOutside]

theorem refuse_eq_ok_iff {field? : Option String} {a : α} :
    refuse field? a = .ok a ↔ field? = none := by
  cases field? with
  | none => simp [refuse]
  | some field => simp [refuse]

theorem refuse_eq_error_iff {field? : Option String} {a : α} {e : ProtocolError} :
    refuse field? a = .error e ↔ ∃ field, field? = some field ∧ e = .invalidHeader field := by
  cases field? with
  | none => simp [refuse]
  | some field => simp [refuse, eq_comm]

end

/-- A field is written if its text may stand in a field value, and no other field changes. -/
theorem exists_writeField (field : String) {text : String} (h : Headers)
    (htext : IsFieldText text) :
    ∃ h', writeField field text h = .ok h' ∧
      ∀ name, name ≠ .ofText field → h'.getAll name = h.getAll name := by
  obtain ⟨value, hvalue⟩ := Option.isSome_iff_exists.1 (FieldValue.isSome_ofText?_iff.2 htext)
  refine ⟨h.insert (.ofText field) value, ?_, ?_⟩
  · simp only [writeField, hvalue]
  · intro name hname
    rw [Headers.getAll_insert, if_neg hname]

/-- Any other text is refused. -/
theorem writeField_eq_error (field : String) {text : String} (h : Headers)
    (htext : ¬ IsFieldText text) : writeField field text h = .error (.invalidHeader field) := by
  have hvalue : FieldValue.ofText? text = none := by
    rw [← FieldValue.isSome_ofText?_iff, Option.not_isSome_iff_eq_none] at htext
    exact htext
  simp only [writeField, hvalue]

/-- Writing refuses the first text that may not stand in a field value. -/
theorem writeTexts_snd (texts : List (String × String)) (h : Headers) :
    (writeTexts texts h).2 = refuse (firstOutside IsFieldText texts) () := by
  induction texts generalizing h with
  | nil => rfl
  | cons t rest ih =>
    rw [firstOutside_cons, writeTexts]
    by_cases htext : IsFieldText t.2
    · obtain ⟨h', hwrite, -⟩ := exists_writeField t.1 h htext
      rw [if_pos htext, hwrite]
      exact ih h'
    · rw [if_neg htext, writeField_eq_error t.1 h htext]
      rfl

/-- Written whole or not, texts change no field but their own. -/
theorem getAll_writeTexts {texts : List (String × String)} {name : FieldName}
    (hother : ∀ t ∈ texts, name ≠ .ofText t.1) (h : Headers) :
    (writeTexts texts h).1.getAll name = h.getAll name := by
  induction texts generalizing h with
  | nil => rfl
  | cons t rest ih =>
    obtain ⟨hfield, hrest⟩ := List.forall_mem_cons.1 hother
    rw [writeTexts]
    by_cases htext : IsFieldText t.2
    · obtain ⟨h', hwrite, hsame⟩ := exists_writeField t.1 h htext
      rw [hwrite, ← hsame name hfield]
      exact ih hrest h'
    · rw [writeField_eq_error t.1 h htext]

/-- The action and the protocol are always written, the texts after them. -/
theorem write_eq_writeTexts (m : ControlMessage) (h : Headers) :
    m.write h = writeTexts m.texts
      ((h.insert (.ofText actionField) (.literal "proxy" all_isFieldByte_proxy)).insert
        (.ofText protocolField) (protocolValue m.protocol)) := rfl

theorem write_snd (m : ControlMessage) (h : Headers) :
    (m.write h).2 = refuse (firstOutside IsFieldText m.texts) () := by
  rw [write_eq_writeTexts, writeTexts_snd]

/-- Reading what was written refuses the first text that cannot be read. -/
theorem read_write_fst {m : ControlMessage} {h : Headers} (hwrite : (m.write h).2 = .ok ()) :
    read (m.write h).1 = refuse (firstOutside IsReadable m.texts) m := by
  rw [read_of_write (Prod.ext rfl hwrite : m.write h = ((m.write h).1, .ok ()))]
  simp only [texts, firstOutside_cons, ite_not]
  split
  · split
    · split
      · rfl
      · rfl
    · rfl
  · rfl

/-- A message is written and read back exactly if its texts can be read. -/
theorem read_write_iff {m : ControlMessage} {h : Headers} :
    (∃ headers, m.write h = (headers, .ok ()) ∧ read headers = .ok m) ↔
      IsReadable m.host ∧ IsReadable m.tunnel ∧ IsReadable m.remote := by
  have htexts : firstOutside IsReadable m.texts = none ↔
      IsReadable m.host ∧ IsReadable m.tunnel ∧ IsReadable m.remote := by
    simp [firstOutside_eq_none_iff, texts]
  rw [← htexts]
  constructor
  · rintro ⟨headers, hwrite, hread⟩
    have hrefuse := read_write_fst (m := m) (h := h) (by rw [hwrite])
    rw [hwrite, hread] at hrefuse
    exact refuse_eq_ok_iff.1 hrefuse.symm
  · intro hnone
    have hwrite : (m.write h).2 = .ok () := by
      rw [write_snd, refuse_eq_ok_iff, firstOutside_eq_none_iff]
      intro t ht
      exact isFieldText_of_isReadable (firstOutside_eq_none_iff.1 hnone t ht)
    refine ⟨(m.write h).1, Prod.ext rfl hwrite, ?_⟩
    rw [read_write_fst hwrite, refuse_eq_ok_iff]
    exact hnone

/-- A message that was written is all that its fields hold. -/
theorem map_bytes_getAll_write {m : ControlMessage} {h : Headers}
    (hwrite : (m.write h).2 = .ok ()) :
    ∀ f ∈ m.fields, ((m.write h).1.getAll (.ofText f.1)).map FieldValue.bytes = [utf8 f.2] := by
  obtain ⟨host, tunnel, remote, hhost, htunnel, hremote, hheaders⟩ :=
    write_eq_ok_iff.1 (Prod.ext rfl hwrite : m.write h = ((m.write h).1, .ok ()))
  obtain ⟨hgetAction, hgetProtocol, hgetHost, hgetTunnel, hgetRemote⟩ :=
    getAll_withFields h m.protocol host tunnel remote
  rw [hheaders]
  simp only [fields, texts, List.forall_mem_cons, hgetAction, hgetProtocol, hgetHost, hgetTunnel,
    hgetRemote, List.map_cons, List.map_nil]
  rw [FieldValue.bytes_of_ofText? (ofText?_protocolValue m.protocol).1,
    FieldValue.bytes_of_ofText? hhost, FieldValue.bytes_of_ofText? htunnel,
    FieldValue.bytes_of_ofText? hremote]
  exact ⟨rfl, rfl, rfl, rfl, rfl, List.forall_mem_nil _⟩

/-- No other field changes, whether the message is written whole or not. -/
theorem getAll_write (m : ControlMessage) (h : Headers) {name : FieldName}
    (hother : ∀ f ∈ m.fields, name ≠ .ofText f.1) : (m.write h).1.getAll name = h.getAll name := by
  obtain ⟨haction, hrest⟩ := List.forall_mem_cons.1 hother
  obtain ⟨hprotocol, htexts⟩ := List.forall_mem_cons.1 hrest
  rw [write_eq_writeTexts, getAll_writeTexts htexts, Headers.getAll_insert, if_neg hprotocol,
    Headers.getAll_insert, if_neg haction]

/-- A message and any headers. It is written exactly if its texts may stand in field values; else
the first that may not is named. What was written is read back exactly if the texts can be read;
else the first that cannot is named. Of the values that the five fields had before none is left,
and no other field changes. -/
theorem written_and_read (m : ControlMessage) (h : Headers) :
    ((m.write h).2 = .ok () ↔ ∀ t ∈ m.texts, IsFieldText t.2) ∧
    (∀ e, (m.write h).2 = .error e ↔
      ∃ field, firstOutside IsFieldText m.texts = some field ∧ e = .invalidHeader field) ∧
    ((m.write h).2 = .ok () →
      (read (m.write h).1 = .ok m ↔ ∀ t ∈ m.texts, IsReadable t.2) ∧
      (∀ e, read (m.write h).1 = .error e ↔
        ∃ field, firstOutside IsReadable m.texts = some field ∧ e = .invalidHeader field) ∧
      ∀ f ∈ m.fields,
        ((m.write h).1.getAll (.ofText f.1)).map FieldValue.bytes = [utf8 f.2]) ∧
    ∀ name, (∀ f ∈ m.fields, name ≠ .ofText f.1) →
      (m.write h).1.getAll name = h.getAll name := by
  refine ⟨?_, ?_, ?_, ?_⟩
  · rw [write_snd, refuse_eq_ok_iff, firstOutside_eq_none_iff]
  · intro e
    rw [write_snd, refuse_eq_error_iff]
  · intro hwrite
    refine ⟨?_, ?_, map_bytes_getAll_write hwrite⟩
    · rw [read_write_fst hwrite, refuse_eq_ok_iff, firstOutside_eq_none_iff]
    · intro e
      rw [read_write_fst hwrite, refuse_eq_error_iff]
  · intro name hother
    exact getAll_write m h hother

end ControlMessage

end ReverseTunnel
