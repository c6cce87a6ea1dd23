import Mathlib.Logic.Basic
import ReverseTunnel.ClientHello

/-!
# Which streams name a host

The grammar of a stream with a server name, and that the name is read from exactly the streams of
the grammar (`serverName_eq_ok_iff`). The grammar is stated by what the bytes are, piece after
piece, and mentions no reader: a record is whole or it is not there, a length counts the bytes
behind it, and where the grammar says `rest` the bytes are free.

Two of its layers are rows of entries that are searched for a tag, the extensions of a hello and
the names of a server name extension. Both are one relation, `FirstTagged`: the entries before the
first with the tag have to be whole, those after it do not count. The readers of the two rows
decide it by looking at the entry in front (`exists_firstTagged_iff`).
-/

namespace ReverseTunnel.ClientHello

/-! ## The grammar -/

/-- Data with its length in one byte in front. -/
inductive Framed8 (data : Bytes) : Bytes → Prop where
  | intro {n : UInt8} (hlength : n.toNat = data.length) : Framed8 data (n :: data)

/-- Data with its length in two bytes in front. -/
inductive Framed16 (data : Bytes) : Bytes → Prop where
  | intro {high low : UInt8} (hlength : be16 high low = data.length) :
    Framed16 data (high :: low :: data)

/-- A row of entries, each a tag and framed data: the data of the first entry with this tag. The
entries before it have other tags of the same width and are whole. -/
inductive FirstTagged (tag data : Bytes) : Bytes → Prop where
  | here {block rest : Bytes} (hblock : Framed16 data block) :
    FirstTagged tag data (tag ++ block ++ rest)
  | later {other skipped block rest : Bytes} (hwidth : other.length = tag.length)
      (hother : other ≠ tag) (hblock : Framed16 skipped block)
      (hrest : FirstTagged tag data rest) : FirstTagged tag data (other ++ block ++ rest)

/-- The data of a server name extension: a framed list of names, of which the first host name,
that is the first name of type 0, is `name`. -/
inductive HostList (name : Bytes) : Bytes → Prop where
  | intro {list block rest : Bytes} (hblock : Framed16 list block)
      (hname : FirstTagged [0] name list) : HostList name (block ++ rest)

/-- A ClientHello with these extensions. The length of the message, the version and the random
have fixed widths; the session id, the cipher suites and the compression methods are framed. -/
inductive Hello (extensions : Bytes) : Bytes → Prop where
  | intro {fixed session sessionBlock suites suitesBlock methods methodsBlock block rest : Bytes}
      (hfixed : fixed.length = 3 + 2 + 32) (hsession : Framed8 session sessionBlock)
      (hsuites : Framed16 suites suitesBlock) (hmethods : Framed8 methods methodsBlock)
      (hblock : Framed16 extensions block) :
    Hello extensions
      (0x01 :: (fixed ++ sessionBlock ++ suitesBlock ++ methodsBlock ++ block ++ rest))

/-- A stream that opens with this record, a handshake record of any version. -/
inductive Opens (record : Bytes) : Bytes → Prop where
  | intro {version block rest : Bytes} (hversion : version.length = 2)
      (hblock : Framed16 record block) : Opens record (0x16 :: (version ++ block ++ rest))

/-- A stream that opens with a ClientHello whose server name is `name`: it stands in the first
extension of type 0. -/
inductive Names (name : Bytes) : Bytes → Prop where
  | intro {record extensions data stream : Bytes} (hopens : Opens record stream)
      (hhello : Hello extensions record) (hextension : FirstTagged [0, 0] data extensions)
      (hlist : HostList name data) : Names name stream

/-! ## What the readers take -/

theorem bind_eq_ok_iff {α β : Type} {x : Except Fault α} {f : α → Except Fault β} {b : β} :
    (x >>= f) = .ok b ↔ ∃ a, x = .ok a ∧ f a = .ok b := by
  cases x with
  | error e => simp [bind, Except.bind]
  | ok a => simp [bind, Except.bind]

theorem bind_of_eq_ok {α β : Type} {x : Except Fault α} {f : α → Except Fault β} {a : α}
    (h : x = .ok a) : (x >>= f) = f a := by
  rw [h]
  rfl

theorem take_eq_ok_iff {n : Nat} {bytes data rest : Bytes} :
    take n bytes = .ok (data, rest) ↔ data.length = n ∧ bytes = data ++ rest := by
  constructor
  · intro h
    unfold take at h
    split at h
    · next hn =>
      cases h
      exact ⟨List.length_take_of_le hn, (List.take_append_drop n bytes).symm⟩
    · cases h
  · rintro ⟨rfl, rfl⟩
    have hn : data.length ≤ (data ++ rest).length := by
      rw [List.length_append]
      exact Nat.le_add_right _ _
    rw [take, if_pos hn, List.take_left, List.drop_left]

theorem skip_eq_ok_iff {n : Nat} {bytes rest : Bytes} :
    skip n bytes = .ok rest ↔ ∃ front, front.length = n ∧ bytes = front ++ rest := by
  have hskip : skip n bytes = (take n bytes).map Prod.snd := by
    unfold skip take
    split <;> rfl
  rw [hskip]
  constructor
  · intro h
    cases htake : take n bytes with
    | error e =>
      rw [htake] at h
      cases h
    | ok parts =>
      rw [htake] at h
      cases h
      exact ⟨parts.1, take_eq_ok_iff.1 htake⟩
  · rintro ⟨front, hfront⟩
    rw [take_eq_ok_iff.2 hfront]
    rfl

/-- Two rows of bytes that are skipped one after the other are one row. -/
theorem skip_add_eq_ok_iff {m n : Nat} {bytes rest : Bytes} :
    skip (m + n) bytes = .ok rest ↔
      ∃ after, skip m bytes = .ok after ∧ skip n after = .ok rest := by
  simp only [skip_eq_ok_iff]
  constructor
  · rintro ⟨front, hfront, rfl⟩
    refine ⟨front.drop m ++ rest, ⟨front.take m, ?_, ?_⟩, front.drop m, ?_, rfl⟩
    · exact List.length_take_of_le (by omega)
    · rw [← List.append_assoc, List.take_append_drop]
    · rw [List.length_drop]
      omega
  · rintro ⟨-, ⟨front, rfl, rfl⟩, back, rfl, rfl⟩
    exact ⟨front ++ back, List.length_append, (List.append_assoc _ _ _).symm⟩

theorem byte_eq_ok_iff {bytes rest : Bytes} {b : UInt8} :
    byte bytes = .ok (b, rest) ↔ bytes = b :: rest := by
  cases bytes with
  | nil => simp [byte]
  | cons c cs => simp [byte]

theorem block8_eq_ok_iff {bytes data rest : Bytes} :
    block8 bytes = .ok (data, rest) ↔ ∃ block, Framed8 data block ∧ bytes = block ++ rest := by
  constructor
  · intro h
    obtain ⟨⟨n, after⟩, hn, hdata⟩ := bind_eq_ok_iff.1 h
    obtain ⟨hlength, rfl⟩ := take_eq_ok_iff.1 hdata
    exact ⟨n :: data, .intro hlength.symm, byte_eq_ok_iff.1 hn⟩
  · rintro ⟨-, ⟨hlength⟩, rfl⟩
    exact take_eq_ok_iff.2 ⟨hlength.symm, rfl⟩

theorem block16_eq_ok_iff {bytes data rest : Bytes} :
    block16 bytes = .ok (data, rest) ↔ ∃ block, Framed16 data block ∧ bytes = block ++ rest := by
  constructor
  · intro h
    rcases bytes with _ | ⟨high, _ | ⟨low, after⟩⟩
    · cases h
    · cases h
    · obtain ⟨hlength, rfl⟩ := take_eq_ok_iff.1 h
      exact ⟨high :: low :: data, .intro hlength.symm, rfl⟩
  · rintro ⟨-, ⟨hlength⟩, rfl⟩
    exact take_eq_ok_iff.2 ⟨hlength.symm, rfl⟩

/-! ## Rows of entries -/

/-- There is one way to cut framed data off behind a tag. -/
theorem eq_of_append_framed {tag other data block rest after : Bytes} {high low : UInt8}
    (hwidth : other.length = tag.length) (hblock : Framed16 data block)
    (hbytes : other ++ high :: low :: rest = tag ++ block ++ after) :
    other = tag ∧ be16 high low = data.length ∧ rest = data ++ after := by
  cases hblock with
  | intro hlength =>
    rw [List.append_assoc] at hbytes
    obtain ⟨htag, hframe⟩ := List.append_inj hbytes hwidth
    cases hframe
    exact ⟨htag, hlength, rfl⟩

/-- The entry in front has to be whole. Then it is the first with the tag, or that one comes
later. -/
theorem firstTagged_entry_iff {tag other data rest : Bytes} {high low : UInt8}
    (hwidth : other.length = tag.length) :
    FirstTagged tag data (other ++ high :: low :: rest) ↔
      be16 high low ≤ rest.length ∧
        (other = tag ∧ data = rest.take (be16 high low) ∨
          other ≠ tag ∧ FirstTagged tag data (rest.drop (be16 high low))) := by
  constructor
  · intro h
    generalize hbytes : other ++ high :: low :: rest = bytes at h
    cases h with
    | here hblock =>
      obtain ⟨htag, hlength, rfl⟩ := eq_of_append_framed hwidth hblock hbytes
      rw [hlength, List.length_append, List.take_left]
      exact ⟨Nat.le_add_right _ _, .inl ⟨htag, rfl⟩⟩
    | later hwidth' hother hblock hrest =>
      obtain ⟨htag, hlength, rfl⟩ :=
        eq_of_append_framed (hwidth.trans hwidth'.symm) hblock hbytes
      rw [hlength, List.length_append, List.drop_left]
      exact ⟨Nat.le_add_right _ _, .inr ⟨htag ▸ hother, hrest⟩⟩
  · rintro ⟨hlength, hentry⟩
    have hblock : Framed16 (rest.take (be16 high low))
        (high :: low :: rest.take (be16 high low)) :=
      .intro (List.length_take_of_le hlength).symm
    have hbytes : other ++ high :: low :: rest =
        other ++ (high :: low :: rest.take (be16 high low)) ++ rest.drop (be16 high low) := by
      rw [List.append_assoc, List.cons_append, List.cons_append, List.take_append_drop]
    rw [hbytes]
    rcases hentry with ⟨rfl, rfl⟩ | ⟨hother, hrest⟩
    · exact .here hblock
    · exact .later hwidth hother hblock hrest

/-- To look for an entry with a tag is to look at the entry in front. -/
theorem exists_firstTagged_iff (tag other : Bytes) {rest : Bytes} {high low : UInt8}
    {P : Bytes → Prop} (hwidth : other.length = tag.length) :
    (∃ data, FirstTagged tag data (other ++ high :: low :: rest) ∧ P data) ↔
      be16 high low ≤ rest.length ∧
        if other = tag then P (rest.take (be16 high low))
        else ∃ data, FirstTagged tag data (rest.drop (be16 high low)) ∧ P data := by
  by_cases htag : other = tag
  · rw [if_pos htag]
    constructor
    · rintro ⟨data, hfirst, hdata⟩
      obtain ⟨hlength, ⟨-, rfl⟩ | ⟨hother, -⟩⟩ := (firstTagged_entry_iff hwidth).1 hfirst
      · exact ⟨hlength, hdata⟩
      · exact absurd htag hother
    · rintro ⟨hlength, hdata⟩
      exact ⟨_, (firstTagged_entry_iff hwidth).2 ⟨hlength, .inl ⟨htag, rfl⟩⟩, hdata⟩
  · rw [if_neg htag]
    constructor
    · rintro ⟨data, hfirst, hdata⟩
      obtain ⟨hlength, ⟨heq, -⟩ | ⟨-, hrest⟩⟩ := (firstTagged_entry_iff hwidth).1 hfirst
      · exact absurd heq htag
      · exact ⟨hlength, data, hrest, hdata⟩
    · rintro ⟨hlength, data, hrest, hdata⟩
      exact ⟨data, (firstTagged_entry_iff hwidth).2 ⟨hlength, .inr ⟨htag, hrest⟩⟩, hdata⟩

/-- An entry has at least its tag and its length. -/
theorem not_exists_firstTagged {tag bytes : Bytes} {P : Bytes → Prop}
    (hshort : bytes.length < tag.length + 2) : ¬ ∃ data, FirstTagged tag data bytes ∧ P data := by
  rintro ⟨data, hfirst, -⟩
  cases hfirst with
  | here hblock =>
    cases hblock with
    | intro _ =>
      simp only [List.length_append, List.length_cons] at hshort
      omega
  | later hwidth _ hblock _ =>
    cases hblock with
    | intro _ =>
      simp only [List.length_append, List.length_cons] at hshort
      omega

/-! ## Names and extensions -/

theorem hostName_eq_ok_iff {name : Bytes} {s : String} :
    hostName name = .ok s ↔ ∃ text, text ≠ "" ∧ name = utf8 text ∧ s = Text.lower text := by
  constructor
  · intro h
    unfold hostName at h
    split at h
    · cases h
    next text htext =>
    have hname := text?_eq_some_iff.1 htext
    split at h
    · cases h
    next hnonempty =>
    cases h
    refine ⟨text, ?_, hname, rfl⟩
    rintro rfl
    exact hnonempty (by rw [hname]; rfl)
  · rintro ⟨text, htext, rfl, rfl⟩
    have hnonempty : ¬ (utf8 text).isEmpty = true := by
      rw [List.isEmpty_iff]
      intro hempty
      exact htext (utf8_injective hempty)
    simp only [hostName, text?_utf8]
    exact if_neg hnonempty

theorem firstHostName_eq_ok_iff {list : Bytes} {s : String} :
    firstHostName list = .ok s ↔ ∃ name, FirstTagged [0] name list ∧ hostName name = .ok s := by
  fun_induction firstHostName list with
  | case1 =>
    exact iff_of_false (fun h => by cases h) (not_exists_firstTagged (by decide))
  | case2 high low rest hlength =>
    refine Iff.trans ?_ (exists_firstTagged_iff [0] [0] rfl).symm
    simp only [hlength, true_and, if_true]
  | case3 kind high low rest hlength hkind ih =>
    refine Iff.trans ?_ (exists_firstTagged_iff [0] [kind] rfl).symm
    have hother : [kind] ≠ [0] := fun h => hkind (List.head_eq_of_cons_eq h)
    simp only [hlength, true_and, if_neg hother, ih]
  | case4 kind high low rest hlength =>
    refine Iff.trans ?_ (exists_firstTagged_iff [0] [kind] rfl).symm
    simp [hlength]
  | case5 list hempty hshort =>
    refine iff_of_false (fun h => by cases h) (not_exists_firstTagged ?_)
    rcases list with _ | ⟨kind, _ | ⟨high, _ | ⟨low, rest⟩⟩⟩
    · exact absurd rfl hempty
    · simp
    · simp
    · exact absurd rfl (hshort kind high low rest)

theorem be16_eq_zero_iff {high low : UInt8} : be16 high low = 0 ↔ [high, low] = [0, 0] := by
  simp only [be16, List.cons.injEq, and_true, ← UInt8.toNat_inj, UInt8.toNat_zero]
  omega

theorem serverNameData_eq_ok_iff {data : Bytes} {s : String} :
    serverNameData data = .ok s ↔ ∃ name, HostList name data ∧ hostName name = .ok s := by
  constructor
  · intro h
    obtain ⟨⟨list, after⟩, hblock, hfirst⟩ := bind_eq_ok_iff.1 h
    obtain ⟨block, hframed, rfl⟩ := block16_eq_ok_iff.1 hblock
    obtain ⟨name, hname, hhost⟩ := firstHostName_eq_ok_iff.1 hfirst
    exact ⟨name, .intro hframed hname, hhost⟩
  · rintro ⟨name, hlist, hhost⟩
    cases hlist with
    | intro hframed hname =>
      refine bind_eq_ok_iff.2 ⟨_, block16_eq_ok_iff.2 ⟨_, hframed, rfl⟩, ?_⟩
      exact firstHostName_eq_ok_iff.2 ⟨name, hname, hhost⟩

theorem firstServerName_eq_ok_iff {extensions : Bytes} {s : String} :
    firstServerName extensions = .ok s ↔
      ∃ data, FirstTagged [0, 0] data extensions ∧ serverNameData data = .ok s := by
  fun_induction firstServerName extensions with
  | case1 =>
    exact iff_of_false (fun h => by cases h) (not_exists_firstTagged (by decide))
  | case2 typeHigh typeLow high low rest hlength htype =>
    refine Iff.trans ?_ (exists_firstTagged_iff [0, 0] [typeHigh, typeLow] rfl).symm
    simp only [hlength, true_and, if_pos (be16_eq_zero_iff.1 htype)]
  | case3 typeHigh typeLow high low rest hlength htype ih =>
    refine Iff.trans ?_ (exists_firstTagged_iff [0, 0] [typeHigh, typeLow] rfl).symm
    simp only [hlength, true_and, if_neg (mt be16_eq_zero_iff.2 htype), ih]
  | case4 typeHigh typeLow high low rest hlength =>
    refine Iff.trans ?_ (exists_firstTagged_iff [0, 0] [typeHigh, typeLow] rfl).symm
    simp [hlength]
  | case5 extensions hempty hshort =>
    refine iff_of_false (fun h => by cases h) (not_exists_firstTagged ?_)
    rcases extensions with _ | ⟨typeHigh, _ | ⟨typeLow, _ | ⟨high, _ | ⟨low, rest⟩⟩⟩⟩
    · exact absurd rfl hempty
    · simp
    · simp
    · simp
    · exact absurd rfl (hshort typeHigh typeLow high low rest)

/-! ## The hello and its record -/

/-- A hello is answered as its extensions are. -/
theorem serverNameOfRecord_of_hello {extensions record : Bytes} (h : Hello extensions record) :
    serverNameOfRecord record = firstServerName extensions := by
  cases h with
  | @intro fixed session sessionBlock suites suitesBlock methods methodsBlock block rest hwidth
      hsession hsuites hmethods hblock =>
    simp only [List.append_assoc]
    obtain ⟨afterVersion, hhead, hrandom⟩ :=
      skip_add_eq_ok_iff.1 (skip_eq_ok_iff.2 ⟨fixed, hwidth, rfl⟩)
    obtain ⟨afterLength, hlength, hversion⟩ := skip_add_eq_ok_iff.1 hhead
    have hnonempty : ¬ (block ++ rest).isEmpty = true := by
      cases hblock with
      | intro _ => exact Bool.false_ne_true
    refine (bind_of_eq_ok (byte_eq_ok_iff.2 rfl)).trans ?_
    refine (if_neg (not_not.2 rfl)).trans ?_
    refine (bind_of_eq_ok hlength).trans ?_
    refine (bind_of_eq_ok hversion).trans ?_
    refine (bind_of_eq_ok hrandom).trans ?_
    refine (bind_of_eq_ok (block8_eq_ok_iff.2 ⟨_, hsession, rfl⟩)).trans ?_
    refine (bind_of_eq_ok (block16_eq_ok_iff.2 ⟨_, hsuites, rfl⟩)).trans ?_
    refine (bind_of_eq_ok (block8_eq_ok_iff.2 ⟨_, hmethods, rfl⟩)).trans ?_
    refine (if_neg hnonempty).trans ?_
    exact bind_of_eq_ok (block16_eq_ok_iff.2 ⟨_, hblock, rfl⟩)

/-- A record with a name is a hello. -/
theorem hello_of_serverNameOfRecord {record : Bytes} {s : String}
    (h : serverNameOfRecord record = .ok s) : ∃ extensions, Hello extensions record := by
  obtain ⟨⟨kind, body⟩, hkind, h⟩ := bind_eq_ok_iff.1 h
  dsimp only at h
  split at h
  · cases h
  next hhello =>
  obtain ⟨afterLength, hlength, h⟩ := bind_eq_ok_iff.1 h
  obtain ⟨afterVersion, hversion, h⟩ := bind_eq_ok_iff.1 h
  obtain ⟨afterRandom, hrandom, h⟩ := bind_eq_ok_iff.1 h
  obtain ⟨⟨session, afterSession⟩, hsession, h⟩ := bind_eq_ok_iff.1 h
  obtain ⟨⟨suites, afterSuites⟩, hsuites, h⟩ := bind_eq_ok_iff.1 h
  obtain ⟨⟨methods, afterMethods⟩, hmethods, h⟩ := bind_eq_ok_iff.1 h
  dsimp only at h
  split at h
  · cases h
  obtain ⟨⟨extensions, rest⟩, hextensions, -⟩ := bind_eq_ok_iff.1 h
  have hfixed : skip (3 + 2 + 32) body = .ok afterRandom :=
    skip_add_eq_ok_iff.2 ⟨_, skip_add_eq_ok_iff.2 ⟨_, hlength, hversion⟩, hrandom⟩
  -- Put together from the front, the pieces are the record.
  obtain rfl := byte_eq_ok_iff.1 hkind
  obtain ⟨fixed, hwidth, rfl⟩ := skip_eq_ok_iff.1 hfixed
  obtain ⟨sessionBlock, hsessionFrame, rfl⟩ := block8_eq_ok_iff.1 hsession
  obtain ⟨suitesBlock, hsuitesFrame, rfl⟩ := block16_eq_ok_iff.1 hsuites
  obtain ⟨methodsBlock, hmethodsFrame, rfl⟩ := block8_eq_ok_iff.1 hmethods
  obtain ⟨block, hframe, rfl⟩ := block16_eq_ok_iff.1 hextensions
  refine ⟨extensions, ?_⟩
  rw [not_not.1 hhello, ← List.append_assoc, ← List.append_assoc, ← List.append_assoc,
    ← List.append_assoc]
  exact .intro hwidth hsessionFrame hsuitesFrame hmethodsFrame hframe

/-- A stream is answered as the handshake record that it opens with. -/
theorem serverName_of_opens {record stream : Bytes} (h : Opens record stream) :
    serverName stream = serverNameOfRecord record := by
  cases h with
  | @intro version block rest hwidth hblock =>
    rw [List.append_assoc]
    refine (bind_of_eq_ok (byte_eq_ok_iff.2 rfl)).trans ?_
    refine (if_neg (not_not.2 rfl)).trans ?_
    refine (bind_of_eq_ok (skip_eq_ok_iff.2 ⟨version, hwidth, rfl⟩)).trans ?_
    exact bind_of_eq_ok (block16_eq_ok_iff.2 ⟨_, hblock, rfl⟩)

/-- A stream with a name opens with a handshake record. -/
theorem opens_of_serverName {stream : Bytes} {s : String} (h : serverName stream = .ok s) :
    ∃ record, Opens record stream := by
  obtain ⟨⟨kind, body⟩, hkind, h⟩ := bind_eq_ok_iff.1 h
  dsimp only at h
  split at h
  · cases h
  next hhandshake =>
  obtain ⟨afterVersion, hversion, h⟩ := bind_eq_ok_iff.1 h
  obtain ⟨⟨record, rest⟩, hrecord, -⟩ := bind_eq_ok_iff.1 h
  obtain rfl := byte_eq_ok_iff.1 hkind
  obtain ⟨version, hwidth, rfl⟩ := skip_eq_ok_iff.1 hversion
  obtain ⟨block, hblock, rfl⟩ := block16_eq_ok_iff.1 hrecord
  refine ⟨record, ?_⟩
  rw [not_not.1 hhandshake, ← List.append_assoc]
  exact .intro hwidth hblock

/-- The server name is `s` exactly if the stream opens with a ClientHello that names a non-empty
text, and `s` is this text in lower case. Whatever other extensions and names stand before the
host name, it is found, and no other stream yields a name. -/
theorem serverName_eq_ok_iff {stream : Bytes} {s : String} :
    serverName stream = .ok s ↔
      ∃ text, text ≠ "" ∧ s = Text.lower text ∧ Names (utf8 text) stream := by
  constructor
  · intro h
    obtain ⟨record, hopens⟩ := opens_of_serverName h
    rw [serverName_of_opens hopens] at h
    obtain ⟨extensions, hhello⟩ := hello_of_serverNameOfRecord h
    rw [serverNameOfRecord_of_hello hhello] at h
    obtain ⟨data, hextension, hdata⟩ := firstServerName_eq_ok_iff.1 h
    obtain ⟨name, hlist, hname⟩ := serverNameData_eq_ok_iff.1 hdata
    obtain ⟨text, hnonempty, rfl, hlower⟩ := hostName_eq_ok_iff.1 hname
    exact ⟨text, hnonempty, hlower, .intro hopens hhello hextension hlist⟩
  · rintro ⟨text, hnonempty, hlower, hnames⟩
    cases hnames with
    | intro hopens hhello hextension hlist =>
      have hname := hostName_eq_ok_iff.2 ⟨text, hnonempty, rfl, hlower⟩
      have hdata := serverNameData_eq_ok_iff.2 ⟨_, hlist, hname⟩
      rw [serverName_of_opens hopens, serverNameOfRecord_of_hello hhello]
      exact firstServerName_eq_ok_iff.2 ⟨_, hextension, hdata⟩

/-- An extension and a name of other types in front, and bytes left over at the end of the list,
the data, the extensions and the record do not hide the host name. -/
example : (serverName
    ([0x16, 3, 1, 0, 70, 1] ++ List.replicate 37 0 ++ [0, 0, 0, 0] ++ [0, 25] ++
      [0, 43, 0, 1, 9] ++ [0, 0, 0, 14] ++ [0, 11] ++ [7, 0, 1, 9] ++ [0, 0, 3] ++
      utf8 "WEB" ++ [0, 0, 0, 0] ++ [9])).toOption = some "web" := by
  decide +kernel

end ReverseTunnel.ClientHello
