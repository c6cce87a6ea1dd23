import ReverseTunnel.Json.Record
import ReverseTunnel.Json.Writer
import ReverseTunnel.Proofs.Bytes
import ReverseTunnel.Text.Split

/-!
# What is written in JSON is read back

The scanner takes the written form of a string to one token with that string, whatever
characters it has (`scanFrom_writeText`). `Feeds` puts scanner and builder together: a piece
of text, read where a token begins, takes a builder to another one, and pieces combine
(`Feeds.append`). A text writes a value if it feeds it to every builder that awaits one
(`Writes`); so do written strings and objects of written values (`writes_writeText`,
`writes_writeObject`), and the value of such a text is the one it writes
(`parse?_of_writes`).
-/

namespace ReverseTunnel.Json

/-! ## Strings -/

/-- The scanner inside a string with this content so far. -/
def Scanner.reading (found : List Token) (content : Bytes) : Scanner :=
  ⟨.text ⟨content.reverse, none, true, .outside⟩, found⟩

section Characters

variable {found : List Token} {content : Bytes}

theorem scanFrom_cons (s : Scanner) (b : UInt8) (rest : Bytes) :
    scanFrom s (b :: rest) = (s.step b).bind fun s' => scanFrom s' rest := rfl

/-- Bytes that are no quote, no backslash and no control character stand for themselves. -/
theorem scanFrom_plain {bytes : Bytes}
    (h : ∀ b ∈ bytes, b ≠ 0x22 ∧ b ≠ 0x5C ∧ ¬ b < 0x20) :
    scanFrom (.reading found content) bytes = some (.reading found (content ++ bytes)) := by
  induction bytes generalizing content with
  | nil => simp [scanFrom]
  | cons b rest ih =>
    obtain ⟨hquote, hbackslash, hcontrol⟩ := h b List.mem_cons_self
    have hstep : (Scanner.reading found content).step b =
        some (.reading found (content ++ [b])) := by
      simp [Scanner.step, Scanner.reading, TextScan.step, TextScan.push, hquote, hbackslash,
        hcontrol]
    rw [scanFrom_cons, hstep]
    change scanFrom (.reading found (content ++ [b])) rest = _
    rw [ih fun b hb => h b (List.mem_cons_of_mem _ hb), List.append_assoc, List.singleton_append]

/-- A backslash and a letter stand for the character that the letter is short for. -/
theorem scanFrom_short {letter meant : UInt8} (hletter : letter ≠ 0x75)
    (hmeant : shortEscape? letter = some meant) :
    scanFrom (.reading found content) [0x5C, letter] =
      some (.reading found (content ++ [meant])) := by
  simp [scanFrom, Scanner.step, Scanner.reading, TextScan.step, TextScan.push, hletter, hmeant]

/-- A backslash, `u` and four digits stand for the character with this number, unless it is
one half of a pair. -/
theorem scanFrom_unit {high low : UInt8} {h l : Nat} (hhigh : hexDigit? high = some h)
    (hlow : hexDigit? low = some l) (hsmall : h * 16 + l < 0xD800) :
    scanFrom (.reading found content) [0x5C, 0x75, 0x30, 0x30, high, low] =
      some (.reading found (content ++ String.utf8EncodeChar (Char.ofNat (h * 16 + l)))) := by
  have hzero : hexDigit? 0x30 = some 0 := rfl
  have hunit : ∀ scan : TextScan, scan.lead = none →
      scan.pushUnit (h * 16 + l) = scan.push (String.utf8EncodeChar (Char.ofNat (h * 16 + l))) := by
    intro scan hscan
    rw [TextScan.pushUnit, hscan]
    simp only
    rw [if_neg (by simp; omega), if_neg (by simp; omega)]
  simp [scanFrom, Scanner.step, Scanner.reading, TextScan.step, hunit, TextScan.push, hhigh, hlow,
    hzero]

/-- A hexadecimal digit is one byte, and has its value. -/
theorem hexDigit?_hexChar :
    ∀ n < 16, (String.utf8EncodeChar (hexChar n)).map hexDigit? = [some n] := by
  decide

/-- The bytes of a character that is not escaped. -/
theorem plain_of_utf8EncodeChar {c : Char} (hquote : c ≠ '"') (hbackslash : c ≠ '\\')
    (hcontrol : ¬ c.toNat < 0x20) :
    ∀ b ∈ String.utf8EncodeChar c, b ≠ 0x22 ∧ b ≠ 0x5C ∧ ¬ b < 0x20 := by
  have hquote : c.toNat ≠ 0x22 := fun h => hquote (Char.toNat_inj.1 h)
  have hbackslash : c.toNat ≠ 0x5C := fun h => hbackslash (Char.toNat_inj.1 h)
  intro b hb
  simp only [ne_eq, ← UInt8.toNat_inj, UInt8.lt_iff_toNat_lt]
  by_cases hc : c.toNat ≤ 0x7F
  · rw [utf8EncodeChar_of_le hc] at hb
    obtain rfl := List.mem_singleton.1 hb
    simp
    omega
  · have hbeyond := le_of_mem_utf8EncodeChar (Nat.lt_of_not_le hc) hb
    simp
    omega

/-- The characters whose escape is one letter. -/
def shortCharacters : List Char := ['"', '\\', '\x08', '\x0C', '\n', '\r', '\t']

theorem writeChar_of_not_mem {c : Char} (h : c ∉ shortCharacters) :
    writeChar c =
      if c.toNat < 0x20 then ['\\', 'u', '0', '0', hexChar (c.toNat / 16), hexChar (c.toNat % 16)]
      else [c] := by
  simp only [shortCharacters, List.mem_cons, List.not_mem_nil, or_false, not_or] at h
  obtain ⟨hquote, hbackslash, hbackspace, hfeed, hline, hreturn, htab⟩ := h
  have hbackspace : c.toNat ≠ 0x08 := fun h => hbackspace (Char.toNat_inj.1 h)
  have hfeed : c.toNat ≠ 0x0C := fun h => hfeed (Char.toNat_inj.1 h)
  rw [writeChar, if_neg hquote, if_neg hbackslash, if_neg hbackspace, if_neg hfeed, if_neg hline,
    if_neg hreturn, if_neg htab]

/-- The written form of a character is read as the character. -/
theorem scanFrom_writeChar (c : Char) :
    scanFrom (.reading found content) ((writeChar c).flatMap String.utf8EncodeChar) =
      some (.reading found (content ++ String.utf8EncodeChar c)) := by
  by_cases hshort : c ∈ shortCharacters
  · simp only [shortCharacters, List.mem_cons, List.not_mem_nil, or_false] at hshort
    rcases hshort with rfl | rfl | rfl | rfl | rfl | rfl | rfl <;>
      exact scanFrom_short (by decide) (by decide)
  · rw [writeChar_of_not_mem hshort]
    split
    · next hcontrol =>
      obtain ⟨high, hhigh, hh⟩ :=
        List.map_eq_singleton_iff.1 (hexDigit?_hexChar (c.toNat / 16) (by omega))
      obtain ⟨low, hlow, hl⟩ :=
        List.map_eq_singleton_iff.1 (hexDigit?_hexChar (c.toNat % 16) (by omega))
      have hnumber : c.toNat / 16 * 16 + c.toNat % 16 = c.toNat := by omega
      have hread : scanFrom (.reading found content) [0x5C, 0x75, 0x30, 0x30, high, low] = _ :=
        scanFrom_unit hh hl (by omega)
      rw [hnumber, Char.ofNat_toNat] at hread
      simp only [List.flatMap_cons, hhigh, hlow, List.flatMap_nil]
      exact hread
    · next hcontrol =>
      have hquote : c ≠ '"' := by
        rintro rfl
        exact hshort (by decide)
      have hbackslash : c ≠ '\\' := by
        rintro rfl
        exact hshort (by decide)
      rw [List.flatMap_singleton]
      exact scanFrom_plain (plain_of_utf8EncodeChar hquote hbackslash hcontrol)

theorem scanFrom_writeChars (cs : List Char) :
    scanFrom (.reading found content) ((cs.flatMap writeChar).flatMap String.utf8EncodeChar) =
      some (.reading found (content ++ cs.flatMap String.utf8EncodeChar)) := by
  induction cs generalizing content with
  | nil => simp [scanFrom]
  | cons c rest ih =>
    rw [List.flatMap_cons, List.flatMap_append, scanFrom_append, scanFrom_writeChar]
    change scanFrom (.reading found (content ++ String.utf8EncodeChar c)) _ = _
    rw [ih, List.flatMap_cons, List.append_assoc]

/-- The written form of a string is read as one token with that string. -/
theorem scanFrom_writeText (s : String) :
    scanFrom ⟨.between, found⟩ (utf8 (String.ofList (writeText s))) =
      some ⟨.between, .text (some s) :: found⟩ := by
  have hquote : String.utf8EncodeChar '"' = [0x22] := by decide
  have hopen : (⟨.between, found⟩ : Scanner).step 0x22 = some (.reading found []) := rfl
  have hclose : scanFrom (.reading found (utf8 s)) [0x22] =
      some ⟨.between, .text (some s) :: found⟩ := by
    simp [scanFrom, Scanner.step, Scanner.reading, TextScan.step, TextScan.token, text?_utf8]
  rw [utf8_ofList, writeText, List.flatMap_append, List.flatMap_cons, List.flatMap_singleton,
    hquote, List.singleton_append, scanFrom_append, scanFrom_cons, hopen, Option.bind_some,
    scanFrom_writeChars, List.nil_append, ← utf8_eq_flatMap]
  exact hclose

end Characters

/-! ## Values -/

/-- A text that begins where a token begins takes one builder to another. -/
def Feeds (cs : List Char) (b b' : Builder) : Prop :=
  ∃ tokens : List Token, buildFrom b tokens = some b' ∧
    ∀ found, scanFrom ⟨.between, found⟩ (utf8 (String.ofList cs)) =
      some ⟨.between, tokens.reverse ++ found⟩

theorem Feeds.append {cs cs' : List Char} {b b' b'' : Builder} (h : Feeds cs b b')
    (h' : Feeds cs' b' b'') : Feeds (cs ++ cs') b b'' := by
  obtain ⟨tokens, hbuild, hscan⟩ := h
  obtain ⟨tokens', hbuild', hscan'⟩ := h'
  refine ⟨tokens ++ tokens', ?_, ?_⟩
  · rw [buildFrom_append, hbuild]
    exact hbuild'
  · intro found
    rw [String.ofList_append, utf8_append, scanFrom_append, hscan, Option.bind_some, hscan',
      List.reverse_append, List.append_assoc]

/-- One token takes one step of the builder. -/
theorem feeds_token {cs : List Char} (token : Token) {b b' : Builder}
    (hstep : b.step token = some b')
    (hscan : ∀ found, scanFrom ⟨.between, found⟩ (utf8 (String.ofList cs)) =
      some ⟨.between, token :: found⟩) : Feeds cs b b' :=
  ⟨[token], by simp [buildFrom, hstep], hscan⟩

theorem feeds_writeText {s : String} {b b' : Builder} (hstep : b.step (.text (some s)) = some b') :
    Feeds (writeText s) b b' :=
  feeds_token _ hstep fun _ => scanFrom_writeText s

/-- A text writes a value if it feeds it to every builder that awaits one. -/
def Writes (cs : List Char) (value : Value) : Prop :=
  ∀ frames b', Builder.place frames value = some b' → Feeds cs (.open frames .value) b'

theorem writes_writeText (s : String) : Writes (writeText s) (.text (some s)) := by
  intro frames b' hplace
  exact feeds_writeText hplace

/-- A written member joins the members of the object that is open. -/
theorem feeds_member {cs : List Char} {value : Value} (h : Writes cs value) (key : String)
    (frames : List Frame) (members : List (Option String × Value)) {awaiting : Awaiting}
    (hkey : awaiting = .firstKey ∨ awaiting = .key) :
    Feeds (writeText key ++ ':' :: cs) (.open (.object members :: frames) awaiting)
      (.open (.object ((some key, value) :: members) :: frames) .separator) := by
  have hname : Feeds (writeText key) (.open (.object members :: frames) awaiting)
      (.open (.member members (some key) :: frames) .colon) := by
    rcases hkey with rfl | rfl <;> exact feeds_writeText rfl
  have hcolon : Feeds [':'] (.open (.member members (some key) :: frames) .colon)
      (.open (.member members (some key) :: frames) .value) :=
    feeds_token .colon rfl fun _ => rfl
  exact hname.append (hcolon.append (h _ _ rfl))

section Objects

variable {α : Type} {write : α → List Char} {value : α → Value}

/-- Further members join those that an object has. -/
theorem feeds_members (name : α → String) {items : List α}
    (h : ∀ a ∈ items, Writes (write a) (value a)) (frames : List Frame)
    (before : List (Option String × Value)) :
    Feeds (items.flatMap fun a => ',' :: (writeText (name a) ++ ':' :: write a))
      (.open (.object before :: frames) .separator)
      (.open (.object ((items.map fun a => (some (name a), value a)).reverse ++ before) :: frames)
        .separator) := by
  induction items generalizing before with
  | nil => exact ⟨[], rfl, fun _ => rfl⟩
  | cons a rest ih =>
    have hcomma : Feeds [','] (.open (.object before :: frames) .separator)
        (.open (.object before :: frames) .key) := feeds_token .comma rfl fun _ => rfl
    have hfirst := hcomma.append
      (feeds_member (h a List.mem_cons_self) (name a) frames before (.inr rfl))
    have hrest := ih (fun a ha => h a (List.mem_cons_of_mem _ ha))
      ((some (name a), value a) :: before)
    rw [List.flatMap_cons, List.map_cons, List.reverse_cons, List.append_assoc,
      List.singleton_append]
    exact hfirst.append hrest

/-- The written form of an object of written values writes the object. -/
theorem writes_writeObject (name : α → String) {items : List α}
    (h : ∀ a ∈ items, Writes (write a) (value a)) :
    Writes (writeObject (items.map fun a => (name a, write a)))
      (.object (items.map fun a => (some (name a), value a))) := by
  intro frames b' hplace
  have hopen : Feeds ['\x7b'] (.open frames .value) (.open (.object [] :: frames) .firstKey) :=
    feeds_token .openObject rfl fun _ => rfl
  rw [writeObject, ← List.singleton_append, List.append_assoc]
  refine hopen.append ?_
  cases items with
  | nil => exact feeds_token .closeObject hplace fun _ => rfl
  | cons a rest =>
    have hfirst := feeds_member (h a List.mem_cons_self) (name a) frames [] (.inl rfl)
    have hrest := feeds_members name (fun a ha => h a (List.mem_cons_of_mem _ ha)) frames
      [(some (name a), value a)]
    have hclose : Feeds ['\x7d'] (.open (.object ((rest.map fun a =>
        (some (name a), value a)).reverse ++ [(some (name a), value a)]) :: frames)
          .separator) b' := by
      refine feeds_token .closeObject ?_ fun _ => rfl
      change Builder.place frames _ = _
      rw [List.reverse_append, List.reverse_reverse]
      exact hplace
    rw [List.map_cons, List.map_cons, Text.intercalate_cons, List.flatMap_map, List.flatMap_map]
    exact (hfirst.append hrest).append hclose

end Objects

/-- The value of a text is the one that it writes. -/
theorem parse?_of_writes {cs : List Char} {value : Value} (h : Writes cs value) :
    parse? (utf8 (String.ofList cs)) = some value := by
  obtain ⟨tokens, hbuild, hscan⟩ := h [] (.complete value) rfl
  have htokens : tokens? (utf8 (String.ofList cs)) = some tokens := by
    rw [tokens?, Scanner.start, hscan]
    simp [Scanner.tokens?]
  simp [parse?, htokens, Builder.start, hbuild, Builder.value?]

end ReverseTunnel.Json
