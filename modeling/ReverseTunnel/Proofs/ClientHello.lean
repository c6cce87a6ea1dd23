import ReverseTunnel.ClientHello

/-!
# The first record decides

The header of a record says how long the record is (`recordLength?`), and the server name is
looked for within that length only. So the bytes after the first record do not count: with or
without them the answer is the same (`serverName_take`). And as long as the record is not whole
there is no answer: bytes that start as a handshake record and end before it does are cut short
(`serverName_of_unfinished`), wherever the cut falls. Both together say that the two readings of
the header agree (`serverName_decided_by_record`).
-/

namespace ReverseTunnel.ClientHello

theorem recordLength?_eq_none_iff {bytes : Bytes} :
    recordLength? bytes = none ↔ bytes.length < 5 := by
  match bytes with
  | [] | [_] | [_, _] | [_, _, _] | [_, _, _, _] => simp [recordLength?]
  | _ :: _ :: _ :: _ :: _ :: rest => simp [recordLength?]

/-- A record is at least as long as its header. -/
theorem five_le_of_recordLength? {bytes : Bytes} {n : Nat} (h : recordLength? bytes = some n) :
    5 ≤ n := by
  unfold recordLength? at h
  split at h
  · cases h
    exact Nat.le_add_right 5 _
  · cases h

/-- Once the header is there, more bytes do not change the length. -/
theorem recordLength?_append {bytes : Bytes} {n : Nat} (h : recordLength? bytes = some n)
    (rest : Bytes) : recordLength? (bytes ++ rest) = some n := by
  unfold recordLength? at h
  split at h
  · cases h
    rfl
  · cases h

/-- The server name of bytes with a whole header. -/
theorem serverName_of_header (kind major minor high low : UInt8) (rest : Bytes) :
    serverName (kind :: major :: minor :: high :: low :: rest) =
      if kind ≠ 0x16 then .error .notClientHello
      else if be16 high low ≤ rest.length then serverNameOfRecord (rest.take (be16 high low))
      else .error .truncated := by
  by_cases hkind : kind = 0x16
  · subst hkind
    by_cases hlength : be16 high low ≤ rest.length
    · simp [serverName, byte, skip, block16, word, take, hlength, bind, Except.bind]
    · simp [serverName, byte, skip, block16, word, take, hlength, bind, Except.bind]
  · simp [serverName, byte, hkind, bind, Except.bind]
    rfl

/-- The server name of bytes that hold the whole first record is that of the record. -/
theorem serverName_take {bytes : Bytes} {n : Nat} (h : recordLength? bytes = some n)
    (hwhole : n ≤ bytes.length) : serverName (bytes.take n) = serverName bytes := by
  unfold recordLength? at h
  split at h
  · next kind major minor high low rest =>
    cases h
    have hrest : be16 high low ≤ rest.length := by
      simp only [List.length_cons] at hwhole
      omega
    have htake : (kind :: major :: minor :: high :: low :: rest).take (5 + be16 high low) =
        kind :: major :: minor :: high :: low :: rest.take (be16 high low) := by
      rw [Nat.add_comm]
      rfl
    have hlength : be16 high low ≤ (rest.take (be16 high low)).length := by
      rw [List.length_take]
      exact Nat.le_min.2 ⟨Nat.le_refl _, hrest⟩
    rw [htake, serverName_of_header, serverName_of_header, if_pos hlength, if_pos hrest,
      List.take_take, Nat.min_self]
  · cases h

/-! ## Bytes that end before the record does -/

/-- Bytes that start otherwise than a handshake record are no ClientHello, whole or not. -/
theorem serverName_of_other {bytes : Bytes} {kind : UInt8} (hhead : bytes.head? = some kind)
    (hkind : kind ≠ 0x16) : serverName bytes = .error .notClientHello := by
  obtain ⟨rest, rfl⟩ := List.head?_eq_some_iff.1 hhead
  simp only [serverName, byte, bind, Except.bind, ne_eq, hkind, not_false_eq_true, if_true]
  rfl

/-- Bytes that do not start otherwise and end before the record does are cut short. -/
theorem serverName_of_unfinished {bytes : Bytes}
    (hkind : ∀ kind, bytes.head? = some kind → kind = 0x16)
    (hshort : ∀ n, recordLength? bytes = some n → bytes.length < n) :
    serverName bytes = .error .truncated := by
  rcases bytes with _ | ⟨kind, bytes⟩
  · rfl
  obtain rfl := hkind kind rfl
  rcases bytes with _ | ⟨major, _ | ⟨minor, _ | ⟨high, _ | ⟨low, rest⟩⟩⟩⟩
  · rfl
  · rfl
  · rfl
  · rfl
  · -- The header is whole, so the record is not.
    have hmissing : ¬ be16 high low ≤ rest.length := by
      have hlength := hshort (5 + be16 high low) rfl
      simp only [List.length_cons] at hlength
      omega
    rw [serverName_of_header, if_neg fun h => h rfl, if_neg hmissing]

/-- Bytes with a server name hold a whole handshake record. -/
theorem whole_of_serverName {bytes : Bytes} {s : String} (h : serverName bytes = .ok s) :
    bytes.head? = some 0x16 ∧ ∃ n, recordLength? bytes = some n ∧ n ≤ bytes.length := by
  have hkind : ∀ kind, bytes.head? = some kind → kind = 0x16 := by
    intro kind hhead
    by_cases hkind : kind = 0x16
    · exact hkind
    · cases h.symm.trans (serverName_of_other hhead hkind)
  have hwhole : ∃ n, recordLength? bytes = some n ∧ n ≤ bytes.length := by
    apply Classical.byContradiction
    intro hnone
    have hshort : ∀ n, recordLength? bytes = some n → bytes.length < n := by
      intro n hn
      exact Nat.lt_of_not_le fun hle => hnone ⟨n, hn, hle⟩
    cases h.symm.trans (serverName_of_unfinished hkind hshort)
  refine ⟨?_, hwhole⟩
  cases hhead : bytes.head? with
  | none =>
    rw [List.head?_eq_none_iff.1 hhead] at h
    cases h
  | some kind => rw [hkind kind hhead]

/-- A front part of a record that is cut off ends before the record does. -/
theorem length_lt_of_cut {bytes front : Bytes} {n : Nat} (hn : recordLength? bytes = some n)
    (hfront : front <+: bytes.take n) (hcut : front ≠ bytes.take n) :
    ∀ m, recordLength? front = some m → front.length < m := by
  intro m hm
  obtain ⟨rest, hrest⟩ := hfront.trans (List.take_prefix n bytes)
  -- The header that is left is the header of the record.
  have hsame := recordLength?_append hm rest
  rw [hrest, hn] at hsame
  cases hsame
  have hshorter : front.length < (bytes.take n).length :=
    Nat.lt_of_le_of_ne hfront.length_le fun heq => hcut (hfront.eq_of_length heq)
  exact Nat.lt_of_lt_of_le hshorter (List.length_take_le n bytes)

/-- The length of the first record and the server name go together. Once the record is there,
only its bytes count. Before that, bytes that do not start otherwise than a handshake record are
cut short. So bytes with a server name hold the whole record, and wherever the record is cut there
is no other answer than that something is missing. -/
theorem serverName_decided_by_record (bytes : Bytes) :
    (∀ n, recordLength? bytes = some n → n ≤ bytes.length →
      serverName bytes = serverName (bytes.take n)) ∧
    ((bytes.length < 5 ∨ ∃ n, recordLength? bytes = some n ∧ bytes.length < n) →
      (∀ kind, bytes.head? = some kind → kind = 0x16) →
      serverName bytes = .error .truncated) ∧
    ∀ s, serverName bytes = .ok s →
      ∃ n, recordLength? bytes = some n ∧ n ≤ bytes.length ∧
        ∀ front, front <+: bytes.take n → front ≠ bytes.take n →
          serverName front = .error .truncated := by
  refine ⟨?_, ?_, ?_⟩
  · intro n hn hwhole
    exact (serverName_take hn hwhole).symm
  · intro hunfinished hkind
    apply serverName_of_unfinished hkind
    intro m hm
    rcases hunfinished with hheader | ⟨n, hn, hmissing⟩
    · rw [recordLength?_eq_none_iff.2 hheader] at hm
      cases hm
    · cases hn.symm.trans hm
      exact hmissing
  · intro s hs
    obtain ⟨hhead, n, hn, hwhole⟩ := whole_of_serverName hs
    refine ⟨n, hn, hwhole, ?_⟩
    intro front hfront hcut
    apply serverName_of_unfinished
    · intro kind hkind
      obtain ⟨rest, hrest⟩ := hfront.trans (List.take_prefix n bytes)
      have hsame : (front ++ rest).head? = some kind := by
        rw [List.head?_append, hkind]
        rfl
      rw [hrest, hhead] at hsame
      exact (Option.some.inj hsame).symm
    · exact length_lt_of_cut hn hfront hcut

end ReverseTunnel.ClientHello
