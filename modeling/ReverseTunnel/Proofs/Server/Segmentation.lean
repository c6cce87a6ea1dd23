import ReverseTunnel.Proofs.ClientHello
import ReverseTunnel.Proofs.Server.Streams

/-!
# A stream is read alike however its bytes arrive

The bytes of a TLS stream arrive in reads of at most `readSize` bytes, and reading stops as soon
as the first record is there. The last read may bring bytes after the record, so the bytes
that are read depend on how the stream was cut. Nothing else does
(`reading_depends_on_stream`): whether and why reading fails, the server name, the route and
the message for the client are those of the stream, and the bytes read together with those
still unread are the stream.

The invariant of the loop is that it has never read far past the record: before each read the
bytes are fewer than the record needs, so after it there are fewer than `readSize` too many.
-/

namespace ReverseTunnel

namespace ClientHello

/-- The most bytes that one read brings. -/
def readSize : Nat := 2048

/-- The stream as it arrives: reads that bring some bytes each, and all its bytes together. -/
structure Cuts (stream : Bytes) (reads : List Bytes) : Prop where
  whole : reads.flatten = stream
  nonempty : ∀ chunk ∈ reads, chunk ≠ []
  bounded : ∀ chunk ∈ reads, chunk.length ≤ readSize

/-- How reading a stream may end. -/
inductive Ends (stream : Bytes) : Reading → Prop where
  | tooLarge {n : Nat} (hlength : recordLength? stream = some n) (hlarge : maxRecord < n) :
    Ends stream .tooLarge
  /-- The header is not whole, or the record is not. -/
  | ended (hshort : ∀ n, recordLength? stream = some n → n ≤ maxRecord ∧ stream.length < n) :
    Ends stream .ended
  | complete {bytes : Bytes} {unread : List Bytes} {n : Nat}
      (hlength : recordLength? stream = some n) (hsmall : n ≤ maxRecord)
      (hwhole : n ≤ bytes.length) (hover : bytes.length < n + readSize)
      (hstream : bytes ++ unread.flatten = stream) :
    Ends stream (.complete bytes unread)

/-- A record that is too large is given up. -/
theorem Ends.eq_tooLarge {stream : Bytes} {reading : Reading} (h : Ends stream reading) {n : Nat}
    (hlength : recordLength? stream = some n) (hlarge : maxRecord < n) : reading = .tooLarge := by
  cases h with
  | tooLarge _ _ => rfl
  | ended hshort => exact absurd (hshort n hlength).1 (Nat.not_le.2 hlarge)
  | complete hlength' hsmall _ _ _ =>
    cases hlength.symm.trans hlength'
    exact absurd hsmall (Nat.not_le.2 hlarge)

/-- A stream without a whole record comes to its end. -/
theorem Ends.eq_ended {stream : Bytes} {reading : Reading} (h : Ends stream reading)
    (hshort : ∀ n, recordLength? stream = some n → n ≤ maxRecord ∧ stream.length < n) :
    reading = .ended := by
  cases h with
  | tooLarge hlength hlarge => exact absurd (hshort _ hlength).1 (Nat.not_le.2 hlarge)
  | ended _ => rfl
  | complete hlength _ hwhole _ hstream =>
    have hmissing := (hshort _ hlength).2
    rw [← hstream, List.length_append] at hmissing
    omega

/-- The bytes read so far are not far past the record. -/
def NotFarPast (buffered : Bytes) : Prop :=
  ∀ n, recordLength? buffered = some n → buffered.length < n + readSize

/-- One more read, made because the record is not whole, keeps the invariant. -/
theorem NotFarPast.read {buffered chunk : Bytes}
    (hshort : ∀ n, recordLength? buffered = some n → buffered.length < n)
    (hchunk : chunk.length ≤ readSize) : NotFarPast (buffered ++ chunk) := by
  intro n hn
  rw [List.length_append]
  have hbefore : buffered.length < n := by
    cases hheader : recordLength? buffered with
    | none =>
      have hheaderless := recordLength?_eq_none_iff.1 hheader
      exact Nat.lt_of_lt_of_le hheaderless (five_le_of_recordLength? hn)
    | some m =>
      have hsame := recordLength?_append hheader chunk
      rw [hn] at hsame
      cases hsame
      exact hshort n hheader
  omega

/-- The bytes read so far settle how reading ends, or the record is not whole and the next read
is made. -/
theorem ends_of_next {stream buffered : Bytes} {reads : List Bytes}
    (hstream : buffered ++ reads.flatten = stream) (hpast : NotFarPast buffered)
    (hnext : (∀ n, recordLength? buffered = some n → n ≤ maxRecord ∧ buffered.length < n) →
      Ends stream (readRecord.next buffered reads)) :
    Ends stream (readRecord buffered reads) := by
  rw [readRecord]
  split
  · next needed hneeded =>
    have hlength : recordLength? stream = some needed := by
      rw [← hstream]
      exact recordLength?_append hneeded _
    split
    · next hlarge => exact .tooLarge hlength hlarge
    · next hsmall =>
      split
      · next hwhole =>
        exact .complete hlength (Nat.le_of_not_lt hsmall) hwhole (hpast needed hneeded) hstream
      · next hmissing =>
        apply hnext
        intro n hn
        cases hneeded.symm.trans hn
        exact ⟨Nat.le_of_not_lt hsmall, Nat.lt_of_not_le hmissing⟩
  · next hnone =>
    apply hnext
    intro n hn
    cases hnone.symm.trans hn

/-- Reading a stream of which some bytes were read ends in one of these ways. -/
theorem ends_readRecord {stream : Bytes} {reads : List Bytes} :
    ∀ buffered, buffered ++ reads.flatten = stream → NotFarPast buffered →
      (∀ chunk ∈ reads, chunk ≠ []) → (∀ chunk ∈ reads, chunk.length ≤ readSize) →
      Ends stream (readRecord buffered reads) := by
  induction reads with
  | nil =>
    intro buffered hstream hpast _ _
    apply ends_of_next hstream hpast
    intro hshort
    rw [List.flatten_nil, List.append_nil] at hstream
    subst hstream
    rw [readRecord.next]
    exact .ended hshort
  | cons chunk rest ih =>
    intro buffered hstream hpast hne hsize
    apply ends_of_next hstream hpast
    intro hshort
    have hsome : ¬ chunk.isEmpty = true := by
      rw [List.isEmpty_iff]
      exact hne chunk List.mem_cons_self
    rw [readRecord.next, if_neg hsome]
    apply ih
    · rw [List.append_assoc, ← List.flatten_cons, hstream]
    · exact NotFarPast.read (fun n hn => (hshort n hn).2) (hsize chunk List.mem_cons_self)
    · exact fun c hc => hne c (List.mem_cons_of_mem _ hc)
    · exact fun c hc => hsize c (List.mem_cons_of_mem _ hc)

/-- Reading a stream ends in one of these ways, however it is cut. -/
theorem Cuts.ends {stream : Bytes} {reads : List Bytes} (h : Cuts stream reads) :
    Ends stream (readRecord [] reads) := by
  apply ends_readRecord [] h.whole _ h.nonempty h.bounded
  intro n hn
  cases hn

/-- The first record of a stream, if it is whole and not too large. -/
def firstRecord? (stream : Bytes) : Option Bytes :=
  match recordLength? stream with
  | some n => if n ≤ maxRecord ∧ n ≤ stream.length then some (stream.take n) else none
  | none => none

/-- What is read of a stream has the server name of its first record. -/
theorem serverName_of_whole {stream bytes rest : Bytes} {n : Nat}
    (hlength : recordLength? stream = some n) (hwhole : n ≤ bytes.length)
    (hstream : bytes ++ rest = stream) :
    serverName bytes = serverName (stream.take n) := by
  have hheader : recordLength? bytes = some n := by
    cases hbytes : recordLength? bytes with
    | none =>
      have hshort := recordLength?_eq_none_iff.1 hbytes
      have hlong := five_le_of_recordLength? hlength
      omega
    | some m =>
      have hsame := recordLength?_append hbytes rest
      rw [hstream, hlength] at hsame
      exact hsame.symm
  rw [← hstream, List.take_append_of_le_length hwhole, serverName_take hheader hwhole]

end ClientHello

namespace Server

open ClientHello

/-- Where a stream goes, with the message for the client. -/
def StreamRouting.target : StreamRouting → Option (HostRoute × ControlMessage)
  | .dropped => none
  | .routed route message _ => some (route, message)

/-- Records with one server name go to one place. -/
theorem target_routeRecord_congr {record record' : Bytes} (h : serverName record = serverName record')
    (registry : Registry) (remote : String) :
    (routeRecord registry record remote).target = (routeRecord registry record' remote).target := by
  simp only [routeRecord, h]
  cases serverName record' with
  | error fault => rfl
  | ok name =>
    dsimp only
    cases registry.resolve name with
    | none => rfl
    | some route =>
      dsimp only
      split
      · rfl
      · rfl

/-- A stream that is routed opens with the bytes that were read of it. -/
theorem readRecord_of_routed {registry : Registry} {reads : List Bytes} {remote : String}
    {route : HostRoute} {message : ControlMessage} {opening : Bytes}
    (h : routeStream registry reads remote = .routed route message opening) :
    ∃ unread, readRecord [] reads = .complete opening unread := by
  unfold routeStream at h
  split at h
  · next record unread hread =>
    refine ⟨unread, ?_⟩
    rw [hread]
    unfold routeRecord at h
    repeat' split at h
    all_goals cases h
    rfl
  all_goals cases h

/-- A stream goes where its first record goes. -/
theorem target_routeStream {stream : Bytes} {reads : List Bytes}
    (h : Ends stream (readRecord [] reads)) (registry : Registry) (remote : String) :
    (routeStream registry reads remote).target =
      (firstRecord? stream).bind fun record => (routeRecord registry record remote).target := by
  unfold routeStream
  cases hread : readRecord [] reads with
  | tooLarge =>
    rw [hread] at h
    cases h with
    | tooLarge hlength hlarge =>
      have hnone : firstRecord? stream = none := by
        rw [firstRecord?, hlength]
        exact if_neg fun hfits => Nat.not_lt.2 hfits.1 hlarge
      rw [hnone]
      rfl
  | ended =>
    rw [hread] at h
    cases h with
    | ended hshort =>
      have hnone : firstRecord? stream = none := by
        rw [firstRecord?]
        split
        · next n hlength => exact if_neg fun hfits => Nat.not_lt.2 hfits.2 (hshort n hlength).2
        · rfl
      rw [hnone]
      rfl
  | complete bytes unread =>
    rw [hread] at h
    cases h with
    | complete hlength hsmall hwhole hover hstream =>
      next n =>
      have hfits : n ≤ stream.length := by
        rw [← hstream, List.length_append]
        exact Nat.le_add_right_of_le hwhole
      have hsome : firstRecord? stream = some (stream.take n) := by
        rw [firstRecord?, hlength]
        exact if_pos ⟨hsmall, hfits⟩
      rw [hsome]
      exact target_routeRecord_congr (serverName_of_whole hlength hwhole hstream) registry remote

/-- How reading a stream ends and where the stream goes, however it is cut. Reading fails
exactly if the stream ends before the header or the record is whole, or the record is too
large. Otherwise what is read holds the record and fewer than `readSize` bytes more, the bytes
read and the bytes unread are the stream, and the server name is that of the record alone.
Another cut of the stream leads to the same client with the same message, and the client is sent
the stream from its first byte. -/
theorem reading_depends_on_stream {stream : Bytes} {reads : List Bytes} (h : Cuts stream reads) :
    (readRecord [] reads = .tooLarge ↔ ∃ n, recordLength? stream = some n ∧ maxRecord < n) ∧
    (readRecord [] reads = .ended ↔ stream.length < 5 ∨
      ∃ n, recordLength? stream = some n ∧ n ≤ maxRecord ∧ stream.length < n) ∧
    (∀ bytes unread, readRecord [] reads = .complete bytes unread →
      bytes ++ unread.flatten = stream ∧
      ∃ n, recordLength? stream = some n ∧ n ≤ bytes.length ∧ bytes.length < n + readSize ∧
        serverName bytes = serverName (stream.take n)) ∧
    ∀ registry remote,
      (∀ reads', Cuts stream reads' →
        (routeStream registry reads remote).target =
          (routeStream registry reads' remote).target) ∧
      ∀ route message opening,
        routeStream registry reads remote = .routed route message opening →
        ∃ unread, readRecord [] reads = .complete opening unread ∧
          opening ++ unread.flatten = stream := by
  have hends := h.ends
  refine ⟨?_, ?_, ?_, ?_⟩
  · constructor
    · intro hread
      rw [hread] at hends
      cases hends with
      | tooLarge hlength hlarge => exact ⟨_, hlength, hlarge⟩
    · rintro ⟨n, hlength, hlarge⟩
      exact hends.eq_tooLarge hlength hlarge
  · constructor
    · intro hread
      rw [hread] at hends
      cases hends with
      | ended hshort =>
        cases hlength : recordLength? stream with
        | none => exact .inl (recordLength?_eq_none_iff.1 hlength)
        | some n => exact .inr ⟨n, rfl, hshort n hlength⟩
    · intro hshort
      apply hends.eq_ended
      intro n hn
      rcases hshort with hheader | ⟨m, hm, hsmall, hmissing⟩
      · rw [recordLength?_eq_none_iff.2 hheader] at hn
        cases hn
      · cases hm.symm.trans hn
        exact ⟨hsmall, hmissing⟩
  · intro bytes unread hread
    rw [hread] at hends
    cases hends with
    | complete hlength hsmall hwhole hover hstream =>
      exact ⟨hstream, _, hlength, hwhole, hover, serverName_of_whole hlength hwhole hstream⟩
  · intro registry remote
    constructor
    · intro reads' h'
      rw [target_routeStream hends, target_routeStream h'.ends]
    · intro route message opening hrouted
      obtain ⟨unread, hread⟩ := readRecord_of_routed hrouted
      rw [hread] at hends
      cases hends with
      | complete _ _ _ _ hstream => exact ⟨unread, hread, hstream⟩

/-- A ClientHello and the first bytes after it. -/
def helloStream : Bytes := clientHello "WEB.example" ++ [23, 3, 3, 0]

/-- The stream in pieces: the header is cut, and a read brings bytes after the record. -/
def helloPieces : List Bytes :=
  [helloStream.take 3, (helloStream.drop 3).take 40, (helloStream.drop 43).take 31,
    helloStream.drop 74]

/-- Control: the pieces are read as the whole is. -/
theorem reading_depends_on_stream_pieces :
    Cuts helloStream helloPieces ∧ Cuts helloStream [helloStream] ∧
      (routeStream streamRegistry helloPieces "203.0.113.9:5100").target =
        (routeStream streamRegistry [helloStream] "203.0.113.9:5100").target ∧
      ∃ bytes unread, readRecord [] helloPieces = .complete bytes unread ∧
        bytes ++ unread.flatten = helloStream ∧ serverName bytes = .ok "web.example" := by
  have hpieces : Cuts helloStream helloPieces :=
    ⟨by decide +kernel, by decide +kernel, by decide +kernel⟩
  have hwhole : Cuts helloStream [helloStream] :=
    ⟨by decide +kernel, by decide +kernel, by decide +kernel⟩
  have hlength : recordLength? helloStream = some 72 := by decide +kernel
  have hsize : helloStream.length = 76 := by decide +kernel
  obtain ⟨hlarge, hended, hread, hrouted⟩ := reading_depends_on_stream hpieces
  refine ⟨hpieces, hwhole, (hrouted _ _).1 _ hwhole, ?_⟩
  cases hresult : readRecord [] helloPieces with
  | tooLarge =>
    obtain ⟨n, hn, hmax⟩ := hlarge.1 hresult
    cases hlength.symm.trans hn
    exact absurd hmax (by decide)
  | ended =>
    rcases hended.1 hresult with hshort | ⟨n, hn, -, hmissing⟩
    · rw [hsize] at hshort
      exact absurd hshort (by decide)
    · cases hlength.symm.trans hn
      rw [hsize] at hmissing
      exact absurd hmissing (by decide)
  | complete bytes unread =>
    obtain ⟨hstream, n, hn, -, -, hname⟩ := hread bytes unread hresult
    cases hlength.symm.trans hn
    refine ⟨bytes, unread, rfl, hstream, ?_⟩
    rw [hname]
    decide +kernel

end Server
end ReverseTunnel
