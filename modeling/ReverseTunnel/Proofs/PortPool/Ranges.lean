import ReverseTunnel.Proofs.Numeral
import ReverseTunnel.Proofs.PortPool.LeaseMap

/-!
# Ranges of ports

A pool is made from a text. The texts that are ranges are described by their parts (`IsRange`),
and a pool is made from these and from no others (`parse_eq_ok_iff`); whatever else is wrong with
a text, it is the text itself that is reported (`eq_of_parse_eq_error`).

A new pool has all of its ports free. A call that frees nothing takes the first free port, if it
asks for one, and otherwise leaves the pool as it is. So as long as nothing is freed the ports go
out in their order, and when all are gone every further call for one is refused
(`leaseAnswers_run`). That a range goes out as a whole (`range_handed_out`) puts the two together.
-/

namespace ReverseTunnel

/-- The text is a range of ports from `first` up to, but not including, `last`: two numerals with
a colon between them, and blanks around the whole and around either numeral. -/
structure IsRange (range : String) (first last : Nat) : Prop where
  parts : ∃ before after : String,
    (Text.trim range).toList = before.toList ++ ':' :: after.toList ∧ ':' ∉ before.toList ∧
      Text.IsNumeral (Text.trim before) first ∧ Text.IsNumeral (Text.trim after) last
  lt : first < last
  le : last ≤ 65535

/-- The answer to the call for a port that follows `k` others, when ports go out in order. -/
def answerInOrder (first last k : Nat) : PoolAnswer Nat :=
  if k < last - first then .ok (some (first + k)) else .error .exhausted

/-- The answers to the calls for a port, by its number. -/
def leaseAnswers (calls : List PoolCall) (answers : List (PoolAnswer UInt16)) :
    List (PoolAnswer Nat) :=
  ((calls.zip answers).filter fun e => e.1.leases).map fun e => e.2.numbered

namespace PortPool

variable {p : PortPool} {range : String}

/-! ## The texts that are ranges -/

theorem unsigned?_eq_some_toNat_iff {s : String} {port : UInt16} :
    ((Text.unsigned? 65535 s).map Nat.toUInt16 = some port) ↔ Text.IsNumeral s port.toNat := by
  rw [Option.map_eq_some_iff]
  constructor
  · rintro ⟨n, hn, rfl⟩
    obtain ⟨hnumeral, hle⟩ := Text.unsigned?_eq_some_iff_isNumeral.1 hn
    have hfits : n.toUInt16.toNat = n := UInt16.toNat_ofNat_of_lt' (Nat.lt_succ_of_le hle)
    rwa [hfits]
  · intro h
    have hle : port.toNat ≤ 65535 := Nat.le_of_lt_succ port.toNat_lt
    exact ⟨port.toNat, Text.unsigned?_eq_some_iff_isNumeral.2 ⟨h, hle⟩, UInt16.ofNat_toNat⟩

theorem parseBounds?_eq_some_iff {first last : UInt16} :
    parseBounds? range = some (first, last) ↔
      ∃ before after : String,
        (Text.trim range).toList = before.toList ++ ':' :: after.toList ∧ ':' ∉ before.toList ∧
          Text.IsNumeral (Text.trim before) first.toNat ∧
          Text.IsNumeral (Text.trim after) last.toNat := by
  simp only [← unsigned?_eq_some_toNat_iff, parseBounds?, Option.bind_eq_bind,
    Option.bind_eq_some_iff, Option.map_eq_some_iff, Option.pure_def, Option.some.injEq,
    Prod.mk.injEq, Prod.exists, Text.splitFirst_eq_some_iff]
  constructor
  · rintro ⟨before, after, ⟨hparts, hcolon⟩, n, hn, m, hm, rfl, rfl⟩
    exact ⟨before, after, hparts, hcolon, ⟨n, hn, rfl⟩, ⟨m, hm, rfl⟩⟩
  · rintro ⟨before, after, hparts, hcolon, ⟨n, hn, rfl⟩, ⟨m, hm, rfl⟩⟩
    exact ⟨before, after, ⟨hparts, hcolon⟩, n, hn, m, hm, rfl, rfl⟩

/-- A pool is made from a range, and then it is free. -/
theorem parse_eq_ok_iff :
    parse range = .ok p ↔
      ∃ first last, IsRange range first last ∧ p.first.toNat = first ∧
        p.slots = List.replicate (last - first) none := by
  constructor
  · intro h
    unfold parse at h
    split at h
    · cases h
    · next first last hbounds =>
      by_cases hlt : first < last
      · obtain ⟨p₀, hp₀, hfirst, hslots⟩ := ofBounds_of_lt hlt
        rw [hp₀] at h
        cases h
        refine ⟨first.toNat, last.toNat, ⟨parseBounds?_eq_some_iff.1 hbounds, hlt, ?_⟩, ?_, hslots⟩
        · exact Nat.le_of_lt_succ last.toNat_lt
        · rw [hfirst]
      · rw [ofBounds, dif_neg hlt] at h
        cases h
  · rintro ⟨first, last, hrange, rfl, hslots⟩
    -- Both bounds fit into 16 bits, and the pool is the one over them.
    have hlast : (last.toUInt16).toNat = last :=
      UInt16.toNat_ofNat_of_lt' (Nat.lt_succ_of_le hrange.le)
    have hbounds : parseBounds? range = some (p.first, last.toUInt16) := by
      rw [parseBounds?_eq_some_iff, hlast]
      exact hrange.parts
    have hlt : p.first < last.toUInt16 := by
      rw [UInt16.lt_iff_toNat_lt, hlast]
      exact hrange.lt
    obtain ⟨p₀, hp₀, hfirst, hslots₀⟩ := ofBounds_of_lt hlt
    have hsame : p₀ = p := by
      rw [hlast, ← hslots] at hslots₀
      cases p₀
      cases p
      cases hfirst
      cases hslots₀
      rfl
    rw [parse, hbounds]
    change (ofBounds p.first last.toUInt16).mapError _ = _
    rw [hp₀, hsame]
    rfl

theorem exists_parse {first last : Nat} (hrange : IsRange range first last) :
    ∃ p, parse range = .ok p ∧ p.first.toNat = first ∧
      p.slots = List.replicate (last - first) none := by
  have hlt := hrange.lt
  have hle := hrange.le
  have hfirst : first.toUInt16.toNat = first :=
    UInt16.toNat_ofNat_of_lt' (Nat.lt_trans hlt (Nat.lt_succ_of_le hle))
  refine ⟨⟨first.toUInt16, List.replicate (last - first) none, ?_⟩, ?_, hfirst, rfl⟩
  · rw [hfirst, List.length_replicate]
    omega
  · exact parse_eq_ok_iff.2 ⟨first, last, hrange, hfirst, rfl⟩

/-- What is reported is the text as it was given. -/
theorem eq_of_parse_eq_error {e : PoolError} (h : parse range = .error e) :
    e = .invalidRange range := by
  unfold parse at h
  split at h
  · cases h
    rfl
  · next first last hbounds =>
    cases hpool : ofBounds first last with
    | ok p₀ =>
      rw [hpool] at h
      cases h
    | error e' =>
      rw [hpool] at h
      cases h
      rfl

/-! ## Calls that free nothing -/

/-- The answer to the call for a port that follows `k` others, when the ports in the list are
free. -/
def answerFrom (free : List UInt16) (k : Nat) : PoolAnswer Nat :=
  match free[k]? with
  | some port => .ok (some port.toNat)
  | none => .error .exhausted

theorem answerFrom_tail (free : List UInt16) (k : Nat) :
    answerFrom free.tail k = answerFrom free (k + 1) := by
  rw [answerFrom, answerFrom, List.getElem?_tail]

/-- A call for a port is answered with the first free one, and takes it. -/
theorem call_acquire (p : PortPool) (owner tunnel : String) :
    (p.call (.acquire owner tunnel)).1.numbered = answerFrom p.freePorts 0 ∧
      (p.call (.acquire owner tunnel)).2.freePorts = p.freePorts.tail := by
  cases hanswer : p.acquire owner tunnel with
  | ok result =>
    obtain ⟨port, p'⟩ := result
    obtain ⟨hfree, -⟩ := acquire_eq_ok hanswer
    rw [call, hanswer, hfree]
    exact ⟨rfl, rfl⟩
  | error e =>
    rw [acquire_eq] at hanswer
    cases hfree : p.freePorts with
    | nil =>
      rw [hfree] at hanswer
      cases hanswer
      rw [call, acquire_eq, hfree]
      exact ⟨rfl, hfree⟩
    | cons port rest =>
      rw [hfree] at hanswer
      cases hanswer

/-- A call that neither asks for a port nor frees one changes nothing. -/
theorem call_snd_of_not_leases {c : PoolCall} (hleases : c.leases = false)
    (hkept : (c.frees && (p.call c).1.isOk) = false) : (p.call c).2 = p := by
  rw [call_eq] at hkept ⊢
  cases hfind : p.slots.findIdx? c.looksFor with
  | none => rfl
  | some i =>
    rw [hfind] at hkept
    cases c with
    | acquire owner tunnel => cases hleases
    | release owner => cases hkept
    | releaseTunnel owner tunnel => cases hkept
    | portOf owner => rfl

theorem leaseAnswers_cons_of_leases {c : PoolCall} (h : c.leases = true) (calls : List PoolCall)
    (answer : PoolAnswer UInt16) (answers : List (PoolAnswer UInt16)) :
    leaseAnswers (c :: calls) (answer :: answers) =
      answer.numbered :: leaseAnswers calls answers := by
  rw [leaseAnswers, List.zip_cons_cons, List.filter_cons_of_pos (by exact h)]
  rfl

theorem leaseAnswers_cons_of_not_leases {c : PoolCall} (h : c.leases = false)
    (calls : List PoolCall) (answer : PoolAnswer UInt16) (answers : List (PoolAnswer UInt16)) :
    leaseAnswers (c :: calls) (answer :: answers) = leaseAnswers calls answers := by
  rw [leaseAnswers, List.zip_cons_cons,
    List.filter_cons_of_neg (by rw [h]; exact Bool.false_ne_true)]
  rfl

/-- As long as nothing is freed, the free ports go out in their order. -/
theorem leaseAnswers_run {calls : List PoolCall} :
    ∀ {p : PortPool}, successes PoolCall.frees (calls.zip (p.run calls).1) = 0 →
      leaseAnswers calls (p.run calls).1 =
        (List.range (calls.countP PoolCall.leases)).map (answerFrom p.freePorts) := by
  -- On the calls: what one of them takes is missing from the front of the free ports.
  induction calls with
  | nil => exact fun _ => rfl
  | cons c calls ih =>
    intro p hkept
    rw [run, List.zip_cons_cons, successes, List.countP_cons, Nat.add_eq_zero_iff] at hkept
    have hrest := ih hkept.1
    have hfirst : (c.frees && (p.call c).1.isOk) = false := by
      apply Bool.eq_false_iff.2
      intro hfrees
      exact absurd hkept.2 (by rw [if_pos hfrees]; exact Nat.one_ne_zero)
    cases hleases : c.leases with
    | false =>
      rw [run, leaseAnswers_cons_of_not_leases hleases, hrest,
        call_snd_of_not_leases hleases hfirst,
        List.countP_cons_of_neg (by rw [hleases]; exact Bool.false_ne_true)]
    | true =>
      obtain ⟨owner, tunnel, rfl⟩ : ∃ owner tunnel, c = .acquire owner tunnel := by
        cases c with
        | acquire owner tunnel => exact ⟨owner, tunnel, rfl⟩
        | release owner => cases hleases
        | releaseTunnel owner tunnel => cases hleases
        | portOf owner => cases hleases
      obtain ⟨hanswer, hfree⟩ := call_acquire p owner tunnel
      rw [run, leaseAnswers_cons_of_leases hleases, hrest, hanswer, hfree,
        List.countP_cons_of_pos (by exact hleases), List.range_succ_eq_map, List.map_cons,
        List.map_map]
      congr 1
      exact List.map_congr_left fun k _ => answerFrom_tail p.freePorts k

/-! ## The whole range -/

/-- All ports of a new pool are free. -/
theorem freePorts_of_replicate {n : Nat} (h : p.slots = List.replicate n none) :
    p.freePorts = p.ports := by
  rw [freePorts, List.filter_eq_self]
  intro port _
  rw [lease?, h, List.getElem?_replicate]
  split
  · split <;> rfl
  · rfl

theorem answerFrom_ports (k : Nat) :
    answerFrom p.ports k = answerInOrder p.first.toNat (p.first.toNat + p.capacity) k := by
  rw [answerFrom, answerInOrder, Nat.add_sub_cancel_left, ports, List.getElem?_map, capacity]
  by_cases hk : k < p.slots.length
  · rw [if_pos hk, List.getElem?_range hk, ← toNat_portAt p hk]
    rfl
  · rw [if_neg hk, List.getElem?_eq_none (by rw [List.length_range]; exact Nat.le_of_not_lt hk)]
    rfl

/-- A text makes a pool exactly if it is a range; otherwise the text is reported as it was given.
The pool of a range has as many ports as the range. Whatever calls are made of it, as long as no
release succeeds, the ports are leased one after the other from the first to the last, and then
every further call for one is refused. -/
theorem range_handed_out (range : String) :
    ((∃ p, parse range = .ok p) ↔ ∃ first last, IsRange range first last) ∧
    (∀ e, parse range = .error e → e = .invalidRange range) ∧
    ∀ first last, IsRange range first last → ∃ p, parse range = .ok p ∧
      p.capacity = last - first ∧
      ∀ calls, successes PoolCall.frees (calls.zip (p.run calls).1) = 0 →
        leaseAnswers calls (p.run calls).1 =
          (List.range (calls.countP PoolCall.leases)).map (answerInOrder first last) := by
  refine ⟨⟨?_, ?_⟩, fun e he => eq_of_parse_eq_error he, ?_⟩
  · rintro ⟨p, hp⟩
    obtain ⟨first, last, hrange, -⟩ := parse_eq_ok_iff.1 hp
    exact ⟨first, last, hrange⟩
  · rintro ⟨first, last, hrange⟩
    obtain ⟨p, hp, -⟩ := exists_parse hrange
    exact ⟨p, hp⟩
  · intro first last hrange
    obtain ⟨p, hp, rfl, hslots⟩ := exists_parse hrange
    have hcapacity : p.capacity = last - p.first.toNat := by
      rw [capacity, hslots, List.length_replicate]
    have hlast : p.first.toNat + p.capacity = last := by
      have hlt := hrange.lt
      omega
    refine ⟨p, hp, hcapacity, ?_⟩
    intro calls hkept
    rw [leaseAnswers_run hkept, freePorts_of_replicate hslots]
    exact List.map_congr_left fun k _ => by rw [answerFrom_ports, hlast]

/-- Control: two ports in a text with blanks, a sign and a leading zero, and calls that look up
and release in vain between those for a port. -/
theorem range_handed_out_padded :
    IsRange " +07000 :\t7002 " 7000 7002 ∧ ∃ p, parse " +07000 :\t7002 " = .ok p ∧
      leaseAnswers
          [.acquire "a" "t", .release "b", .acquire "a" "t", .portOf "a", .acquire "b" "t"]
          (p.run [.acquire "a" "t", .release "b", .acquire "a" "t", .portOf "a",
            .acquire "b" "t"]).1 =
        [.ok (some 7000), .ok (some 7001), .error .exhausted] := by
  have hrange : IsRange " +07000 :\t7002 " 7000 7002 := by
    refine ⟨⟨"+07000 ", "\t7002", by decide, by decide, ?_, ?_⟩, by decide, by decide⟩
    · exact ⟨['+'], [0, 7, 0, 0, 0], Or.inr rfl, by decide, by decide, by decide⟩
    · exact ⟨[], [7, 0, 0, 2], Or.inl rfl, by decide, by decide, by decide⟩
  obtain ⟨p, hp, -, hanswers⟩ := (range_handed_out " +07000 :\t7002 ").2.2 7000 7002 hrange
  obtain rfl : ⟨7000, [none, none], by decide⟩ = p := by
    have hmade : parse " +07000 :\t7002 " = .ok ⟨7000, [none, none], by decide⟩ := by decide +kernel
    exact Except.ok.inj (hmade.symm.trans hp)
  exact ⟨hrange, _, hp, hanswers _ (by decide +kernel)⟩

end PortPool

end ReverseTunnel
