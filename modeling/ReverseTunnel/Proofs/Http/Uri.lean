import ReverseTunnel.Http.Uri
import ReverseTunnel.Proofs.ControlMessage

/-!
# What a parsed URI holds

The check of an authority lets only printable ASCII through, character by character
(`isPrintable_of_step`). So the authority of every URI that was parsed can stand in a field value
and be read from it (`isReadable_authority`).
-/

namespace ReverseTunnel.Http.Uri

/-- A letter or digit of ASCII lies between the digit zero and the letter z. -/
theorem bounds_of_isAlphanum {c : Char} (h : c.isAlphanum = true) :
    0x20 ≤ c.toNat ∧ c.toNat < 0x7F := by
  rw [Char.isAlphanum, Bool.or_eq_true] at h
  rcases h with hletter | hdigit
  · rcases Bool.or_eq_true_iff.1 hletter with hupper | hlower
    · obtain ⟨hlow, hhigh⟩ := of_decide_eq_true hupper
      exact ⟨Nat.le_trans (by decide) hlow, Nat.lt_of_le_of_lt hhigh (by decide)⟩
    · obtain ⟨hlow, hhigh⟩ := Bool.and_eq_true_iff.1 hlower
      exact ⟨Nat.le_trans (by decide) (of_decide_eq_true hlow),
        Nat.lt_of_le_of_lt (of_decide_eq_true hhigh) (by decide)⟩
  · obtain ⟨hlow, hhigh⟩ := Char.isDigit_iff_toNat.1 hdigit
    exact ⟨Nat.le_trans (by decide) hlow, Nat.lt_of_le_of_lt hhigh (by decide)⟩

theorem bounds_of_isAuthorityChar {c : Char} (h : isAuthorityChar c = true) :
    0x20 ≤ c.toNat ∧ c.toNat < 0x7F := by
  rw [isAuthorityChar, Bool.or_eq_true] at h
  rcases h with halnum | hmark
  · exact bounds_of_isAlphanum halnum
  · have hmarks : ("!$&'()*+,-.;=_~".toList.all fun c =>
        decide (0x20 ≤ c.toNat ∧ c.toNat < 0x7F)) = true := by decide
    exact of_decide_eq_true (List.all_eq_true.1 hmarks c (List.contains_iff_mem.1 hmark))

/-- The check of an authority passes over printable ASCII only. -/
theorem isPrintable_of_step {s s' : AuthorityScan} {c : Char} (h : s.step c = some s') :
    0x20 ≤ c.toNat ∧ c.toNat < 0x7F := by
  rw [AuthorityScan.step] at h
  split at h
  · next hcolon =>
    subst hcolon
    decide
  split at h
  · next hopen =>
    subst hopen
    decide
  split at h
  · next hclose =>
    subst hclose
    decide
  split at h
  · next hat =>
    subst hat
    decide
  split at h
  · next hpercent =>
    subst hpercent
    decide
  split at h
  · next hchar => exact bounds_of_isAuthorityChar hchar
  · cases h

theorem isPrintable_of_foldlM {cs : List Char} :
    ∀ {s s' : AuthorityScan}, cs.foldlM AuthorityScan.step s = some s' →
      ∀ c ∈ cs, 0x20 ≤ c.toNat ∧ c.toNat < 0x7F := by
  induction cs with
  | nil => exact fun _ c hc => nomatch hc
  | cons first rest ih =>
    intro s s' h
    rw [List.foldlM_cons] at h
    obtain ⟨next, hstep, hrest⟩ := Option.bind_eq_some_iff.1 h
    intro c hc
    rcases List.mem_cons.1 hc with rfl | hc
    · exact isPrintable_of_step hstep
    · exact ih hrest c hc

theorem isReadable_of_isAuthority {authority : String} (h : isAuthority authority.toList = true) :
    IsReadable authority := by
  rw [isReadable_iff]
  unfold isAuthority at h
  split at h
  · cases h
  · next s hscan =>
    intro c hc
    exact .inl (isPrintable_of_foldlM hscan c hc)

/-- The authority of a parsed URI can be read from a field value. -/
theorem isReadable_authority {s : String} {uri : Uri} (h : parse? s = some uri)
    {authority : String} (hauthority : uri.authority = some authority) : IsReadable authority := by
  unfold parse? at h
  split at h
  · cases h
  split at h
  · cases h
    cases hauthority
  split at h
  · obtain ⟨target, -, rfl⟩ := Option.map_eq_some_iff.1 h
    cases hauthority
  split at h
  · cases h
  · -- A bare authority is the whole text.
    unfold authority? at h
    split at h
    · next hwhole =>
      cases h
      cases hauthority
      exact isReadable_of_isAuthority hwhole.2.1
    · cases h
  · next scheme rest _ =>
    unfold absolute? at h
    simp only [Option.pure_def, Option.bind_eq_bind] at h
    split at h
    · cases h
    · next hchecked =>
      obtain ⟨target, -, huri⟩ := Option.bind_eq_some_iff.1 h
      cases huri
      cases hauthority
      apply isReadable_of_isAuthority
      rw [String.toList_ofList]
      have hboth := by simpa using hchecked
      exact hboth.2

end ReverseTunnel.Http.Uri
