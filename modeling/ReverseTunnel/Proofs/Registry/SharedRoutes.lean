import ReverseTunnel.Proofs.Host.Spelling
import ReverseTunnel.Proofs.Registry.Consistency

/-!
# Which hosts share a route

A lookup takes the normal form of its host. Two spelled names lead to one route in every registry
exactly if the names are the same up to ASCII case and the dots at their ends
(`shares_routes_iff`). That the names have to be the same shows in a registry with one client that
claims one host: no other name leads there (`resolve_soleClaim`).
-/

namespace ReverseTunnel.Registry

open Text

/-- What a client owns that claims one host. -/
def soleHoldings (host : String) : Holdings :=
  ⟨"a", "10.0.0.1:5000", [⟨host, "t", .http, none⟩], []⟩

/-- One client comes. -/
def soleClient : List Call := [.reserve "10.0.0.1:5000", .subscribe "a" "10.0.0.1:5000"]

/-- One client comes, and commits one host. -/
def soleClaim (host : String) : List Call := soleClient ++ [.commit (soleHoldings host)]

/-- The route of that host. -/
def soleRoute : HostRoute := ⟨"a", "10.0.0.1:5000", "t", .http, none⟩

/-- Claims that pass the check of a client that owns nothing yet are added to the index. -/
theorem commit_of_checkClaims {r : Registry} {held : Holdings}
    (hclient : r.clients.get? held.clientName = some ⟨held.connection, none⟩)
    (hcheck : checkClaims r.hosts [] held.claims = .ok ()) :
    r.commit held = .ok { r with
      clients := r.clients.insert held.clientName ⟨held.connection, some held⟩
      hosts := addClaims r.hosts held } := by
  unfold commit
  rw [hclient]
  simp [hcheck]

/-- The only route of a registry with one claim is that of its host. -/
theorem resolve_soleClaim {host : String} (h : normalHost host ≠ "") (other : String) :
    (empty.run (soleClaim host)).resolve other =
      if normalHost other = normalHost host then some soleRoute else none := by
  have hcheck : checkClaims NameMap.empty [] (soleHoldings host).claims = .ok () := by
    have hfree : (NameMap.empty : NameMap HostRoute).contains (normalHost host) = false := rfl
    simp [soleHoldings, checkClaims, h, hfree]
  have hclient : (empty.run soleClient).clients.get? "a" = some ⟨"10.0.0.1:5000", none⟩ := rfl
  have hhosts : (empty.run soleClient).hosts = .empty := rfl
  have hrun : empty.run (soleClaim host) =
      (empty.run soleClient).apply (.commit (soleHoldings host)) := by
    rw [run, soleClaim, List.foldl_append, List.foldl_cons, List.foldl_nil, run]
  rw [← hhosts] at hcheck
  rw [resolve, hrun, apply, commit_of_checkClaims hclient hcheck, after, hhosts, addClaims,
    soleHoldings, List.foldl_cons, List.foldl_nil, NameMap.get?_insert, NameMap.get?_empty]
  rfl

/-- Hosts with different normal forms do not share all their routes. -/
theorem normalHost_eq_of_resolve_eq {a b : String}
    (h : ∀ calls, (empty.run calls).resolve a = (empty.run calls).resolve b) :
    normalHost a = normalHost b := by
  by_contra hdifferent
  by_cases hempty : normalHost a = ""
  · -- One of the two is not empty, and it can be claimed without the other.
    have hother : normalHost b ≠ "" := fun hb => hdifferent (hempty.trans hb.symm)
    have hclaim := h (soleClaim b)
    rw [resolve_soleClaim hother, resolve_soleClaim hother, if_neg hdifferent, if_pos rfl] at hclaim
    cases hclaim
  · have hclaim := h (soleClaim a)
    rw [resolve_soleClaim hempty, resolve_soleClaim hempty, if_pos rfl,
      if_neg (Ne.symm hdifferent)] at hclaim
    cases hclaim

/--
A spelled name has the normal form of the name, which is the name in lower case without the dots
at its end. Two names, however they are spelled, share their route in every registry exactly if
they are the same up to case and those dots. A host in brackets ends at its bracket, and a host
with more than one colon is not cut at any.
-/
theorem shares_routes_iff :
    (∀ name, IsName name → normalHost name = lower (withoutDots name) ∧
      ∀ s : Spelling name, normalHost s.text = normalHost name) ∧
    (∀ a b, IsName a → IsName b → ∀ (s : Spelling a) (t : Spelling b),
      (∀ calls, (empty.run calls).resolve s.text = (empty.run calls).resolve t.text) ↔
        lower (withoutDots a) = lower (withoutDots b)) ∧
    (∀ name rest, ']' ∉ name.toList →
      normalHost ("[" ++ name ++ "]" ++ rest) = "[" ++ lower name ++ "]") ∧
    ∀ host, 2 ≤ host.toList.count ':' → (trim host).toList.head? ≠ some '[' →
      normalHost host = lower (withoutDots (trim host)) := by
  refine ⟨?_, ?_, fun name rest => normalHost_bracketed rest, fun host => normalHost_of_colons⟩
  · intro name hname
    refine ⟨normalHost_of_isName hname, fun s => ?_⟩
    rw [s.normalHost_text hname, normalHost_of_isName hname]
  · intro a b ha hb s t
    rw [← s.normalHost_text ha, ← t.normalHost_text hb]
    constructor
    · exact normalHost_eq_of_resolve_eq
    · intro hsame calls
      rw [resolve, resolve, hsame]

/-- A name as it may stand in a request: another case, a dot and a port after it, blanks around
it. -/
def loudSpelling : Spelling "n1.example" where
  before := [' ']
  letters := "N1.Example"
  dots := 1
  port := some ['8', '0']
  after := ['\t']
  blankBefore := rfl
  sameLetters := by decide
  digits := by rintro digits ⟨⟩; rfl
  blankAfter := rfl

theorem shares_routes_iff_loud :
    IsName "n1.example" ∧ IsName "n2.example" ∧
      loudSpelling.text = " N1.Example.:80\t" ∧
      normalHost " N1.Example.:80\t" = "n1.example" ∧
      (∃ calls, (empty.run calls).resolve " N1.Example.:80\t" ≠
        (empty.run calls).resolve "n2.example") ∧
      normalHost "[Fe80::1]:443" = "[fe80::1]" ∧ normalHost " Fe80::1." = "fe80::1" := by
  obtain ⟨hspelled, hshared, hbracketed, hcolons⟩ := shares_routes_iff
  have hname : IsName "n1.example" := ⟨by decide, by decide, by decide⟩
  have hother : IsName "n2.example" := ⟨by decide, by decide, by decide⟩
  have htext : loudSpelling.text = " N1.Example.:80\t" := by decide
  have hplain : (Spelling.plain "n2.example").text = "n2.example" := Spelling.text_plain _
  obtain ⟨hnormal, hevery⟩ := hspelled _ hname
  refine ⟨hname, hother, htext, ?_, ?_, ?_, ?_⟩
  · rw [← htext, hevery, hnormal]
    decide
  · have hdiffer : lower (withoutDots "n1.example") ≠ lower (withoutDots "n2.example") := by decide
    rw [ne_eq, ← hshared _ _ hname hother loudSpelling (.plain _), not_forall, htext, hplain]
      at hdiffer
    exact hdiffer
  · exact hbracketed "Fe80::1" ":443" (by decide)
  · rw [hcolons " Fe80::1." (by decide) (by decide)]
    decide

end ReverseTunnel.Registry
