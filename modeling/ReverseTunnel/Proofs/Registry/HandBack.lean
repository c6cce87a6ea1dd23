import Mathlib.Data.Nat.Init
import ReverseTunnel.Proofs.Registry.Calls

/-!
# What a client owned is handed back once

Listeners and ports are freed from the holdings that a removing call answers, and from
nothing else. So holdings that no call answers leak, and holdings that two calls answer
are freed twice. In every run of calls from the empty registry, the holdings of a
commit are answered by the first later call that ends their client, and by no other
(`handed_back_once`). From the commit until that call the registry resolves their hosts
to their routes; afterwards it resolves none of them until another commit claims it.

What is answered is equal to what was committed. Equal holdings can be committed again
once they were handed back, so an answer belongs to the last commit before it
(`HandsBack`).
-/

namespace ReverseTunnel.Registry

/-- The registry that the call at a place of a run finds. -/
def findsAt (calls : List Call) (i : Nat) : Registry := empty.run (calls.take i)

/-- The call at a place of a run commits these holdings and is not refused. -/
def CommitsAt (calls : List Call) (i : Nat) (h : Holdings) : Prop :=
  ∃ call, calls[i]? = some call ∧ (findsAt calls i).Commits call h

/-- The call at a place of a run answers these holdings. -/
def AnswersAt (calls : List Call) (i : Nat) (h : Holdings) : Prop :=
  ∃ call, calls[i]? = some call ∧ (findsAt calls i).answer call = some h

/-- The call at a place of a run clears the connection of these holdings, or
unsubscribes their client from it. -/
def EndsAt (calls : List Call) (i : Nat) (h : Holdings) : Prop :=
  ∃ call, calls[i]? = some call ∧ call.Ends h.clientName h.connection

/-- The first call after `i` that ends the client of some holdings is the one at `j`. -/
def FirstEnd (calls : List Call) (h : Holdings) (i j : Nat) : Prop :=
  i < j ∧ EndsAt calls j h ∧ ∀ k, i < k → k < j → ¬ EndsAt calls k h

/-- The call at `j` answers the holdings that the call at `i` committed, and that were not
committed again in between. -/
def HandsBack (calls : List Call) (h : Holdings) (i j : Nat) : Prop :=
  i < j ∧ CommitsAt calls i h ∧ AnswersAt calls j h ∧ ∀ k, i < k → k < j → ¬ CommitsAt calls k h

/-- What becomes of the holdings that the call at `i` committed. -/
structure HandedBackOnce (calls : List Call) (i : Nat) (h : Holdings) : Prop where
  /-- They are handed back by the first call that ends their client, and by no other. -/
  once : ∀ j, HandsBack calls h i j ↔ FirstEnd calls h i j
  /-- As long as no call ended their client, their hosts have their routes, in every
  spelling. -/
  routed : ∀ j, i < j → (∀ k, i < k → k < j → ¬ EndsAt calls k h) →
    ∀ claim ∈ h.claims, ∀ host, normalHost host = normalHost claim.host →
      (findsAt calls j).resolve host = some (h.route claim)
  /-- From the call that handed them back on, no host of theirs has a route until it is
  claimed by another commit. -/
  unrouted : ∀ j m, FirstEnd calls h i j → j < m →
    ∀ claim ∈ h.claims, ∀ host, normalHost host = normalHost claim.host →
      (∀ k h', j < k → k < m → CommitsAt calls k h' → normalHost host ∉ h'.claimedHosts) →
        (findsAt calls m).resolve host = none

/-! ## One call of a run -/

theorem findsAt_succ {calls : List Call} {i : Nat} {call : Call} (h : calls[i]? = some call) :
    findsAt calls (i + 1) = (findsAt calls i).apply call := by
  rw [findsAt, findsAt, List.take_add_one, h, run, List.foldl_append]
  rfl

/-- Behind the last call nothing changes. -/
theorem findsAt_succ_of_none {calls : List Call} {i : Nat} (h : calls[i]? = none) :
    findsAt calls (i + 1) = findsAt calls i := by
  rw [findsAt, findsAt, List.take_add_one, h, Option.toList_none, List.append_nil]

theorem consistent_findsAt (calls : List Call) (i : Nat) : (findsAt calls i).Consistent :=
  consistent_foldl consistent_empty _

section Places

variable {calls : List Call} {i j k : Nat} {h : Holdings}

theorem owns_of_commitsAt (hcommit : CommitsAt calls i h) :
    (findsAt calls (i + 1)).Owns h.clientName h := by
  obtain ⟨call, hcall, hcommits⟩ := hcommit
  rw [findsAt_succ hcall]
  exact (owns_apply_iff (consistent_findsAt calls i)).2 (.inl hcommits)

/-- What a client owns it owns after the next call, unless that ends it. -/
theorem owns_succ (howns : (findsAt calls i).Owns h.clientName h) (hspared : ¬ EndsAt calls i h) :
    (findsAt calls (i + 1)).Owns h.clientName h := by
  cases hcall : calls[i]? with
  | none => rwa [findsAt_succ_of_none hcall]
  | some call =>
    rw [findsAt_succ hcall]
    refine (owns_apply_iff (consistent_findsAt calls i)).2 (.inr ⟨howns, ?_⟩)
    intro hends
    exact hspared ⟨call, hcall, hends⟩

/-- What a client does not own it does not own after the next call, unless that commits it. -/
theorem not_owns_succ (howns : ¬ (findsAt calls i).Owns h.clientName h)
    (hcommit : ¬ CommitsAt calls i h) : ¬ (findsAt calls (i + 1)).Owns h.clientName h := by
  cases hcall : calls[i]? with
  | none => rwa [findsAt_succ_of_none hcall]
  | some call =>
    rw [findsAt_succ hcall, owns_apply_iff (consistent_findsAt calls i)]
    rintro (hcommits | ⟨howned, -⟩)
    · exact hcommit ⟨call, hcall, hcommits⟩
    · exact howns howned

/-- After a call that ends a client, the client owns nothing. -/
theorem not_owns_of_endsAt (hends : EndsAt calls i h) :
    ¬ (findsAt calls (i + 1)).Owns h.clientName h := by
  obtain ⟨call, hcall, hends⟩ := hends
  rw [findsAt_succ hcall, owns_apply_iff (consistent_findsAt calls i)]
  rintro (⟨rfl, -⟩ | ⟨-, hspared⟩)
  · rcases hends with hends | hends <;> cases hends
  · exact hspared hends

/-- What a client owns is not committed again. -/
theorem not_commitsAt_of_owns (howns : (findsAt calls i).Owns h.clientName h) :
    ¬ CommitsAt calls i h := by
  rintro ⟨call, -, -, r', hok⟩
  obtain ⟨key, hclient⟩ := howns
  rw [(commit_eq_ok hok).1] at hclient
  cases hclient

theorem answersAt_iff :
    AnswersAt calls i h ↔ (findsAt calls i).Owns h.clientName h ∧ EndsAt calls i h := by
  constructor
  · rintro ⟨call, hcall, hanswer⟩
    obtain ⟨howns, hends⟩ := (answer_eq_some_iff (consistent_findsAt calls i)).1 hanswer
    exact ⟨howns, call, hcall, hends⟩
  · rintro ⟨howns, call, hcall, hends⟩
    exact ⟨call, hcall, (answer_eq_some_iff (consistent_findsAt calls i)).2 ⟨howns, hends⟩⟩

/-! ## From the commit to the end -/

/-- From a commit on the client owns what was committed, until a call ends it. -/
theorem owns_until (hcommit : CommitsAt calls i h) (hlt : i < j)
    (hspared : ∀ k, i < k → k < j → ¬ EndsAt calls k h) :
    (findsAt calls j).Owns h.clientName h := by
  -- On the place `j`, from the one after the commit.
  induction j, hlt using Nat.le_induction with
  | base => exact owns_of_commitsAt hcommit
  | succ j hle ih =>
    refine owns_succ (ih fun k hik hkj => hspared k hik (by omega)) ?_
    exact hspared j hle (by omega)

/-- From a call that ends a client on the client does not own what it did, until that is
committed again. -/
theorem not_owns_until (hends : EndsAt calls j h) (hlt : j < k)
    (hidle : ∀ m, j < m → m < k → ¬ CommitsAt calls m h) :
    ¬ (findsAt calls k).Owns h.clientName h := by
  induction k, hlt using Nat.le_induction with
  | base => exact not_owns_of_endsAt hends
  | succ k hle ih =>
    refine not_owns_succ (ih fun m hjm hmk => hidle m hjm (by omega)) ?_
    exact hidle k hle (by omega)

/-- The holdings of a commit are handed back by the first call that ends their client. -/
theorem handsBack_of_firstEnd (hcommit : CommitsAt calls i h) (hfirst : FirstEnd calls h i j) :
    HandsBack calls h i j := by
  obtain ⟨hlt, hends, hspared⟩ := hfirst
  refine ⟨hlt, hcommit, answersAt_iff.2 ⟨owns_until hcommit hlt hspared, hends⟩, ?_⟩
  intro k hik hkj
  apply not_commitsAt_of_owns
  exact owns_until hcommit hik fun m him hmk => hspared m him (by omega)

/-- A call that hands holdings back is the first one that ends their client. -/
theorem firstEnd_of_handsBack (hback : HandsBack calls h i j) : FirstEnd calls h i j := by
  obtain ⟨hlt, -, hanswers, hidle⟩ := hback
  obtain ⟨howns, hends⟩ := answersAt_iff.1 hanswers
  refine ⟨hlt, hends, ?_⟩
  intro k hik hkj hearlier
  -- After an earlier end the client would own nothing at `j`, where the answer is found.
  refine not_owns_until hearlier hkj ?_ howns
  intro m hkm hmj
  exact hidle m (by omega) hmj

/-! ## Their hosts -/

/-- The hosts of what a client owns have its routes, in every spelling. -/
theorem Consistent.resolve_of_owns {r : Registry} (hr : r.Consistent)
    (howns : r.Owns h.clientName h) {claim : HostClaim} (hclaim : claim ∈ h.claims) {host : String}
    (hhost : normalHost host = normalHost claim.host) : r.resolve host = some (h.route claim) := by
  obtain ⟨place, hplace⟩ := List.mem_iff_getElem?.1 hclaim
  rw [resolve, hr.indexed]
  exact ⟨h.clientName, place, h, howns, claim, hplace, hhost.symm, rfl⟩

/-- A route that is there after a call was there before, or the call commits a claim of
its host. -/
theorem resolve_apply {r : Registry} (hr : r.Consistent) (call : Call) {host : String}
    {route : HostRoute} (hroute : (r.apply call).resolve host = some route) :
    r.resolve host = some route ∨ ∃ held, r.Commits call held ∧
      normalHost host ∈ held.claimedHosts := by
  have heffect := effect_apply hr call
  generalize r.apply call = r', r.answer call = answered at heffect hroute
  cases heffect with
  | subscribe hok =>
    obtain ⟨-, -, rfl⟩ := subscribe_eq_ok hok
    exact .inl hroute
  | @commit held _ hok =>
    have hcommits : r.Commits (.commit held) held := ⟨rfl, _, hok⟩
    obtain ⟨-, -, hnodup, rfl⟩ := commit_eq_ok hok
    rcases (get?_addClaims hnodup _ _).1 hroute with ⟨place, hnew⟩ | ⟨-, hold⟩
    · exact .inr ⟨held, hcommits, mem_claimedHosts_iff.2 ⟨place, route, hnew⟩⟩
    · exact .inl hold
  | remove hclient _ =>
    obtain ⟨name, place, -, hclaims⟩ := (get?_hosts_without hr hclient _ _).1 hroute
    exact .inl ((hr.indexed _ _).2 ⟨name, place, hclaims⟩)
  | _ => exact .inl hroute

/-- A call that ends a client leaves none of its hosts with a route. -/
theorem resolve_apply_of_ends {r : Registry} (hr : r.Consistent) (howns : r.Owns h.clientName h)
    {call : Call} (hends : call.Ends h.clientName h.connection) {claim : HostClaim}
    (hclaim : claim ∈ h.claims) {host : String} (hhost : normalHost host = normalHost claim.host) :
    (r.apply call).resolve host = none := by
  have hclient := (hr.get?_of_owns howns).2
  rw [(removes_of_ends hr hclient hends).2, Option.eq_none_iff_forall_ne_some]
  intro route hroute
  obtain ⟨name, place, hne, hclaims⟩ := (get?_hosts_without hr hclient _ _).1 hroute
  -- Who claims the host besides the client that goes would have its route now.
  have hindexed := (hr.indexed _ _).2 ⟨name, place, hclaims⟩
  have howner := hr.resolve_of_owns howns hclaim hhost
  rw [resolve, hindexed] at howner
  obtain rfl := Option.some.inj howner
  obtain ⟨place', hplace⟩ := List.mem_iff_getElem?.1 hclaim
  exact hne (hr.single _ _ _ _ _ _ _ hclaims ⟨h, howns, claim, hplace, hhost.symm, rfl⟩).1

/-- A host without a route has none after the next call, unless that commits a claim of it. -/
theorem resolve_succ_eq_none {host : String} (hnone : (findsAt calls i).resolve host = none)
    (hidle : ∀ held, CommitsAt calls i held → normalHost host ∉ held.claimedHosts) :
    (findsAt calls (i + 1)).resolve host = none := by
  cases hcall : calls[i]? with
  | none => rwa [findsAt_succ_of_none hcall]
  | some call =>
    rw [findsAt_succ hcall, Option.eq_none_iff_forall_ne_some]
    intro route hroute
    rcases resolve_apply (consistent_findsAt calls i) call hroute with hold | ⟨held, hcommits, hmem⟩
    · rw [hnone] at hold
      cases hold
    · exact hidle held ⟨call, hcall, hcommits⟩ hmem

end Places

/-- The holdings of a commit are handed back by the first later call that ends their
client, and by no other; until then their hosts have their routes, and after it none
until they are claimed again. -/
theorem handed_back_once (calls : List Call) (i : Nat) (h : Holdings)
    (hcommit : CommitsAt calls i h) : HandedBackOnce calls i h where
  once j := ⟨firstEnd_of_handsBack, handsBack_of_firstEnd hcommit⟩
  routed j hlt hspared claim hclaim host hhost :=
    (consistent_findsAt calls j).resolve_of_owns (owns_until hcommit hlt hspared) hclaim hhost
  unrouted j m hfirst hlt claim hclaim host hhost hidle := by
    obtain ⟨hij, ⟨call, hcall, hends⟩, hspared⟩ := hfirst
    -- On the place `m`, from the one after the end.
    induction m, hlt using Nat.le_induction with
    | base =>
      rw [findsAt_succ hcall]
      exact resolve_apply_of_ends (consistent_findsAt calls j) (owns_until hcommit hij hspared)
        hends hclaim hhost
    | succ m hle ih =>
      refine resolve_succ_eq_none (ih fun k h' hjk hkm => hidle k h' hjk (by omega)) ?_
      intro held hcommits
      exact hidle m held hle (by omega) hcommits

/-- What the client `a` owns: two hosts and a listener. -/
def holdingsOfA : Holdings :=
  ⟨"a", "10.0.0.1:5000", [⟨"A.example:80", "web", .http, none⟩, ⟨"b.example.", "api", .http, none⟩],
    [⟨"ssh", "0.0.0.0:7000", some 7000, 0⟩]⟩

/-- A run in which another client is after a host of `a`, and others name the client or
the connection of `a` before it goes. Its key and its host are used again afterwards. -/
def contestedRun : List Call :=
  [.reserve "10.0.0.1:5000", .subscribe "a" "10.0.0.1:5000", .commit holdingsOfA,
    .reserve "10.0.0.2:5000", .subscribe "b" "10.0.0.2:5000",
    .commit ⟨"b", "10.0.0.2:5000", [⟨"B.example", "web", .http, none⟩], []⟩,
    .unsubscribe "10.0.0.2:5000" "a", .clear "10.0.0.2:5000", .clear "10.0.0.1:5000",
    .reserve "10.0.0.1:5000", .subscribe "c" "10.0.0.1:5000",
    .commit ⟨"c", "10.0.0.1:5000", [⟨"b.example", "web", .http, none⟩], []⟩,
    .clear "10.0.0.1:5000"]

/-- Control: the first clearing of the connection of `a` hands its holdings back, and
the second one, when another client has it, does not. -/
theorem handed_back_once_contested :
    CommitsAt contestedRun 2 holdingsOfA ∧ HandsBack contestedRun holdingsOfA 2 8 ∧
      ¬ HandsBack contestedRun holdingsOfA 2 12 := by
  have hok : ((findsAt contestedRun 2).commit holdingsOfA).toOption.isSome = true := by
    decide +kernel
  have hcommit : CommitsAt contestedRun 2 holdingsOfA := by
    cases hresult : (findsAt contestedRun 2).commit holdingsOfA with
    | error e => simp [hresult, Except.toOption] at hok
    | ok r' => exact ⟨_, rfl, rfl, r', hresult⟩
  have hends : EndsAt contestedRun 8 holdingsOfA := ⟨_, rfl, .inl rfl⟩
  have hspared : ∀ k, 2 < k → k < 8 → ¬ EndsAt contestedRun k holdingsOfA := by
    rintro k h2 h8 ⟨call, hcall, hends⟩
    obtain rfl | rfl | rfl | rfl | rfl : k = 3 ∨ k = 4 ∨ k = 5 ∨ k = 6 ∨ k = 7 := by omega
    all_goals
      obtain rfl := Option.some.inj hcall
      simp [Call.Ends, holdingsOfA] at hends
  have honce := (handed_back_once contestedRun 2 holdingsOfA hcommit).once
  refine ⟨hcommit, (honce 8).2 ⟨by omega, hends, hspared⟩, ?_⟩
  intro hagain
  exact ((honce 12).1 hagain).2.2 8 (by omega) (by omega) hends

end ReverseTunnel.Registry
