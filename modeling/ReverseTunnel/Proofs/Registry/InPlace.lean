import ReverseTunnel.Proofs.Registry.Calls

/-!
# The calls of the registry, store by store

The calls of `Registry` answer a registry or a refusal, so a refused one has nothing to
change. `Registry.InPlace` has the same calls as programs that store into one registry as
they go, and that can be refused between two stores. A registration takes the pending key
while it tests for it, and a commit tests every claim in one pass and stores the routes in
a second one.

Whether such a call is refused or not, it leaves the registry of `apply` (`outcome_perform`).
So what is shown of the one form holds of the other, and that a refused call leaves
everything as it was is a fact about the order of tests and stores.
-/

namespace ReverseTunnel.Registry

/-- A program that stores into the registry, and may be refused on the way. -/
abbrev InPlace := ExceptT RegistryError (StateM Registry)

/-- What a call comes to: what it hands back, or why it is refused. -/
def result (r : Registry) : Call → Except RegistryError (Option Holdings)
  | .reserve key => (r.reserve key).map fun _ => none
  | .subscribe name key => (r.subscribe name key).map fun _ => none
  | .commit h => (r.commit h).map fun _ => none
  | .unsubscribe key name => .ok (r.unsubscribe key name).1
  | .clear key => .ok (r.clear key).1

namespace InPlace

/-- What a program answers, or why it is refused, and the registry that it leaves. -/
def outcome {α : Type} (program : InPlace α) (r : Registry) : Except RegistryError α × Registry :=
  program.run.run r

def reserve (key : String) : InPlace Unit := do
  let r ← get
  if r.pending.contains key || r.connections.contains key then throw (.alreadyPending key)
  modify fun r => { r with pending := r.pending.insert key () }

/-- Removes a key from the pending ones, and answers whether it was there. -/
def takePending (key : String) : InPlace Bool :=
  modifyGet fun r => (r.pending.contains key, { r with pending := r.pending.erase key })

def subscribe (name key : String) : InPlace Unit := do
  if (← get).clients.contains name then throw (.alreadySubscribed name)
  if !(← takePending key) then throw (.notPending key)
  modify fun r => { r with clients := r.clients.insert name ⟨key, none⟩ }
  modify fun r => { r with connections := r.connections.insert key name }

/-- Tests the claims one after the other, against the index and the hosts claimed so far. -/
def testClaims (claimed : List String) : List HostClaim → InPlace Unit
  | [] => pure ()
  | claim :: rest => do
    let host := normalHost claim.host
    if host = "" then throw (.emptyHost claim.tunnel)
    if (← get).hosts.contains host || claimed.contains host then throw (.occupied host)
    testClaims (host :: claimed) rest

/-- Stores the routes of some claims one after the other. -/
def storeClaims (h : Holdings) : List HostClaim → InPlace Unit
  | [] => pure ()
  | claim :: rest => do
    modify fun r => { r with hosts := r.hosts.insert (normalHost claim.host) (h.route claim) }
    storeClaims h rest

/-- Stores what a client owns with its entry. -/
def storeHoldings (h : Holdings) : InPlace Unit :=
  modify fun r =>
    match r.clients.get? h.clientName with
    | none => r
    | some s => { r with clients := r.clients.insert h.clientName { s with holdings := some h } }

def commit (h : Holdings) : InPlace Unit := do
  match (← get).clients.get? h.clientName with
  | none => throw (.notSubscribed h.clientName)
  | some s =>
    if s.connection ≠ h.connection then throw (.notSubscribed h.clientName)
    if s.holdings.isSome then throw (.alreadyActive h.clientName)
  testClaims [] h.claims
  storeClaims h h.claims
  storeHoldings h

/-- Performs a call, and answers what it hands back. -/
def perform : Call → InPlace (Option Holdings)
  | .reserve key => do reserve key; pure none
  | .subscribe name key => do subscribe name key; pure none
  | .commit h => do commit h; pure none
  | .unsubscribe key name => modifyGet fun r => r.unsubscribe key name
  | .clear key => modifyGet fun r => r.clear key

/-! ## The registry that is left -/

section Outcome

variable {α β : Type} (r : Registry)

theorem outcome_bind (program : InPlace α) (next : α → InPlace β) :
    (program >>= next).outcome r =
      match program.outcome r with
      | (.ok a, r') => (next a).outcome r'
      | (.error e, r') => (.error e, r') := by
  change ExceptT.bindCont next (program.outcome r).1 (program.outcome r).2 = _
  rcases program.outcome r with ⟨_ | _, _⟩ <;> rfl

theorem outcome_throw (e : RegistryError) : (throw e : InPlace α).outcome r = (.error e, r) := rfl

theorem outcome_get : (get : InPlace Registry).outcome r = (.ok r, r) := rfl

theorem outcome_modify (f : Registry → Registry) :
    (modify f : InPlace PUnit).outcome r = (.ok ⟨⟩, f r) := rfl

theorem outcome_modifyGet (f : Registry → α × Registry) :
    (modifyGet f : InPlace α).outcome r = (.ok (f r).1, (f r).2) := rfl

end Outcome

/-- How a call ends that comes to this registry or refusal. -/
def settle (r : Registry) : Except RegistryError Registry → Except RegistryError Unit × Registry
  | .ok r' => (.ok (), r')
  | .error e => (.error e, r)

theorem outcome_reserve (r : Registry) (key : String) :
    (reserve key).outcome r = settle r (r.reserve key) := by
  simp only [reserve, outcome_bind, outcome_get, Registry.reserve]
  split <;> rfl

theorem outcome_subscribe (r : Registry) (name key : String) :
    (subscribe name key).outcome r = settle r (r.subscribe name key) := by
  simp only [subscribe, outcome_bind, outcome_get, Registry.subscribe]
  by_cases hname : r.clients.contains name = true
  · simp [hname, outcome_throw, settle]
  · cases hpending : r.pending.contains key with
    | true =>
      simp [hname, hpending, takePending, outcome_bind, outcome_modifyGet, outcome_modify, settle]
    | false =>
      have herase : r.pending.erase key = r.pending :=
        NameMap.erase_eq_self (NameMap.contains_eq_false_iff.1 hpending)
      simp [hname, hpending, takePending, outcome_bind, outcome_modifyGet, outcome_throw, settle,
        herase]

/-- Testing claims stores nothing. -/
theorem outcome_testClaims (r : Registry) (claims : List HostClaim) (claimed : List String) :
    (testClaims claimed claims).outcome r = (checkClaims r.hosts claimed claims, r) := by
  induction claims generalizing claimed with
  | nil => rfl
  | cons claim rest ih =>
    simp only [testClaims, checkClaims]
    by_cases hempty : normalHost claim.host = ""
    · simp [hempty, outcome_throw]
    · simp only [if_neg hempty, outcome_bind, outcome_get]
      split
      · rfl
      · exact ih _

theorem outcome_storeClaims (h : Holdings) (claims : List HostClaim) (r : Registry) :
    (storeClaims h claims).outcome r =
      (.ok (), { r with
        hosts := claims.foldl
          (fun hosts claim => hosts.insert (normalHost claim.host) (h.route claim)) r.hosts }) := by
  induction claims generalizing r with
  | nil => rfl
  | cons claim rest ih => simp only [storeClaims, outcome_bind, outcome_modify, ih, List.foldl_cons]

theorem outcome_commit (r : Registry) (h : Holdings) :
    (commit h).outcome r = settle r (r.commit h) := by
  simp only [commit, outcome_bind, outcome_get, Registry.commit]
  cases hclient : r.clients.get? h.clientName with
  | none => rfl
  | some s =>
    by_cases hconnection : s.connection = h.connection
    · cases hheld : s.holdings with
      | some held => simp [hconnection, hheld, outcome_throw, settle]
      | none =>
        simp only [hconnection, hheld, ne_eq, not_true_eq_false, if_false, Option.isSome_none,
          Bool.false_eq_true, outcome_bind, outcome_testClaims, outcome_storeClaims]
        cases checkClaims r.hosts [] h.claims with
        | error e => rfl
        | ok _ => simp [storeHoldings, outcome_modify, hclient, hconnection, settle, addClaims]
    · simp [hconnection, outcome_throw, settle]

/-- A program that hands nothing back, performed as a call. -/
theorem outcome_of_settle {r : Registry} {program : InPlace Unit}
    {settled : Except RegistryError Registry} (h : program.outcome r = settle r settled) :
    (do program; pure none : InPlace (Option Holdings)).outcome r =
      (settled.map fun _ => none, r.after settled) := by
  rw [outcome_bind, h]
  cases settled <;> rfl

/-- A call performed store by store ends as the call does, and leaves the registry of `apply`. -/
theorem outcome_perform (r : Registry) (call : Call) :
    (perform call).outcome r = (r.result call, r.apply call) := by
  cases call with
  | reserve key => exact outcome_of_settle (outcome_reserve r key)
  | subscribe name key => exact outcome_of_settle (outcome_subscribe r name key)
  | commit h => exact outcome_of_settle (outcome_commit r h)
  | unsubscribe key name => rfl
  | clear key => rfl

end InPlace

end ReverseTunnel.Registry
