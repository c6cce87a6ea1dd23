import ReverseTunnel.Proofs.Registry.Consistency

/-!
# The calls of the registry, one by one

`Effect` lists what one call can do to a consistent registry: the condition under which
it does so, what it answers, and the registry that it leaves. Every call has one of these
effects (`effect_apply`), so a fact about all calls is a case analysis on this list.

A client goes together with what it owned, and only by a call that names its connection;
what a client owns comes in only by a commit that is not refused (`owns_apply_iff`).
-/

namespace ReverseTunnel.Registry

/-- What a call answers: the holdings of the client that it removed. -/
def answer (r : Registry) : Call → Option Holdings
  | .unsubscribe key name => (r.unsubscribe key name).1
  | .clear key => (r.clear key).1
  | .reserve _ | .subscribe .. | .commit _ => none

/-- The call commits these holdings and is not refused. -/
def Commits (r : Registry) (call : Call) (h : Holdings) : Prop :=
  call = .commit h ∧ ∃ r', r.commit h = .ok r'

namespace Call

/-- The key in whose name a call is made. -/
def key : Call → String
  | .reserve key => key
  | .subscribe _ key => key
  | .commit h => h.connection
  | .unsubscribe key _ => key
  | .clear key => key

/-- The call is to remove the client with this name and this connection. -/
def Ends (name connection : String) (call : Call) : Prop :=
  call = .clear connection ∨ call = .unsubscribe connection name

theorem Ends.key_eq {name connection : String} {call : Call} (h : call.Ends name connection) :
    call.key = connection := by
  rcases h with rfl | rfl <;> rfl

end Call

/-- What a call does, what it answers, and what it leaves. -/
inductive Effect (r : Registry) : Call → Option Holdings → Registry → Prop where
  /-- A call that registers something is refused. -/
  | refuse {call : Call} (idle : ∀ h, ¬ r.Commits call h)
      (registers : ∀ name connection, ¬ call.Ends name connection) : Effect r call none r
  | reserve {key : String} (free : r.connections.get? key = none) :
      Effect r (.reserve key) none { r with pending := r.pending.insert key () }
  | subscribe {name key : String} {r' : Registry} (ok : r.subscribe name key = .ok r') :
      Effect r (.subscribe name key) none r'
  | commit {h : Holdings} {r' : Registry} (ok : r.commit h = .ok r') : Effect r (.commit h) none r'
  /-- No client has the key that is cleared. -/
  | forget {key : String} (unknown : r.connections.get? key = none) :
      Effect r (.clear key) none { r with pending := r.pending.erase key }
  /-- The client that is unsubscribed does not have this connection. -/
  | miss {key name : String} (other : r.connections.get? key ≠ some name) :
      Effect r (.unsubscribe key name) none r
  | remove {call : Call} {name : String} {s : Subscriber} (client : r.clients.get? name = some s)
      (ends : call.Ends name s.connection) : Effect r call s.holdings (r.without name s)

theorem effect_unsubscribe {r : Registry} (hr : r.Consistent) (key name : String) :
    r.Effect (.unsubscribe key name) (r.unsubscribe key name).1 (r.unsubscribe key name).2 := by
  by_cases hconnection : r.connections.get? key = some name
  · obtain ⟨held, hclient⟩ := (hr.inverse name key).1 hconnection
    rw [unsubscribe, if_pos hconnection, removeClient_of_get? hclient]
    exact .remove hclient (.inr rfl)
  · rw [unsubscribe, if_neg hconnection]
    exact .miss hconnection

theorem effect_clear {r : Registry} (hr : r.Consistent) (key : String) :
    r.Effect (.clear key) (r.clear key).1 (r.clear key).2 := by
  rcases clear_eq hr key with ⟨hunknown, hclear⟩ | ⟨name, held, -, hclient, hclear⟩
  · rw [hclear]
    exact .forget hunknown
  · rw [hclear]
    exact .remove hclient (.inl rfl)

/-- Every call on a consistent registry has one of the effects. -/
theorem effect_apply {r : Registry} (hr : r.Consistent) (call : Call) :
    r.Effect call (r.answer call) (r.apply call) := by
  cases call with
  | reserve key =>
    cases h : r.reserve key with
    | ok r' =>
      obtain ⟨-, hfree, rfl⟩ := reserve_eq_ok h
      simp only [apply, h, after]
      exact .reserve hfree
    | error e =>
      simp only [apply, h, after]
      exact .refuse (by simp [Commits]) (by simp [Call.Ends])
  | subscribe name key =>
    cases h : r.subscribe name key with
    | ok r' =>
      simp only [apply, h, after]
      exact .subscribe h
    | error e =>
      simp only [apply, h, after]
      exact .refuse (by simp [Commits]) (by simp [Call.Ends])
  | commit held =>
    cases h : r.commit held with
    | ok r' =>
      simp only [apply, h, after]
      exact .commit h
    | error e =>
      simp only [apply, h, after]
      refine .refuse ?_ (by simp [Call.Ends])
      rintro other ⟨heq, r', hok⟩
      cases heq
      rw [h] at hok
      cases hok
  | unsubscribe key name => exact effect_unsubscribe hr key name
  | clear key => exact effect_clear hr key

/-- The call that ends a client removes it, and answers what it owned. -/
theorem removes_of_ends {r : Registry} (hr : r.Consistent) {name : String} {s : Subscriber}
    (hclient : r.clients.get? name = some s) {call : Call} (hends : call.Ends name s.connection) :
    r.answer call = s.holdings ∧ r.apply call = r.without name s := by
  have hconnection : r.connections.get? s.connection = some name := (hr.inverse _ _).2 ⟨_, hclient⟩
  rcases hends with rfl | rfl
  · rcases clear_eq hr s.connection with ⟨hunknown, -⟩ | ⟨other, held, -, hother, hclear⟩
    · rw [hconnection] at hunknown
      cases hunknown
    · -- The connection has one client, so it is the one that was removed.
      have hsame : other = name := hr.name_eq hclient hother
      subst hsame
      have heq : (⟨s.connection, held⟩ : Subscriber) = s :=
        (Option.some.inj (hclient.symm.trans hother)).symm
      rw [heq] at hclear
      simp only [answer, apply, hclear, and_true]
      exact congrArg Subscriber.holdings heq
  · simp only [answer, apply, unsubscribe, hconnection, if_true, removeClient_of_get? hclient,
      and_self]

/-! ## What clients own -/

/-- What a client owns bears its name, and the connection that the client has. -/
theorem Consistent.get?_of_owns {r : Registry} (hr : r.Consistent) {name : String}
    {h : Holdings} (howns : r.Owns name h) :
    h.clientName = name ∧ r.clients.get? name = some ⟨h.connection, some h⟩ := by
  obtain ⟨key, hclient⟩ := howns
  obtain ⟨hname, hkey⟩ := hr.own name key h hclient
  exact ⟨hname, by rw [hclient, hkey]⟩

/-- A call answers exactly what the client owned that it ends. -/
theorem answer_eq_some_iff {r : Registry} (hr : r.Consistent) {call : Call} {h : Holdings} :
    r.answer call = some h ↔
      r.Owns h.clientName h ∧ call.Ends h.clientName h.connection := by
  constructor
  · intro hanswer
    have heffect := effect_apply hr call
    rw [hanswer] at heffect
    generalize r.apply call = r', hsome : some h = answered at heffect
    cases heffect with
    | @remove _ name s hclient hends =>
      obtain ⟨connection, held⟩ := s
      change some h = held at hsome
      subst hsome
      obtain ⟨rfl, rfl⟩ := hr.own name connection h hclient
      exact ⟨⟨_, hclient⟩, hends⟩
    | _ => cases hsome
  · rintro ⟨howns, hends⟩
    exact (removes_of_ends hr (hr.get?_of_owns howns).2 hends).1

/-- A call that ends the client of some holdings and another one ends them as one. -/
theorem name_eq_of_ends {r : Registry} (hr : r.Consistent) {name name' : String}
    {s s' : Subscriber} (hclient : r.clients.get? name = some s)
    (hclient' : r.clients.get? name' = some s') {call : Call} (hends : call.Ends name s.connection)
    (hends' : call.Ends name' s'.connection) : name = name' := by
  have hkey : s.connection = s'.connection := hends.key_eq.symm.trans hends'.key_eq
  have hconnection := (hr.inverse name s.connection).2 ⟨_, hclient⟩
  have hconnection' := (hr.inverse name' s'.connection).2 ⟨_, hclient'⟩
  rw [hkey, hconnection'] at hconnection
  exact (Option.some.inj hconnection).symm

/-- After a call a client owns what the call committed for it, or what it owned before,
if the call did not end it. -/
theorem owns_apply_iff {r : Registry} (hr : r.Consistent) {call : Call} {h : Holdings} :
    (r.apply call).Owns h.clientName h ↔
      r.Commits call h ∨
        r.Owns h.clientName h ∧ ¬ call.Ends h.clientName h.connection := by
  have heffect := effect_apply hr call
  generalize r.apply call = r', r.answer call = answered at heffect
  cases heffect with
  | refuse hidle hregisters => simp only [hidle, hregisters, false_or, not_false_iff, and_true]
  | reserve _ => simp [Owns, Commits, Call.Ends]
  | subscribe hok =>
    rw [owns_iff_of_subscribe hok]
    simp [Commits, Call.Ends]
  | @commit held _ hok =>
    rw [owns_iff_of_commit hok]
    simp only [Commits, Call.Ends, Call.commit.injEq, reduceCtorEq, or_self, not_false_iff,
      and_true]
    refine or_congr ⟨?_, ?_⟩ Iff.rfl
    · rintro ⟨-, rfl⟩
      exact ⟨rfl, _, hok⟩
    · rintro ⟨rfl, -⟩
      exact ⟨rfl, rfl⟩
  | @forget key hunknown =>
    have hspared : r.Owns h.clientName h → ¬ Call.Ends h.clientName h.connection (.clear key) := by
      intro howns hends
      obtain rfl : key = h.connection := hends.key_eq
      exact clients_ne_of_connections hr hunknown _ _ (hr.get?_of_owns howns).2
    change r.Owns h.clientName h ↔ _
    simp only [Commits, reduceCtorEq, false_and, false_or, iff_self_and]
    exact hspared
  | @miss key name hother =>
    have hspared : r.Owns h.clientName h →
        ¬ Call.Ends h.clientName h.connection (.unsubscribe key name) := by
      rintro howns (hends | hends)
      · cases hends
      · obtain ⟨rfl, rfl⟩ := Call.unsubscribe.inj hends
        exact hother ((hr.inverse _ _).2 ⟨_, (hr.get?_of_owns howns).2⟩)
    simp only [Commits, reduceCtorEq, false_and, false_or, iff_self_and]
    exact hspared
  | @remove _ name s hclient hends =>
    rw [owns_without_iff]
    have hcommits : ¬ r.Commits call h := by
      rintro ⟨rfl, -⟩
      rcases hends with hends | hends <;> cases hends
    simp only [hcommits, false_or]
    constructor
    · rintro ⟨hne, howns⟩
      exact ⟨howns, fun hends' =>
        hne (name_eq_of_ends hr (hr.get?_of_owns howns).2 hclient hends' hends)⟩
    · rintro ⟨howns, hspared⟩
      refine ⟨?_, howns⟩
      rintro rfl
      have hclient' := (hr.get?_of_owns howns).2
      rw [hclient] at hclient'
      obtain rfl := Option.some.inj hclient'
      exact hspared hends

end ReverseTunnel.Registry
