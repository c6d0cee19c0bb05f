import DocMapper.Proofs.Storing

/-!
Building a query.  A call that a query accepts puts the changed query in its place and answers with
the query itself; one that it refuses leaves the store as it is.
-/

namespace DocMapper

/-- A call changes criteria and options alone. -/
theorem Query.apply_eq_ok {q r : Query} {call : QueryCall} (done : q.apply call = .ok r) :
    ∃ criteria options, r = { q with criteria, options } := by
  cases call
  case compare op field value =>
    obtain ⟨es, rfl⟩ := compare_eq_ok done
    exact ⟨es, q.options, rfl⟩
  case members op field values =>
    simp only [apply] at done
    split at done
    · obtain ⟨es, rfl⟩ := compare_eq_ok done
      exact ⟨es, q.options, rfl⟩
    · cases done
  case present field value =>
    simp only [apply] at done
    split at done
    · obtain ⟨es, rfl⟩ := compare_eq_ok done
      exact ⟨es, q.options, rfl⟩
    · cases done
  case sort fields =>
    obtain ⟨es, -, done⟩ := Except.of_bind_eq_ok done
    obtain ⟨merged, -, done⟩ := Except.of_bind_eq_ok done
    cases done
    exact ⟨_, _, rfl⟩
  all_goals
    obtain ⟨x, -, done⟩ := Except.of_bind_eq_ok done
    cases done
    exact ⟨_, _, rfl⟩

/-- The first argument of a call is the receiver. -/
theorem Method.at_zero_of_bind {m : Method} {v : Value} {args : List Value} {named : Entries}
    {a : Arguments} (bind : m.bind (v :: args) named = .ok a) : a.at 0 = v := by
  obtain ⟨_, -, bind⟩ := Except.of_bind_eq_ok bind
  dsimp only at bind
  split at bind
  · cases bind
  · split at bind <;> cases bind
    simp [Arguments.at, Method.all]

theorem Query.perform_own {q : Query} (own : q.instead = none) (call : QueryCall) :
    q.perform call = q.apply call := by
  rw [perform, own]

theorem Interface.inherited?_query {c name : String} {m : Method}
    (kind : c = "QueryBuilder" ∨ c = "ModelQuery")
    (found : queryMembers.lookup name = some (.method m)) :
    inherited? c name = some (.known "QueryBuilder", .method m) := by
  have all : ∀ e ∈ queryMembers, inherited? c e.1 = some (.known "QueryBuilder", e.2) := by
    simp only [queryMembers, List.forall_mem_cons]
    rcases kind with rfl | rfl <;> repeat' constructor
    all_goals exact fun _ none => absurd none List.not_mem_nil
  obtain ⟨before, behind, members, -⟩ := List.lookup_eq_some_iff.mp found
  exact all (name, .method m) (members ▸ by simp)

namespace Store

/-- A query whose functions are those of the library, over its own options and criteria. -/
structure Builds (st : Store) (k : QueryKind) (i : Nat) (q : Query) : Prop where
  query : st.queries[i]? = some q
  held : q.held = .null
  instead : q.instead = none
  usual : ∀ name m, Interface.queryMembers.lookup name = some (.method m) →
    st.usual (.handle (.query k i)) Act.queryClass name ∧
      st.registry.ownMember? Act.queryClass name = some (.method m)
  logger : st.extraOf? (.handle (.query k i)) "_logger" = none

/-- The store with another query in a slot. -/
def requeried (st : Store) (i : Nat) (q : Query) : Store :=
  { st with queries := st.queries.setIfInBounds i q }

variable {st after : Store} {k : QueryKind} {i : Nat} {q r : Query}

/-- A query that nothing was done to has the functions of the library. -/
theorem Bare.usual_query {c : String} (bare : st.Bare (.query k i))
    (pristine : st.registry.Pristine) (kind : k.cls = .known c)
    (known : c = "QueryBuilder" ∨ c = "ModelQuery") {name : String} {m : Method}
    (found : Interface.queryMembers.lookup name = some (.method m)) :
    st.usual (.handle (.query k i)) Act.queryClass name ∧
      st.registry.ownMember? Act.queryClass name = some (.method m) := by
  have inherited := Interface.inherited?_query known found
  have member := bare.member? pristine kind name
  rw [inherited] at member
  exact ⟨bare.usual pristine kind inherited, Registry.own_of_member member⟩

theorem Builds.of_bare {c : String} (bare : st.Bare (.query k i)) (pristine : st.registry.Pristine)
    (kind : k.cls = .known c) (known : c = "QueryBuilder" ∨ c = "ModelQuery")
    (query : st.queries[i]? = some q) (held : q.held = .null) (instead : q.instead = none) :
    st.Builds k i q where
  query := query
  held := held
  instead := instead
  usual _ _ found := bare.usual_query pristine kind known found
  logger := bare.extraOf? "_logger"

theorem Builds.queryAt (h : st.Builds k i q) : st.query i = q := by
  simp [Store.query, Array.getD_eq_getD_getElem?, h.query, h.held]

theorem Builds.of_setting (h : st.Builds k i q) (setting : after.setting = st.setting)
    (query : after.queries[i]? = some r) (held : r.held = .null) (instead : r.instead = none) :
    after.Builds k i r where
  query := query
  held := held
  instead := instead
  usual name m found := by
    have registry : after.registry = st.registry := congrArg Setting.registry setting
    rw [usual_congr setting, registry]
    exact h.usual name m found
  logger := by rw [extraOf?_congr setting, h.logger]

theorem Builds.identified (h : st.Builds k i q) : st.identified.Builds k i q :=
  h.of_setting rfl h.query h.held h.instead

theorem Builds.requeried (h : st.Builds k i q) (held : r.held = .null) (instead : r.instead = none)
    (same : after.beyond = (st.requeried i r).beyond) : after.Builds k i r := by
  have queries : after.queries = (st.requeried i r).queries := by
    change after.beyond.queries = (st.requeried i r).beyond.queries
    rw [same]
  have setting : after.setting = (st.requeried i r).setting := setting_of_beyond same
  have present : i < st.queries.size := (Array.getElem?_eq_some_iff.mp h.query).1
  refine h.of_setting setting ?_ held instead
  rw [queries, Store.requeried, Array.getElem?_setIfInBounds_self_of_lt present]

end Store

namespace Act

variable {st : Store} {d : Dispatch} {k : QueryKind} {i : Nat} {q r : Query} {call : QueryCall}

theorem outcome_queryAt (h : st.Builds k i q) : (query i).outcome st = (.ok q, st) := by
  rw [query, outcome_bind_ok (outcome_get st), h.queryAt]
  rfl

/-- A call that a query accepts puts the changed query in its place. -/
theorem outcome_applyCall (h : st.Builds k i q) (done : q.apply call = .ok r) :
    ∃ after, (applyCall d (.handle (.query k i)) call).outcome st =
        (.ok (.handle (.query k i)), after) ∧
      after.beyond = (st.requeried i r).beyond ∧ after.Builds k i r := by
  have performed := (Query.perform_own h.instead call).trans done
  have held : r.held = .null := by
    obtain ⟨criteria, options, rfl⟩ := Query.apply_eq_ok done
    exact h.held
  have instead : r.instead = none := by
    obtain ⟨criteria, options, rfl⟩ := Query.apply_eq_ok done
    exact h.instead
  have set : (setQuery i r).outcome st = (.ok (), st.requeried i r) := by
    rw [setQuery, outcome_modify, Store.setQuery, held]
    rfl
  have silent : (st.requeried i r).extraOf? (.handle (.query k i)) "_logger" = none := h.logger
  rw [applyCall, outcome_bind_ok (outcome_queryAt h), performed,
    outcome_bind_ok (outcome_ofExcept ..)]
  simp only [held]
  split
  all_goals
    rw [outcome_bind_ok set, outcome_bind_ok (outcome_noteOf silent rfl ..)]
    exact ⟨_, rfl, Store.beyond_noted .., h.requeried held instead (Store.beyond_noted ..)⟩

section

variable {names : Names} {n : Nat} {name : String} {args : List Value} {named : Entries}
variable {m : Method} {a : Arguments}

/-- A function of a query does the call that it stands for. -/
theorem outcome_queryMethod (h : st.Builds k i q)
    (found : Interface.queryMembers.lookup name = some (.method m))
    (bind : m.bind (.handle (.query k i) :: args) named = .ok a)
    (stands : QueryCall.ofMethod? name a = some call) :
    ((dispatch names (n + 1)).call .never (.handle (.query k i)) name args named).outcome st =
      (callQuery (dispatch names n) (.handle (.query k i)) call).outcome st.identified := by
  obtain ⟨usual, own⟩ := h.usual name m found
  have place : (readPlace? (.handle (.query k i)) name).outcome st = (.ok none, st) ∧
      m.waits = false ∧ performMethod (dispatch names n) m a =
        queryMethod (dispatch names n) (a.at 0) name a := by
    unfold QueryCall.ofMethod? at stands
    split at stands
    all_goals first | (cases found; exact ⟨rfl, rfl, rfl⟩) | cases stands
  obtain ⟨place, waits, performed⟩ := place
  rw [outcome_call_method (by simp) usual own place bind (.inr ⟨waits, rfl⟩), performed,
    Method.at_zero_of_bind bind]
  unfold queryMethod
  rw [stands]

end

end Act
end DocMapper
