import DocMapper.Proofs.Building
import DocMapper.Proofs.Conditions

/-!
One more condition on a field.  A comparison takes the place of an earlier one by the same operator
and leaves everything else that the criteria ask for; a value that stands alone counts as a condition
by equality, to the query and to those who match its criteria alike.
-/

namespace DocMapper

namespace Operator

/-- The function of a query that states a condition by the operator. -/
def method : Operator → String
  | eq => "eq"
  | ne => "neq"
  | gt => "gt"
  | gte => "gte"
  | lt => "lt"
  | lte => "lte"
  | isIn => "in_"
  | notIn => "nin"
  | present => "exists"

/-- What the operator compares with if it accepts a value: members are kept as a list. -/
def takes (op : Operator) (v : Value) : Option Value :=
  match op, v with
  | isIn, v | notIn, v => (Query.memberList? v).map .list
  | present, .bool b => some (.bool b)
  | present, _ => none
  | _, v => some v

/-- The call that states a condition by the operator. -/
def call (op : Operator) (field v : Value) : QueryCall :=
  match op with
  | isIn | notIn => .members op field v
  | present => .present field v
  | op => .compare op field v

theorem ofMethod?_method (op : Operator) (a : Arguments) :
    QueryCall.ofMethod? op.method a = some (op.call (a.at 1) (a.at 2)) := by
  cases op <;> rfl

end Operator

namespace Criteria

/-- Whether a document meets a condition on a field. -/
def satisfies (doc : Value) (field : String) (op : Operator) (v : Value) : Except Fault Bool := do
  let (actual, held) ← fieldOf doc (.str field)
  test op actual held v

/-- An operator in an operator document asks for what it did not ask before. -/
theorem testAll_put {actual v : Value} {held b t : Bool} {op : Operator} {es : Entries}
    (rest : testAll actual held (es.without (.str op.key)) = .ok b)
    (asked : test op actual held v = .ok t) :
    testAll actual held (es.put (.str op.key) v) = .ok (b && t) := by
  obtain ⟨-, same, put⟩ | ⟨fs, l, u, gs, rfl, here, -, erased, put⟩ := es.around (.str op.key)
  · rw [same] at rest
    rw [put, testAll_append, rest, testAll_one, asked, both_ok]
  · obtain rfl := (Value.same_str_right op.key l).mp here
    rw [erased, testAll_append] at rest
    rw [put, testAll_append, testAll_cons, testAll_one]
    refine both_narrowed (y := .ok true) (fun b h => ?_) rest
    cases h
    exact asked

end Criteria

namespace Query

/-- Criteria without the condition on a field by one operator; a value alone is one by equality. -/
def relaxed (criteria : Entries) (field : String) (op : Operator) : Entries :=
  match criteria.field? field with
  | none => criteria
  | some v =>
    if v.isOperatorDocument then
      match (v.entries?.getD []).without (.str op.key) with
      | [] => criteria.without (.str field)
      | es => criteria.put (.str field) (.dict es)
    else if op = .eq then criteria.without (.str field) else criteria

variable {criteria : Entries} {f : String} {op : Operator} {doc v w : Value} {r t : Bool}

theorem operatorsAt_of_field? (found : criteria.field? f = some v) :
    operatorsAt criteria f =
      if v.isOperatorDocument then v.entries?.getD [] else [(.str Operator.eq.key, v)] := by
  rw [operatorsAt, found]

theorem operatorsAt_all (criteria : Entries) (f : String) :
    (operatorsAt criteria f).all fun e => e.1.isOperatorName := by
  unfold operatorsAt
  split
  · rfl
  next v _ =>
    split
    next operators =>
      unfold Value.isOperatorDocument at operators
      split at operators
      next entries => rwa [entries]
      next => cases operators
    next => rfl

/-- A document meets the new condition on a field if it meets all of its operators. -/
theorem holdsAt_constrain {actual : Value} {held : Bool} (criteria : Entries)
    (at_ : Criteria.fieldOf doc (.str f) = .ok (actual, held)) (op : Operator) (w : Value) :
    Criteria.holdsAt doc (.str f) (.dict ((operatorsAt criteria f).put (.str op.key) w)) =
      Criteria.testAll actual held ((operatorsAt criteria f).put (.str op.key) w) :=
  Criteria.holdsAt_operators at_ (Entries.put_ne_nil _ _ _)
    (Entries.all_put w (operatorsAt_all criteria f) (isOperatorKey_key op))

/-- Criteria without a condition ask for the others on the field in its place. -/
theorem holdsEach_relaxed {fs gs : Entries} {actual : Value} {held : Bool} (op : Operator)
    (and_ : f ≠ "$and") (or_ : f ≠ "$or") (at_ : Criteria.fieldOf doc (.str f) = .ok (actual, held))
    (place : criteria = fs ++ (.str f, v) :: gs) (dicts : v.isOperatorDocument → ∃ es, v = .dict es)
    (found : criteria.field? f = some v) (erased : criteria.without (.str f) = fs ++ gs)
    (put : ∀ v, criteria.put (.str f) v = fs ++ (.str f, v) :: gs) :
    ∃ y, Criteria.holdsEach doc (relaxed criteria f op) =
        Criteria.both (Criteria.holdsEach doc fs) (Criteria.both y (Criteria.holdsEach doc gs)) ∧
      ∀ b, y = .ok b → Criteria.testAll actual held
        ((operatorsAt criteria f).without (.str op.key)) = .ok b := by
  have gone : Criteria.holdsEach doc (criteria.without (.str f)) = Criteria.both
      (Criteria.holdsEach doc fs) (Criteria.both (.ok true) (Criteria.holdsEach doc gs)) := by
    rw [erased, Criteria.holdsEach_append, Criteria.both_true]
  have kept (u : Value) : Criteria.holdsEach doc (fs ++ (.str f, u) :: gs) = Criteria.both
      (Criteria.holdsEach doc fs)
      (Criteria.both (Criteria.holdsAt doc (.str f) u) (Criteria.holdsEach doc gs)) := by
    rw [Criteria.holdsEach_append, Criteria.holdsEach_cons, Criteria.meets_field and_ or_]
  have all := operatorsAt_all criteria f
  rw [operatorsAt_of_field? found] at all ⊢
  simp only [relaxed, found]
  by_cases operators : v.isOperatorDocument
  · obtain ⟨es, rfl⟩ := dicts operators
    simp only [operators, if_true, Value.entries?, Option.getD_some] at all ⊢
    split
    next none =>
      refine ⟨_, gone, fun b h => ?_⟩
      rw [none]
      exact h
    next some =>
      refine ⟨_, put (.dict _) ▸ kept _, fun b h => ?_⟩
      have others : (Entries.without es (.str op.key)).all fun e => e.1.isOperatorName :=
        List.all_eq_true.mpr fun e he =>
          List.all_eq_true.mp all e (List.eraseP_sublist.subset he)
      rwa [← Criteria.holdsAt_operators at_ some others]
  · simp only [operators, Bool.false_eq_true, if_false]
    split
    next eq =>
      subst eq
      exact ⟨_, gone, fun b h => h⟩
    next other =>
      refine ⟨_, place ▸ kept v, fun b h => ?_⟩
      rw [Criteria.holdsAt_equal at_ (Bool.eq_false_iff.mpr operators) h]
      have apart : ¬(Value.str Operator.eq.key).same (.str op.key) := by
        simpa using fun same => other (Operator.key_injective same).symm
      simp [Entries.without, apart, Criteria.test]

/-- A condition more is met if what the others ask for and the condition itself are. -/
theorem holdsEach_constrain (and_ : f ≠ "$and") (or_ : f ≠ "$or")
    (dicts : ∀ v, criteria.field? f = some v → v.isOperatorDocument → ∃ es, v = .dict es)
    (rest : Criteria.holdsEach doc (relaxed criteria f op) = .ok r)
    (asked : Criteria.satisfies doc f op w = .ok t) :
    Criteria.holdsEach doc (constrain criteria f op w) = .ok (r && t) := by
  obtain ⟨⟨actual, held⟩, at_, tested⟩ := Except.of_bind_eq_ok asked
  change Criteria.test op actual held w = .ok t at tested
  have one (u : Value) : Criteria.holdsEach doc [(.str f, u)] = Criteria.holdsAt doc (.str f) u := by
    rw [Criteria.holdsEach_cons, Criteria.meets_field and_ or_, Criteria.holdsEach_nil,
      Criteria.both_ok_true]
  have whole := holdsAt_constrain criteria at_ op w
  obtain ⟨absent, -, put⟩ | ⟨fs, l, u, gs, place, here, found, erased, put⟩ :=
    criteria.around (.str f)
  · have none : criteria.field? f = none := absent
    rw [relaxed, none] at rest
    rw [constrain, put, Criteria.holdsEach_append, rest, one, whole, operatorsAt, none]
    rw [Entries.put, Criteria.testAll_one, tested, Criteria.both_ok]
  · obtain rfl := (Value.same_str_right f l).mp here
    obtain ⟨y, asks, decided⟩ :=
      holdsEach_relaxed op and_ or_ at_ place (dicts u found) found erased put
    rw [asks] at rest
    rw [constrain, put, Criteria.holdsEach_append, Criteria.holdsEach_cons,
      Criteria.meets_field and_ or_, whole]
    exact Criteria.both_narrowed (fun b h => Criteria.testAll_put (decided b h) tested) rest

theorem without_constrain (criteria : Entries) (f : String) (op : Operator) (w : Value) :
    (constrain criteria f op w).without (.str f) = criteria.without (.str f) :=
  Entries.without_put _ _ (by simp)

theorem apply_call {q : Query} (nonempty : f ≠ "") (takes : op.takes v = some w) :
    q.apply (op.call (.str f) v) = .ok { q with criteria := constrain q.criteria f op w } := by
  have name : (Value.str f).name? = some f := if_neg nonempty
  have compared (op : Operator) (v : Value) : q.compare op (.str f) v =
      .ok { q with criteria := constrain q.criteria f op v } := by
    rw [compare, name]
  have members (taken : (memberList? v).map Value.list = some w) :
      ∃ xs, memberList? v = some xs ∧ w = .list xs := by
    obtain ⟨xs, listed, rfl⟩ := Option.map_eq_some_iff.mp taken
    exact ⟨xs, listed, rfl⟩
  cases op
  case isIn | notIn =>
    obtain ⟨xs, listed, rfl⟩ := members takes
    simp only [Operator.call, apply, listed, compared]
  case present =>
    cases v <;> cases takes
    exact compared .present _
  all_goals
    cases takes
    exact compared _ v

end Query

/-- The condition on a field is told from a value alone by those who see it in a store as well. -/
structure Store.Tells (s : Store) (criteria : Entries) (f : String) : Prop where
  shows : s.Shows criteria
  dicts : ∀ v, criteria.field? f = some v →
    v.isOperatorDocument ∨ (s.comparable v).isOperatorDocument → ∃ es, v = .dict es ∧ s.Shows es

namespace Store.Tells

variable {s : Store} {criteria : Entries} {f : String} {v : Value}

/-- Either both see an operator document, with the same operators, or neither does. -/
theorem alike (h : s.Tells criteria f) (found : criteria.field? f = some v) :
    (∃ es, v = .dict es ∧ s.Shows es ∧ v.isOperatorDocument ∧
      (s.comparable v).isOperatorDocument) ∨
      v.isOperatorDocument = false ∧ (s.comparable v).isOperatorDocument = false := by
  by_cases either : v.isOperatorDocument ∨ (s.comparable v).isOperatorDocument
  · obtain ⟨es, rfl, shows⟩ := h.dicts v found either
    have keys : (Value.dict (Entries.mapBoth s.comparable es)).isOperatorDocument =
        (Value.dict es).isOperatorDocument := by
      rw [Value.isOperatorDocument_dict, Value.isOperatorDocument_dict, shows.keys]
    rw [← comparable_dict] at keys
    rw [keys, or_self] at either
    exact .inl ⟨es, rfl, shows, either, keys.trans either⟩
  · rw [not_or, Bool.not_eq_true, Bool.not_eq_true] at either
    exact .inr either

theorem operatorsAt (h : s.Tells criteria f) :
    Query.operatorsAt (Entries.mapBoth s.comparable criteria) f =
      Entries.mapBoth s.comparable (Query.operatorsAt criteria f) ∧
      s.Shows (Query.operatorsAt criteria f) := by
  have seen := h.shows.field?_comparable f
  cases found : criteria.field? f with
  | none =>
    rw [found] at seen
    rw [Query.operatorsAt, seen, Query.operatorsAt, found]
    exact ⟨rfl, nofun⟩
  | some v =>
    rw [found] at seen
    rw [Query.operatorsAt_of_field? seen, Query.operatorsAt_of_field? found]
    obtain ⟨es, rfl, shows, inside, outside⟩ | ⟨inside, outside⟩ := h.alike found
    · rw [if_pos inside, if_pos outside, comparable_dict]
      exact ⟨rfl, shows⟩
    · rw [if_neg (Bool.eq_false_iff.mp inside), if_neg (Bool.eq_false_iff.mp outside)]
      refine ⟨?_, fun e he => ?_⟩
      · rw [Entries.mapBoth, List.map_singleton, comparable_str]
      · rw [List.mem_singleton.mp he, comparable_str]

theorem constrain (h : s.Tells criteria f) (op : Operator) (w : Value) :
    Query.constrain (Entries.mapBoth s.comparable criteria) f op (s.comparable w) =
      Entries.mapBoth s.comparable (Query.constrain criteria f op w) := by
  obtain ⟨operators, shows⟩ := h.operatorsAt
  rw [Query.constrain, operators, Query.constrain, Entries.mapBoth_put h.shows (s.comparable_str f),
    comparable_dict, Entries.mapBoth_put shows (s.comparable_str op.key)]

theorem relaxed (h : s.Tells criteria f) (op : Operator) :
    Query.relaxed (Entries.mapBoth s.comparable criteria) f op =
      Entries.mapBoth s.comparable (Query.relaxed criteria f op) := by
  have seen := h.shows.field?_comparable f
  have gone := Entries.mapBoth_without h.shows (.str f)
  cases found : criteria.field? f with
  | none =>
    rw [found] at seen
    rw [Query.relaxed, seen, Query.relaxed, found]
    rfl
  | some v =>
    rw [found] at seen
    simp only [Query.relaxed, seen, found, Option.map_some]
    obtain ⟨es, rfl, shows, inside, outside⟩ | ⟨inside, outside⟩ := h.alike found
    · have rest := Entries.mapBoth_without shows (.str op.key)
      rw [if_pos inside, if_pos outside, comparable_dict]
      simp only [Value.entries?_dict, Option.getD_some, ← rest]
      cases others : Entries.without es (.str op.key) with
      | nil => exact gone.symm
      | cons e es =>
        rw [Entries.mapBoth_put h.shows (s.comparable_str f), comparable_dict]
        rfl
    · rw [if_neg (Bool.eq_false_iff.mp inside), if_neg (Bool.eq_false_iff.mp outside)]
      split
      · exact gone.symm
      · rfl

end Store.Tells
variable {i : Nat} {k : QueryKind} {q : Query} {st : Store} {m : Method} {a : Arguments}
variable {args : List Value} {named : Entries} {f : String} {op : Operator} {w : Value}

namespace Act

/-- A comparison puts the query with one more condition in the place of the query. -/
theorem outcome_comparison (names : Names) (n : Nat) (h : st.Builds k i q) (nonempty : f ≠ "")
    (found : Interface.queryMembers.lookup op.method = some (.method m))
    (bind : m.bind (.handle (.query k i) :: args) named = .ok a) (field : a.at 1 = .str f)
    (takes : op.takes (a.at 2) = some w) :
    ∃ after, ((dispatch names (n + 1)).call .never (.handle (.query k i)) op.method args
        named).outcome st = (.ok (.handle (.query k i)), after) ∧
      after.Builds k i { q with criteria := Query.constrain q.criteria f op w } := by
  obtain ⟨usual, -⟩ := h.identified.usual "_compare" _ rfl
  have plain : callQuery (dispatch names n) (.handle (.query k i)) (op.call (.str f) (a.at 2)) =
      plainCall (dispatch names n) (.handle (.query k i)) (op.call (.str f) (a.at 2)) := by
    cases op <;> rfl
  obtain ⟨after, done, -, builds⟩ := outcome_applyCall (d := dispatch names n) h.identified
    (Query.apply_call nonempty takes)
  refine ⟨after, ?_, builds⟩
  rw [outcome_queryMethod h found bind (op.ofMethod?_method a), field, plain, plainCall,
    outcome_bind_ok (outcome_get _), if_pos usual, done]

end Act

/-- A comparison narrows the criteria without an earlier condition by the same operator on the field
by the new condition; the other keys keep their values, and all of them their order. -/
theorem comparison_narrows (names : Names) (n : Nat) (op : Operator) (args : List Value)
    (named : Entries) (h : st.Builds k i q) (nonempty : f ≠ "") (and_ : f ≠ "$and")
    (or_ : f ≠ "$or") (found : Interface.queryMembers.lookup op.method = some (.method m))
    (bind : m.bind (.handle (.query k i) :: args) named = .ok a) (field : a.at 1 = .str f)
    (takes : op.takes (a.at 2) = some w) :
    ∃ after es, ((dispatch names (n + 1)).call .never (.handle (.query k i)) op.method args
        named).outcome st = (.ok (.handle (.query k i)), after) ∧
      after.Builds k i { q with criteria := es } ∧
      es.without (.str f) = q.criteria.without (.str f) ∧
      Entries.keys es = (if q.criteria.has (.str f) then Entries.keys q.criteria
        else Entries.keys q.criteria ++ [.str f]) ∧
      ∀ (s : Store) (doc : Value) (r t : Bool), s.Tells q.criteria f →
        s.holds doc (.dict (Query.relaxed q.criteria f op)) = .ok r →
        Criteria.satisfies (s.comparable doc) f op (s.comparable w) = .ok t →
        s.holds doc (.dict es) = .ok (r && t) := by
  obtain ⟨after, done, builds⟩ :=
    Act.outcome_comparison names n h nonempty found bind field takes
  refine ⟨after, _, done, builds, Query.without_constrain .., Entries.keys_put .., ?_⟩
  intro s doc r t tells rest asked
  have seen := tells.shows.field?_comparable f
  rw [Store.holds_dict, ← tells.relaxed] at rest
  rw [Store.holds_dict, ← tells.constrain]
  refine Query.holdsEach_constrain and_ or_ (fun v there operators => ?_) rest asked
  rw [seen] at there
  obtain ⟨u, under, rfl⟩ := Option.map_eq_some_iff.mp there
  obtain ⟨es, rfl, -⟩ := tells.dicts u under (.inr operators)
  exact ⟨_, s.comparable_dict es⟩

/-- A query for those of age, and nothing else. -/
def Store.adults : Store where
  queries := #[{
    kind := .unbound, criteria := [(.str "age", .dict [(.str "$gte", .int 18)])]
    options := .empty, model := .null }]

theorem Store.builds_adults :
    adults.Builds .unbound 0 (adults.queries.getD 0 default) :=
  .of_bare ⟨fun _ => rfl, rfl⟩ (fun _ _ => rfl) rfl (.inl rfl) rfl rfl rfl

theorem Store.tells_adults : adults.Tells (adults.queries.getD 0 default).criteria "age" where
  shows e he := by
    rw [List.mem_singleton.mp he, comparable_str]
  dicts v found _ := by
    cases found
    exact ⟨_, rfl, fun e he => by rw [List.mem_singleton.mp he, comparable_str]⟩

theorem comparison_narrows_adults :
    ∃ after es, ((dispatch [] 1).call .never (.handle (.query .unbound 0)) "lt"
        [.str "age", .int 65] []).outcome Store.adults =
          (.ok (.handle (.query .unbound 0)), after) ∧
      Store.adults.holds (.dict [(.str "age", .int 40)]) (.dict es) = .ok true := by
  obtain ⟨after, es, done, -, -, -, narrowed⟩ := comparison_narrows [] 0 .lt
    [.str "age", .int 65] [] Store.builds_adults (by decide : "age" ≠ "") (by decide) (by decide) rfl
    rfl rfl rfl
  exact ⟨after, es, done,
    narrowed Store.adults (.dict [(.str "age", .int 40)]) true true Store.tells_adults rfl rfl⟩

end DocMapper
