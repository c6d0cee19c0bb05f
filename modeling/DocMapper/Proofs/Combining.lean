import DocMapper.Proofs.Merging
import DocMapper.Proofs.Retaining

/-!
Criteria combined with others: merged in, or as alternatives that are met all together or one of
them.  A query among the alternatives stands for its criteria, as they are by then.
-/

namespace DocMapper

/-- How alternatives are met: every one of them, or at least one. -/
inductive Joint
  | every
  | either
  deriving DecidableEq

namespace Joint

def key : Joint → String
  | every => "$and"
  | either => "$or"

/-- The function of a query that takes the alternatives. -/
def method : Joint → String
  | every => "and_"
  | either => "or_"

def call : Joint → Value → QueryCall
  | every => .every
  | either => .either

/-- Whether alternatives are met that are met or not one by one. -/
def met : Joint → List Bool → Bool
  | every, bs => bs.all id
  | either, bs => bs.any id

theorem ofMethod?_method (j : Joint) (a : Arguments) :
    QueryCall.ofMethod? j.method a = some (j.call (a.at 1)) := by
  cases j <;> rfl

theorem callQuery_call (j : Joint) (d : Dispatch) (self v : Value) :
    Act.callQuery d self (j.call v) = Act.alternative d self j.key j.method v := by
  cases j <;> rfl

/-- Documents meet alternatives as they meet them one by one. -/
theorem meets_key (j : Joint) {doc : Value} {xs : List Value} {bs : List Bool}
    (each : List.Forall₂ (fun x b => Criteria.holds doc x = .ok b) xs bs) :
    Criteria.meets doc (.str j.key) (.list xs) = .ok (j.met bs) := by
  cases j
  · exact Criteria.holdsAll_eq_all each
  · exact Criteria.holdsAny_eq_any each

/-- Alternatives put beside other criteria are asked for with them. -/
theorem holds_put (j : Joint) {s : Store} {doc : Value} {es : Entries} {bs : List Value}
    {r : Bool} {ts : List Bool} (shows : s.Shows es)
    (rest : s.holds doc (.dict (es.without (.str j.key))) = .ok r)
    (each : List.Forall₂ (fun b t => s.holds doc b = .ok t) bs ts) :
    s.holds doc (.dict (es.put (.str j.key) (.list bs))) = .ok (r && j.met ts) := by
  rw [Store.holds_dict, Entries.mapBoth_without shows] at rest
  rw [Store.holds_dict, Entries.mapBoth_put shows (s.comparable_str j.key), s.comparable_list]
  exact Criteria.holdsEach_put rest (j.meets_key (List.forall₂_map_left_iff.mpr each))

end Joint

namespace Store

/-- What a value stands for as an alternative: a mapping for its entries, a query for its criteria. -/
def Stands (st : Store) (v : Value) (es : Entries) : Prop :=
  v.entries? = some es ∨
    ∃ k i q, v = .handle (.query k i) ∧ st.Builds k i q ∧ q.criteria = es

theorem Retains.stands {st after : Store} {v : Value} {es : Entries} (r : st.Retains after)
    (h : st.Stands v es) : after.Stands v es := by
  obtain mapping | ⟨k, i, q, rfl, builds, criteria⟩ := h
  · exact .inl mapping
  · exact .inr ⟨k, i, q, rfl, r.builds builds, criteria⟩

end Store

namespace Act

variable {d : Dispatch} {st : Store} {k : QueryKind} {i : Nat} {q : Query} {es : Entries} {v : Value}

/-- What a query says of its criteria is a copy of them. -/
theorem outcome_queryJson_copy (h : st.Builds k i q) :
    (queryJson d (.handle (.query k i))).outcome st = (copy (.dict q.criteria)).outcome st := by
  obtain ⟨usual, -⟩ := h.usual "to_json" _ rfl
  have json : q.toJson = .dict q.criteria := by rw [Query.toJson, h.instead, Option.getD_none]
  rw [queryJson, outcome_callOr_usual usual, ownCriteria, outcome_bind_ok (outcome_queryAt h), json]

/-- One of the alternatives, as the criteria that it stands for. -/
def branchGiven (d : Dispatch) (method : String) (index : Nat) (v : Value) : Act Value :=
  if isQuery v then queryJson d v else ofExcept (Query.branch method index v)

theorem branchesGiven_cons (d : Dispatch) (method : String) (index : Nat) (v : Value)
    (vs : List Value) : branchesGiven d method index (v :: vs) =
      (do
        let b ← branchGiven d method index v
        let bs ← branchesGiven d method (index + 1) vs
        return b :: bs) := by
  rw [branchesGiven, branchGiven]
  split <;> rfl

theorem outcome_branchGiven (method : String) (index : Nat) (h : st.Stands v es) :
    (∃ e, (branchGiven d method index v).outcome st = (.error e, st) ∧ ¬(Value.dict es).Plain) ∨
      ∃ b after, (branchGiven d method index v).outcome st = (.ok b, after) ∧
        (Value.dict es).Copied b ∧ st.Retains after ∧ ((Value.dict es).Plain → after = st) := by
  obtain mapping | ⟨k, i, q, rfl, builds, rfl⟩ := h
  · have other : ¬isQuery v := by
      cases v <;> cases mapping <;> exact Bool.false_ne_true
    rw [branchGiven, if_neg other, Query.branch, mapping]
    exact .inr ⟨_, _, rfl, .refl _, .refl st, fun _ => rfl⟩
  · rw [branchGiven, isQuery, if_pos rfl, outcome_queryJson_copy builds]
    obtain ⟨e, refused, uncopied, -⟩ | ⟨u, after, made, copied, kept, same, -⟩ :=
      outcome_copy_cases (.dict q.criteria) st
    · exact .inl ⟨e, refused, uncopied⟩
    · exact .inr ⟨u, after, made, copied, kept, same⟩

/-- Alternatives are copies of what they stand for, unless something in them cannot be copied. -/
theorem outcome_branchesGiven (method : String) (index : Nat) {vs : List Value}
    {ess : List Entries} (given : List.Forall₂ st.Stands vs ess) :
    (∃ e after, (branchesGiven d method index vs).outcome st = (.error e, after) ∧
      st.Retains after ∧ ∃ es ∈ ess, ¬(Value.dict es).Plain) ∨
      ∃ bs after, (branchesGiven d method index vs).outcome st = (.ok bs, after) ∧
        List.Forall₂ (fun es b => (Value.dict es).Copied b) ess bs ∧ st.Retains after ∧
        ((∀ es ∈ ess, (Value.dict es).Plain) → after = st) := by
  induction vs generalizing st ess index with
  | nil =>
    cases given
    exact .inr ⟨[], st, rfl, .nil, .refl st, fun _ => rfl⟩
  | cons v vs ih =>
    obtain ⟨es, ess, here, later, rfl⟩ := List.forall₂_cons_left_iff.mp given
    rw [branchesGiven_cons]
    obtain ⟨e, refused, uncopied⟩ | ⟨b, mid, made, copied, kept, same⟩ :=
      outcome_branchGiven (d := d) method index here
    · exact .inl ⟨e, st, outcome_bind_error refused, .refl st, es, List.mem_cons_self, uncopied⟩
    rw [outcome_bind_ok made]
    obtain ⟨e, after, refused, rest, fs, hfs, uncopied⟩ | ⟨bs, after, made, each, rest, still⟩ :=
      ih (index + 1) (later.imp fun _ _ => kept.stands)
    · exact .inl ⟨e, after, outcome_bind_error refused, kept.trans rest, fs,
        List.mem_cons_of_mem es hfs, uncopied⟩
    · refine .inr ⟨b :: bs, after, outcome_bind_ok made, .cons copied each, kept.trans rest, ?_⟩
      intro plain
      obtain ⟨first, others⟩ := List.forall_mem_cons.mp plain
      rw [still others, same first]

end Act

theorem Value.Copied.plain_dicts {ess : List Entries} {bs : List Value}
    (each : List.Forall₂ (fun es b => (Value.dict es).Copied b) ess bs)
    (plain : ∀ es ∈ ess, (Value.dict es).Plain) : bs = ess.map .dict :=
  Value.Copied.all_plain (List.forall₂_map_left_iff.mpr each) (List.forall_mem_map.mpr plain)

/-- A call on a query either makes other criteria of its criteria, or fails and leaves them as they
are; `safe` says when it does not fail. -/
def Store.Changes (st : Store) (k : QueryKind) (i : Nat) (q : Query) (safe : Prop)
    (makes : Entries → Prop) (ended : Except Fault Value × Store) : Prop :=
  (∃ e after, ended = (.error e, after) ∧ ¬safe ∧ after.Builds k i q) ∨
    ∃ es after, ended = (.ok (.handle (.query k i)), after) ∧ makes es ∧
      after.Builds k i { q with criteria := es } ∧
      (safe → after.beyond = (st.requeried i { q with criteria := es }).beyond)

namespace Act

variable {d : Dispatch} {st : Store} {k : QueryKind} {i : Nat} {q : Query} {es : Entries} {v : Value}

/-- A restriction is merged in, as a copy. -/
theorem changes_restrict (h : st.Builds k i q) (entries : v.entries? = some es) :
    st.Changes k i q v.Plain (fun new => ∃ cs, es.Copied cs ∧ new = q.criteria.merge cs)
      ((callQuery d (.handle (.query k i)) (.restrict v)).outcome st) := by
  have mapped : Argument.mapping "where() criteria" v = .ok es := Argument.mapping_eq_ok.mpr entries
  rw [callQuery, mapped, outcome_bind_ok (outcome_ofExcept ..)]
  obtain ⟨e, refused, uncopied, -⟩ | ⟨u, mid, made, copied, kept, same, -⟩ :=
    outcome_copy_cases v st
  · exact .inl ⟨e, st, outcome_bind_error refused, uncopied, h⟩
  obtain ⟨cs, taken, copies⟩ := copied.entries entries
  have done : q.apply (.restrict u) = .ok { q with criteria := q.criteria.merge cs } := by
    simp only [Query.apply, Argument.mapping_eq_ok.mpr taken]
    rfl
  obtain ⟨after, applied, changed, builds⟩ := outcome_applyCall (d := d) (kept.builds h) done
  refine .inr ⟨_, after, (outcome_bind_ok made).trans applied, ⟨cs, copies, rfl⟩, builds, ?_⟩
  intro plain
  rw [changed, same plain]

/-- Alternatives are put under their key, as copies of what they stand for. -/
theorem changes_join (h : st.Builds k i q) (j : Joint) {vs : List Value} {ess : List Entries}
    (listed : v.listed? = some vs) (given : List.Forall₂ st.Stands vs ess) :
    st.Changes k i q (∀ es ∈ ess, (Value.dict es).Plain)
      (fun new => ∃ bs, List.Forall₂ (fun es b => (Value.dict es).Copied b) ess bs ∧
        new = q.criteria.put (.str j.key) (.list bs))
      ((callQuery d (.handle (.query k i)) (j.call v)).outcome st) := by
  obtain ⟨restricts, -⟩ := h.usual "where" _ rfl
  obtain ⟨branches, -⟩ := h.usual "_branches" _ rfl
  rw [j.callQuery_call, alternative, outcome_bind_ok (outcome_get st)]
  simp only [restricts, if_true]
  rw [outcome_bind_ok (outcome_pure ..)]
  have list : (callOr d .never (.handle (.query k i)) queryClass "_branches" [v, .str j.method] []
      (branchList d j.method v)).outcome st =
        (return .list (← branchesGiven d j.method 0 vs) : Act Value).outcome st := by
    rw [outcome_callOr_usual branches, branchList, listed]
  obtain ⟨e, mid, refused, kept, fs, hfs, uncopied⟩ | ⟨bs, mid, made, each, kept, same⟩ :=
    outcome_branchesGiven (d := d) j.method 0 given
  · refine .inl ⟨e, mid, outcome_bind_error ?_, fun plain => uncopied (plain fs hfs), kept.builds h⟩
    rw [list, outcome_bind_error refused]
  rw [outcome_bind_ok (list.trans (outcome_bind_ok made))]
  have plainly (plain : ∀ es ∈ ess, (Value.dict es).Plain) :
      (Value.dict [(.str j.key, .list bs)]).Plain := by
    refine .dict _ (by simpa using .str j.key) ?_
    simp only [List.mem_singleton, forall_eq]
    refine .list _ fun b hb => ?_
    rw [Value.Copied.plain_dicts each plain] at hb
    obtain ⟨es, hes, rfl⟩ := List.mem_map.mp hb
    exact plain es hes
  obtain ⟨e, refused, uncopied, -⟩ | ⟨u, last, copied, copies, held, still, -⟩ :=
    outcome_copy_cases (.dict [(.str j.key, .list bs)]) mid
  · exact .inl ⟨e, mid, outcome_bind_error refused, fun plain => uncopied (plainly plain),
      kept.builds h⟩
  obtain ⟨css, rfl⟩ := copies
  have key : (Value.str j.key).redone css = .str j.key := Value.redone_plain (.str _) css
  have done : q.apply (.restrict ((Value.dict [(.str j.key, .list bs)]).redone css)) =
      .ok { q with criteria := q.criteria.put (.str j.key) (.list (bs.map (Value.redone css))) } := by
    rw [Value.redone_dict, Entries.mapBoth, List.map_singleton, key, Value.redone_list]
    rfl
  obtain ⟨after, applied, changed, builds⟩ :=
    outcome_applyCall (d := d) ((kept.trans held).builds h) done
  refine .inr ⟨_, after, (outcome_bind_ok copied).trans applied, ⟨_, ?_, rfl⟩, builds, ?_⟩
  · exact List.forall₂_map_right_iff.mpr (each.imp fun _ _ copied => copied.trans ⟨css, rfl⟩)
  · intro plain
    rw [changed, still (plainly plain), same plain]

end Act

end DocMapper
