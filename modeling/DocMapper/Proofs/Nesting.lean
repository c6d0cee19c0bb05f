import DocMapper.Proofs.Combining
import DocMapper.Proofs.Comparing

/-!
Queries built out of queries.  An alternative is a mapping or a query, which may itself have been
built with alternatives, to any depth.  What is built comes to criteria of its own, and these do not
change if any of the queries inside gives way to its criteria.
-/

namespace DocMapper

mutual

/-- An alternative, as a mapping or by how a query is built for it. -/
inductive Branch
  | mapping (es : Entries)
  | query (kind : QueryKind) (criteria model : Value) (steps : List Step)

/-- A call on a query that is being built. -/
inductive Step
  | call (c : QueryCall)
  | join (j : Joint) (branches : List Branch)

end

namespace Branch

mutual

/-- The criteria that an alternative stands for. -/
def criteria (b : Branch) : Except Fault Entries :=
  match b with
  | .mapping es => .ok es
  | .query kind criteria model steps => do
    let q ← Query.start kind criteria model
    return (← built q steps).criteria
termination_by structural b

/-- The query after calls on it. -/
def built (q : Query) (steps : List Step) : Except Fault Query :=
  match steps with
  | [] => .ok q
  | .call c :: steps => do built (← q.apply c) steps
  | .join j bs :: steps => do
    let ess ← criteriaOfAll bs
    built (← q.apply (j.call (.list (ess.map .dict)))) steps
termination_by structural steps

def criteriaOfAll (bs : List Branch) : Except Fault (List Entries) :=
  match bs with
  | [] => .ok []
  | b :: bs => do
    let es ← criteria b
    return es :: (← criteriaOfAll bs)
termination_by structural bs

end

section

variable (d : Dispatch)

mutual

/-- Builds what is to be given as an alternative. -/
def make (b : Branch) : Act Value :=
  match b with
  | .mapping es => return .dict es
  | .query kind criteria model steps => do
    let self ← Act.startQuery kind criteria model
    follow self steps
    return self
termination_by structural b

def follow (self : Value) (steps : List Step) : Act Unit :=
  match steps with
  | [] => return
  | .call c :: steps => do
    let _ ← Act.callQuery d self c
    follow self steps
  | .join j bs :: steps => do
    let vs ← makeAll bs
    let _ ← Act.callQuery d self (j.call (.list vs))
    follow self steps
termination_by structural steps

def makeAll (bs : List Branch) : Act (List Value) :=
  match bs with
  | [] => return []
  | b :: bs => do
    let v ← make b
    return v :: (← makeAll bs)
termination_by structural bs

end

end

end Branch

theorem Value.plain_dict {es : Entries} :
    (Value.dict es).Plain ↔ ∀ e ∈ es, e.1.Plain ∧ e.2.Plain := by
  constructor
  · rintro ⟨⟩ e he
    rename_i keys values
    exact ⟨keys e he, values e he⟩
  · exact fun h => .dict es (fun e he => (h e he).1) fun e he => (h e he).2

theorem Value.plain_empty : (Value.dict []).Plain :=
  .dict [] (List.forall_mem_nil _) (List.forall_mem_nil _)

theorem Value.Plain.entries {v : Value} {es : Entries} (h : v.Plain) (found : v.entries? = some es) :
    (Value.dict es).Plain := by
  cases h <;> cases found
  all_goals exact .dict es ‹_› ‹_›

namespace Entries

variable {es fs : Entries} {k v : Value}

theorem plain_put (old : (Value.dict es).Plain) (key : k.Plain) (value : v.Plain) :
    (Value.dict (es.put k v)).Plain := by
  rw [Value.plain_dict] at old ⊢
  obtain ⟨-, -, put⟩ | ⟨fs, l, w, gs, rfl, -, -, -, put⟩ := es.around k
  · rw [put]
    exact List.forall_mem_append.mpr ⟨old, by simpa using ⟨key, value⟩⟩
  · rw [put]
    rw [List.forall_mem_append, List.forall_mem_cons] at old ⊢
    exact ⟨old.1, ⟨old.2.1.1, value⟩, old.2.2⟩

theorem plain_merge (old : (Value.dict es).Plain) (new : (Value.dict fs).Plain) :
    (Value.dict (es.merge fs)).Plain := by
  induction fs generalizing es with
  | nil => exact old
  | cons e fs ih =>
    rw [Value.plain_dict, List.forall_mem_cons, ← Value.plain_dict] at new
    exact ih (plain_put old new.1.1 new.1.2) new.2

theorem plain_field? {name : String} (h : (Value.dict es).Plain) (found : es.field? name = some v) :
    v.Plain := by
  obtain ⟨e, here, rfl⟩ := Option.map_eq_some_iff.mp found
  exact (Value.plain_dict.mp h e (List.mem_of_find?_eq_some here)).2

end Entries

/-- A call on a query with plain data, other than for alternatives. -/
def QueryCall.Data : QueryCall → Prop
  | .restrict v | .compare _ _ v | .members _ _ v => v.Plain
  | .every _ | .either _ => False
  | _ => True

namespace Query

variable {q r : Query} {c : QueryCall}

theorem plain_constrain {criteria : Entries} (h : (Value.dict criteria).Plain) (f : String)
    (op : Operator) {v : Value} (plain : v.Plain) :
    (Value.dict (constrain criteria f op v)).Plain := by
  have operators : (Value.dict (operatorsAt criteria f)).Plain := by
    rw [operatorsAt]
    split
    · exact Value.plain_empty
    next w found =>
      have under := Entries.plain_field? h found
      split
      next =>
        cases entries : w.entries? with
        | some es => exact under.entries entries
        | none => exact Value.plain_empty
      next => exact Value.plain_dict.mpr (by simpa using ⟨.str _, under⟩)
  exact Entries.plain_put h (.str f) (Entries.plain_put operators (.str op.key) plain)

theorem branchesFrom_dicts (method : String) (index : Nat) (ess : List Entries) :
    branchesFrom method index (ess.map .dict) = .ok (ess.map .dict) := by
  induction ess generalizing index with
  | nil => rfl
  | cons es ess ih =>
    rw [List.map_cons, branchesFrom, ih (index + 1)]
    rfl

/-- Criteria as alternatives are put under their key. -/
theorem apply_join (q : Query) (j : Joint) (ess : List Entries) :
    q.apply (j.call (.list (ess.map .dict))) =
      .ok { q with criteria := q.criteria.put (.str j.key) (.list (ess.map .dict)) } := by
  cases j
  all_goals
    simp only [Joint.call, apply, branches, Value.listed?, branchesFrom_dicts]
    rfl

/-- Calls with plain data keep criteria plain data. -/
theorem plain_apply (data : c.Data) (plain : (Value.dict q.criteria).Plain)
    (done : q.apply c = .ok r) : (Value.dict r.criteria).Plain := by
  have compared {op : Operator} {field v : Value} (value : v.Plain)
      (done : q.compare op field v = .ok r) : (Value.dict r.criteria).Plain := by
    rw [compare] at done
    split at done <;> cases done
    exact plain_constrain plain _ op value
  cases c with
  | restrict v =>
    obtain ⟨es, mapped, done⟩ := Except.of_bind_eq_ok done
    cases done
    exact Entries.plain_merge plain (data.entries (Argument.mapping_eq_ok.mp mapped))
  | compare op field v => exact compared data done
  | members op field v =>
    simp only [apply] at done
    split at done
    next xs listed =>
      have members : (Value.list xs).Plain := by
        cases data <;> cases listed <;> exact .list _ ‹_›
      exact compared members done
    next => cases done
  | present field v =>
    simp only [apply] at done
    split at done
    next => exact compared (.bool _) done
    next => cases done
  | every v => exact data.elim
  | either v => exact data.elim
  | sort fields =>
    obtain ⟨es, -, done⟩ := Except.of_bind_eq_ok done
    obtain ⟨merged, -, done⟩ := Except.of_bind_eq_ok done
    cases done
    exact plain
  | _ =>
    obtain ⟨x, -, done⟩ := Except.of_bind_eq_ok done
    cases done
    exact plain

end Query
namespace Branch

mutual

/-- Queries of the library, built with plain data. -/
def Data (b : Branch) : Prop :=
  match b with
  | .mapping es => (Value.dict es).Plain
  | .query kind criteria _ steps =>
    (kind = .unbound ∨ kind = .bound) ∧ criteria.Plain ∧ DataOfSteps steps
termination_by structural b

def DataOfSteps (steps : List Step) : Prop :=
  match steps with
  | [] => True
  | .call c :: steps => c.Data ∧ DataOfSteps steps
  | .join _ bs :: steps => DataOfAll bs ∧ DataOfSteps steps
termination_by structural steps

def DataOfAll (bs : List Branch) : Prop :=
  match bs with
  | [] => True
  | b :: bs => Data b ∧ DataOfAll bs
termination_by structural bs

end

end Branch

/-- Nothing is done to the first of the queries, nor to what was set on anything. -/
structure Store.Leaves (st : Store) (first : Nat) (after : Store) : Prop where
  setting : after.setting = st.setting
  grown : st.queries.size ≤ after.queries.size
  kept : ∀ i < first, after.queries[i]? = st.queries[i]?

namespace Store.Leaves

variable {st mid after : Store} {n m : Nat}

theorem refl (st : Store) (n : Nat) : st.Leaves n st := ⟨rfl, Nat.le_refl _, fun _ _ => rfl⟩

theorem below (h : st.Leaves n after) (less : m ≤ n) : st.Leaves m after :=
  ⟨h.setting, h.grown, fun i hi => h.kept i (Nat.lt_of_lt_of_le hi less)⟩

theorem trans (h : st.Leaves n mid) (k : mid.Leaves m after) (more : n ≤ m) : st.Leaves n after :=
  ⟨k.setting.trans h.setting, Nat.le_trans h.grown k.grown, fun i hi =>
    (k.kept i (Nat.lt_of_lt_of_le hi more)).trans (h.kept i hi)⟩

theorem builds {k : QueryKind} {i : Nat} {q : Query} (h : st.Leaves n after) (spared : i < n)
    (b : st.Builds k i q) : after.Builds k i q :=
  b.of_setting h.setting ((h.kept i spared).trans b.query) b.held b.instead

theorem stands {v : Value} {es : Entries} (h : st.Leaves st.queries.size after)
    (stands : st.Stands v es) : after.Stands v es := by
  obtain mapping | ⟨k, i, q, rfl, builds, criteria⟩ := stands
  · exact .inl mapping
  · have there := (Array.getElem?_eq_some_iff.mp builds.query).1
    exact .inr ⟨k, i, q, rfl, h.builds there builds, criteria⟩

theorem requeried {i : Nat} {q : Query} (same : after.beyond = (st.requeried i q).beyond) :
    st.Leaves i after := by
  have setting : after.setting = (st.requeried i q).setting := setting_of_beyond same
  have queries : after.queries = (st.requeried i q).queries := by
    change after.beyond.queries = (st.requeried i q).beyond.queries
    rw [same]
  refine ⟨setting, ?_, fun j hj => ?_⟩
  · rw [queries]
    simp [Store.requeried]
  · rw [queries, Store.requeried, Array.getElem?_setIfInBounds_ne (by omega)]

end Store.Leaves

/-- Nothing was set on the classes of the library, nor on queries that are still to come. -/
structure Store.Blank (st : Store) : Prop where
  pristine : st.registry.Pristine
  bare : ∀ k i, st.queries.size ≤ i → st.Bare (.query k i)

theorem Store.Blank.leaves {st after : Store} {n : Nat} (h : st.Blank) (spares : st.Leaves n after) :
    after.Blank := by
  have registry : after.registry = st.registry := congrArg Setting.registry spares.setting
  refine ⟨registry ▸ h.pristine, fun k i hi => ?_⟩
  exact (h.bare k i (Nat.le_trans spares.grown hi)).of_setting spares.setting

namespace Act

variable {d : Dispatch} {st : Store} {k : QueryKind} {i : Nat} {q r : Query}

/-- A call that takes plain data does what a query by itself does. -/
theorem outcome_direct {c : QueryCall} (h : st.Builds k i q) (data : c.Data)
    (done : q.apply c = .ok r) :
    ∃ after, (callQuery d (.handle (.query k i)) c).outcome st =
      (.ok (.handle (.query k i)), after) ∧ st.Leaves i after ∧ after.Builds k i r := by
  have plainly (other : callQuery d (.handle (.query k i)) c =
      plainCall d (.handle (.query k i)) c) :
      ∃ after, (callQuery d (.handle (.query k i)) c).outcome st =
        (.ok (.handle (.query k i)), after) ∧ st.Leaves i after ∧ after.Builds k i r := by
    obtain ⟨usual, -⟩ := h.usual "_compare" _ rfl
    obtain ⟨after, applied, changed, builds⟩ := outcome_applyCall (d := d) h done
    refine ⟨after, ?_, .requeried changed, builds⟩
    rw [other, plainCall, outcome_bind_ok (outcome_get st), if_pos usual, applied]
  cases c with
  | restrict v =>
    obtain ⟨es, mapped, done⟩ := Except.of_bind_eq_ok done
    cases done
    have entries := Argument.mapping_eq_ok.mp mapped
    obtain ⟨e, after, -, uncopied, -⟩ | ⟨new, after, called, ⟨cs, copies, rfl⟩, builds, changed⟩ :=
      changes_restrict (d := d) h entries
    · exact absurd data uncopied
    · obtain rfl := copies.plain (data.entries entries)
      exact ⟨after, called, .requeried (changed data), builds⟩
  | every v => exact data.elim
  | either v => exact data.elim
  | _ => exact plainly rfl

theorem outcome_joining {j : Joint} {vs : List Value} {ess : List Entries} (h : st.Builds k i q)
    (given : List.Forall₂ st.Stands vs ess) (plain : ∀ es ∈ ess, (Value.dict es).Plain) :
    ∃ after, (callQuery d (.handle (.query k i)) (j.call (.list vs))).outcome st =
        (.ok (.handle (.query k i)), after) ∧ st.Leaves i after ∧
      after.Builds k i
        { q with criteria := q.criteria.put (.str j.key) (.list (ess.map .dict)) } := by
  obtain ⟨e, after, -, uncopied, -⟩ | ⟨new, after, called, ⟨bs, copies, rfl⟩, builds, changed⟩ :=
    changes_join (d := d) h j (v := .list vs) rfl given
  · exact absurd plain uncopied
  · obtain rfl := Value.Copied.plain_dicts copies plain
    exact ⟨after, called, .requeried (changed plain), builds⟩

/-- A new query comes after those that there are. -/
theorem outcome_startQuery {criteria model : Value} (blank : st.Blank)
    (kind : k = .unbound ∨ k = .bound) (plain : criteria.Plain)
    (started : Query.start k criteria model = .ok q) :
    ∃ after, (startQuery k criteria model).outcome st =
        (.ok (.handle (.query k st.queries.size)), after) ∧
      st.Leaves st.queries.size after ∧ after.Builds k st.queries.size q ∧
      (Value.dict q.criteria).Plain := by
  obtain ⟨es, rfl, given⟩ := Query.start_eq_ok started
  let q : Query := { kind := k, criteria := es, options := .empty, model }
  have spares : st.Leaves st.queries.size { st with queries := st.queries.push q } :=
    ⟨rfl, by simp, fun i hi => Array.getElem?_push_lt hi ▸ (Array.getElem?_eq_getElem hi).symm⟩
  have bare := (blank.bare k st.queries.size (Nat.le_refl _)).of_setting spares.setting
  have query : (st.queries.push q)[st.queries.size]? = some q := Array.getElem?_push_size
  refine ⟨_, ?_, spares, ?_, ?_⟩
  · rw [startQuery, started, outcome_bind_ok (outcome_ofExcept ..),
      outcome_bind_ok (outcome_copy plain st), started, outcome_bind_ok (outcome_ofExcept ..)]
    rfl
  · obtain rfl | rfl := kind
    · exact .of_bare bare blank.pristine rfl (.inl rfl) query rfl rfl
    · exact .of_bare bare blank.pristine rfl (.inr rfl) query rfl rfl
  · obtain rfl | entries := given
    · exact Value.plain_empty
    · exact plain.entries entries

end Act

namespace Branch

variable {d : Dispatch}

mutual

/-- What is built for an alternative stands for the criteria that it comes to. -/
theorem outcome_make (b : Branch) {st : Store} {es : Entries} (data : b.Data)
    (ok : b.criteria = .ok es) (blank : st.Blank) :
    ∃ v after, (b.make d).outcome st = (.ok v, after) ∧ st.Leaves st.queries.size after ∧
      after.Stands v es ∧ (Value.dict es).Plain := by
  match b with
  | .mapping fs =>
    cases ok
    exact ⟨.dict es, st, rfl, .refl st _, .inl rfl, data⟩
  | .query k criteria model steps =>
    obtain ⟨kind, plain, stepsData⟩ := data
    obtain ⟨q, started, ok⟩ := Except.of_bind_eq_ok ok
    obtain ⟨r, done, ok⟩ := Except.of_bind_eq_ok ok
    cases ok
    obtain ⟨mid, made, spares, builds, simple⟩ := Act.outcome_startQuery blank kind plain started
    obtain ⟨after, followed, spared, built, plainly⟩ :=
      outcome_follow steps stepsData done builds simple (blank.leaves spares)
    refine ⟨_, after, ?_, spares.trans spared (Nat.le_refl _), .inr ⟨k, _, r, rfl, built, rfl⟩,
      plainly⟩
    rw [make, Act.outcome_bind_ok made, Act.outcome_bind_ok followed]
    rfl
termination_by structural b

theorem outcome_follow (steps : List Step) {st : Store} {k : QueryKind} {i : Nat} {q r : Query}
    (data : DataOfSteps steps) (done : built q steps = .ok r) (h : st.Builds k i q)
    (plain : (Value.dict q.criteria).Plain) (blank : st.Blank) :
    ∃ after, (follow d (.handle (.query k i)) steps).outcome st = (.ok (), after) ∧
      st.Leaves i after ∧ after.Builds k i r ∧ (Value.dict r.criteria).Plain := by
  match steps with
  | [] =>
    cases done
    exact ⟨st, rfl, .refl st i, h, plain⟩
  | .call c :: steps =>
    obtain ⟨now, later⟩ := data
    obtain ⟨p, applied, done⟩ := Except.of_bind_eq_ok done
    obtain ⟨mid, called, spares, builds⟩ := Act.outcome_direct (d := d) h now applied
    obtain ⟨after, followed, spared, built, plainly⟩ :=
      outcome_follow steps later done builds (Query.plain_apply now plain applied)
        (blank.leaves spares)
    refine ⟨after, ?_, spares.trans spared (Nat.le_refl i), built, plainly⟩
    rw [follow, Act.outcome_bind_ok called, followed]
  | .join j bs :: steps =>
    obtain ⟨now, later⟩ := data
    obtain ⟨ess, listed, done⟩ := Except.of_bind_eq_ok done
    obtain ⟨p, applied, done⟩ := Except.of_bind_eq_ok done
    obtain ⟨vs, mid, made, spares, given, simple⟩ := outcome_makeAll bs now listed blank
    have there : i < st.queries.size := (Array.getElem?_eq_some_iff.mp h.query).1
    obtain ⟨last, called, spared, builds⟩ :=
      Act.outcome_joining (d := d) (j := j) (spares.builds there h) given simple
    have joined := Query.apply_join q j ess
    rw [joined] at applied
    cases applied
    obtain ⟨after, followed, left, built, plainly⟩ :=
      outcome_follow steps later done builds
        (Entries.plain_put plain (.str j.key) (.list _ (List.forall_mem_map.mpr simple)))
        ((blank.leaves spares).leaves spared)
    have before := (spares.below (Nat.le_of_lt there)).trans spared (Nat.le_refl i)
    refine ⟨after, ?_, before.trans left (Nat.le_refl i), built, plainly⟩
    rw [follow, Act.outcome_bind_ok made, Act.outcome_bind_ok called, followed]
termination_by structural steps

theorem outcome_makeAll (bs : List Branch) {st : Store} {ess : List Entries}
    (data : DataOfAll bs) (ok : criteriaOfAll bs = .ok ess) (blank : st.Blank) :
    ∃ vs after, (makeAll d bs).outcome st = (.ok vs, after) ∧ st.Leaves st.queries.size after ∧
      List.Forall₂ after.Stands vs ess ∧ ∀ es ∈ ess, (Value.dict es).Plain := by
  match bs with
  | [] =>
    cases ok
    exact ⟨[], st, rfl, .refl st _, .nil, nofun⟩
  | b :: bs =>
    obtain ⟨now, later⟩ := data
    obtain ⟨es, first, ok⟩ := Except.of_bind_eq_ok ok
    obtain ⟨fs, rest, ok⟩ := Except.of_bind_eq_ok ok
    cases ok
    obtain ⟨v, mid, made, spares, stands, plain⟩ := outcome_make b now first blank
    obtain ⟨vs, after, others, spared, given, plains⟩ :=
      outcome_makeAll bs later rest (blank.leaves spares)
    refine ⟨v :: vs, after, ?_, spares.trans spared spares.grown, .cons (spared.stands stands) given,
      List.forall_mem_cons.mpr ⟨plain, plains⟩⟩
    rw [makeAll, Act.outcome_bind_ok made, Act.outcome_bind_ok others]
    rfl
termination_by structural bs

end

end Branch

/-- A place in what is built where an alternative may stand. -/
inductive Context
  | here
  | within (kind : QueryKind) (criteria model : Value) (before : List Step) (j : Joint)
      (left : List Branch) (inner : Context) (right : List Branch) (later : List Step)

namespace Context

/-- What is built with an alternative in the place. -/
def plug : Context → Branch → Branch
  | here, b => b
  | within kind criteria model before j left inner right later, b =>
    .query kind criteria model (before ++ .join j (left ++ inner.plug b :: right) :: later)

end Context

namespace Branch

variable {b c : Branch} {es : Entries}

theorem criteriaOfAll_congr (same : b.criteria = c.criteria) (left right : List Branch) :
    criteriaOfAll (left ++ b :: right) = criteriaOfAll (left ++ c :: right) := by
  induction left with
  | nil => simp only [List.nil_append, criteriaOfAll, same]
  | cons a left ih => simp only [List.cons_append, criteriaOfAll, ih]

theorem built_congr {bs cs : List Branch} (same : criteriaOfAll bs = criteriaOfAll cs) (j : Joint)
    (before later : List Step) (q : Query) :
    built q (before ++ .join j bs :: later) = built q (before ++ .join j cs :: later) := by
  induction before generalizing q with
  | nil => simp only [List.nil_append, built, same]
  | cons step before ih => cases step <;> simp only [List.cons_append, built, ih]

/-- Alternatives that come to the same criteria may stand for one another at any place. -/
theorem criteria_plug (same : b.criteria = c.criteria) (ctx : Context) :
    (ctx.plug b).criteria = (ctx.plug c).criteria := by
  induction ctx with
  | here => exact same
  | within kind criteria model before j left inner right later ih =>
    simp only [Context.plug, Branch.criteria, built_congr (criteriaOfAll_congr ih left right)]

theorem dataOfAll_append (bs cs : List Branch) :
    DataOfAll (bs ++ cs) ↔ DataOfAll bs ∧ DataOfAll cs := by
  induction bs with
  | nil => simp [DataOfAll]
  | cons b bs ih => simp [DataOfAll, ih, and_assoc]

theorem dataOfSteps_append (ss ts : List Step) :
    DataOfSteps (ss ++ ts) ↔ DataOfSteps ss ∧ DataOfSteps ts := by
  induction ss with
  | nil => simp [DataOfSteps]
  | cons s ss ih => cases s <;> simp [DataOfSteps, ih, and_assoc]

theorem data_plug (ctx : Context) :
    (ctx.plug b).Data → b.Data ∧ ∀ c : Branch, c.Data → (ctx.plug c).Data := by
  induction ctx with
  | here => exact fun data => ⟨data, fun _ => id⟩
  | within kind criteria model before j left inner right later ih =>
    intro data
    simp only [Context.plug, Data, dataOfSteps_append, DataOfSteps, dataOfAll_append,
      DataOfAll] at data ⊢
    obtain ⟨known, plain, first, ⟨lefts, inside, rights⟩, rest⟩ := data
    obtain ⟨mine, others⟩ := ih inside
    exact ⟨mine, fun c dataC => ⟨known, plain, first, ⟨lefts, others c dataC, rights⟩, rest⟩⟩

end Branch

/-- Criteria that old ones come to by merging others in: documents meet them if they meet the old ones
under other keys, and those that were merged in. -/
def Entries.Narrowed (old cs new : Entries) : Prop :=
  new = old.merge cs ∧ ∀ (s : Store) (doc : Value) (r t : Bool), s.Shows old → s.Shows cs →
    old.Merges cs → s.Decides doc (old.lacking cs ++ cs) →
    s.holds doc (.dict (old.lacking cs)) = .ok r → s.holds doc (.dict cs) = .ok t →
    s.holds doc (.dict new) = .ok (r && t)

/-- Criteria that old ones come to by alternatives: documents meet them if they meet the old ones but
for earlier alternatives of the kind, and these as the kind says. -/
def Joint.Narrowed (j : Joint) (old : Entries) (bs : List Value) (new : Entries) : Prop :=
  new = old.put (.str j.key) (.list bs) ∧ ∀ (s : Store) (doc : Value) (r : Bool) (ts : List Bool),
    s.Shows old → s.holds doc (.dict (old.without (.str j.key))) = .ok r →
    List.Forall₂ (fun b t => s.holds doc b = .ok t) bs ts →
    s.holds doc (.dict new) = .ok (r && j.met ts)

/-- Restrictions and alternatives compose: each call asks for copies of what it was given beside what
was asked for under other keys, and what is built out of queries, to any depth, comes to the same
criteria if one of them gives way to what it says of its own. -/
theorem criteria_compose (names : Names) (n : Nat) :
    (∀ (args : List Value) (named : Entries) {st : Store} {k : QueryKind} {i : Nat} {q : Query}
      {m : Method} {a : Arguments} {es : Entries}, st.Builds k i q →
      Interface.queryMembers.lookup "where" = some (.method m) →
      m.bind (.handle (.query k i) :: args) named = .ok a → (a.at 1).entries? = some es →
      st.Changes k i q (a.at 1).Plain
        (fun new => ∃ cs, es.Copied cs ∧ q.criteria.Narrowed cs new)
        (((dispatch names (n + 1)).call .never (.handle (.query k i)) "where" args named).outcome
          st)) ∧
    (∀ (j : Joint) (args : List Value) (named : Entries) {st : Store} {k : QueryKind} {i : Nat}
      {q : Query} {m : Method} {a : Arguments} {vs : List Value} {ess : List Entries},
      st.Builds k i q → Interface.queryMembers.lookup j.method = some (.method m) →
      m.bind (.handle (.query k i) :: args) named = .ok a → (a.at 1).listed? = some vs →
      List.Forall₂ st.Stands vs ess →
      st.Changes k i q (∀ es ∈ ess, (Value.dict es).Plain)
        (fun new => ∃ bs, List.Forall₂ (fun es b => (Value.dict es).Copied b) ess bs ∧
          j.Narrowed q.criteria bs new)
        (((dispatch names (n + 1)).call .never (.handle (.query k i)) j.method args named).outcome
          st)) ∧
    ∀ (ctx : Context) (b : Branch) (es cs : Entries) {st st' : Store}, st.Blank → st'.Blank →
      (ctx.plug b).Data → b.criteria = .ok es → (ctx.plug b).criteria = .ok cs →
      ∃ u v v' mid after after', (b.make (dispatch names n)).outcome st = (.ok u, mid) ∧
        (Act.isQuery u → (Act.queryJson (dispatch names n) u).outcome mid = (.ok (.dict es), mid)) ∧
        ((ctx.plug b).make (dispatch names n)).outcome st = (.ok v, after) ∧
        ((ctx.plug (.mapping es)).make (dispatch names n)).outcome st' = (.ok v', after') ∧
        after.Stands v cs ∧ after'.Stands v' cs := by
  refine ⟨?_, ?_, ?_⟩
  · intro args named st k i q m a es h found bind entries
    rw [Act.outcome_queryMethod h found bind rfl]
    obtain ⟨e, after, failed, kept⟩ | ⟨new, after, called, ⟨cs, copied, rfl⟩, kept⟩ :=
      Act.changes_restrict (d := dispatch names n) h.identified entries
    · exact .inl ⟨e, after, failed, kept⟩
    · refine .inr ⟨_, after, called, ⟨cs, copied, rfl, ?_⟩, kept⟩
      exact fun s doc r t old new merges decided rest asked =>
        Store.holds_merge old new merges decided rest asked
  · intro j args named st k i q m a vs ess h found bind listed given
    rw [Act.outcome_queryMethod h found bind (j.ofMethod?_method a)]
    obtain ⟨e, after, failed, kept⟩ | ⟨new, after, called, ⟨bs, copied, rfl⟩, kept⟩ :=
      Act.changes_join (d := dispatch names n) h.identified j listed
        (given.imp fun _ _ => (Store.Retains.identified st).stands)
    · exact .inl ⟨e, after, failed, kept⟩
    · refine .inr ⟨_, after, called, ⟨bs, copied, rfl, ?_⟩, kept⟩
      exact fun s doc r ts shows rest each => j.holds_put shows rest each
  · intro ctx b es cs st st' blank blank' data inner outer
    obtain ⟨mine, others⟩ := Branch.data_plug ctx data
    obtain ⟨u, mid, made, spares, stands, plain⟩ := b.outcome_make (d := dispatch names n) mine
      inner blank
    obtain ⟨v, after, whole, -, comes, -⟩ := (ctx.plug b).outcome_make data outer blank
    have swapped : (ctx.plug (.mapping es)).criteria = .ok cs :=
      (Branch.criteria_plug (b := .mapping es) inner.symm ctx).trans outer
    obtain ⟨v', after', whole', -, comes', -⟩ :=
      (ctx.plug (.mapping es)).outcome_make (others (.mapping es) plain) swapped blank'
    refine ⟨u, v, v', mid, after, after', made, fun query => ?_, whole, whole', comes, comes'⟩
    obtain mapping | ⟨k, i, q, rfl, builds, rfl⟩ := stands
    · cases u <;> cases mapping <;> cases query
    · rw [Act.outcome_queryJson_copy builds, Act.outcome_copy plain]

/-- A query for one name or another, the first as a query. -/
def Branch.named (first : Branch) : Branch :=
  .query .unbound .null .null
    [.join .either [first, .mapping [(.str "name", .str "Bo")]], .call (.skip (.int 1))]

def Branch.ann : Branch :=
  .query .unbound .null .null [.call (.compare .eq (.str "name") (.str "Ann"))]

def Entries.ann : Entries := [(.str "name", .dict [(.str "$eq", .str "Ann")])]

def Entries.named : Entries :=
  [(.str "$or", .list [.dict ann, .dict [(.str "name", .str "Bo")]])]

theorem criteria_compose_named :
    (∃ after es, ((dispatch [] 1).call .never (.handle (.query .unbound 0)) "where"
        [.dict [(.str "name", .str "Ann")]] []).outcome Store.adults =
          (.ok (.handle (.query .unbound 0)), after) ∧
      Store.adults.holds (.dict [(.str "name", .str "Ann"), (.str "age", .int 40)]) (.dict es) =
        .ok true) ∧
    (∃ after es, ((dispatch [] 1).call .never (.handle (.query .unbound 0)) "and_"
        [.list [.handle (.query .unbound 0), .dict [(.str "name", .str "Bo")]]] []).outcome
          Store.adults = (.ok (.handle (.query .unbound 0)), after) ∧
      Store.adults.holds (.dict [(.str "name", .str "Ann"), (.str "age", .int 40)]) (.dict es) =
        .ok false) ∧
    ∃ v v' after after', ((Branch.named .ann).make (dispatch [] 0)).outcome {} = (.ok v, after) ∧
      ((Branch.named (.mapping .ann)).make (dispatch [] 0)).outcome Store.adults =
        (.ok v', after') ∧
      after.Stands v .named ∧ after'.Stands v' .named := by
  obtain ⟨restricts, joins, nests⟩ := criteria_compose [] 0
  have plain (s : String) : (Value.dict [(.str "name", .str s)]).Plain :=
    Value.plain_dict.mpr (by simpa using ⟨.str _, .str _⟩)
  have adults : (Value.dict (Store.adults.queries.getD 0 default).criteria).Plain :=
    Value.plain_dict.mpr (by
      simpa [Store.adults] using
        ⟨.str _, Value.plain_dict.mpr (by simpa using ⟨.str _, .int _⟩)⟩)
  have stands : Store.adults.Stands (.handle (.query .unbound 0))
      (Store.adults.queries.getD 0 default).criteria :=
    .inr ⟨_, _, _, rfl, Store.builds_adults, rfl⟩
  refine ⟨?_, ?_, ?_⟩
  · obtain ⟨e, after, -, uncopied, -⟩ | ⟨es, after, called, ⟨cs, copied, -, law⟩, -⟩ :=
      restricts [.dict [(.str "name", .str "Ann")]] [] Store.builds_adults rfl rfl rfl
    · exact absurd (plain "Ann") uncopied
    obtain rfl := copied.plain (plain "Ann")
    refine ⟨after, es, called, law Store.adults _ true true Store.tells_adults.shows ?_ ?_ ?_ rfl rfl⟩
    · intro e he
      rw [List.mem_singleton.mp he, Store.comparable_str]
    · refine Entries.Texts.merges ?_ ?_ (List.pairwise_singleton ..)
        (List.pairwise_singleton ..)
      all_goals
        intro e he
        exact ⟨_, by rw [List.mem_singleton.mp he]⟩
    · exact List.forall_mem_cons.mpr ⟨⟨true, rfl⟩, List.forall_mem_cons.mpr ⟨⟨true, rfl⟩, nofun⟩⟩
  · obtain ⟨e, after, -, uncopied, -⟩ | ⟨es, after, called, ⟨bs, copied, -, law⟩, -⟩ :=
      joins .every [.list [.handle (.query .unbound 0), .dict [(.str "name", .str "Bo")]]] []
        Store.builds_adults rfl rfl rfl (.cons stands (.cons (.inl rfl) .nil))
    all_goals
      have all : ∀ es ∈ [(Store.adults.queries.getD 0 default).criteria,
          [(.str "name", .str "Bo")]], (Value.dict es).Plain :=
        List.forall_mem_cons.mpr ⟨adults, List.forall_mem_cons.mpr ⟨plain "Bo", nofun⟩⟩
    · exact absurd all uncopied
    obtain rfl := Value.Copied.plain_dicts copied all
    exact ⟨after, es, called, law Store.adults _ true [true, false] Store.tells_adults.shows rfl
      (.cons rfl (.cons rfl .nil))⟩
  · have blank (st : Store) (registry : st.registry = .initial) (extras : st.extras = [])
        (refined : st.refined = []) : st.Blank := by
      refine ⟨fun _ _ => ?_, fun _ _ _ => ⟨fun _ => ?_, ?_⟩⟩
      · rw [registry]
        rfl
      · rw [extras]
        rfl
      · rw [refined]
        rfl
    obtain ⟨-, v, v', -, after, after', -, -, made, made', stands, stands'⟩ :=
      nests (.within .unbound .null .null [] .either [] .here [.mapping [(.str "name", .str "Bo")]]
        [.call (.skip (.int 1))]) .ann .ann .named (blank {} rfl rfl rfl) (blank Store.adults rfl rfl rfl)
        ⟨.inl rfl, .null, ⟨⟨.inl rfl, .null, .str _, trivial⟩, plain "Bo", trivial⟩, trivial, trivial⟩
        rfl rfl
    exact ⟨v, v', after, after', made, made', stands, stands'⟩

end DocMapper
