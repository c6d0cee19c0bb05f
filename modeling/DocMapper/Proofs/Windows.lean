import DocMapper.Proofs.Outcome

/-!
Which documents a query asks for: those that satisfy its criteria, without the first that it skips,
and as many of them as it limits itself to.
-/

namespace DocMapper

theorem Except.of_bind_eq_ok {x : Except ε α} {f : α → Except ε β} {b : β}
    (h : x >>= f = .ok b) : ∃ a, x = .ok a ∧ f a = .ok b := by
  cases x with
  | error e => cases h
  | ok a => exact ⟨a, rfl, h⟩

namespace Criteria

/-- The documents that satisfy criteria. -/
def chosen (criteria : Value) (ds : List Value) : List Value :=
  ds.filter fun d => (holds d criteria).toOption.getD false

theorem chosen_subset (criteria : Value) (ds : List Value) : chosen criteria ds ⊆ ds :=
  List.filter_sublist.subset

/-- Criteria that fail on no document choose those that satisfy them. -/
theorem selectBy_eq_filter {document : α → Value} {criteria : Value} {xs : List α}
    (decided : ∀ x ∈ xs, ∃ b, holds (document x) criteria = .ok b) :
    selectBy document criteria xs =
      .ok (xs.filter fun x => (holds (document x) criteria).toOption.getD false) := by
  induction xs with
  | nil => rfl
  | cons x xs ih =>
    obtain ⟨b, hb⟩ := decided x List.mem_cons_self
    rw [selectBy, hb, ih fun y hy => decided y (List.mem_cons_of_mem x hy), List.filter_cons, hb]
    cases b <;> rfl

theorem selectBy_map {β : Type} (f : β → α) (document : α → Value) (criteria : Value) (xs : List β) :
    selectBy document criteria (xs.map f) =
      (selectBy (document ∘ f) criteria xs).map (List.map f) := by
  induction xs with
  | nil => rfl
  | cons x xs ih =>
    rw [List.map_cons, selectBy, selectBy, ih, Function.comp_apply]
    cases holds (document (f x)) criteria with
    | error e => rfl
    | ok b => cases selectBy (document ∘ f) criteria xs <;> cases b <;> rfl

/-- Criteria that select fail on no document. -/
theorem decided_of_selectBy {document : α → Value} {criteria : Value} {xs found : List α}
    (done : selectBy document criteria xs = .ok found) :
    ∀ x ∈ xs, ∃ b, holds (document x) criteria = .ok b := by
  induction xs generalizing found with
  | nil => simp
  | cons x xs ih =>
    rw [selectBy] at done
    cases here : holds (document x) criteria with
    | error e =>
      rw [here] at done
      cases done
    | ok b =>
      cases others : selectBy document criteria xs with
      | error e =>
        rw [here, others] at done
        cases done
      | ok rest => exact List.forall_mem_cons.mpr ⟨⟨b, here⟩, ih others⟩

theorem select_eq_chosen {criteria : Value} {ds found : List Value}
    (done : select criteria ds = .ok found) :
    (∀ v ∈ ds, ∃ b, holds v criteria = .ok b) ∧ found = chosen criteria ds := by
  have decided := decided_of_selectBy done
  rw [select, selectBy_eq_filter decided] at done
  exact ⟨decided, (Except.ok.inj done).symm⟩

end Criteria

def Value.number : Value → Nat
  | .int n => n.toNat
  | _ => 0

/-- What a list is cut down to; a limit of zero is none. -/
def windowed (skip limit : Value) (xs : List α) : List α :=
  if limit.number = 0 then xs.drop skip.number else (xs.drop skip.number).take limit.number

theorem windowed_subset (skip limit : Value) (xs : List α) : windowed skip limit xs ⊆ xs := by
  unfold windowed
  split
  · exact List.drop_subset ..
  · exact List.Subset.trans (List.take_subset ..) (List.drop_subset ..)

theorem windowed_one (skip limit : Value) (xs : List α) :
    windowed skip (.int 1) xs = (windowed skip limit xs).take 1 := by
  have one : windowed skip (.int 1) xs = (xs.drop skip.number).take 1 := rfl
  rw [one, windowed]
  split
  · rfl
  · rw [List.take_take, Nat.min_eq_left (by omega)]

/-- An option that is unset, or a number of documents. -/
def Value.IsCount (v : Value) : Prop := v = .null ∨ ∃ n : Nat, v = .int n

@[simp] theorem itemsFrom_zero (xs : List α) : itemsFrom 0 xs = xs := by
  simp [itemsFrom]

@[simp] theorem itemsFrom_natCast (n : Nat) (xs : List α) : itemsFrom n xs = xs.drop n := by
  simp [itemsFrom]

@[simp] theorem itemsBefore_natCast (n : Nat) (xs : List α) : itemsBefore n xs = xs.take n := by
  simp [itemsBefore]

namespace Entries

/-- Arguments of a search, which ask for a window. -/
structure Asks (args : Entries) (skip limit : Value) : Prop where
  names : ∀ e ∈ args, ∃ s ∈ ["sort", "skip", "limit", "projection"], e.1 = .str s
  skip : (args.field? "skip").getD .null = skip
  limit : (args.field? "limit").getD .null = limit

namespace Asks

variable {args : Entries} {skip limit : Value}

theorem window (h : args.Asks skip limit) (skips : skip.IsCount) (limits : limit.IsCount)
    (xs : List α) : DocMapper.window args xs = .ok (windowed skip limit xs) := by
  have asked : ∀ name v, (args.field? name).getD .null = v → v.IsCount →
      args.field? name = none ∧ v.number = 0 ∨
        ∃ w, args.field? name = some w ∧ (w.truthy = false ∧ v.number = 0 ∨
          w.truthy = true ∧ w.whole? = some (v.number : Int)) := by
    intro name v hv count
    cases hf : args.field? name with
    | none =>
      rw [hf] at hv
      exact .inl ⟨rfl, hv ▸ rfl⟩
    | some w =>
      obtain rfl : w = v := by simpa [hf] using hv
      refine .inr ⟨w, rfl, ?_⟩
      cases count with
      | inl null => exact .inl (null ▸ ⟨rfl, rfl⟩)
      | inr count =>
        obtain ⟨n, rfl⟩ := count
        cases n with
        | zero => exact .inl ⟨rfl, rfl⟩
        | succ n => exact .inr ⟨by simp [Value.truthy]; omega, rfl⟩
  rcases asked "skip" skip h.skip skips with ⟨hs, zs⟩ | ⟨v, hs, ⟨ts, zs⟩ | ⟨ts, ws⟩⟩ <;>
    rcases asked "limit" limit h.limit limits with ⟨hl, zl⟩ | ⟨w, hl, ⟨tl, zl⟩ | ⟨tl, wl⟩⟩ <;>
    simp [DocMapper.window, windowed, bind, Except.bind, pure, Except.pure, *]

theorem merge_limit (h : args.Asks skip limit) (v : Value) :
    (args.merge [(.str "limit", v)]).Asks skip v := by
  have texts : ∀ e ∈ args, ∃ n, e.1 = .str n := by
    intro e he
    obtain ⟨s, -, hs⟩ := h.names e he
    exact ⟨s, hs⟩
  constructor
  · intro e he
    have key : e.1 ∈ keys (args.put (.str "limit") v) := List.mem_map_of_mem he
    rw [keys_put] at key
    have old : e.1 ∈ keys args → ∃ s ∈ ["sort", "skip", "limit", "projection"], e.1 = .str s := by
      intro hk
      obtain ⟨f, hf, same⟩ := List.mem_map.mp hk
      rw [← same]
      exact h.names f hf
    split at key
    · exact old key
    · cases List.mem_append.mp key with
      | inl hk => exact old hk
      | inr hk => exact ⟨"limit", by simp, List.mem_singleton.mp hk⟩
  · rw [← h.skip]
    change ((args.put _ _).get? _).getD _ = _
    rw [get?_put_str _ _ _ _ texts]
    rfl
  · change ((args.put _ _).get? _).getD _ = _
    rw [get?_put_str _ _ _ _ texts]
    rfl

theorem passedOn (h : args.Asks skip limit) (method : String) :
    ∃ a, Act.findThrough.passedOn method "filter" args = .ok a := by
  have checked : ∀ es : Entries, (∀ e ∈ es, e ∈ args) → Method.checkNamed
      { owner := "MockCollection", name := method, parameters := [.required "filter"],
        options := true } 2 es = .ok () := by
    intro es sub
    induction es with
    | nil => rfl
    | cons e es ih =>
      obtain ⟨key, v⟩ := e
      obtain ⟨s, hs, rfl⟩ : ∃ s ∈ ["sort", "skip", "limit", "projection"], key = .str s :=
        h.names _ (sub _ List.mem_cons_self)
      rw [Method.checkNamed, ih fun f hf => sub f (List.mem_cons_of_mem _ hf)]
      have other : s ≠ "self" ∧ s ≠ "filter" := by
        constructor <;> (rintro rfl; simp at hs)
      have named : Method.nameOf (.str s, v) = s := rfl
      simp [named, Method.all, Parameter.required, other.1, other.2]
  rw [Act.findThrough.passedOn, Method.bind]
  simp only [List.length_cons, List.length_nil, Nat.reduceAdd, checked args fun _ he => he]
  exact ⟨_, rfl⟩

end Asks

/-- At most one argument, and that under a name. -/
def Only (name : String) (es : Entries) : Prop := es = [] ∨ ∃ v, es = [(.str name, v)]

theorem Only.mem {name : String} {es : Entries} {e : Value × Value} (h : es.Only name)
    (he : e ∈ es) : e.1 = .str name := by
  cases h with
  | inl none =>
    subst none
    cases he
  | inr one =>
    obtain ⟨v, rfl⟩ := one
    rw [List.mem_singleton.mp he]

theorem Only.field?_other {name other : String} {es : Entries} (h : es.Only name)
    (different : name ≠ other) : es.field? other = none := by
  cases h with
  | inl none =>
    subst none
    rfl
  | inr one =>
    obtain ⟨v, rfl⟩ := one
    simp [field?, get?, different]

theorem field?_append (es fs : Entries) (name : String) :
    field? (es ++ fs) name = (es.field? name).or (fs.field? name) := by
  simp [field?, get?, List.find?_append, Option.map_or]

theorem asks_append {sorts skips limits projections : Entries} (sort : sorts.Only "sort")
    (skip : skips.Only "skip") (limit : limits.Only "limit")
    (projection : projections.Only "projection") :
    Asks (sorts ++ skips ++ limits ++ projections) ((skips.field? "skip").getD .null)
      ((limits.field? "limit").getD .null) := by
  constructor
  · intro e he
    simp only [List.mem_append] at he
    rcases he with ((he | he) | he) | he
    · exact ⟨_, by simp, sort.mem he⟩
    · exact ⟨_, by simp, skip.mem he⟩
    · exact ⟨_, by simp, limit.mem he⟩
    · exact ⟨_, by simp, projection.mem he⟩
  · simp [field?_append, sort.field?_other, limit.field?_other, projection.field?_other]
  · simp [field?_append, sort.field?_other, skip.field?_other, projection.field?_other]

end Entries

/-- Options as the calls of a query set them. -/
structure Options.Fair (o : Options) : Prop where
  sort : o.sort.entries?.isSome
  skip : o.skip.IsCount
  limit : o.limit.IsCount
  projection : o.projection = .null ∨ ∃ xs, o.projection = .list xs

namespace Options

theorem only_set (name : String) (v : Value) :
    Entries.Only name (if isSet v then [(.str name, v)] else []) := by
  split
  · exact .inr ⟨v, rfl⟩
  · exact .inl rfl

theorem field?_set (name : String) (v : Value) :
    (Entries.field? (if isSet v then [(.str name, v)] else []) name).getD .null = v := by
  cases v <;> simp [isSet, Entries.field?, Entries.get?]

variable {o : Options}

theorem Fair.asks_find (h : o.Fair) :
    ∃ args, o.findArguments = .ok args ∧ args.Asks o.skip o.limit := by
  have sort : ∃ es, o.sortArgument = .ok es ∧ es.Only "sort" := by
    obtain ⟨es, hes⟩ := Option.isSome_iff_exists.mp h.sort
    rw [sortArgument, sortPairs, hes]
    split
    · exact ⟨_, rfl, .inr ⟨_, rfl⟩⟩
    · exact ⟨_, rfl, .inl rfl⟩
  have projection : ∃ es, o.projectionArgument = .ok es ∧ es.Only "projection" := by
    rw [projectionArgument]
    cases h.projection with
    | inl null => exact ⟨_, by rw [null]; rfl, .inl rfl⟩
    | inr list =>
      obtain ⟨xs, hxs⟩ := list
      exact ⟨_, by rw [hxs]; rfl, .inr ⟨_, rfl⟩⟩
  obtain ⟨ss, sorted, hss⟩ := sort
  obtain ⟨ps, projected, hps⟩ := projection
  refine ⟨_, by rw [findArguments, sorted, projected]; rfl, ?_⟩
  have asks := Entries.asks_append hss (only_set "skip" o.skip) (only_set "limit" o.limit) hps
  rw [field?_set, field?_set] at asks
  exact asks

/-- A count leaves a limit of zero out, which is as good as zero. -/
theorem Fair.asks_count (h : o.Fair) : ∃ limit, limit.IsCount ∧ limit.number = o.limit.number ∧
    o.countArguments.Asks o.skip limit := by
  have sorts : Entries.Only "sort" [] := .inl rfl
  have projections : Entries.Only "projection" [] := .inl rfl
  have asks : ∀ {ls : Entries}, ls.Only "limit" →
      (o.skipArgument ++ ls).Asks o.skip ((ls.field? "limit").getD .null) := by
    intro ls limits
    have all := Entries.asks_append sorts (only_set "skip" o.skip) limits projections
    rwa [field?_set, List.nil_append, List.append_nil] at all
  rw [countArguments]
  cases ht : o.limit.truthy with
  | true => exact ⟨o.limit, h.limit, rfl, asks (.inr ⟨o.limit, rfl⟩)⟩
  | false =>
    refine ⟨.null, .inl rfl, ?_, asks (.inl rfl)⟩
    cases h.limit with
    | inl null => rw [null]
    | inr count =>
      obtain ⟨n, hn⟩ := count
      rw [hn] at ht ⊢
      have zero : n = 0 := by simpa [Value.truthy] using ht
      rw [zero]
      rfl

end Options

namespace Query

/-- A query as its calls make it, over its own options. -/
structure Fair (q : Query) : Prop where
  options : q.options.Fair
  held : q.held = .null
  instead : q.instead = none

/-- The documents that a query is for. -/
def found (q : Query) (ds : List Value) : List Value :=
  windowed q.options.skip q.options.limit (Criteria.chosen (.dict q.criteria) ds)

theorem start_eq_ok {kind : QueryKind} {criteria model : Value} {q : Query}
    (h : start kind criteria model = .ok q) :
    ∃ es, q = { kind, criteria := es, options := .empty, model } ∧
      (es = [] ∨ criteria.entries? = some es) := by
  unfold start at h
  split at h
  · cases h
    exact ⟨[], rfl, .inl rfl⟩
  · obtain ⟨es, mapped, h⟩ := Except.of_bind_eq_ok h
    cases h
    exact ⟨es, rfl, .inr (Argument.mapping_eq_ok.mp mapped)⟩

theorem fair_start {kind : QueryKind} {criteria model : Value} {q : Query}
    (h : start kind criteria model = .ok q) : q.Fair := by
  obtain ⟨es, rfl, -⟩ := start_eq_ok h
  exact ⟨⟨rfl, .inl rfl, .inl rfl, .inl rfl⟩, rfl, rfl⟩

theorem compare_eq_ok {q r : Query} {op : Operator} {field value : Value}
    (done : q.compare op field value = .ok r) : ∃ es, r = { q with criteria := es } := by
  rw [compare] at done
  split at done <;> cases done
  exact ⟨_, rfl⟩

/-- A call changes the criteria, or one of the options. -/
theorem Fair.apply {q r : Query} {call : QueryCall} (h : q.Fair) (done : q.apply call = .ok r) :
    r.Fair := by
  have criteria : ∀ es, ({ q with criteria := es } : Query).Fair := by
    intro es
    exact ⟨h.options, h.held, h.instead⟩
  have options : ∀ o : Options, o.Fair → ({ q with options := o } : Query).Fair := by
    intro o fair
    exact ⟨fair, h.held, h.instead⟩
  cases call with
  | restrict v =>
    obtain ⟨es, -, done⟩ := Except.of_bind_eq_ok done
    cases done
    exact criteria _
  | compare op field value =>
    obtain ⟨es, rfl⟩ := compare_eq_ok done
    exact criteria es
  | members op field values =>
    simp only [Query.apply] at done
    split at done
    · obtain ⟨es, rfl⟩ := compare_eq_ok done
      exact criteria es
    · cases done
  | present field value =>
    simp only [Query.apply] at done
    split at done
    · obtain ⟨es, rfl⟩ := compare_eq_ok done
      exact criteria es
    · cases done
  | every vs =>
    obtain ⟨bs, -, done⟩ := Except.of_bind_eq_ok done
    cases done
    exact criteria _
  | either vs =>
    obtain ⟨bs, -, done⟩ := Except.of_bind_eq_ok done
    cases done
    exact criteria _
  | select names =>
    obtain ⟨ns, -, done⟩ := Except.of_bind_eq_ok done
    cases done
    exact options _ { h.options with projection := .inr ⟨_, rfl⟩ }
  | sort fields =>
    obtain ⟨es, -, done⟩ := Except.of_bind_eq_ok done
    obtain ⟨merged, hm, done⟩ := Except.of_bind_eq_ok done
    cases done
    refine options _ { h.options with sort := ?_ }
    unfold mergeSort at hm
    split at hm <;> cases hm <;> rfl
  | skip n =>
    obtain ⟨m, -, done⟩ := Except.of_bind_eq_ok done
    cases done
    exact options _ { h.options with skip := .inr ⟨m, rfl⟩ }
  | limit n =>
    obtain ⟨m, -, done⟩ := Except.of_bind_eq_ok done
    cases done
    exact options _ { h.options with limit := .inr ⟨m, rfl⟩ }

theorem Fair.run {q : Query} (h : q.Fair) (calls : List QueryCall) : (q.run calls).Fair := by
  induction calls generalizing q with
  | nil => exact h
  | cons call calls ih =>
    have step : q.run (call :: calls) = ((q.apply call).toOption.getD q).run calls := rfl
    rw [step]
    cases done : q.apply call with
    | error e => exact ih h
    | ok r => exact ih (h.apply done)

end Query

/-- Options that calls set need no objects opened to be arguments of a search. -/
theorem Act.outcome_searchArguments {o : Options} {args : Entries} (fair : o.Fair)
    (translated : o.findArguments = .ok args) (st : Store) :
    (searchArguments o).outcome st = (.ok (.dict args), st) := by
  have sort : st.current o.sort = o.sort := by
    have sort := fair.sort
    revert sort
    cases o.sort <;> intro sort <;> first | rfl | cases sort
  have projection : st.walked o.projection = o.projection := by
    cases fair.projection with
    | inl null =>
      rw [null]
      rfl
    | inr list =>
      obtain ⟨xs, list⟩ := list
      rw [list]
      rfl
  have given : (ofExcept o.findArguments).outcome st = (.ok args, st) := by
    rw [translated]
    rfl
  rw [searchArguments, outcome_bind_ok (outcome_get st)]
  simp only [sort, projection]
  exact outcome_bind_ok given

end DocMapper
