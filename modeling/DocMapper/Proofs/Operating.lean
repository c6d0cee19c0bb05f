import DocMapper.Proofs.Reaching

/-!
Operations of models: queries and pipelines that are run in any way, counts, saves and look-ups by
an id.  Each comes to the handle of its model's collection or fails before that.
-/

namespace DocMapper

namespace Act

open Store

variable {st : Store} {c : ClassRef} {d : Dispatch} {i : Nat} {k : QueryKind} {q : Query}
  {R : Store → Prop}

namespace Keeps

theorem searchArguments (o : Options) : Keeps R (searchArguments o) :=
  .get _ fun _ => .ofExcept fun _ _ => .pure _

theorem extensible (v : Value) : Keeps R (extensible v) := by
  refine .get _ fun st => ?_
  split
  · exact .pure _
  · exact .throw _

theorem modelName (c : ClassRef) : Keeps R (modelName d (.cls c)) :=
  .get _ fun _ => .pure _

theorem sized (v : Value) : Keeps R (sized v) := by
  refine .get _ fun st => ?_
  split
  · exact .throw _
  · exact .throw _
  · split
    · exact .pure _
    · exact .throw _

theorem wholeNumber (v : Value) : Keeps R (wholeNumber v) := by
  unfold Act.wholeNumber
  dsimp only
  split
  · exact .pure _
  · split
    · exact .pure _
    · exact .get _ fun _ => .throw _
  · split
    · exact .pure _
    · exact .get _ fun _ => .throw _
  · exact .throw _

theorem withKey (fields key : Value) : Keeps R (withKey fields key) := by
  refine .bind (.isIn _ _) fun here => ?_
  split
  · exact .pure _
  · split
    · exact .pure _
    · exact .pure _
    · exact .pure _
    · exact .throw _

theorem requireFields (c : ClassRef) (i : Nat) (names : List String) :
    Keeps R (requireFields d (.handle (.document c i)) names) := by
  induction names with
  | nil => exact .pure _
  | cons name names ih =>
    simp only [Act.requireFields, List.forIn_cons, bind_assoc, pure_bind] at ih ⊢
    refine .bind (.document i) fun x => .bind (.isIn _ _) fun here => ?_
    split
    · simpa only [pure_bind] using ih
    · exact fun _ same => same

end Keeps

section

variable (ordinary : st.Ordinary) (runs : k.cls.IsModelQuery) (query : st.queries[i]? = some q)
  (own : q.held = .null)

include query own

theorem outcome_query_own : (Act.query i).outcome st = (.ok q, st) := by
  rw [Act.query, outcome_bind_ok (outcome_get st)]
  simp [Store.query, Array.getD_eq_getD_getElem?, query, own]

theorem outcome_optionsOf_own :
    (optionsOf d (.handle (.query k i))).outcome st = (.ok (.handle (.queryOptions i)), st) := by
  rw [optionsOf, outcome_bind_ok (outcome_get st)]
  simp [Store.optionsHeld, Array.getD_eq_getD_getElem?, query, own]

include ordinary

/-- Making arguments of the options of a query changes nothing. -/
theorem outcome_findArguments_own :
    ((findArguments d (.handle (.query k i))).outcome st).2 = st := by
  have usual := ordinary.usual (h := .queryOptions i) rfl rfl
    (show Interface.inherited? "QueryOptions" "to_find_kwargs" = some (.known "QueryOptions", _)
      from rfl)
  have held : st.optionsIn? (.handle (.queryOptions i)) = some q.options := by
    simp [Store.optionsIn?, Store.optionsAt?, query]
  rw [findArguments, outcome_bind_ok (outcome_optionsOf_own query own), outcome_bind,
    outcome_callOr_usual usual, outcome_bind_ok (outcome_get st), held]
  simp only
  rw [← outcome_bind]
  exact Keeps.bind (R := (· = st)) (.searchArguments _) (fun _ => .extensible _) st rfl

theorem outcome_countArguments_own :
    ((countArguments d (.handle (.query k i))).outcome st).2 = st := by
  have usual := ordinary.usual (h := .queryOptions i) rfl rfl
    (show Interface.inherited? "QueryOptions" "to_count_kwargs" = some (.known "QueryOptions", _)
      from rfl)
  have held : st.optionsIn? (.handle (.queryOptions i)) = some q.options := by
    simp [Store.optionsIn?, Store.optionsAt?, query]
  rw [countArguments, outcome_bind_ok (outcome_optionsOf_own query own), outcome_bind,
    outcome_callOr_usual usual, outcome_bind_ok (outcome_get st), held]
  simp only
  rw [← outcome_bind]
  exact Keeps.bind (R := (· = st)) (.pure _) (fun _ => .extensible _) st rfl

include runs

theorem outcome_modelOf_own (bound : q.model = .cls c) :
    (modelOf d (.handle (.query k i))).outcome st = (.ok (.cls c), st) := by
  have usual := ordinary.usual_query runs i
    (show Interface.inherited? "ModelQuery" "_require_model" = some (.known "ModelQuery", _)
      from rfl) rfl
  rw [modelOf, outcome_callOr_usual usual, ownModel, outcome_bind_ok (outcome_query_own query own),
    bound]
  rfl

theorem outcome_queryJson_own :
    (queryJson d (.handle (.query k i))).outcome st = (copy q.toJson).outcome st := by
  have usual := ordinary.usual_query runs i
    (show Interface.inherited? "ModelQuery" "to_json" = some (.known "QueryBuilder", _) from rfl)
    rfl
  have asked : (queryJson d (.handle (.query k i))).outcome st =
      (ownCriteria d (.handle (.query k i))).outcome st := outcome_callOr_usual usual
  rw [asked, ownCriteria, outcome_bind_ok (outcome_query_own query own)]

end

/-- An instance that validates itself changes nothing. -/
theorem outcome_validate_usual (bare : st.Bare (.document c i))
    (valid : ∃ owner m, st.registry.member? c "validate" = some (owner, m) ∧
      ((∃ f, m = .method f) ∨ ∃ names, m = .requiring names)) :
    ((validate d (.handle (.document c i))).outcome st).2 = st := by
  obtain ⟨owner, m, member, form⟩ := valid
  rw [validate, outcome_bind_ok (outcome_get st), bare.extraOf?, member?_document bare, member]
  obtain ⟨f, rfl⟩ | ⟨names, rfl⟩ := form
  · rfl
  · exact Keeps.requireFields (R := (· = st)) c i names st rfl

/-- What can be done with every cursor of a kind can be done with the one that is there. -/
theorem Leads.of_cursor {kind : CursorKind} {f : Value → Act α}
    (each : ∀ i s, Keeps (fun st => R st ∧ st.Tends d kind i s) (f (.handle (.cursor kind i))))
    (v : Value) : Leads (fun st => R st ∧ st.IsCursor d kind v) (fun _ _ => True) (f v) := by
  rintro st ⟨here, i, s, rfl, tends⟩
  obtain ⟨still, tends⟩ := each i s st ⟨here, tends⟩
  exact ⟨⟨still, i, s, rfl, tends⟩, fun _ _ => trivial⟩

end Act

/-- A new query is bound to the class that it is started for. -/
theorem Lasts.startQuery {R : Store → Prop} (l : Lasts R) {kind : QueryKind} {c : ClassRef}
    (runs : kind.cls.IsModelQuery) (bindable : kind.bindable) (criteria : Value) :
    Act.Leads R (fun v st => ∃ i, v = (Builder.query kind i).value ∧ (Builder.query kind i).Of st c)
      (Act.startQuery kind criteria (.cls c)) := by
  refine (Act.Keeps.ofExcept_any _).leads fun _ => (l.copy criteria).leads fun v st here => ?_
  cases started : Query.start kind v (.cls c) with
  | error e =>
    rw [Act.outcome_bind_error (Act.outcome_ofExcept ..)]
    exact ⟨here, fun _ same => by cases same⟩
  | ok q =>
    obtain ⟨es, rfl, -⟩ := Query.start_eq_ok started
    rw [Act.outcome_bind_ok (Act.outcome_ofExcept ..)]
    refine ⟨l.accrues st _ here (.of_footing rfl), ?_⟩
    rintro _ ⟨⟩
    exact ⟨_, rfl, runs, bindable, _, Array.getElem?_push_size, rfl, rfl⟩

namespace Bears

open Act

variable {R : Store → Prop} {j : Nat} {d : Dispatch} (s : Bears R j)
include s

theorem saveNew (i : Nat) (plain : Value) :
    Keeps R (Act.saveNew d i (.handle (.collection j)) plain) := by
  refine .bind (s.insertThrough plain) fun key => .bind (.document i) fun x => ?_
  refine .bind (.withKey _ _) fun fields => .bind (s.toLasts.keeps fun _ => rfl) fun _ => ?_
  split
  · exact s.toLasts.note _ _ _
  · exact .throw _

theorem saveStored (i : Nat) (plain : Value) :
    Keeps R (Act.saveStored d i (.handle (.collection j)) plain) := by
  refine .bind (.ofExcept_any _) fun changes => .bind (.document i) fun x => ?_
  simp only [updateReadFirst, pure_bind]
  refine .bind (.ofExcept_any _) fun id => .bind (s.updateThrough _ _) fun _ => ?_
  exact s.toLasts.note _ _ _

end Bears

namespace Store

variable {st now : Store} {k b : Nat} {before : List Value} {c : ClassRef} {name : String}
  {p : Pool} {touched : Nat → Prop} {d : Dispatch}

/-- What runs a query prepares arguments and criteria, and then asks for the handle. -/
theorem Underway.prepared {kind : QueryKind} {i : Nat} {Q : β → Store → Prop}
    {arguments : Act Entries} {f : Value → Entries → Value → Value → Act β}
    (underway : st.Underway k b before c name p (fun _ => False) now)
    (of : (Builder.query kind i).Of now c)
    (reads : ∀ q, now.queries[i]? = some q → q.held = .null → (arguments.outcome now).2 = now)
    (back : ∀ args criteria j q, Act.Leads (st.Underway k b before c name q (· = j)) Q
      (f (.cls c) args criteria (.handle (.collection j)))) :
    st.Uses k b before c name p Q ((do
      let model ← Act.modelOf d (.handle (.query kind i))
      let args ← arguments
      let criteria ← Act.queryJson d (.handle (.query kind i))
      let h ← Act.collectionFor d model
      f model args criteria h).outcome now) := by
  obtain ⟨runs, -, q, query, bound, own⟩ := of
  have ordinary := underway.caches.ordinary
  rw [Act.outcome_bind_ok (Act.outcome_modelOf_own ordinary runs query own bound)]
  have read := reads q query own
  refine .front (by rw [read]; exact underway) fun args σ done _ => ?_
  obtain rfl : σ = now := by rwa [done] at read
  refine .front ?_ fun criteria τ _ underway => underway.collectionFor (back args criteria)
  rw [Act.outcome_queryJson_own ordinary runs query own]
  exact Underway.lasts.copy _ σ underway

theorem Underway.execute_query {kind : QueryKind} {i : Nat}
    (underway : st.Underway k b before c name p (fun _ => False) now)
    (of : (Builder.query kind i).Of now c) (options : Entries) :
    st.Uses k b before c name p (fun v σ => σ.IsCursor d .query v)
      ((Act.execute d (.handle (.query kind i)) options).outcome now) := by
  refine underway.prepared of ?_ fun args criteria j q => ?_
  · exact fun _ => Act.outcome_findArguments_own underway.caches.ordinary
  have bears : Bears (st.Underway k b before c name q (· = j)) j := Underway.bears j
  refine (Act.Keeps.modelName c).leads fun model => (bears.noteOf _ _ _).leads fun _ => ?_
  refine (bears.findThrough criteria _).bind fun source => bears.startCursor_query ?_ source
  intro τ there
  exact ⟨there.employs.conventional.maker, there.employs.conventional.hydrate⟩

theorem Underway.countMatching {kind : QueryKind} {i : Nat}
    (underway : st.Underway k b before c name p (fun _ => False) now)
    (of : (Builder.query kind i).Of now c) (options : Entries) :
    st.Uses k b before c name p (fun _ _ => True)
      ((Act.countMatching d (.handle (.query kind i)) options).outcome now) := by
  refine underway.prepared of ?_ fun args criteria j q => ?_
  · exact fun _ => Act.outcome_countArguments_own underway.caches.ordinary
  have bears : Bears (st.Underway k b before c name q (· = j)) j := Underway.bears j
  refine (bears.countThrough criteria _).leads fun n => (Act.Keeps.modelName c).leads fun _ => ?_
  exact (bears.noteOf _ _ _).leads fun _ => (Act.Keeps.wholeNumber n).leads_any

theorem Underway.execute_pipeline {cls : ClassRef} {i : Nat}
    (underway : st.Underway k b before c name p (fun _ => False) now)
    (of : (Builder.pipeline cls i).Of now c) (options : Entries) :
    st.Uses k b before c name p (fun v σ => σ.IsCursor d .aggregate v)
      ((Act.executePipeline d (.handle (.pipeline cls i)) options).outcome now) := by
  obtain ⟨known, x, pipeline, bound⟩ := of
  have ordinary := underway.caches.ordinary
  have read : (Act.pipeline i).outcome now = (.ok x, now) := by
    rw [Act.pipeline, Act.outcome_bind_ok (Act.outcome_get now)]
    simp [Array.getD_eq_getD_getElem?, pipeline]
  have model : (Act.modelOfPipeline d (.handle (.pipeline cls i))).outcome now =
      (.ok (.cls c), now) := by
    rw [Act.modelOfPipeline, Act.outcome_bind_ok read, bound]
    rfl
  have stages : (Act.stagesOf d (.handle (.pipeline cls i))).outcome now =
      (Act.copy x.toJson).outcome now := by
    have usual := ordinary.usual_pipeline known i
      (show Interface.pipelineMembers.lookup "to_json" = some (.method _) from rfl)
    rw [Act.stagesOf, Act.outcome_callOr_usual usual, Act.ownStages, Act.outcome_bind_ok read]
  rw [Act.executePipeline, Act.outcome_bind_ok model]
  refine .front ?_ fun stages τ _ underway => underway.collectionFor fun j q => ?_
  · rw [stages]
    exact Underway.lasts.copy _ now underway
  have bears : Bears (st.Underway k b before c name q (· = j)) j := Underway.bears j
  refine (Act.Keeps.modelName c).leads fun model => (Act.Keeps.sized stages).leads fun _ => ?_
  refine (bears.noteOf _ _ _).leads fun _ => (bears.noteOf _ _ _).leads fun _ => ?_
  exact (bears.aggregateThrough stages _).bind fun source => bears.startCursor_aggregate _ source

theorem Underway.execute {builder : Builder}
    (underway : st.Underway k b before c name p (fun _ => False) now) (of : builder.Of now c)
    (options : Entries) :
    st.Uses k b before c name p (fun v σ => σ.IsCursor d builder.opens v)
      ((builder.execute d options).outcome now) := by
  cases builder with
  | query => exact underway.execute_query of options
  | pipeline => exact underway.execute_pipeline of options

theorem Underway.executed {builder : Builder}
    (underway : st.Underway k b before c name p (fun _ => False) now) (of : builder.Of now c) :
    st.Uses k b before c name p (fun v σ => σ.IsCursor d builder.opens v)
      ((Act.executed d builder.value).outcome now) := by
  have ordinary := underway.caches.ordinary
  cases builder with
  | query kind i =>
    have usual := ordinary.usual_query of.1 i
      (show Interface.inherited? "ModelQuery" "execute" = some (.known "ModelQuery", _) from rfl)
      rfl
    rw [Builder.value, Act.executed, Act.outcome_callOr_usual usual]
    exact underway.execute_query of []
  | pipeline cls i =>
    have usual := ordinary.usual_pipeline of.1 i
      (show Interface.pipelineMembers.lookup "execute" = some (.method _) from rfl)
    rw [Builder.value, Act.executed, Act.outcome_callOr_usual usual]
    exact underway.execute_pipeline of []

/-- All results of a builder. -/
theorem Underway.wait {builder : Builder}
    (underway : st.Underway k b before c name p (fun _ => False) now) (of : builder.Of now c) :
    st.Uses k b before c name p (fun _ _ => True) ((Act.wait d builder.value).outcome now) := by
  have waits : Act.wait d builder.value = (Act.executed d builder.value >>= Act.collected d) := by
    cases builder with
    | query => exact if_pos of.2.1
    | pipeline => rfl
  rw [waits]
  exact (underway.executed of).bind fun v j q =>
    .of_cursor (fun i s => Underway.lasts.collected) v

/-- Results of a builder one by one. -/
theorem Underway.iterate {builder : Builder}
    (underway : st.Underway k b before c name p (fun _ => False) now) (of : builder.Of now c)
    (limit : Option Nat) :
    st.Uses k b before c name p (fun _ _ => True)
      ((Act.iterate d builder.value limit).outcome now) := by
  have walks : Act.walkOver d builder.value = Act.executed d builder.value >>= fun source =>
      if Act.givesItems source then pure source else d.call .never source "__aiter__" [] [] := by
    cases builder with
    | query => simp [Act.walkOver, Builder.value, Act.givesItems, Value.isAwaitable, of.2.1]
    | pipeline => rfl
  rw [Act.iterate, walks, bind_assoc]
  refine (underway.executed of).bind fun v j q => ?_
  rintro τ ⟨here, i, s, rfl, tends⟩
  obtain ⟨still, tends⟩ : _ ∧ _ :=
    Act.Keeps.bind (Underway.lasts.readSome limit) (fun _ => .pure _) τ ⟨here, tends⟩
  exact ⟨⟨still, i, s, rfl, tends⟩, fun _ _ => trivial⟩

theorem Underway.first {kind : QueryKind} {i : Nat}
    (underway : st.Underway k b before c name p (fun _ => False) now)
    (of : (Builder.query kind i).Of now c) :
    st.Uses k b before c name p (fun _ _ => True)
      ((Act.first d (.handle (.query kind i))).outcome now) := by
  have usual := underway.caches.ordinary.usual_query of.1 i
    (show Interface.inherited? "ModelQuery" "execute" = some (.known "ModelQuery", _) from rfl) rfl
  rw [Act.first, Act.outcome_bind, Act.outcome_callOr_usual usual, ← Act.outcome_bind]
  exact (underway.execute_query of _).bind fun v j q =>
    .of_cursor (fun i s => Underway.lasts.nextItem) v

/-- A search on a model makes a query that is bound to it. -/
theorem Underway.findIn (criteria : Value) :
    Act.Leads (st.Underway k b before c name p touched)
      (fun v σ => ∃ kind i, v = (Builder.query kind i).value ∧ (Builder.query kind i).Of σ c)
      (Act.findIn d c criteria) := by
  intro σ underway
  obtain ⟨owner, builder, member, known⟩ := underway.employs.conventional.builder
  have started (used : QueryKind) (runs : used.cls.IsModelQuery) (bindable : used.bindable) :
      Act.Leads (st.Underway k b before c name p touched)
        (fun v σ => ∃ kind i, v = (Builder.query kind i).value ∧ (Builder.query kind i).Of σ c)
        (Act.startQuery used criteria (.cls c)) := by
    intro σ underway
    obtain ⟨kept, given⟩ := Underway.lasts.startQuery runs bindable criteria σ underway
    exact ⟨kept, fun v done => ⟨used, given v done⟩⟩
  have asked : (Act.registry).outcome σ = (.ok σ.registry, σ) := rfl
  rw [Act.findIn, Act.outcome_bind_ok asked, member]
  simp only [List.mem_cons, List.not_mem_nil, or_false] at known
  rcases known with rfl | rfl
  · exact started .bound (.inl rfl) rfl σ underway
  · exact started ⟨.known "TracingQuery", true⟩ (.inr rfl) rfl σ underway

/-- Looking a document up by its id. -/
theorem Underway.findById
    (underway : st.Underway k b before c name p (fun _ => False) now) (id : Value) :
    st.Uses k b before c name p (fun _ _ => True) ((Act.findById d c id).outcome now) := by
  have usual : now.usual (.cls c) .root "find" := by
    obtain ⟨f, found⟩ := underway.employs.conventional.find
    simp [Store.usual, extraOf?, Store.member?, found]
  have searched (criteria : Value) := Underway.findIn (d := d) criteria now underway
  rw [Act.findById]
  rw [Act.outcome_bind, Act.outcome_callOr_usual usual, ← Act.outcome_bind]
  refine .front (searched _).1 fun found σ done underway => ?_
  obtain ⟨kind, i, rfl, of⟩ := (searched _).2 found (by rw [done])
  rw [done] at of
  have usual := underway.caches.ordinary.usual_query of.1 i
    (show Interface.inherited? "ModelQuery" "first" = some (.known "ModelQuery", _) from rfl) rfl
  rw [Builder.value, Act.outcome_bind, Act.outcome_callOr_usual usual, ← Act.outcome_bind]
  refine (underway.first of).bind fun v j q => ?_
  simp only [and_true]
  refine Act.Keeps.leads_any ?_
  split
  · exact .bind (Underway.lasts.note _ _ _) fun _ => .throw _
  · exact .pure _

/-- Saving an instance whose fields are converted without touching what handles depend on. -/
theorem Underway.save {i : Nat} (underway : st.Underway k b before c name p (fun _ => False) now)
    (model : (now.documentAt i).model = c)
    (spares : now.Accrues ((Act.prepare d (now.documentAt i).fields).outcome now).2) :
    st.Uses k b before c name p (fun _ _ => True) ((Act.save d i).outcome now) := by
  have ordinary := underway.caches.ordinary
  have read := Act.outcome_document i now
  rw [Act.save, Act.outcome_bind_ok read, model]
  have same := Act.outcome_validate_usual (d := d) (ordinary.bare (.document c i) rfl)
    underway.employs.conventional.valid
  refine .front (by rw [same]; exact underway) fun _ σ done _ => ?_
  obtain rfl : σ = now := by rwa [done] at same
  refine .front ?_ fun plain τ _ underway => ?_
  · have bare := ordinary.bare (.document c i) rfl
    have usual : σ.usual (.handle (.document c i)) .root "to_json" := by
      obtain ⟨f, found⟩ := underway.employs.conventional.json
      simp [Store.usual, bare.extraOf?, Act.member?_document bare, found]
    rw [Act.documentJson, Act.outcome_callOr_usual usual, Act.outcome_bind_ok read]
    exact Underway.lasts.accrues σ _ underway spares
  rw [Act.outcome_bind, Act.outcome_instanceCollection (underway.caches.ordinary.bare _ rfl)
    underway.employs.conventional.placed (underway.employs.configured underway.caches.ordinary),
    ← Act.outcome_bind]
  refine underway.handle fun j q => ?_
  have bears : Bears (st.Underway k b before c name q (· = j)) j := Underway.bears j
  refine (Act.Keeps.document i).leads fun x => Act.Keeps.leads_any ?_
  split
  · exact bears.saveNew i plain
  · exact bears.saveStored i plain

end Store

end DocMapper
