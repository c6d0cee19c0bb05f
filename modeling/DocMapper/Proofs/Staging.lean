import DocMapper.Proofs.Nesting

/-!
Calls on a pipeline.  A call makes one stage, and then appends a copy of it or fails.  While the
stage is made others may be asked, pipelines, queries and functions among them; as long as these
leave the pipeline alone, so does everything else that a call does before it appends.
-/

namespace DocMapper

/-- The class of pipelines, or the one that refines it without adding anything. -/
def ClassRef.IsPipeline (c : ClassRef) : Prop :=
  c = Act.pipelineClass ∨ c = .known "TracingAggregate"

theorem Interface.inherited?_pipeline {c name : String} {m : Method}
    (kind : c = "AggregateBuilder" ∨ c = "TracingAggregate")
    (found : pipelineMembers.lookup name = some (.method m)) :
    inherited? c name = some (.known "AggregateBuilder", .method m) := by
  have all : ∀ e ∈ pipelineMembers, inherited? c e.1 = some (.known "AggregateBuilder", e.2) := by
    simp only [pipelineMembers, List.forall_mem_cons]
    rcases kind with rfl | rfl <;> repeat' constructor
    all_goals exact fun _ none => absurd none List.not_mem_nil
  obtain ⟨before, behind, members, -⟩ := List.lookup_eq_some_iff.mp found
  exact all (name, .method m) (members ▸ by simp)

/-- The pipeline with further stages. -/
def Pipeline.extended (p : Pipeline) (ss : List Value) : Pipeline :=
  { p with stages := p.stages ++ ss }

@[simp] theorem Pipeline.extended_nil (p : Pipeline) : p.extended [] = p := by
  simp [extended]

theorem Pipeline.extended_append (p : Pipeline) (ss ts : List Value) :
    p.extended (ss ++ ts) = (p.extended ss).extended ts := by
  simp [extended]

namespace Store

/-- A pipeline whose functions are those of the library. -/
def Furnished (st : Store) (c : ClassRef) (i : Nat) : Prop :=
  ∀ name m, Interface.pipelineMembers.lookup name = some (.method m) →
    st.usual (.handle (.pipeline c i)) Act.pipelineClass name ∧
      st.registry.ownMember? Act.pipelineClass name = some (.method m)

/-- The store with a fresh query that is bound to no model. -/
def questioned (st : Store) : Store :=
  { st with
    queries := st.queries.push
      { kind := .unbound, criteria := [], options := .empty, model := .null } }

/-- A pipeline whose functions are those of the library, over stages of its own. -/
structure Stages (st : Store) (c : ClassRef) (i : Nat) (p : Pipeline) : Prop where
  pipeline : st.pipelines[i]? = some p
  instead : p.instead = none
  known : c.IsPipeline
  cls : st.classOf (.handle (.pipeline c i)) = c
  usual : ∀ name m, Interface.pipelineMembers.lookup name = some (.method m) →
    st.usual (.handle (.pipeline c i)) Act.pipelineClass name ∧
      st.registry.ownMember? Act.pipelineClass name = some (.method m)
  logger : st.extraOf? (.handle (.pipeline c i)) "_logger" = none

/-- The store with another pipeline in a slot. -/
def restaged (st : Store) (i : Nat) (p : Pipeline) : Store :=
  { st with pipelines := st.pipelines.setIfInBounds i p }

/-- Nothing was set on the classes of the library, nor on builders that are still to come. -/
structure Clear (st : Store) : Prop extends Blank st where
  coming : ∀ c i, st.pipelines.size ≤ i → st.Bare (.pipeline c i)

variable {st after : Store} {c : ClassRef} {i : Nat} {p q : Pipeline}

theorem Stages.built (h : st.Stages c i p) : st.Built (.pipeline c i) :=
  (Array.getElem?_eq_some_iff.mp h.pipeline).1

theorem Stages.of_bare (bare : st.Bare (.pipeline c i)) (pristine : st.registry.Pristine)
    (known : c.IsPipeline) (pipeline : st.pipelines[i]? = some p) (instead : p.instead = none) :
    st.Stages c i p where
  pipeline := pipeline
  instead := instead
  known := known
  cls := bare.classOf
  usual name m found := by
    obtain ⟨k, kind, rfl⟩ : ∃ k, (k = "AggregateBuilder" ∨ k = "TracingAggregate") ∧
        c = .known k := by
      rcases known with rfl | rfl
      · exact ⟨_, .inl rfl, rfl⟩
      · exact ⟨_, .inr rfl, rfl⟩
    have inherited := Interface.inherited?_pipeline kind found
    have member := bare.member? pristine rfl name
    rw [inherited] at member
    exact ⟨bare.usual pristine rfl inherited, Registry.own_of_member member⟩
  logger := bare.extraOf? "_logger"

theorem Stages.of_setting (h : st.Stages c i p) (setting : after.setting = st.setting)
    (pipeline : after.pipelines[i]? = some q) (instead : q.instead = none) :
    after.Stages c i q where
  pipeline := pipeline
  instead := instead
  known := h.known
  cls := (classOf_congr setting _).trans h.cls
  usual name m found := by
    have registry : after.registry = st.registry := congrArg Setting.registry setting
    rw [usual_congr setting, registry]
    exact h.usual name m found
  logger := by rw [extraOf?_congr setting, h.logger]

theorem Stages.identified (h : st.Stages c i p) : st.identified.Stages c i p :=
  h.of_setting rfl h.pipeline h.instead

theorem Stages.restaged (h : st.Stages c i p) (instead : q.instead = none)
    (same : after.beyond = (st.restaged i q).beyond) : after.Stages c i q := by
  have pipelines : after.pipelines = (st.restaged i q).pipelines := by
    change after.beyond.pipelines = (st.restaged i q).beyond.pipelines
    rw [same]
  have setting : after.setting = (st.restaged i q).setting := setting_of_beyond same
  refine h.of_setting setting ?_ instead
  rw [pipelines, Store.restaged, Array.getElem?_setIfInBounds_self_of_lt h.built]

theorem Retains.stages (r : st.Retains after) (h : st.Stages c i p) : after.Stages c i p := by
  have there := h.built
  refine ⟨(getElem?_prefix_eq r.pipelines there).trans h.pipeline, h.instead, h.known, ?_,
    fun name m found => ?_, ?_⟩
  · have same : after.classOf (.handle (.pipeline c i)) = st.classOf (.handle (.pipeline c i)) := by
      simp only [Store.classOf, r.refined _ (.inl there)]
    rw [same, h.cls]
  · rw [r.usual there, r.ownMember?]
    exact h.usual name m found
  · rw [r.extraOf? there, h.logger]

theorem Retains.clear (r : st.Retains after) (h : st.Clear) : after.Clear := by
  have bare (k : Handle) (later : after.Coming k) (was : st.Bare k) : after.Bare k :=
    ⟨fun name => (r.extras k (.inr later) name).trans (was.extras name),
      (r.refined k (.inr later)).trans was.refined⟩
  refine ⟨⟨fun c name => ?_, fun k i hi => ?_⟩, fun c i hi => ?_⟩
  · rw [r.own, h.pristine]
  · exact bare (.query k i) hi (h.bare k i (Nat.le_trans r.queries.length_le hi))
  · exact bare (.pipeline c i) hi (h.coming c i (Nat.le_trans r.pipelines.length_le hi))

end Store

namespace Act

/-- How a call on a pipeline ends: it answers with the pipeline, which has one stage more, or fails
and leaves the pipeline as it is. -/
structure Appends (c : ClassRef) (i : Nat) (p : Pipeline) (s : Option Value)
    (ended : Except Fault Value × Store) : Prop where
  answer : ended.1.toOption = s.map fun _ => .handle (.pipeline c i)
  stages : ended.2.Stages c i (p.extended s.toList)

variable {d : Dispatch} {st : Store} {c : ClassRef} {i : Nat} {p : Pipeline} {call : StageCall}

theorem outcome_pipelineAt (h : st.Stages c i p) : (pipeline i).outcome st = (.ok p, st) := by
  rw [pipeline, outcome_bind_ok (outcome_get st), Array.getD_eq_getD_getElem?, h.pipeline]
  rfl

/-- What is appended is a copy. -/
theorem outcome_appendStage (h : st.Stages c i p) (stage : Value) :
    (∃ e, (appendStage d (.handle (.pipeline c i)) stage).outcome st = (.error e, st) ∧
        ¬stage.Plain ∧ st.uncopyable? stage = some e) ∨
      ∃ u after, (appendStage d (.handle (.pipeline c i)) stage).outcome st =
          (.ok (.handle (.pipeline c i)), after) ∧ stage.Copied u ∧
        after.Stages c i (p.extended [u]) ∧
        (stage.Plain → after.beyond = (st.restaged i (p.extended [u])).beyond) ∧
        st.uncopyable? stage = none := by
  rw [appendStage, outcome_bind_ok (outcome_pipelineAt h), h.instead]
  simp only
  obtain ⟨e, refused, uncopied⟩ | ⟨u, mid, made, copied, kept, same, free⟩ :=
    outcome_copy_cases stage st
  · exact .inl ⟨e, outcome_bind_error refused, uncopied⟩
  have set : (setPipeline i { p with stages := p.stages ++ [u] }).outcome mid =
      (.ok (), mid.restaged i (p.extended [u])) := rfl
  have silent : (mid.restaged i (p.extended [u])).extraOf? (.handle (.pipeline c i)) "_logger" =
    none := (kept.stages h).logger
  rw [outcome_bind_ok made, outcome_bind_ok (outcome_pipelineAt (kept.stages h)),
    outcome_bind_ok set, outcome_bind_ok (outcome_noteOf silent rfl ..)]
  refine .inr ⟨u, _, rfl, copied, (kept.stages h).restaged h.instead (Store.beyond_noted ..),
    ?_, free⟩
  intro plain
  rw [Store.beyond_noted, same plain]

/-- A call appends the stage that it makes, unless none is made. -/
theorem outcome_callPipeline {r : Except Fault Value} {mid : Store} (h : st.Furnished c i)
    (made : (stageOf d (.handle (.pipeline c i)) call).outcome st = (r, mid))
    (kept : mid.Furnished c i) :
    (callPipeline d (.handle (.pipeline c i)) call).outcome st =
      (ofExcept r >>= appendStage d (.handle (.pipeline c i))).outcome mid := by
  obtain ⟨usual, -⟩ := h "push" _ rfl
  obtain ⟨still, -⟩ := kept "push" _ rfl
  rw [callPipeline, outcome_bind_ok (outcome_get st), usual, Bool.not_true, Bool.and_false]
  simp only [Bool.false_eq_true, if_false]
  cases r with
  | error e => rw [outcome_bind_error made, outcome_bind_error (outcome_ofExcept ..)]
  | ok s =>
    rw [outcome_bind_ok made, outcome_bind_ok (outcome_get mid), still, Bool.or_true, if_pos rfl,
      outcome_bind_ok (outcome_ofExcept ..)]

/-- What a function makes of a fresh pipeline, as stages. -/
def askPipeline (d : Dispatch) (c : ClassRef) (context : String) (model f : Value) : Act Value := do
  let built ← d.apply .never f [← newPipeline { cls := c, stages := [], model }] []
  if isPipeline built then stagesOf d built else throw (.nestedResult context built)

theorem outcome_startQuery_empty (st : Store) :
    (startQuery .unbound .null .null).outcome st =
      (.ok (.handle (.query .unbound st.queries.size)), st.questioned) := by
  let q : Query := { kind := .unbound, criteria := [], options := .empty, model := .null }
  have started : Query.start .unbound .null .null = .ok q := rfl
  rw [startQuery, started, outcome_bind_ok (outcome_ofExcept ..),
    outcome_bind_ok (outcome_copy .null st), started, outcome_bind_ok (outcome_ofExcept ..)]
  rfl

/-- What a function makes of a fresh query, as criteria. -/
def askQuery (d : Dispatch) (f : Value) : Act Value := do
  let built ← d.apply .never f [← startQuery .unbound .null .null] []
  if isQuery built then queryJson d built else throw (.matchResult built)

/-- The stages of a nested pipeline, on behalf of any builder of a class. -/
def nestedFor (d : Dispatch) (c : ClassRef) (context : String) (model source : Value) :
    Act Value :=
  if isPipeline source then stagesOf d source
  else match source.listed? with
  | some vs => do
    ofExcept (checkStages context 0 vs)
    copy (.list vs)
  | none =>
    if source.isCallable then askPipeline d c context model source
    else throw (.nestedSource context source)

theorem outcome_spawnLike (h : st.Stages c i p) (model : Value) :
    (spawnLike d (.handle (.pipeline c i)) model).outcome st =
      (newPipeline { cls := c, stages := [], model }).outcome st := by
  obtain ⟨usual, -⟩ := h.usual "_spawn" _ rfl
  rw [spawnLike, outcome_bind_ok (outcome_get st), outcome_callOr_usual usual, h.cls]
  rcases h.known with rfl | rfl <;> rfl

theorem outcome_nestedStages (h : st.Stages c i p) (context : String) (model source : Value) :
    (nestedStages d (.handle (.pipeline c i)) context model source).outcome st =
      (nestedFor d c context model source).outcome st := by
  obtain ⟨usual, -⟩ := h.usual "_resolve_pipeline" _ rfl
  rw [nestedStages, outcome_callOr_usual usual, nested, nestedFor]
  split
  · rfl
  · cases source.listed? with
    | some vs => rfl
    | none =>
      simp only
      split
      · rw [outcome_bind, outcome_spawnLike h, ← outcome_bind, askPipeline]
      · rfl

theorem matchStage_callable {source : Value} (query : ¬isQuery source)
    (entries : source.entries? = none) (callable : source.isCallable) :
    matchStage d source = (do return Stage.ofOperator "$match" (← askQuery d source)) := by
  simp only [matchStage, query, entries, callable, Bool.false_eq_true, if_true, if_false, askQuery,
    bind_assoc]
  congr
  funext fresh
  congr
  funext built
  split <;> rfl

end Act

/-- Whether a value is a class that can be asked for a collection handle. -/
def Registry.gives (r : Registry) : Value → Bool
  | .cls c =>
    match r.member? c "get_collection" with
    | some (_, .value f) => f.isCallable
    | some _ => true
    | none => false
  | _ => false

namespace Act

theorem outcome_branchModel (h : st.Stages c i p) :
    (branchModel d (.handle (.pipeline c i))).outcome st = (.ok p.model, st) := by
  rw [branchModel, outcome_bind_ok (outcome_pipelineAt h)]
  rfl

theorem outcome_givesCollection (v : Value) (st : Store) :
    (givesCollection v).outcome st = (.ok (st.registry.gives v), st) := by
  rw [givesCollection, outcome_bind_ok (outcome_get st)]
  unfold Registry.gives
  cases v
  case cls c =>
    simp only [Store.member?]
    rcases st.registry.member? c "get_collection" with - | ⟨owner, m⟩
    · rfl
    · cases m <;> rfl
  all_goals rfl

theorem outcome_sourceModel (v : Value) (st : Store) :
    (sourceModel v).outcome st = (.ok (if st.registry.gives v then v else .null), st) := by
  rw [sourceModel, outcome_bind_ok (outcome_givesCollection v st)]
  split <;> rfl

end Act

end DocMapper
