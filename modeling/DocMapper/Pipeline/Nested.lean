import DocMapper.Query.Search

/-!
Pipelines built stage by stage, with pipelines inside them.  A nested pipeline is given as a list of
stages, as a builder, or as a function of a fresh builder of the same class as the outer one.  Every
call appends exactly one stage, or fails and appends none.
-/

namespace DocMapper

/-- The calls that append a stage. -/
inductive StageCall
  | push (stage : Value)
  | addFields (fields : Value)
  | count (name : Value)
  | group (fields : Value)
  | limit (number : Value)
  | skip (number : Value)
  | match (source : Value)
  | project (projection : Value)
  | sort (fields : Value)
  | unwind (spec index preserve : Value)
  | replaceRoot (root : Value)
  | lookup (spec : Value)
  | facet (spec : Value)
  | unionWith (spec : Value)

namespace Act

def pipelineClass : ClassRef := .known "AggregateBuilder"

/-- Whether a value is a class that can be asked for a collection handle. -/
def givesCollection (v : Value) : Act Bool := do
  match v, (← get).member? v "get_collection" with
  | .cls _, some (_, .value f) => return f.isCallable
  | .cls _, some _ => return true
  | _, _ => return false

/-- The collection that a stage reads from, by name or by class. -/
def resolveCollection (d : Dispatch) (source : Value) (context : String) : Act Value := do
  match source with
  | .str "" => throw (.emptyCollectionName context)
  | .str s => return .str s
  | v =>
    if ← givesCollection v then
      match v with
      | .cls (.model slot) => ofExcept ((← registry).collection (.cls (.model slot)))
      | v => d.read v "collection"
    else throw (.collectionSource context v)

/-- The class that a nested pipeline is bound to: the source, if it can be asked for a handle. -/
def sourceModel (source : Value) : Act Value := do
  return if ← givesCollection source then source else .null

def isPipeline : Value → Bool
  | .handle (.pipeline ..) => true
  | _ => false

/-- The stages of a builder, as copies. -/
def ownStages (d : Dispatch) (self : Value) : Act Value := do
  match self with
  | .handle (.pipeline _ i) => copy (← pipeline i).toJson
  | v => copy (← d.read v "_stages")

/-- The stages of a builder, by the function that it has for that. -/
def stagesOf (d : Dispatch) (self : Value) : Act Value :=
  callOr d .never self pipelineClass "to_json" [] [] (ownStages d self)

def checkStages (context : String) (index : Nat) : List Value → Except Fault Unit
  | [] => .ok ()
  | v :: vs =>
    if v.isMapping then checkStages context (index + 1) vs
    else .error (.nestedStage context index v)

/-- A fresh builder of a class; a declared one may make its instances in a way of its own. -/
def spawn (d : Dispatch) (c : ClassRef) (model : Value) : Act Value :=
  match c with
  | .known "AggregateBuilder" | .known "TracingAggregate" =>
    newPipeline { cls := c, stages := [], model }
  | c => d.apply .never (.cls c) [] [(.str "model_cls", model)]

/-- A fresh builder of the same class as the builder `self`. -/
def spawnLike (d : Dispatch) (self model : Value) : Act Value := do
  let c := (← get).classOf self
  callOr d .never self pipelineClass "_spawn" [model] [] (spawn d c model)

/-- The stages of a nested pipeline; a function is given a fresh builder bound to `model`. -/
def nested (d : Dispatch) (self : Value) (context : String) (model source : Value) :
    Act Value := do
  if isPipeline source then stagesOf d source
  else if let some vs := source.listed? then
    ofExcept (checkStages context 0 vs)
    copy (.list vs)
  else if source.isCallable then
    let built ← d.apply .never source [← spawnLike d self model] []
    if isPipeline built then stagesOf d built
    else throw (.nestedResult context built)
  else throw (.nestedSource context source)

/-- The stages of a nested pipeline, by the function that the builder has for them. -/
def nestedStages (d : Dispatch) (self : Value) (context : String) (model source : Value) :
    Act Value :=
  callOr d .never self pipelineClass "_resolve_pipeline" [source, .str context, model] []
    (nested d self context model source)

/-- The criteria that a match stage is given as a mapping, a query or a function. -/
def matchStage (d : Dispatch) (source : Value) : Act Value := do
  let stage (criteria : Value) := Stage.ofOperator "$match" criteria
  if isQuery source then return stage (← queryJson d source)
  else if let some criteria := source.entries? then return stage (.dict criteria)
  else if source.isCallable then
    let fresh ← startQuery .unbound .null .null
    let built ← d.apply .never source [fresh] []
    if isQuery built then return stage (← queryJson d built)
    else throw (.matchResult built)
  else throw (.matchSource source)

/-- The two ways to join, by equal fields or by a pipeline, are never mixed. -/
def lookupStage (d : Dispatch) (self spec : Value) : Act Value := do
  let es ← ofExcept (Argument.mapping "lookup() spec" spec)
  let some source := es.field? "from" | throw .lookupWithoutFrom
  let some target := (es.field? "as").bind Value.name? | throw .lookupWithoutAs
  let name ← resolveCollection d source "lookup()"
  let stage (body : Entries) := Stage.ofOperator "$lookup" (.dict body)
  match es.field? "localField" with
  | some here =>
    let some there := es.field? "foreignField" | throw .lookupWithoutForeign
    return stage [(.str "from", name), (.str "localField", here), (.str "foreignField", there),
      (.str "as", .str target)]
  | none =>
    let some inner := es.field? "pipeline" | throw .lookupWithoutForm
    let model ← sourceModel source
    let bindings ← match es.field? "let" with
      | some v => do
        let ls ← ofExcept (Argument.mapping "lookup() 'let'" v)
        pure [(.str "let", .dict ls)]
      | none => pure []
    let stages ← nestedStages d self "lookup() pipeline" model inner
    return stage ([(.str "from", name)] ++ bindings ++
      [(.str "pipeline", stages), (.str "as", .str target)])

/-- The model that the branches of a facet are bound to. -/
def branchModel (d : Dispatch) (self : Value) : Act Value := do
  match self with
  | .handle (.pipeline _ i) => return (← pipeline i).model
  | v => do
    let _ ← d.read v "_resolve_pipeline"
    d.read v "model_cls"

/-- The branches of a facet in order; each is bound to the model that the builder has by then. -/
def facetBranches (d : Dispatch) (self : Value) : List (Value × Value) → Act Entries
  | [] => return []
  | (k, source) :: es => do
    match k.name? with
    | none => throw (.facetName k)
    | some name => do
      let model ← branchModel d self
      let stages ← nestedStages d self s!"facet() branch '{name}'" model source
      return (.str name, stages) :: (← facetBranches d self es)

def facetStage (d : Dispatch) (self spec : Value) : Act Value := do
  match ← ofExcept (Argument.mapping "facet() spec" spec) with
  | [] => throw .facetEmpty
  | es => return Stage.ofOperator "$facet" (.dict (← facetBranches d self es))

/-- A union reads a whole collection, or a collection through a pipeline. -/
def unionStage (d : Dispatch) (self spec : Value) : Act Value := do
  let stage (body : Value) := Stage.ofOperator "$unionWith" body
  match spec with
  | .handle (.pipeline _ i) => do
    let p ← pipeline i
    match p.model with
    | .null => throw .unionUnbound
    | model =>
      let name ← resolveCollection d model "union_with()"
      let stages ← stagesOf d spec
      return stage (.dict [(.str "coll", name), (.str "pipeline", stages)])
  | spec =>
    match spec.entries? with
    | some es => do
      let some source := es.field? "coll" | throw .unionWithoutCollection
      let name ← resolveCollection d source "union_with()"
      match es.field? "pipeline" with
      | none => return stage (.dict [(.str "coll", name)])
      | some inner =>
        let stages ← nestedStages d self "union_with() pipeline" (← sourceModel source) inner
        return stage (.dict [(.str "coll", name), (.str "pipeline", stages)])
    | none => return stage (← resolveCollection d spec "union_with()")

/-- The stage that a call makes, on behalf of the builder `self`. -/
def stageOf (d : Dispatch) (self : Value) (call : StageCall) : Act Value := do
  match call with
  | .push v => ofExcept (Stage.raw v)
  | .addFields v => ofExcept (Stage.addFields v)
  | .count v => ofExcept (Stage.count v)
  | .group v => ofExcept (Stage.group v)
  | .limit v => ofExcept (Stage.limit v)
  | .skip v => ofExcept (Stage.skip v)
  | .match v => matchStage d v
  | .project v => ofExcept (Stage.project v)
  | .sort v => ofExcept (Stage.sort v)
  | .unwind v index preserve => ofExcept (Stage.unwind v index preserve)
  | .replaceRoot v => ofExcept (Stage.replaceRoot v)
  | .lookup v => lookupStage d self v
  | .facet v => facetStage d self v
  | .unionWith v => unionStage d self v

/-- Appends a copy of a stage. -/
def appendStage (d : Dispatch) (self stage : Value) : Act Value := do
  match self with
  | .handle (.pipeline _ i) => do
    if let some v := (← pipeline i).instead then throw (v.lacks "append")
    let copied ← copy stage
    let p ← pipeline i
    setPipeline i { p with stages := p.stages ++ [copied] }
    noteOf self .debug fun st => s!"Appended stage: {st.text stage}"
    return self
  | v => lacking d v "_stages"

/-- A call on a pipeline; the builder may have a function of its own for appending, which a stage
that holds a number alone is made for. -/
def callPipeline (d : Dispatch) (self : Value) (call : StageCall) : Act Value := do
  if isNumber call && !(← get).usual self pipelineClass "push" then
    let _ ← d.read self "push"
  let stage ← stageOf d self call
  if isPush call || (← get).usual self pipelineClass "push" then appendStage d self stage
  else d.call .never self "push" [stage] []
where
  isPush : StageCall → Bool
    | .push _ => true
    | _ => false
  isNumber : StageCall → Bool
    | .limit _ | .skip _ => true
    | _ => false

def startPipeline (cls : ClassRef) (stages model : Value) : Act Value := do
  let given ← if stages.truthy then itemsOf stages else pure []
  let stages ← given.mapIdxM fun i v => do
    copy (.dict (← ofExcept (Argument.mapping s!"Pipeline stage {i}" v)))
  newPipeline { cls, stages, model }

/-- A pipeline on a model, by the builder that its class uses. -/
def aggregateIn (d : Dispatch) (c : ClassRef) (stages : Value) : Act Value := do
  match (← registry).member? c "AggregateBuilder" with
  | some (_, .value (.cls (.known "AggregateBuilder"))) =>
    startPipeline pipelineClass stages (.cls c)
  | some (_, .value (.cls (.known "TracingAggregate"))) =>
    startPipeline (.known "TracingAggregate") stages (.cls c)
  | _ => d.call .never (.cls c) "AggregateBuilder" [stages] [(.str "model_cls", .cls c)]

def aggregateThrough (d : Dispatch) (h stages : Value) (args : Entries) : Act Value := do
  let direct : Act Value :=
    match h with
    | .handle (.collection i) => do
      let _ ← ofExcept (findThrough.passedOn "aggregate" "pipeline" args)
      aggregate i stages args
    | v => throw (v.lacks "aggregate")
  callOr d .never h (.known "MockCollection") "aggregate" [stages] args direct

/-- The model that a pipeline is bound to. -/
def modelOfPipeline (d : Dispatch) (self : Value) : Act Value := do
  match self with
  | .handle (.pipeline _ i) => return (← pipeline i).model
  | v => d.read v "model_cls"

/-- Runs a pipeline against the collection of its model. -/
def executePipeline (d : Dispatch) (self : Value) (extra : Entries) : Act Value := do
  match ← modelOfPipeline d self with
  | .null => throw .pipelineUnbound
  | model =>
    let stages ← stagesOf d self
    let h ← collectionFor d model
    let name ← modelName d model
    let number := (← sized stages).length
    noteOf self .info fun st =>
      s!"Executing aggregate on {st.plainText name} with {number} stage(s)"
    noteOf self .debug fun st => s!"Pipeline: {st.text stages}"
    let source ← aggregateThrough d h stages extra
    startCursor d .aggregate model source

end Act

end DocMapper
