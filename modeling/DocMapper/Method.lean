import DocMapper.Borrowed
import DocMapper.Construction
import DocMapper.Names

/-!
Calls.  A call reads a member by its name and applies it: classes make instances, functions of the
library do what they are for, and functions written as lists of calls make those calls on the
builder that they are given.  What a call finds in the place of a member decides how deep calls can
lead into one another; `dispatch` follows them to a given depth.
-/

namespace DocMapper

/-- The call on a query that a method stands for. -/
def QueryCall.ofMethod? (name : String) (a : Arguments) : Option QueryCall :=
  match name with
  | "where" => some (restrict (a.at 1))
  | "eq" => some (compare .eq (a.at 1) (a.at 2))
  | "neq" => some (compare .ne (a.at 1) (a.at 2))
  | "gt" => some (compare .gt (a.at 1) (a.at 2))
  | "gte" => some (compare .gte (a.at 1) (a.at 2))
  | "lt" => some (compare .lt (a.at 1) (a.at 2))
  | "lte" => some (compare .lte (a.at 1) (a.at 2))
  | "in_" => some (members .isIn (a.at 1) (a.at 2))
  | "nin" => some (members .notIn (a.at 1) (a.at 2))
  | "exists" => some (present (a.at 1) (a.at 2))
  | "and_" => some (every (a.at 1))
  | "or_" => some (either (a.at 1))
  | "select" => some (select a.more)
  | "sort" => some (sort (a.at 1))
  | "skip" => some (skip (a.at 1))
  | "limit" => some (limit (a.at 1))
  | _ => none

/-- The call on a pipeline that a method stands for. -/
def StageCall.ofMethod? (name : String) (a : Arguments) : Option StageCall :=
  match name with
  | "push" => some (push (a.at 1))
  | "add_fields" => some (addFields (a.at 1))
  | "count" => some (count (a.at 1))
  | "group" => some (group (a.at 1))
  | "limit" => some (limit (a.at 1))
  | "skip" => some (skip (a.at 1))
  | "match" => some (StageCall.match (a.at 1))
  | "project" => some (project (a.at 1))
  | "sort" => some (sort (a.at 1))
  | "unwind" => some (unwind (a.at 1) (a.at 2) (a.at 3))
  | "replace_root" => some (replaceRoot (a.at 1))
  | "lookup" => some (lookup (a.at 1))
  | "facet" => some (facet (a.at 1))
  | "union_with" => some (unionWith (a.at 1))
  | _ => none

namespace Act

def queryMethod (d : Dispatch) (self : Value) (name : String) (a : Arguments) : Act Value := do
  match QueryCall.ofMethod? name a with
  | some call => callQuery d self call
  | none =>
    match name with
    | "to_json" => ownCriteria d self
    | "get_options" => do
      let options ← optionsOf d self
      callOr d .never options (.known "QueryOptions") "copy" [] [] (copy options)
    | "_compare" => compareBy d self (a.at 1) (a.at 2) (a.at 3)
    | "_branches" => branchList d ((← get).plainText (a.at 2)) (a.at 1)
    | "bind" => bindTo self (a.at 1)
    | "_require_model" => ownModel d self
    | "execute" => execute d self a.options
    | "count" => countMatching d self a.options
    | "first" => first d self
    | "__aiter__" => walkExecuted d self
    | "__await__" =>
      let _ ← executed d self
      made (.inert (.known "coroutine_wrapper"))
    | _ => throw (self.lacks name)

def pipelineMethod (d : Dispatch) (self : Value) (name : String) (a : Arguments) : Act Value := do
  match StageCall.ofMethod? name a with
  | some call => callPipeline d self call
  | none =>
    match name with
    | "bind" => bindTo self (a.at 1)
    | "_spawn" => spawn d ((← get).classOf self) (a.at 1)
    | "to_json" => ownStages d self
    | "execute" => executePipeline d self a.options
    | "_resolve_pipeline" => nested d self ((← get).plainText (a.at 2)) (a.at 3) (a.at 1)
    | "__aiter__" => walkExecuted d self
    | "__await__" =>
      let _ ← executed d self
      made (.inert (.known "coroutine_wrapper"))
    | _ => throw (self.lacks name)

def optionsMethod (d : Dispatch) (self : Value) (name : String) : Act Value := do
  match name with
  | "copy" => copy self
  | "to_find_kwargs" => searchArguments (← optionsLike d self)
  | "to_count_kwargs" => return .dict (← windowLike d self).countArguments
  | _ => throw (self.lacks name)

def cursorMethod (d : Dispatch) (owner : String) (self : Value) (name : String) (a : Arguments) :
    Act Value := do
  match self, name with
  | .handle (.cursor _ i), "next" => next d i
  | .handle (.cursor _ i), "collect_all" => return .list (← collectAll d i)
  | .handle (.cursor _ i), "unwrap" => return (← cursor i).source
  | .handle (.cursor _ i), "_handle" => openSource d i
  | .handle (.cursor _ i), "_pull_lock" => lockOf i
  | .handle (.cursor ..), "__await__" => made (.inert (.known "coroutine_wrapper"))
  | v, name => cursorLike d owner v name a

/-- Functions of a model's instances. -/
def documentMethod (d : Dispatch) (self : Value) (name : String) : Act Value := do
  match self, name with
  | _, "validate" => return .null
  | .handle (.document _ i), "to_json" => prepare d (← document i).fields
  | v, "to_json" => prepare d (← d.read v "fields")
  | .handle (.document _ i), "save" =>
    save d i
    return .null
  | v, "save" =>
    saveLike d v
    return .null
  | v, name => throw (v.lacks name)

/-- Functions of a model itself. -/
def modelMethod (d : Dispatch) (self : Value) (name : String) (a : Arguments) : Act Value := do
  match self, name with
  | .cls c, "get_collection" => modelCollection d c
  | .cls c, "find" => findIn d c (a.at 1)
  | .cls c, "aggregate" => aggregateIn d c (a.at 1)
  | .cls c, "find_by_id" => findById d c (a.at 1)
  | .cls c, "hydrate" => hydrate d c (a.at 1)
  | .cls c, "hydrate_all" => return .list (← hydrateAll d c (← itemsOf (a.at 1)))
  | v, name => throw (v.lacks name)

def connectionMethod (d : Dispatch) (i : Nat) (name : String) (a : Arguments) : Act Value := do
  match name with
  | "connect" =>
    connect d i (a.at 1) a.options
    return .null
  | "collection" => handleOf d i (a.at 1)
  | "define" =>
    let listed ← if (a.at 1).truthy then entriesOf (a.at 1) else pure []
    define d i (Entries.merge listed a.options)
    return .null
  | "close" =>
    close d i
    return .null
  | _ => throw (Value.lacks (.handle (.connection i)) name)

/-- What a handle of a collection answers. -/
def collectionMethod (i : Nat) (name : String) (a : Arguments) : Act Value := do
  let counted (n : Nat) : Act Value :=
    newSpace [(.str "matched_count", .int n), (.str "modified_count", .int n)]
  match name with
  | "find" => find i (a.at 1) a.options
  | "aggregate" => aggregate i (a.at 1) a.options
  | "count_documents" => return .int (← countDocuments i (a.at 1) a.options)
  | "insert_one" => newSpace [(.str "inserted_id", ← insertOne i (a.at 1))]
  | "update_one" => if ← updateOne i (a.at 1) (a.at 2) then counted 1 else counted 0
  | _ => throw (Value.lacks (.handle (.collection i)) name)

/-- What specimens answer when they are asked to convert themselves. -/
def specimenMethod (d : Dispatch) (owner : String) (name : String) (a : Arguments) : Act Value := do
  let self := a.at 0
  match owner, name with
  | "BothDump", _ => if (a.at 1).truthy then d.read self "x" else d.read self "y"
  | "Raiser", _ =>
    let message := (← get).plainText (← d.read self "msg")
    match ← d.read self "kind" with
    | .str "TypeError" => throw (.raised .type message)
    | _ => throw (.raised .value message)
  | _, _ => d.read self "x"

/-- The dump of a schema's instance, by aliases if it is asked for them. -/
def schemaMethod (self : Value) (name : String) (a : Arguments) : Act Value := do
  let byAlias := ((a.options.field? "by_alias").getD .null).truthy
  match self with
  | .handle (.record .schema c i) =>
    ofExcept ((← get).dumpOf byAlias (.record .schema c i))
  | v => throw (v.lacks name)

/-- Functions of what gives the items of a cursor one by one. -/
def streamMethod (d : Dispatch) (s : Nat) (name : String) : Act Value := do
  match name with
  | "__anext__" =>
    match ← readStream d s (some 1) with
    | [] => throw (.raised .exhausted "")
    | x :: _ => return x
  | "aclose" =>
    setStream s { (← stream s) with done := true }
    return .null
  | _ => return .handle (.stream s)

/-- A call of a function of a container: its result, and the container after it. -/
def callContainer (v : Value) (name : String) (args : List Value) (named : Entries) :
    Act (Value × Value) := do
  let st ← get
  ofExcept (Container.call v name (args.map st.walkedTwice) named)

/-- What a class says of the classes that it refines, or that refine it. -/
def classesOf (r : Registry) (name : String) (c : ClassRef) : List Value :=
  let refining (d : Declaration) : Bool := d.bases.contains c
  let classes := if name = "mro" then r.ancestors c
    else (r.declarations.toList.filter refining).map Declaration.ref
  classes.map .cls

/-- What a function of the library does, once its arguments are in order. -/
def performMethod (d : Dispatch) (m : Method) (a : Arguments) : Act Value :=
  match m.name, m.owner, a.at 0 with
  | "__init__", _, self => do
    startAgain d (classNamed m.owner) self a
    return .null
  | "__repr__", _, self => do return .str ((← get).text self)
  | _, "Model", self =>
    if m.receiver = "cls" then modelMethod d self m.name a else documentMethod d self m.name
  | _, "QueryBuilder", self | _, "ModelQuery", self => queryMethod d self m.name a
  | _, "AggregateBuilder", self => pipelineMethod d self m.name a
  | _, "QueryOptions", self => optionsMethod d self m.name
  | _, "BaseCursor", self | _, "QueryCursor", self => cursorMethod d m.owner self m.name a
  | _, "Connection", .handle (.connection i) => connectionMethod d i m.name a
  | _, "Connection", self => connectionLike d self m.name a
  | _, "DuckModel", _ | _, "HasGetCollection", _ => pure .null
  | _, "BaseModel", self => schemaMethod self m.name a
  | _, "LegacyDump", _ | _, "BothDump", _ | _, "ToJson", _ | _, "Raiser", _ =>
    specimenMethod d m.owner m.name a
  | _, "MockCollection", .handle (.collection i) => collectionMethod i m.name a
  | _, "MockDatabase", .handle (.database i) => do
    return .handle (.collection (← newHandle i (a.at 1)))
  | _, "MockClient", .handle (.client k) =>
    match m.name with
    | "close" => do
      closeClient k
      return .null
    | _ => databaseOf k (a.at 1)
  | _, "MockCursor", .handle (.source s) =>
    match m.name with
    | "next" => pullSource s
    | _ => drainSource s
  | _, "async_generator", .handle (.stream s) => streamMethod d s m.name
  | name, "Logger", .handle (.logger log) => do
    let level := (Level.all.find? fun l => l.name.toLower = name).getD .debug
    noteIn log level fun st => st.plainText (a.at 1)
    return .null
  | _, "type", .cls c => do return .list (classesOf (← registry) m.name c)
  | name, owner, self => do
    let container := (← get).current self
    if Container.offers container name then
      return (← callContainer container name a.more a.options).1
    else databaseLike d owner self name
where
  /-- A class of the library by the name that it was given. -/
  classNamed (name : String) : ClassRef :=
    if name = "Model" then .root else .known name

/-- A call that has to be waited for, as a promise of what it will give. -/
def postponed (function : Value) (args : List Value) (named : Entries) : Act Value :=
  newPromise { promised := .call function args named }

/-- Does what a function does once its arguments are in order; one that has to be waited for does
nothing before that. -/
def carryOut (d : Dispatch) (waiting : Waiting) (function : Value) (m : Method)
    (args : List Value) (named : Entries) (act : Arguments → Act Value) : Act Value := do
  let a ← ofExcept (m.bind args named)
  match m.waits, waiting with
  | true, .never => postponed function args named
  | true, _ => act a
  | false, .always => awaitedBy d (← act a)
  | false, _ => act a

/-- A function that a class offers, with the arguments it needs. -/
def applyRoutine (d : Dispatch) (waiting : Waiting) (owner : ClassRef) (name : String)
    (args : List Value) (named : Entries) : Act Value := do
  let self := Value.handle (.routine owner name)
  let run (m : Method) (act : Arguments → Act Value) : Act Value :=
    carryOut d waiting self m args named act
  let r ← registry
  match r.ownMember? owner name with
  | some (.method m) => run m (performMethod d m)
  | some (.ofClass m) => run m (performMethod d m)
  | some (.requiring names) =>
    run { owner := r.givenName owner, name, waits := true } fun a => do
      requireFields d (a.at 0) names
      return .null
  | some (.hydrating key) =>
    let m : Method :=
      { owner := r.givenName owner, name, receiver := "cls", parameters := [.required "document"] }
    run m fun a => do hydrate d (← receivingClass (a.at 0)) (.dict [(.str key, a.at 1)])
  | _ => throw (.notCallable self)
where
  /-- The class that a function of a class is given. -/
  receivingClass (v : Value) : Act ClassRef := do
    match v with
    | .cls c => return c
    | v => return (← get).classOf v

/-- How far a builder is built. -/
def sizeOfBuilder (st : Store) : Value → Nat
  | .handle (.query _ i) => ((st.queries.getD i default).toJson.items?.getD []).length
  | .handle (.pipeline _ i) => ((st.pipelines.getD i default).toJson.items?.getD []).length
  | _ => 0

/-- The model that a pipeline is bound to, or null. -/
def modelOfBuilder (st : Store) : Value → Value
  | .handle (.pipeline _ i) => (st.pipelines.getD i default).model
  | _ => .null

/-- What is seen of a builder that a function is given. -/
def sightingOf (st : Store) (builder : Value) : Sighting :=
  let bound := modelOfBuilder st builder
  { builder, bound, type := st.typeName builder, model := (st.nameOf? bound).getD .null
    size := sizeOfBuilder st builder }

def sight (builder : Value) : Act Unit :=
  modify fun st => { st with sightings := st.sightings.push (sightingOf st builder) }

/-- The calls of a function one after another; none is waited for. -/
def runCalls (d : Dispatch) (names : Names) (builder : Value) : List Call → Act Unit
  | [] => return
  | c :: cs => do
    let target ← match c.target with
      | some v => names.complete d v
      | none => pure builder
    let args ← names.completeItems d c.args
    let named := Entries.ofPairs (← names.completeEntries d c.named)
    let _ ← d.call .never target c.method args named
    runCalls d names builder cs

/-- A function of a builder: it makes its calls and returns its result, or else the builder. -/
def runFunction (d : Dispatch) (names : Names) (calls : List Call) (result : Option Value)
    (args : List Value) : Act Value := do
  match args with
  | [builder] =>
    sight builder
    runCalls d names builder calls
    match result with
    | some v => names.complete d v
    | none => return builder
  | args =>
    let m : Method := { owner := "function", name := "call", receiver := "builder" }
    throw (if args.isEmpty then m.missing ["builder"] else m.tooMany args.length)

/-- A factory on its own; what one promises is made when it is waited for. -/
def applyFactory (d : Dispatch) (waiting : Waiting) (i : Nat) (args : List Value)
    (named : Entries) : Act Value := do
  let waits := (← factory i).kind = .promised
  let m : Method := { name := "factory", receiver := "url", options := true, waits }
  carryOut d waiting (.handle (.factory i)) m args named fun a => runFactory i (a.at 0) a.options

/-- Applies a function to all of its arguments. -/
def applyFunction (d : Dispatch) (names : Names) (waiting : Waiting) (f : Value) (args : List Value)
    (named : Entries) : Act Value := do
  let given (v : Value) : Act Value :=
    if waiting = .always then awaitedBy d v else pure v
  match f with
  | .handle (.routine owner name) => applyRoutine d waiting owner name args named
  | .handle (.factory i) => applyFactory d waiting i args named
  | .cls c => given (← construct d c args named)
  | .object _ (.function calls result) => given (← runFunction d names calls result args)
  | .object _ (.refusing m) => throw (.refused m)
  | v => throw (.notCallable v)

def applyValue (d : Dispatch) (names : Names) (waiting : Waiting) (f : Value) (args : List Value)
    (named : Entries) : Act Value :=
  match f with
  | .object _ (.bound receiver f) => applyFunction d names waiting f (receiver :: args) named
  | f => applyFunction d names waiting f args named

end Act

/-- Reading, applying and waiting, with calls inside of calls to a depth. -/
def dispatch (names : Names) : (depth : Nat) → Dispatch
  | 0 =>
    { read := fun _ _ => throw Act.tooDeep
      apply := fun _ _ _ _ => throw Act.tooDeep
      await := fun _ => throw Act.tooDeep }
  | n + 1 =>
    { read := fun v name => Act.readAttribute (dispatch names n) v name
      apply := fun waiting f args named =>
        Act.applyValue (dispatch names n) names waiting f args named
      await := fun v => Act.wait (dispatch names n) v }

/-- Calls inside of calls as deep as they may lead. -/
def Names.dispatch (names : Names) : Dispatch :=
  DocMapper.dispatch names Act.deepest

end DocMapper
