import DocMapper.Script.Step

/-!
Scripts run step by step.  Each step answers with its result or its fault, with what was noted while
it was taken, and with the state of the object that it was about.  A step that fails binds no name,
but what it changed stays changed.
-/

namespace DocMapper.Script

structure Session where
  store : Store
  names : Names

/-- The root model is the one name that is always bound. -/
def Session.start (noting : Bool) : Session where
  store := { noting }
  names := [("Model", .cls .root)]

/-- A step, and the name that its result takes. -/
structure Command where
  step : Step
  name : Option String := none

/-- A fault as it is reported. -/
structure Complaint where
  kind : FaultKind
  message : String
  deriving Inhabited

/-- What a step answers. -/
structure Answer where
  result : Except Complaint Report
  sightings : Array Sighting := #[]
  notes : Array Note := #[]
  state : Option Report := none

def complaint (st : Store) (e : Fault) : Complaint :=
  ⟨e.kind, st.message e⟩

def Complaint.report (c : Complaint) : Report :=
  .record [("error", text c.kind.name), ("message", text c.message)]

def Result.report (st : Store) : Result → Report
  | .value v => .value v
  | .outcomes rs =>
    .sequence (rs.map fun
      | .ok v => .record [("ok", .value v)]
      | .error e => (complaint st e).report)

/-- The object that an answer describes: the one that the step was about, or else a named result. -/
def subject? (s : Session) (command : Command) (succeeded : Bool) : Option Value :=
  match command.step, command.step.on?, command.name with
  | .bind _, _, _ => none
  | _, some path, _ =>
    let d := s.names.dispatch
    match (s.names.resolve d path).run { s.store with noting := false } with
    | (.ok v, _) => some v
    | (.error _, _) => none
  | _, none, some name => if succeeded then s.names.lookup name else none
  | _, none, none => none

/-- A report with named objects shown by their names. -/
def Session.shown (s : Session) (r : Report) : Report :=
  r.map (present s.store s.names) (present s.store [])

def Session.take (s : Session) (command : Command) : Answer × Session :=
  let before := { s.store with notes := #[], sightings := #[] }
  let (outcome, store) := (perform s.names command.step).run before
  let (result, s) : Except Complaint Report × Session :=
    match outcome with
    | .error e => (.error (complaint store e), { s with store })
    | .ok (r, names) =>
      let names := match command.name, r with
        | some n, .value v => names.put n v
        | _, _ => names
      (.ok (r.report store), ⟨store, names⟩)
  let state := (subject? s command result.toBool).map (stateReport s.store)
  ({ result := result.map s.shown
     sightings := store.sightings
     notes := store.notes
     state := state.map s.shown }, s)

/-- The answers to a script, one per step. -/
def Session.run (s : Session) : List Command → List Answer
  | [] => []
  | c :: cs =>
    let (a, s) := s.take c
    a :: s.run cs

theorem Session.length_run (s : Session) (cs : List Command) : (s.run cs).length = cs.length := by
  induction cs generalizing s with
  | nil => rfl
  | cons c cs ih => simp [Session.run, ih]

/-- One function call in a store of its own. -/
def callAlone (name : String) (args : List Value) : Except Complaint Report :=
  let s := Session.start false
  ((s.take { step := .function name args }).1).result

/-- The message of a fault that is given one argument, several, or none. -/
def messageOf (st : Store) (k : FaultKind) : List Value → String
  | [] => k.defaultMessage
  | [v] => st.plainText v
  | vs => st.text (.tuple vs)

/-- How a fault of a kind is built; those with a message of their own take no more than one. -/
def builderOf? (k : FaultKind) : Option Method :=
  if k.defaultMessage = "" then none
  else some { owner := k.name, name := "__init__", parameters := [.optional "message"] }

/-- A fault of a kind as it is built with the given arguments. -/
def describeFault (k : FaultKind) (args : List Value) : Except Complaint Report :=
  let s := Session.start false
  let build : Act (List Value) := do
    let args ← s.names.completeItems s.names.dispatch args
    if let some m := builderOf? k then
      let _ ← Act.ofExcept (m.bind (.null :: args) [])
    return args
  match build.run s.store with
  | (.error e, st) => .error (complaint st e)
  | (.ok args, st) =>
    .ok (.record [("kind", text k.name), ("message", text (messageOf st k args)),
      ("bases", .value (.list (k.lineage.map Value.str)))])

/-- What the library offers, in the order of the names. -/
def publicNames : List String :=
  ["AggregateBuilder", "AggregateCursor", "Connection", "CursorState", "CursorStateException",
   "InvalidStageError", "Model", "ModelConfigurationException", "ModelQuery",
   "ObjectNotFoundException", "QueryBuilder", "QueryCursor", "QueryOperator", "QueryOptions",
   "ValidationError", "ValueRangeError", "bind_model", "logger"]

def operatorsReport : Report :=
  .value (.list (Operator.all.map fun o => .list [.str o.name, .str o.key]))

end DocMapper.Script
