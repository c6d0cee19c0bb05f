import DocMapper.Argument
import DocMapper.Criteria.Operator
import DocMapper.Query.Options

/-!
Queries, built call by call.  A call is checked before it changes anything, so a query after a call
is either the changed query or, with a fault, no query at all: the old one stays as it is.
-/

namespace DocMapper

/-- A query over its criteria.  Its options are its own, unless it was given others to hold; and it
may have been given anything else to hold instead of criteria. -/
structure Query where
  kind : QueryKind
  criteria : Entries
  options : Options
  model : Value
  held : Value := .null
  instead : Option Value := none
  deriving Inhabited

/-- The calls that change a query.  Criteria and branches are given as copies. -/
inductive QueryCall
  | restrict (criteria : Value)
  | compare (op : Operator) (field value : Value)
  | members (op : Operator) (field values : Value)
  | present (field value : Value)
  | every (branches : Value)
  | either (branches : Value)
  | select (names : List Value)
  | sort (fields : Value)
  | skip (number : Value)
  | limit (number : Value)

/-- The option that a call is about. -/
def QueryCall.option? : QueryCall → Option String
  | .select _ => some "projection"
  | .sort _ => some "sort"
  | .skip _ => some "skip"
  | .limit _ => some "limit"
  | _ => none

/-- The function of a dictionary that a call changes the criteria by. -/
def QueryCall.changesBy? : QueryCall → Option String
  | .restrict _ | .every _ | .either _ => some "update"
  | .compare .. | .members .. | .present .. => some "get"
  | _ => none

namespace Query

/-- A new query; criteria are given as a copy. -/
def start (kind : QueryKind) (criteria model : Value) : Except Fault Query := do
  let criteria ← match criteria with
    | .null => pure []
    | v => Argument.mapping "Query criteria" v
  return { kind, criteria, options := .empty, model }

/-- The operator document that a field is under: a condition by equality counts as one. -/
def operatorsAt (criteria : Entries) (field : String) : Entries :=
  match criteria.field? field with
  | none => []
  | some v => if v.isOperatorDocument then v.entries?.getD [] else [(.str Operator.eq.key, v)]

/-- The criteria with one more operator on a field, in the place of an earlier use of it. -/
def constrain (criteria : Entries) (field : String) (op : Operator) (value : Value) : Entries :=
  criteria.put (.str field) (.dict ((operatorsAt criteria field).put (.str op.key) value))

def compare (q : Query) (op : Operator) (field value : Value) : Except Fault Query :=
  match field.name? with
  | some f => .ok { q with criteria := constrain q.criteria f op value }
  | none => .error (.fieldName field)

/-- The collections of values that a membership test takes. -/
def memberList? : Value → Option (List Value)
  | .list xs => some xs
  | .tuple xs => some xs
  | .set xs => some xs
  | _ => none

/-- One branch of alternatives as criteria. -/
def branch (method : String) (index : Nat) (v : Value) : Except Fault Value :=
  match v.entries? with
  | some es => .ok (.dict es)
  | none => .error (.branch method index v)

def branchesFrom (method : String) (index : Nat) : List Value → Except Fault (List Value)
  | [] => .ok []
  | v :: vs => do
    let b ← branch method index v
    return b :: (← branchesFrom method (index + 1) vs)

def branches (method : String) (v : Value) : Except Fault (List Value) :=
  match v.listed? with
  | some vs => branchesFrom method 0 vs
  | none => .error (.notBranches method v)

/-- The names of a selection, each once, in order of first mention. -/
def selected : List Value → Except Fault (List String)
  | [] => .ok []
  | v :: vs =>
    match v.name? with
    | some s => do return s :: (← selected vs).filter (· ≠ s)
    | none => .error (.selection v)

/-- The order with further fields merged into it. -/
def mergeSort (sort : Value) (fields : Entries) : Except Fault Value :=
  match sort with
  | .dict es => .ok (.dict (Entries.merge es fields))
  | .mapping es => .ok (.mapping (Entries.merge es fields))
  | v => .error (v.lacks "update")

def apply (q : Query) : QueryCall → Except Fault Query
  | .restrict criteria => do
    let es ← Argument.mapping "where() criteria" criteria
    return { q with criteria := q.criteria.merge es }
  | .compare op field value => q.compare op field value
  | .members op field values =>
    match memberList? values with
    | some xs => q.compare op field (.list xs)
    | none => .error (.notMembers (if op = .isIn then "in" else "nin") values)
  | .present field value =>
    match value with
    | .bool b => q.compare .present field (.bool b)
    | v => .error (.notBoolean v)
  | .every vs => do
    let bs ← branches "and_" vs
    return { q with criteria := q.criteria.put (.str "$and") (.list bs) }
  | .either vs => do
    let bs ← branches "or_" vs
    return { q with criteria := q.criteria.put (.str "$or") (.list bs) }
  | .select names => do
    let ns ← selected (Value.flatten names)
    return { q with options := { q.options with projection := .list (ns.map Value.str) } }
  | .sort fields => do
    let es ← Argument.mapping "sort() fields" fields
    return { q with options := { q.options with sort := ← mergeSort q.options.sort es } }
  | .skip n => do
    let n ← Argument.count "Skip" n
    return { q with options := { q.options with skip := .int n } }
  | .limit n => do
    let n ← Argument.count "Limit" n
    return { q with options := { q.options with limit := .int n } }

/-- A run of calls, those with faults passed over. -/
def run (q : Query) (calls : List QueryCall) : Query :=
  calls.foldl (fun q c => (q.apply c).toOption.getD q) q

@[simp] theorem run_nil (q : Query) : q.run [] = q := rfl

theorem run_append (q : Query) (cs ds : List QueryCall) :
    q.run (cs ++ ds) = (q.run cs).run ds := by
  simp [run]

/-- The criteria as a value. -/
def toJson (q : Query) : Value :=
  q.instead.getD (.dict q.criteria)

/-- The query with a value in the place of its criteria. -/
def holding (q : Query) (v : Value) : Query :=
  match v with
  | .dict es => { q with criteria := es, instead := none }
  | v => { q with criteria := [], instead := some v }

/-- The query over the entries that it has by now: a mapping that is no dictionary will do, and the
function under `name` is what anything else lacks. -/
def opened (q : Query) (name : String) : Except Fault Query :=
  match q.instead with
  | none => .ok q
  | some (.mapping es) => .ok { q with criteria := es, instead := none }
  | some v => .error (v.lacks name)

/-- An opened query, over entries of the kind that it had before. -/
def closed (q before : Query) : Query :=
  if before.instead.isNone then q else q.holding (.mapping q.criteria)

/-- A call on whatever the query holds by now. -/
def perform (q : Query) (call : QueryCall) : Except Fault Query :=
  match q.instead, call.changesBy? with
  | none, _ | _, none => q.apply call
  | some _, some name => do
    let _ ← q.apply call
    return ((← (← q.opened name).apply call).closed q)

/-- Where the condition on a field by an operator stands in the criteria, which stand at `[0]`. -/
def placeOf (q : Query) (field : String) (op : Operator) : Value.Place :=
  let place (key : String) (es : Entries) : Nat := 2 * es.findIdx (fun e => e.1.same (.str key)) + 1
  [0, place field q.criteria, place op.key (operatorsAt q.criteria field)]

/-- What is noted of a call that was accepted; `text` writes down what stands at a place of the
query itself, and `optionText` what stands at a place of its options. -/
def note (text optionText : Value.Place → Value → String) (q : Query) : QueryCall → String
  | .restrict _ | .every _ | .either _ => s!"Criteria is now: {text [0] q.toJson}"
  | .compare op field value => noteFilter op field value
  | .members op field values => noteFilter op field (.list ((memberList? values).getD []))
  | .present field value => noteFilter .present field value
  | .select _ => s!"Projection set to: {optionText [3] q.options.projection}"
  | .sort _ => s!"Sort set to: {optionText [0] q.options.sort}"
  | .skip _ => s!"Query skip set to: {optionText [1] q.options.skip}"
  | .limit _ => s!"Query limit set to: {optionText [2] q.options.limit}"
where
  noteFilter (op : Operator) (field value : Value) : String :=
    let name := field.name?.getD ""
    s!"Added filter: {name} {op.key} {text (q.placeOf name op) value}"

end Query

end DocMapper
