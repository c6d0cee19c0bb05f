import DocMapper.Cursor.Reading

/-!
Queries that are run.  A query bound to a model searches the model's collection; what is asked for
at the call overrides what the query asks for.
-/

namespace DocMapper.Act

def queryClass : ClassRef := .known "QueryBuilder"

/-- The criteria of a query, as a copy. -/
def ownCriteria (d : Dispatch) (self : Value) : Act Value := do
  match self with
  | .handle (.query _ i) => copy (← query i).toJson
  | v => copy (← d.read v "_criteria")

/-- The criteria of a query, by the function that it has for that. -/
def queryJson (d : Dispatch) (self : Value) : Act Value :=
  callOr d .never self queryClass "to_json" [] [] (ownCriteria d self)

def isQuery : Value → Bool
  | .handle (.query ..) => true
  | _ => false

/-- Branches with queries replaced by their criteria, up to the first that cannot be one. -/
def branchesGiven (d : Dispatch) (method : String) (index : Nat) : List Value → Act (List Value)
  | [] => return []
  | v :: vs => do
    let b ← if isQuery v then queryJson d v else ofExcept (Query.branch method index v)
    return b :: (← branchesGiven d method (index + 1) vs)

def branchList (d : Dispatch) (method : String) (v : Value) : Act Value := do
  match v.listed? with
  | some vs => return .list (← branchesGiven d method 0 vs)
  | none => throw (.notBranches method v)

/-- What a query does by itself with a call on copies of the criteria that it is given. -/
def applyCall (d : Dispatch) (self : Value) (call : QueryCall) : Act Value := do
  match self with
  | .handle (.query k i) => do
    let q ← ofExcept ((← query i).perform call)
    if let some name := call.option? then
      match q.held with
      | .null | .handle (.options _) | .handle (.queryOptions _) => pure ()
      | v => throw (v.lacks name)
    setQuery i q
    noteOf self .debug fun st =>
      q.note (st.textAt (.handle (.query k i))) (st.textAt (.handle (.queryOptions i))) call
    return self
  | v => do
    let _ ← ofExcept ((default : Query).apply call)
    lacking d v (if call.changesBy?.isSome then "_criteria" else "_options")

/-- Alternatives are a restriction as well; the query may have functions of its own for branches and
for restrictions. -/
def alternative (d : Dispatch) (self : Value) (key method : String) (branches : Value) :
    Act Value := do
  let usual := (← get).usual self queryClass "where"
  let restrict ← if usual then pure .null else d.read self "where"
  let bs ← callOr d .never self queryClass "_branches" [branches, .str method] []
    (branchList d method branches)
  let restriction := Value.dict [(.str key, bs)]
  if usual then applyCall d self (.restrict (← copy restriction))
  else d.apply .never restrict [restriction] []

/-- The condition that a call is about, once what it is given has passed for one. -/
def conditionOf? : QueryCall → Except Fault (Option (Operator × Value × Value))
  | .compare op field value => .ok (some (op, field, value))
  | .members op field values =>
    match Query.memberList? values with
    | some xs => .ok (some (op, field, .list xs))
    | none => .error (.notMembers (if op = .isIn then "in" else "nin") values)
  | .present field (.bool b) => .ok (some (.present, field, .bool b))
  | .present _ v => .error (.notBoolean v)
  | _ => .ok none

/-- An operator as the object that it is published as. -/
def operatorObject (op : Operator) : Act Value :=
  newRecord .specimen (.known "QueryOperator")
    [(.str "name", .str op.name), (.str "value", .str op.key)]

/-- A call that states a condition or asks for something else, but alternatives; the query may have
a function of its own for conditions. -/
def plainCall (d : Dispatch) (self : Value) (call : QueryCall) : Act Value := do
  if (← get).usual self queryClass "_compare" then applyCall d self call
  else
    match ← ofExcept (conditionOf? call) with
    | some (op, field, value) =>
      d.call .never self "_compare" [field, ← operatorObject op, value] []
    | none => applyCall d self call

/-- A call on a query, on copies of the criteria it is given. -/
def callQuery (d : Dispatch) (self : Value) (call : QueryCall) : Act Value := do
  match call with
  | .restrict v => do
    let _ ← ofExcept (Argument.mapping "where() criteria" v)
    applyCall d self (.restrict (← copy v))
  | .every vs => alternative d self "$and" "and_" vs
  | .either vs => alternative d self "$or" "or_" vs
  | c => plainCall d self c

/-- One more condition on a field, under the key that an operator is the value of. -/
def compareBy (d : Dispatch) (self field operator value : Value) : Act Value := do
  let some name := field.name? | throw (.fieldName field)
  match self with
  | .handle (.query _ i) => do
    let before ← query i
    let q ← ofExcept (before.opened "get")
    let key ← d.read operator "value"
    if let some part := key.unhashable? then throw (.unhashable part)
    let operators := (Query.operatorsAt q.criteria name).put key value
    setQuery i (Query.closed { q with criteria := q.criteria.put (.str name) (.dict operators) }
      before)
    noteOf self .debug fun st => s!"Added filter: {name} {st.plainText key} {st.text value}"
    return self
  | v => lacking d v "_criteria"

def startQuery (kind : QueryKind) (criteria model : Value) : Act Value := do
  let _ ← ofExcept (Query.start kind criteria model)
  newQuery (← ofExcept (Query.start kind (← copy criteria) model))

def requireModel : Value → Act Value
  | .null => throw .queryUnbound
  | m => pure m

/-- The model that a query is bound to, as it says by itself. -/
def ownModel (d : Dispatch) (self : Value) : Act Value := do
  match self with
  | .handle (.query _ i) => requireModel (← query i).model
  | v => requireModel (← d.read v "model_cls")

/-- The model that a query is bound to, by the function that it has for that. -/
def modelOf (d : Dispatch) (self : Value) : Act Value :=
  callOr d .never self (.known "ModelQuery") "_require_model" [] [] (ownModel d self)

/-- The options that a query holds. -/
def optionsOf (d : Dispatch) (self : Value) : Act Value := do
  match self with
  | .handle (.query _ i) => return (← get).optionsHeld i
  | v => d.read v "_options"

/-- Entries that others can be merged into. -/
def extensible (v : Value) : Act Entries := do
  match ((← get).current v).entries? with
  | some es => return es
  | none => throw (v.lacks "update")

/-- Options as arguments of a search. -/
def searchArguments (o : Options) : Act Value := do
  let st ← get
  let o := { o with sort := st.current o.sort, projection := st.walked o.projection }
  return .dict (← ofExcept o.findArguments)

/-- The options of a query as arguments of a search, by the function that they have for that. -/
def findArguments (d : Dispatch) (self : Value) : Act Entries := do
  let options ← optionsOf d self
  let direct : Act Value := do
    match (← get).optionsIn? options with
    | some o => searchArguments o
    | none => lacking d options "sort"
  extensible (← callOr d .never options (.known "QueryOptions") "to_find_kwargs" [] [] direct)

/-- The options of a query as arguments of a count. -/
def countArguments (d : Dispatch) (self : Value) : Act Entries := do
  let options ← optionsOf d self
  let direct : Act Value := do
    match (← get).optionsIn? options with
    | some o => return .dict o.countArguments
    | none => lacking d options "skip"
  extensible (← callOr d .never options (.known "QueryOptions") "to_count_kwargs" [] [] direct)

/-- The name of a class, or of whatever else has one. -/
def modelName (d : Dispatch) (model : Value) : Act Value := do
  match model with
  | .cls c => return .str ((← get).className c)
  | v => d.read v "__name__"

def findThrough (d : Dispatch) (h criteria : Value) (args : Entries) : Act Value := do
  let direct : Act Value :=
    match h with
    | .handle (.collection i) => do
      let _ ← ofExcept (passedOn "find" "filter" args)
      find i criteria args
    | v => throw (v.lacks "find")
  callOr d .never h (.known "MockCollection") "find" [criteria] args direct
where
  /-- What is passed on by name may not be what is given by position. -/
  passedOn (method parameter : String) (args : Entries) : Except Fault Arguments :=
    Method.bind { owner := "MockCollection", name := method, parameters := [.required parameter],
                  options := true } [.null, .null] args

def countThrough (d : Dispatch) (h criteria : Value) (args : Entries) : Act Value := do
  let direct : Act Value :=
    match h with
    | .handle (.collection i) => do
      let _ ← ofExcept (findThrough.passedOn "count_documents" "filter" args)
      return .int (← countDocuments i criteria args)
    | v => throw (v.lacks "count_documents")
  callOr d .always h (.known "MockCollection") "count_documents" [criteria] args direct

def execute (d : Dispatch) (self : Value) (extra : Entries) : Act Value := do
  let model ← modelOf d self
  let args := Entries.merge (← findArguments d self) extra
  let criteria ← queryJson d self
  let h ← collectionFor d model
  let name ← modelName d model
  noteOf self .info fun st =>
    s!"Executing find on {st.plainText name}: {st.text criteria} {st.text (.dict args)}"
  let source ← findThrough d h criteria args
  startCursor d .query model source

/-- The whole number that digits spell, after a sign if there is one; single underscores may stand
between digits. -/
def spelledNumber? (cs : List Char) : Option Int :=
  let blank (c : Char) : Bool := c = ' ' || ('\t' ≤ c && c ≤ '\r')
  let cs := (cs.dropWhile blank).reverse.dropWhile blank |>.reverse
  match cs with
  | '-' :: cs => (digits? cs).map fun n => -(n : Int)
  | '+' :: cs => (digits? cs).map fun n => (n : Int)
  | cs => (digits? cs).map fun n => (n : Int)
where
  digits? (cs : List Char) : Option Nat :=
    let groups := cs.splitOn '_'
    if groups.all fun g => !g.isEmpty && g.all Char.isDigit then
      some (decimalValue (String.ofList cs))
    else none

/-- A value as a whole number. -/
def wholeNumber (v : Value) : Act Value := do
  let spelled (cs : List Char) : Act Value := do
    match spelledNumber? cs with
    | some n => return .int n
    | none =>
      let text := (← get).text v
      throw (.raised .value s!"invalid literal for int() with base 10: {text}")
  match v, v.whole? with
  | _, some n => return .int n
  | .str s, none => spelled s.toList
  | .bytes bs, none => spelled (bs.map fun b => Char.ofNat b.toNat)
  | v, none =>
    throw (.typed .type ("int() argument must be a string, a bytes-like object or a real " ++
      "number, not '") v "'")

def countMatching (d : Dispatch) (self : Value) (extra : Entries) : Act Value := do
  let model ← modelOf d self
  let args := Entries.merge (← countArguments d self) extra
  let criteria ← queryJson d self
  let h ← collectionFor d model
  let n ← countThrough d h criteria args
  let name ← modelName d model
  noteOf self .info fun st =>
    s!"Counted {st.plainText n} {st.plainText name}(s) matching {st.text criteria}"
  wholeNumber n

def first (d : Dispatch) (self : Value) : Act Value := do
  let limit := [(Value.str "limit", Value.int 1)]
  nextItem d
    (← callOr d .never self (.known "ModelQuery") "execute" [] limit (execute d self limit))

/-- A search on a model, by the builder that its class uses. -/
def findIn (d : Dispatch) (c : ClassRef) (criteria : Value) : Act Value := do
  match (← registry).member? c "QueryBuilder" with
  | some (_, .value (.cls (.known "ModelQuery"))) => startQuery .bound criteria (.cls c)
  | some (_, .value (.cls (.known "TracingQuery"))) =>
    startQuery ⟨.known "TracingQuery", true⟩ criteria (.cls c)
  | _ => d.call .never (.cls c) "QueryBuilder" [criteria] [(.str "model_cls", .cls c)]

def isHexDigit (c : Char) : Bool :=
  c.isDigit || ('a' ≤ c && c ≤ 'f') || ('A' ≤ c && c ≤ 'F')

/-- A text that spells an id stands for the id. -/
def searchKey : Value → Value
  | .str s =>
    if s.length = 24 && s.toList.all isHexDigit then .objectId (s.map Char.toLower) else .str s
  | v => v

def findById (d : Dispatch) (c : ClassRef) (id : Value) : Act Value := do
  let key := searchKey id
  let criteria := Value.dict [(.str "_id", key)]
  let found ← callOr d .never (.cls c) .root "find" [criteria] [] (findIn d c criteria)
  match ← callOr d .always found (.known "ModelQuery") "first" [] [] (first d found) with
  | .null =>
    note .warning .model fun st => s!"{st.className c} with _id {st.text key} not found."
    throw (.notFound c key)
  | found => return found

end DocMapper.Act
