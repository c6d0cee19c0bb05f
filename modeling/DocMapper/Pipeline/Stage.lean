import DocMapper.Argument
import DocMapper.Value.Entries

/-!
Stages of a pipeline: documents of one operator each.  The stages here are built from their
arguments alone.
-/

namespace DocMapper

/-- A pipeline of stages; it may have been given anything else to hold instead of them. -/
structure Pipeline where
  cls : ClassRef
  stages : List Value
  model : Value
  instead : Option Value := none
  deriving Inhabited

/-- The stages as a value. -/
def Pipeline.toJson (p : Pipeline) : Value :=
  p.instead.getD (.list p.stages)

/-- The pipeline with a value in the place of its stages. -/
def Pipeline.holding (p : Pipeline) (v : Value) : Pipeline :=
  match v with
  | .list xs => { p with stages := xs, instead := none }
  | v => { p with stages := [], instead := some v }

namespace Stage

def ofOperator (operator : String) (body : Value) : Value :=
  .dict [(.str operator, body)]

/-- A stage given as a whole. -/
def raw (v : Value) : Except Fault Value := do
  return .dict (← Argument.mapping "push() stage" v)

def addFields (fields : Value) : Except Fault Value := do
  return ofOperator "$addFields" (.dict (← Argument.mapping "add_fields() fields" fields))

def count (name : Value) : Except Fault Value :=
  match name.name? with
  | some s => .ok (ofOperator "$count" (.str s))
  | none => .error (.countName name)

/-- A group needs a key, which may be null. -/
def group (fields : Value) : Except Fault Value := do
  let es ← Argument.mapping "group() fields" fields
  if es.has (.str "_id") then return ofOperator "$group" (.dict es)
  else throw .groupWithoutKey

def limit (number : Value) : Except Fault Value := do
  return ofOperator "$limit" (.int (← Argument.count "Limit" number))

def skip (number : Value) : Except Fault Value := do
  return ofOperator "$skip" (.int (← Argument.count "Skip" number))

def project (projection : Value) : Except Fault Value := do
  return ofOperator "$project" (.dict (← Argument.mapping "project() projection" projection))

def sort (fields : Value) : Except Fault Value := do
  return ofOperator "$sort" (.dict (← Argument.mapping "sort() fields" fields))

/-- An option of the long form, if it is given. -/
def unwindOption (name : String) : Value → Entries
  | .null => []
  | v => [(.str name, v)]

/-- A path alone is kept short; with an option it takes the long form. -/
def unwind (spec index preserve : Value) : Except Fault Value :=
  match spec with
  | .str path =>
    let options := unwindOption "includeArrayIndex" index ++
      unwindOption "preserveNullAndEmptyArrays" preserve
    .ok (ofOperator "$unwind"
      (if options.isEmpty then .str path else .dict ((.str "path", .str path) :: options)))
  | v =>
    match v.entries? with
    | some es =>
      if es.has (.str "path") then .ok (ofOperator "$unwind" (.dict es))
      else .error .unwindWithoutPath
    | none => .error (.unwindSource v)

/-- A field name becomes a path. -/
def pathOf (name : String) : String :=
  match name.toList with
  | '$' :: _ => name
  | _ => "$" ++ name

def replaceRoot (root : Value) : Except Fault Value :=
  let stage (body : Value) := ofOperator "$replaceRoot" (.dict [(.str "newRoot", body)])
  match root with
  | .str "" => .error .emptyRoot
  | .str name => .ok (stage (.str (pathOf name)))
  | v =>
    match v.entries? with
    | some es => .ok (stage (.dict es))
    | none => .error (.rootSource v)

end Stage

end DocMapper
