import DocMapper.Attribute
import DocMapper.Results

/-!
Functions of the library on receivers of other classes.  A function does with such a receiver what
it does with one of its own as far as that goes by reading and assigning attributes, and fails where
the receiver lacks one.
-/

namespace DocMapper.Act

/-- Binds a builder, or whatever has attributes, to a model. -/
def bindTo (self model : Value) : Act Value := do
  match self with
  | .handle (.pipeline _ i) => setPipeline i { (← pipeline i) with model }
  | v => writeAttribute v "model_cls" model
  return self

/-- The options that an object has the attributes for. -/
def optionsLike (d : Dispatch) (v : Value) : Act Options := do
  match (← get).optionsIn? v with
  | some o => return o
  | none =>
    return ⟨← d.read v "sort", ← d.read v "skip", ← d.read v "limit", ← d.read v "projection"⟩

/-- The window that an object has the attributes for. -/
def windowLike (d : Dispatch) (v : Value) : Act Options := do
  match (← get).optionsIn? v with
  | some o => return o
  | none => return { Options.empty with skip := ← d.read v "skip", limit := ← d.read v "limit" }

/-- What gives the results of a builder one by one, after it was executed. -/
def walkExecuted (d : Dispatch) (self : Value) : Act Value := do
  let source ← executed d self
  if givesItems source then return source else d.call .never source "__aiter__" [] []

/-- Saves whatever has what it takes to be saved. -/
def saveLike (d : Dispatch) (self : Value) : Act Unit := do
  let _ ← d.call .always self "validate" [] []
  let plain ← d.call .never self "to_json" [] []
  let h ← d.read self "collection"
  if (← d.read self "is_new").truthy then
    let key ← insertThrough d h plain
    let before ← d.read self "fields"
    let fields ← withKey before key
    unless ← isIn (.str "_id") before do restoreAttribute self "fields" fields
    writeAttribute self "is_new" (.bool false)
    let some es := fields.entries? | throw (fields.noMapping "get" [.str "_id"])
    noteSaved "Inserted" self ((es.field? "_id").getD .null)
  else
    let changes ← ofExcept (changesOf plain)
    let update ← updateReadFirst d h
    let id ← ofExcept (fieldOf (← d.read self "fields") "_id")
    update (.dict [(.str "_id", id)]) (.dict [(.str "$set", .dict changes)])
    noteSaved "Updated" self id

/-- Functions of cursors on anything else. -/
def cursorLike (d : Dispatch) (owner : String) (self : Value) (name : String) (a : Arguments) :
    Act Value := do
  match owner, name with
  | _, "__aiter__" => return self
  | _, "stream" => newStream { cursor := self }
  | _, "unwrap" => d.read self "_cursor"
  | _, "_pull_lock" => d.read self "_lock"
  | _, "_handle" => awaited d (← d.read self "_cursor")
  | "QueryCursor", "_hydrate" => d.apply .never (← d.read self "_hydrate_fn") [a.at 1] []
  | _, "_hydrate" => return a.at 1
  | _, "__anext__" =>
    match ← d.call .always self "next" [] [] with
    | .null => throw (.raised .exhausted "")
    | v => return v
  | _, "__await__" => lacking d self "collect_all"
  | _, _ => lacking d self "_pull_lock"

/-- Functions of connections on anything else. -/
def connectionLike (d : Dispatch) (self : Value) (name : String) (a : Arguments) : Act Value := do
  match name with
  | "connect" =>
    let _ ← ofExcept (ConnectionString.databaseNameOf (a.at 1))
    lacking d self "client"
  | "collection" => lacking d self "db"
  | "define" =>
    let listed ← if (a.at 1).truthy then entriesOf (a.at 1) else pure []
    if (Entries.merge listed a.options).isEmpty then return .null else lacking d self "models"
  | _ =>
    match ← d.read self "client" with
    | .null => return .null
    | k =>
      let _ ← d.call .never k "close" [] []
      lacking d self "_logger"

/-- The attribute that a function of a database, or of what it hands out, needs first. -/
def needOf (owner name : String) : String :=
  match owner, name with
  | "MockDatabase", _ => "get_collection_calls"
  | "MockClient", _ => "databases"
  | "MockCursor", "next" => "next_calls"
  | "MockCursor", _ => "to_list_calls"
  | _, _ => "calls"

/-- Functions of a database, and of what it hands out, on anything else. -/
def databaseLike (d : Dispatch) (owner : String) (self : Value) (name : String) : Act Value := do
  match owner, name with
  | "MockClient", "close" =>
    writeAttribute self "closed" (.bool true)
    return .null
  | owner, name => lacking d self (needOf owner name)

end DocMapper.Act
