import DocMapper.Connection
import DocMapper.Store.Stored

/-!
Model instances: documents with fields, new until they are stored.  A stored document is wrapped by
`hydrate`, and `save` inserts what is new and updates the rest by its id.
-/

namespace DocMapper.Act

/-- An instance over a copy of the given entries; whatever counts as false gives none. -/
def createDocument (c : ClassRef) (fields : Value) : Act Value := do
  let es ← if fields.truthy then entriesOf fields else pure []
  newDocument { model := c, fields := .dict es, isNew := .bool true }

/-- An instance of a class, made as models are unless the class makes its own differently. -/
def instantiate (d : Dispatch) (c : ClassRef) (fields : Value) : Act Value := do
  match (← registry).maker? c with
  | some m =>
    if m.owner = "Model" then createDocument c fields else d.apply .never (.cls c) [fields] []
  | none => d.apply .never (.cls c) [fields] []

/-- Marks an instance as stored; whatever else was made is marked likewise, if it can be. -/
def markStored (v : Value) : Act Unit := do
  match v, Holder.of? v with
  | .handle (.document _ i), _ => setDocument i { (← document i) with isNew := .bool false }
  | _, some h => setExtra h "is_new" (.bool false)
  | v, none => throw (v.lacks "is_new")

/-- Wraps a stored document. -/
def hydrate (d : Dispatch) (c : ClassRef) (stored : Value) : Act Value := do
  let v ← instantiate d c stored
  markStored v
  return v

/-- Wraps a stored document as the class that `owner` refines does, maybe under a key. -/
def hydrateAs (d : Dispatch) (c owner : ClassRef) (stored : Value) : Act Value := do
  match (← registry).ownMember? owner "hydrate" with
  | some (.hydrating key) => hydrate d c (.dict [(.str key, stored)])
  | _ => hydrate d c stored

/-- The function that turns stored documents into instances of a model. -/
def hydration (d : Dispatch) (model : Value) : Act Value := do
  match model, (← get).member? model "hydrate" with
  | .cls c, some (owner, .hydrating _) | .cls c, some (owner, .ofClass _) =>
    return .object none (.bound (.cls c) (.handle (.routine owner "hydrate")))
  | model, _ => d.read model "hydrate"

/-- What such a function makes of a stored document. -/
def applyHydration (d : Dispatch) (f stored : Value) : Act Value :=
  match f with
  | .object _ (.bound (.cls c) (.handle (.routine owner "hydrate"))) => hydrateAs d c owner stored
  | f => d.apply .never f [stored] []

/-- Each document of a walk wrapped in turn. -/
def hydrateAll (d : Dispatch) (c : ClassRef) : List Value → Act (List Value)
  | [] => return []
  | stored :: rest => do
    let x ← applyHydration d (← hydration d (.cls c)) stored
    return x :: (← hydrateAll d c rest)

/-- Every name that the class requires is a field. -/
def requireFields (d : Dispatch) (self : Value) (names : List String) : Act Unit := do
  for name in names do
    let fields ← match self with
      | .handle (.document _ i) => do pure (← document i).fields
      | v => d.read v "fields"
    unless ← isIn (.str name) fields do throw (.missing name)

/-- Has an instance validate itself; by itself a model accepts everything. -/
def validate (d : Dispatch) (self : Value) : Act Unit := do
  let st ← get
  match st.extraOf? self "validate", st.member? self "validate" with
  | none, some (_, .requiring names) => requireFields d self names
  | none, some (_, .method _) => return
  | _, _ => let _ ← d.call .always self "validate" [] []

/-- The handle that a model's documents are stored through. -/
def modelCollection (d : Dispatch) (c : ClassRef) : Act Value := do
  match ← classConnection c with
  | .handle (.connection i) => do
    if (← get).usual (.handle (.connection i)) (.known "Connection") "collection" then
      handleOf d i (← ofExcept ((← registry).collection (.cls c)))
    else callOther (.handle (.connection i))
  | v => callOther v
where
  callOther (v : Value) : Act Value := do
    let f ← d.read v "collection"
    d.apply .never f [← ofExcept ((← registry).collection (.cls c))] []

/-- The handle that an instance, or a class, says its documents are stored through. -/
def collectionFor (d : Dispatch) (model : Value) : Act Value := do
  match model with
  | .cls c => callOr d .never model .root "get_collection" [] [] (modelCollection d c)
  | .handle (.document c _) =>
    callOr d .never model .root "get_collection" [] [] (modelCollection d c)
  | v => d.call .never v "get_collection" [] []

/-- The handle of an instance. -/
def instanceCollection (d : Dispatch) (self : Value) : Act Value := do
  if (← get).usual self .root "collection" then collectionFor d (.cls ((← get).classOf self))
  else d.read self "collection"

/-- The field of an instance, which has to have it. -/
def fieldOf (fields : Value) (name : String) : Except Fault Value :=
  match fields.entries? with
  | some es =>
    match es.field? name with
    | some v => .ok v
    | none => .error (.noKey (.str name))
  | none =>
    match fields with
    | .list _ => .error (.raised .type "list indices must be integers or slices, not str")
    | .tuple _ => .error (.raised .type "tuple indices must be integers or slices, not str")
    | .str _ => .error (.raised .type "string indices must be integers, not 'str'")
    | .bytes _ => .error (.raised .type "byte indices must be integers or slices, not str")
    | v => .error (.notSubscriptable v)

/-- The entries of a stored form but the id. -/
def changesOf (plain : Value) : Except Fault Entries :=
  match plain.entries? with
  | some es => .ok (es.filter fun e => !e.1.equal (.str "_id"))
  | none => .error (plain.noMapping "items" [])

/-- Fields with an id, unless they have one or there is none to give. -/
def withKey (fields key : Value) : Act Value := do
  if ← isIn (.str "_id") fields then return fields
  match key, fields with
  | .null, v => return v
  | key, .dict es => return .dict (es ++ [(.str "_id", key)])
  | key, .mapping es => return .mapping (es ++ [(.str "_id", key)])
  | _, v => throw (.noItemAssignment v)

def updateThrough (d : Dispatch) (h filter update : Value) : Act Unit := do
  let direct : Act Value :=
    match h with
    | .handle (.collection i) => do return .bool (← updateOne i filter update)
    | v => throw (v.lacks "update_one")
  let _ ← callOr d .always h (.known "MockCollection") "update_one" [filter, update] [] direct

/-- Updates a document through whatever is the handle, which has to answer before it is known what
is to be updated. -/
def updateReadFirst (d : Dispatch) (h : Value) : Act (Value → Value → Act Unit) := do
  match h with
  | .handle (.collection _) => return updateThrough d h
  | h =>
    let f ← d.read h "update_one"
    return fun filter update => do let _ ← d.apply .always f [filter, update] []

/-- Inserts a document through whatever is the handle, and gives its id. -/
def insertThrough (d : Dispatch) (h document : Value) : Act Value := do
  match h with
  | .handle (.collection i) =>
    if (← get).usual h (.known "MockCollection") "insert_one" then insertOne i document
    else other
  | _ => other
where
  other : Act Value := do
    let result ← d.call .always h "insert_one" [document] []
    tryCatch (d.read result "inserted_id") fun e =>
      if e.kind = .member then pure .null else throw e

def noteSaved (done : String) (self id : Value) : Act Unit :=
  note .info .model fun st => s!"{done} {st.typeName self} with _id {st.text id}"

def saveNew (d : Dispatch) (i : Nat) (h plain : Value) : Act Unit := do
  let key ← insertThrough d h plain
  let doc ← document i
  let fields ← withKey doc.fields key
  setDocument i { doc with fields, isNew := .bool false }
  let some es := fields.entries? | throw (fields.noMapping "get" [.str "_id"])
  let id := (es.field? "_id").getD .null
  noteSaved "Inserted" (.handle (.document doc.model i)) id

def saveStored (d : Dispatch) (i : Nat) (h plain : Value) : Act Unit := do
  let changes ← ofExcept (changesOf plain)
  let doc ← document i
  let update ← updateReadFirst d h
  let id ← ofExcept (fieldOf doc.fields "_id")
  update (.dict [(.str "_id", id)]) (.dict [(.str "$set", .dict changes)])
  noteSaved "Updated" (.handle (.document doc.model i)) id

def documentJson (d : Dispatch) (self : Value) : Act Value := do
  let direct : Act Value := do
    match self with
    | .handle (.document _ i) => prepare d (← document i).fields
    | v => prepare d (← d.read v "fields")
  callOr d .never self .root "to_json" [] [] direct

def save (d : Dispatch) (i : Nat) : Act Unit := do
  let self := Value.handle (.document (← document i).model i)
  validate d self
  let plain ← documentJson d self
  let h ← instanceCollection d self
  if (← document i).isNew.truthy then saveNew d i h plain else saveStored d i h plain

end DocMapper.Act
