import DocMapper.Attribute
import DocMapper.Connection.Definition

/-!
Classes called: what an instance of each is made of.
-/

namespace DocMapper.Act

/-- The state that is called by a value. -/
def stateOf (v : Value) : Act Value :=
  match v with
  | .handle (.state s) => pure (.handle (.state s))
  | v =>
    match CursorState.all.find? fun s => v.same (.str s.name) with
    | some s => pure (.handle (.state s))
    | none => throw (.written .value v " is not a valid CursorState")

/-- What a class that every program has makes of what it is called with, if that is known here. -/
def constructBuiltin? (name : String) (args : List Value) (named : Entries) :
    Option (Act Value) :=
  match name, args, named with
  | "int", _, (.str n, _) :: _ =>
    some (throw (.raised .type s!"'{n}' is an invalid keyword argument for int()"))
  | "int", [], _ => some (return .int 0)
  | "int", [v], _ => some (wholeNumber v)
  | "int", v :: _, _ =>
    some (throw (.typed .type "'" v "' object cannot be interpreted as an integer"))
  | "dict", [], named => some (return .dict (Entries.ofPairs named))
  | "dict", [v], named => some do return .dict (Entries.merge (← entriesOf v) named)
  | "dict", vs, _ =>
    some (throw (.raised .type s!"dict expected at most 1 argument, got {vs.length}"))
  | "UserDict", [], named => some (return .mapping (Entries.ofPairs named))
  | "UserDict", [v], named => some do return .mapping (Entries.merge (← entriesOf v) named)
  | "SimpleNamespace", [], named => some (newSpace (Entries.ofPairs named))
  | "SimpleNamespace", _, _ =>
    some (throw (.raised .type "no positional arguments expected"))
  | "list", [], [] => some (return .list [])
  | "list", [v], [] => some do return .list (← itemsOf v)
  | "tuple", [], [] => some (return .tuple [])
  | "tuple", [v], [] => some do return .tuple (← itemsOf v)
  | "bool", [], [] => some (return .bool false)
  | "bool", [v], [] => some do return .bool ((← get).current v).truthy
  | "str", [], [] => some (return .str "")
  | "str", [v], [] => some do return .str ((← get).plainText v)
  | "type", [v], [] => some do return .cls ((← get).classOf v)
  | "CursorState", [v], [] | "CursorState", [], [(.str "value", v)] => some (stateOf v)
  | "CursorState", [], [] =>
    some (throw (.raised .type
      "EnumType.__call__() missing 1 required positional argument: 'value'"))
  | _, _, _ => none

/-- What a class without parameters of its own makes. -/
def constructPlain (c : ClassRef) (args : List Value) (named : Entries) : Act Value := do
  let plain : Act Value :=
    if args.isEmpty && named.isEmpty then newIndividual c else throw (.noArguments c)
  match c with
  | .known n => (constructBuiltin? n args named).getD plain
  | c =>
    let made? := ((← registry).ancestors c).findSome? fun
      | .known n => constructBuiltin? n args named
      | _ => none
    match made? with
    | some made => refine (← made) c
    | none => plain

/-- A connection on a client that is there already, or with a function that makes one. -/
def startConnection (c : ClassRef) (client factory : Value) : Act Value := do
  let name := (← get).className c
  let connection : Connection := {
    log := "async_odm.db_implementations.mongodb_connection." ++ name
    client, factory, models := ← newSpace [] }
  return .handle (.connection (← newConnection connection))

/-- A record that belongs to no class yet. -/
def startConfig (connection collection : Value) : Act Value := do
  let r ← registry
  setRegistry (r.detach connection collection)
  return .handle (.config r.serials)

def startClient (data : Value) : Act Value := do
  let data ← match data with
    | .null => pure (.dict [])
    | v => pure v
  return .handle (.client (← newClient { data := ← stocked data }))

def startDatabase (name data : Value) : Act Value := do
  return .handle (.database (← newDatabase { name, data := ← stocked data }))

def startCollection (name documents : Value) : Act Value := do
  let documents := match documents with
    | .null => .list []
    | v => v
  return .handle (.collection (← newCollection { name, shelf := ← shelfHolding documents }))

def startSource (results error : Value) : Act Value := do
  let pending ← copies (← itemsOf results)
  return .handle (.source (← newSource { pending, error, failure := failureOf error }))

/-- A schema's instance from fields given by name, if they are of the kinds that it asks for. -/
def startSchema (c : ClassRef) (given : Entries) : Act Value := do
  let schema := (((← registry).ancestors c).find? fun a => !(Schema.fieldsOf a).isEmpty).getD c
  let fields := Schema.fieldsOf schema
  if fields.all fun f => f.optional || given.has (.str f.written) then
    let fields := fields.map fun f => (.str f.name, (given.field? f.written).getD .null)
    refine (← newRecord .schema schema fields) c
  else made (.inert c)

/-- An instance of a class, by the function that the first of its ancestors has for that. -/
def construct (d : Dispatch) (c : ClassRef) (args : List Value) (named : Entries) :
    Act Value := do
  match (← registry).maker? c with
  | none => constructPlain c args named
  | some m =>
    let a ← ofExcept (m.bind (.null :: args) named)
    let record (k : RecordKind) : Act Value :=
      newRecord k c ((m.parameters.map fun p => Value.str p.name).zip (a.values.drop 1))
    match m.owner with
    | "QueryBuilder" => startQuery ⟨c, false⟩ (a.at 1) .null
    | "ModelQuery" => startQuery ⟨c, true⟩ (a.at 1) (a.at 2)
    | "AggregateBuilder" => startPipeline c (a.at 1) (a.at 2)
    | "QueryOptions" => refine (← newOptions ⟨a.at 1, a.at 2, a.at 3, a.at 4⟩) c
    | "BaseCursor" => startCursor d ⟨c, false⟩ .null (a.at 1)
    | "QueryCursor" => startCursor d ⟨c, true⟩ (a.at 1) (a.at 2)
    | "Model" => createDocument c (a.at 1)
    | "ModelConfig" => refine (← startConfig (a.at 1) (a.at 2)) c
    | "Connection" => refine (← startConnection c (a.at 1) (a.at 2)) c
    | "MockClient" => refine (← startClient (a.at 1)) c
    | "MockDatabase" => refine (← startDatabase (a.at 1) (a.at 2)) c
    | "MockCollection" => refine (← startCollection (a.at 1) (a.at 2)) c
    | "MockCursor" => refine (← startSource (a.at 1) (a.at 2)) c
    | "Address" | "Box" => record .struct
    | "LegacyDump" | "BothDump" | "ToJson" | "Raiser" => record .specimen
    | "BaseModel" => startSchema c a.options
    | _ => made (.inert c)

/-- Gives an object what a new one of a class is given, as far as that goes by assigning
attributes. -/
def startAgain (d : Dispatch) (owner : ClassRef) (self : Value) (a : Arguments) : Act Unit := do
  let st ← get
  let isOwn := (st.registry.maker? (st.classOf self)).map Method.owner =
    (st.registry.maker? owner).map Method.owner
  let fresh ← construct d (if isOwn then st.classOf self else owner) (a.values.drop 1) a.options
  if let .handle h := fresh then
    for name in (placesOf (← get) h).getD [] do
      writeAttribute self name ((← placeOf? fresh name).getD .null)

end DocMapper.Act
