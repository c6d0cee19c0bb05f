import DocMapper.Fault
import DocMapper.Value.Container

/-!
What the classes of the library offer: their members by name, the parameters that a call has to
meet, and the classes that they refine.  The receiver of a call is its first argument by position.
-/

namespace DocMapper

/-- How much a note matters. -/
inductive Level
  | debug
  | info
  | warning
  deriving DecidableEq, Inhabited

namespace Level

def name : Level → String
  | debug => "DEBUG"
  | info => "INFO"
  | warning => "WARNING"

def all : List Level :=
  [debug, info, warning]

end Level

/-- A parameter, and what it takes if it is not given. -/
structure Parameter where
  name : String
  fallback : Option Value := none

namespace Parameter

def required (name : String) : Parameter :=
  { name }

def withFallback (name : String) (v : Value) : Parameter :=
  { name, fallback := some v }

def optional (name : String) : Parameter :=
  withFallback name .null

end Parameter

/-- A function, with its parameters after the first, which it has as well; for a function of a class
that is the receiver.  It may take further arguments by position or by name, and what it does may
have to be waited for. -/
structure Method where
  owner : String := ""
  name : String
  receiver : String := "self"
  parameters : List Parameter := []
  more : Bool := false
  options : Bool := false
  waits : Bool := false

/-- The arguments of a call in the order of the parameters, the receiver first, and what is left. -/
structure Arguments where
  values : List Value
  more : List Value
  options : Entries

/-- The argument at a place, the receiver being at place zero. -/
def Arguments.at (a : Arguments) (place : Nat) : Value :=
  a.values.getD place .null

namespace Method

/-- Names in a sentence. -/
def listed : List String → String
  | [] => ""
  | [a] => s!"'{a}'"
  | [a, b] => s!"'{a}' and '{b}'"
  | names =>
    let last := names.getLastD ""
    ", ".intercalate (names.dropLast.map fun n => s!"'{n}'") ++ s!", and '{last}'"

/-- What a function is called in full. -/
def fullName (m : Method) : String :=
  if m.owner = "" then m.name else s!"{m.owner}.{m.name}"

def callee (m : Method) : String :=
  s!"{m.fullName}()"

def all (m : Method) : List Parameter :=
  .required m.receiver :: m.parameters

def tooMany (m : Method) (given : Nat) : Fault :=
  let most := m.all.length
  let least := (m.all.filter fun p => p.fallback.isNone).length
  let takes := if least = most then s!"{most}" else s!"from {least} to {most}"
  let plural := if most = 1 then "" else "s"
  let were := if given = 1 then "was" else "were"
  .raised .type s!"{m.callee} takes {takes} positional argument{plural} but {given} {were} given"

def missing (m : Method) (names : List String) : Fault :=
  let plural := if names.length = 1 then "" else "s"
  .raised .type
    s!"{m.callee} missing {names.length} required positional argument{plural}: {listed names}"

/-- The name of an argument given by name. -/
def nameOf : Value × Value → String
  | (.str s, _) => s
  | _ => ""

def checkNamed (m : Method) (given : Nat) : Entries → Except Fault Unit
  | [] => .ok ()
  | e :: es => do
    let n := nameOf e
    if ((m.all.take given).map Parameter.name).contains n then
      throw (.raised .type s!"{m.callee} got multiple values for argument '{n}'")
    unless m.options || m.all.any fun p => p.name = n do
      throw (.raised .type s!"{m.callee} got an unexpected keyword argument '{n}'")
    checkNamed m given es

/-- One value per parameter; names are looked at first, then surplus, then what is lacking. -/
def bind (m : Method) (given : List Value) (named : Entries) : Except Fault Arguments := do
  checkNamed m given.length named
  if m.all.length < given.length && !m.more then throw (m.tooMany given.length)
  let value? (p : Parameter) : Option Value :=
    ((named.find? fun e => nameOf e = p.name).map Prod.snd).or p.fallback
  let rest := m.all.drop given.length
  match rest.filter fun p => (value? p).isNone with
  | [] =>
    return {
      values := given.take m.all.length ++ rest.map fun p => (value? p).getD .null
      more := given.drop m.all.length
      options := named.filter fun e => !(m.all.any fun p => p.name = nameOf e) }
  | lacking => throw (m.missing (lacking.map Parameter.name))

end Method

/-- What a class has under a name: a value, a function of its instances or of itself, or something
read off each instance; or a check of the fields an instance needs, or a key to store documents
under. -/
inductive Member
  | value (v : Value)
  | method (m : Method)
  | ofClass (m : Method)
  | property
  | requiring (names : List String)
  | hydrating (key : String)
  deriving Inhabited

namespace Interface

open Parameter

/-- A function of the instances of a class. -/
def method (owner name : String) (parameters : List Parameter) : String × Member :=
  (name, .method { owner, name, parameters })

/-- One that has to be waited for. -/
def waiting (owner name : String) (parameters : List Parameter) : String × Member :=
  (name, .method { owner, name, parameters, waits := true })

/-- One that passes on whatever else is given by name. -/
def passing (owner name : String) (parameters : List Parameter) (waits : Bool) :
    String × Member :=
  (name, .method { owner, name, parameters, options := true, waits })

def ofClass (owner name : String) (parameters : List Parameter) (waits : Bool) : String × Member :=
  (name, .ofClass { owner, name, receiver := "cls", parameters, waits })

def queryMembers : List (String × Member) :=
  let q := "QueryBuilder"
  let condition (name : String) := method q name [required "field_path", required "value"]
  let membership (name : String) := method q name [required "field_path", required "values"]
  [method q "where" [required "criteria"], condition "eq", condition "neq", condition "gt",
   condition "gte", condition "lt", condition "lte", membership "in_", membership "nin",
   method q "exists" [required "field_path", withFallback "exists_value" (.bool true)],
   method q "and_" [required "branches"], method q "or_" [required "branches"],
   method q "_compare" [required "field_path", required "operator", required "value"],
   method q "_branches" [required "branches", required "operator"],
   ("select", .method { owner := q, name := "select", more := true }),
   method q "sort" [required "fields"], method q "skip" [required "num"],
   method q "limit" [required "num"], method q "to_json" [], method q "get_options" []]

def boundQueryMembers : List (String × Member) :=
  let q := "ModelQuery"
  [method q "bind" [required "model_cls"], method q "_require_model" [],
   passing q "execute" [] false, passing q "count" [] true, waiting q "first" [],
   method q "__aiter__" [], method q "__await__" []]

def pipelineMembers : List (String × Member) :=
  let p := "AggregateBuilder"
  [method p "bind" [required "model_cls"], method p "_spawn" [optional "model_cls"],
   method p "push" [required "stage"], method p "add_fields" [required "fields"],
   method p "count" [required "field_name"], method p "group" [required "fields"],
   method p "limit" [required "num"], method p "skip" [required "num"],
   method p "match" [required "query"], method p "project" [required "projection"],
   method p "sort" [required "fields"],
   method p "unwind" [required "spec", optional "include_array_index",
     optional "preserve_null_and_empty_arrays"],
   method p "replace_root" [required "new_root"], method p "lookup" [required "spec"],
   method p "facet" [required "spec"], method p "union_with" [required "spec"],
   method p "_resolve_pipeline" [required "source", required "context", required "model_cls"],
   method p "to_json" [], passing p "execute" [] false, method p "__aiter__" [],
   method p "__await__" []]

def optionsMembers : List (String × Member) :=
  let o := "QueryOptions"
  [method o "copy" [], method o "to_find_kwargs" [], method o "to_count_kwargs" [],
   ("skip", .value .null), ("limit", .value .null), ("projection", .value .null)]

def cursorMembers : List (String × Member) :=
  let c := "BaseCursor"
  [("state", .property), method c "unwrap" [], method c "_hydrate" [required "document"],
   method c "_pull_lock" [], waiting c "_handle" [], waiting c "next" [], method c "__aiter__" [],
   waiting c "__anext__" [], method c "stream" [], waiting c "collect_all" [],
   method c "__await__" []]

def modelMembers : List (String × Member) :=
  let m := "Model"
  [("QueryBuilder", .value (.cls (.known "ModelQuery"))),
   ("AggregateBuilder", .value (.cls (.known "AggregateBuilder"))), ("connection", .property),
   ("collection", .property), waiting m "validate" [], waiting m "save" [], method m "to_json" [],
   ofClass m "get_collection" [] false, ofClass m "find" [optional "criteria"] false,
   ofClass m "aggregate" [optional "stages"] false, ofClass m "find_by_id" [required "id"] true,
   ofClass m "hydrate" [required "document"] false,
   ofClass m "hydrate_all" [required "documents"] false]

def connectionMembers : List (String × Member) :=
  let c := "Connection"
  [passing c "connect" [required "url"] true, method c "collection" [required "name"],
   passing c "define" [optional "models"] false, method c "close" []]

def collectionMembers : List (String × Member) :=
  let c := "MockCollection"
  [passing c "find" [required "filter"] false, passing c "aggregate" [required "pipeline"] false,
   passing c "count_documents" [required "filter"] true,
   waiting c "insert_one" [required "document"],
   waiting c "update_one" [required "filter", required "update"]]

/-- Functions that look at their arguments themselves. -/
def primitives (owner : String) (names : List String) : List (String × Member) :=
  names.map fun name => (name, .method { owner, name, more := true, options := true })

/-- What a class known by its name has of its own. -/
def own : String → List (String × Member)
  | "async_generator" =>
    [method "async_generator" "__aiter__" [], waiting "async_generator" "__anext__" [],
     waiting "async_generator" "aclose" []]
  | "Logger" => Level.all.map fun l =>
    method "Logger" l.name.toLower [required "msg"]
  | "type" => primitives "type" ["mro", "__subclasses__"]
  | "CursorState" => CursorState.all.map fun s => (s.name.toUpper, .value (.handle (.state s)))
  | "QueryBuilder" => queryMembers
  | "ModelQuery" => boundQueryMembers
  | "AggregateBuilder" => pipelineMembers
  | "Model" => modelMembers
  | "QueryOptions" => optionsMembers
  | "BaseCursor" => cursorMembers
  | "QueryCursor" =>
    [("model", .property), method "QueryCursor" "_hydrate" [required "document"]]
  | "Connection" => connectionMembers
  | "MockCollection" => collectionMembers
  | "MockDatabase" => [method "MockDatabase" "get_collection" [required "name"]]
  | "MockClient" =>
    [method "MockClient" "get_database" [required "name"], method "MockClient" "close" []]
  | "MockCursor" =>
    [waiting "MockCursor" "next" [], waiting "MockCursor" "to_list" [required "length"]]
  | "DuckModel" =>
    [ofClass "DuckModel" "get_collection" [] false, ("collection", .value (.str "ducks"))]
  | "HasGetCollection" => [ofClass "HasGetCollection" "get_collection" [] false]
  | "NotCallableGet" =>
    [("get_collection", .value (.int 3)), ("collection", .value (.str "never"))]
  | "BaseModel" => [passing "BaseModel" "model_dump" [] false]
  | "BothDump" => [method "BothDump" "model_dump" [withFallback "by_alias" (.bool false)]]
  | "LegacyDump" => [method "LegacyDump" "model_dump" [], method "LegacyDump" "to_json" []]
  | "ToJson" => [method "ToJson" "to_json" []]
  | "Raiser" => [method "Raiser" "to_json" []]
  | "ModelConfig" => [("connection", .value .null), ("collection", .value .null)]
  | owner => primitives owner ((Container.functions owner).map Prod.fst)
/-- A class known by its name and the classes that it refines, itself first. -/
def lineage (name : String) : List String :=
  match name with
  | "object" => ["object"]
  | "bool" => ["bool", "int", "object"]
  | "ModelQuery" => ["ModelQuery", "QueryBuilder", "Generic", "object"]
  | "TracingQuery" => ["TracingQuery", "ModelQuery", "QueryBuilder", "Generic", "object"]
  | "AggregateBuilder" => ["AggregateBuilder", "Generic", "object"]
  | "TracingAggregate" => ["TracingAggregate", "AggregateBuilder", "Generic", "object"]
  | "BaseCursor" => ["BaseCursor", "Generic", "object"]
  | "QueryCursor" => ["QueryCursor", "BaseCursor", "Generic", "object"]
  | "AggregateCursor" => ["AggregateCursor", "BaseCursor", "Generic", "object"]
  | "BaseConnection" => ["BaseConnection", "ABC", "object"]
  | "Connection" => ["Connection", "BaseConnection", "ABC", "object"]
  | "CursorState" => ["CursorState", "Enum", "object"]
  | "ModelMeta" | "ABCMeta" | "EnumType" => [name, "type", "object"]
  | "ModelMetaclass" => ["ModelMetaclass", "ABCMeta", "type", "object"]
  | "User" | "Aliased" => [name, "BaseModel", "object"]
  | n => [n, "object"]

/-- The classes that a class known by its name was declared under. -/
def bases (name : String) : List String :=
  match name with
  | "object" => []
  | "ModelQuery" => ["QueryBuilder", "Generic"]
  | n => (lineage n).tail.take 1

/-- The class of a class. -/
def metaName : String → String
  | "BaseConnection" | "Connection" | "ABC" => "ABCMeta"
  | "BaseModel" | "User" | "Aliased" => "ModelMetaclass"
  | "Enum" | "CursorState" => "EnumType"
  | _ => "type"

/-- Classes that every program has. -/
def builtinClasses : List String :=
  ["int", "str", "bool", "float", "bytes", "list", "tuple", "set", "frozenset", "dict", "object",
   "type", "function", "method", "NoneType"]

/-- The modules that classes of the library are declared in. -/
def libraryModule? : String → Option String
  | "QueryBuilder" | "ModelQuery" | "QueryOptions" => some "async_odm.base.query"
  | "AggregateBuilder" => some "async_odm.base.aggregate"
  | "BaseCursor" | "QueryCursor" | "AggregateCursor" | "CursorState" => some "async_odm.base.cursor"
  | "ModelConfig" => some "async_odm.base.registry"
  | "Model" | "ModelMeta" => some "async_odm.base.model"
  | "BaseConnection" => some "async_odm.base.interfaces"
  | "Connection" => some "async_odm.db_implementations.mongodb_connection"
  | "MockClient" | "MockDatabase" | "MockCollection" | "MockCursor" => some "tests.mocks"
  | "UserDict" => some "collections"
  | "ObjectId" => some "bson.objectid"
  | "datetime" => some "datetime"
  | "SimpleNamespace" => some "types"
  | "BaseModel" => some "pydantic.main"
  | "Generic" => some "typing"
  | "ABC" => some "abc"
  | "Enum" => some "enum"
  | "Logger" => some "logging"
  | _ => none

/-- The module that a class was declared in. -/
def moduleName : ClassRef → String
  | .known n => if n ∈ builtinClasses then "builtins" else (libraryModule? n).getD "app"
  | .model 0 => "async_odm.base.model"
  | _ => "app"

/-- Classes that an instance of may not be kept note of without keeping it alive. -/
def isAnchored (name : String) : Bool :=
  ["NoneType", "bool", "int", "float", "str", "bytes", "list", "tuple", "dict", "ObjectId",
   "datetime", "SimpleNamespace"].contains name

/-- What a connection makes its client with if nothing else is said. -/
def defaultFactory : Value :=
  .cls (.known "AsyncIOMotorClient")

/-- The function that makes an instance of a class. -/
def maker? : String → Option Method
  | "QueryBuilder" => some (make "QueryBuilder" [optional "criteria"])
  | "ModelQuery" => some (make "ModelQuery" [optional "criteria", optional "model_cls"])
  | "AggregateBuilder" => some (make "AggregateBuilder" [optional "stages", optional "model_cls"])
  | "QueryOptions" =>
    some (make "QueryOptions" [withFallback "sort" (.dict []), optional "skip", optional "limit",
      optional "projection"])
  | "Model" => some (make "Model" [optional "fields"])
  | "BaseCursor" => some (make "BaseCursor" [required "cursor"])
  | "QueryCursor" => some (make "QueryCursor" [required "model", required "cursor"])
  | "ModelConfig" => some (make "ModelConfig" [optional "connection", optional "collection"])
  | "Connection" => some (make "Connection" [optional "client",
      withFallback "client_factory" defaultFactory])
  | "Address" => some (make "Address" [required "city", required "zipcode"])
  | "Box" => some (make "Box" [required "value"])
  | "LegacyDump" => some (make "LegacyDump" [required "x"])
  | "BothDump" => some (make "BothDump" [required "x", required "y"])
  | "ToJson" => some (make "ToJson" [required "x"])
  | "Raiser" => some (make "Raiser" [required "kind", required "msg"])
  | "MockClient" => some (make "MockClient" [optional "data"])
  | "MockDatabase" => some (make "MockDatabase" [required "name", required "data"])
  | "MockCollection" => some (make "MockCollection" [required "name", optional "documents"])
  | "MockCursor" => some (make "MockCursor" [required "results", optional "error"])
  | "BaseModel" => some { owner := "BaseModel", name := "__init__", options := true }
  | _ => none
where
  make (owner : String) (parameters : List Parameter) : Method :=
    { owner, name := "__init__", parameters }

/-- The classes of the library that say how their instances are written. -/
def writesItself (name : String) : Bool :=
  ["QueryBuilder", "AggregateBuilder", "QueryOptions", "Model", "ModelConfig", "Connection",
   "Address", "Box"].contains name

/-- What a class has of its own that no declaration set on it. -/
def member? (c : ClassRef) (name : String) : Option Member :=
  let known? : Option String := match c with
    | .known n => some n
    | c => if c = .root then some "Model" else none
  known?.bind fun n =>
    match name with
    | "__init__" => (maker? n).map .method
    | "__repr__" => if writesItself n then some (.method { owner := n, name }) else none
    | name => (own n).lookup name

/-- The functions of the library that belong to no class. -/
def function : String → Method
  | "prepare_for_storage" => { name := "prepare_for_storage", receiver := "data" }
  | "flatten" => { name := "flatten", receiver := "items" }
  | "check_non_negative_int" => checking "check_non_negative_int"
  | "check_mapping" => checking "check_mapping"
  | "is_operator_document" => { name := "_is_operator_document", receiver := "value" }
  | "is_model_class" => { name := "_is_model_class", receiver := "value" }
  | "resolve_collection_name" =>
    { name := "resolve_collection_name", receiver := "source", parameters := [required "context"] }
  | "database_name_from_url" => { name := "database_name_from_url", receiver := "url" }
  | "get_config" => ofModel "get_config" []
  | "clear_config" => ofModel "clear_config" []
  | "set_connection" => ofModel "set_connection" [required "connection"]
  | "get_connection" => ofModel "get_connection" []
  | "set_collection_name" => ofModel "set_collection_name" [required "name", optional "root"]
  | "get_collection_name" => ofModel "get_collection_name" []
  | _ =>
    { name := "bind_model", receiver := "base"
      parameters := [required "name", required "connection"] }
where
  checking (name : String) : Method :=
    { name, receiver := "value", parameters := [required "what"] }
  ofModel (name : String) (parameters : List Parameter) : Method :=
    { name, receiver := "cls", parameters }

end Interface

end DocMapper
