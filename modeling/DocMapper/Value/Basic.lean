/-!
The values that documents, criteria and call arguments are made of.  Plain data is a finite tree.
An object is either a *handle* on something that a store holds and changes, or a *shape*: the object
seen as a tree of its own, as a copy of it is.  Functions are values too; they are written as the
list of calls that they make on the builder they are given.
-/

namespace DocMapper

/-- A declared class is known by its slot; every other class is known by the name that it was made
with.  What a class is called by now is for a registry to say. -/
inductive ClassRef
  | known (name : String)
  | plain (slot : Nat)
  | model (slot : Nat)
  deriving DecidableEq, Inhabited

namespace ClassRef

def isModel : ClassRef → Bool
  | model _ => true
  | _ => false

/-- The ancestor of every class. -/
def object : ClassRef := .known "object"

/-- The class that every model refines. -/
def root : ClassRef := .model 0

end ClassRef

/-- Whether the functions of a class are neither declared in a script nor by the library. -/
def ClassRef.isPrimitive : ClassRef → Bool
  | .known n => n ∈ ["list", "tuple", "dict", "type", "async_generator"]
  | _ => false

/-- The class of a query, and whether such queries are bound to models. -/
structure QueryKind where
  cls : ClassRef
  bindable : Bool
  deriving DecidableEq, Inhabited

namespace QueryKind

def unbound : QueryKind := ⟨.known "QueryBuilder", false⟩

def bound : QueryKind := ⟨.known "ModelQuery", true⟩

end QueryKind

/-- The class of a cursor, and whether such cursors make model instances of what they read. -/
structure CursorKind where
  cls : ClassRef
  hydrates : Bool
  deriving DecidableEq, Inhabited

namespace CursorKind

def query : CursorKind := ⟨.known "QueryCursor", true⟩

def aggregate : CursorKind := ⟨.known "AggregateCursor", false⟩

end CursorKind

inductive CursorState
  | idle
  | streaming
  | exhausted
  deriving DecidableEq, Inhabited

def CursorState.all : List CursorState :=
  [.idle, .streaming, .exhausted]

def CursorState.name : CursorState → String
  | idle => "idle"
  | streaming => "streaming"
  | exhausted => "exhausted"

/-- Objects with fields that come from elsewhere.  A `struct` shows its fields and equals others of
its class by them; a `schema` does as well, and can be dumped; a `specimen` merely has them. -/
inductive RecordKind
  | struct
  | schema
  | specimen
  deriving DecidableEq, Inhabited

/-- What a store holds, by slot.  A `variable` is a name that a script has not looked up yet, an
`individual` is an instance of a declared class that is no model, a `routine` is a function that a
class offers, a `factory` makes clients, and journals, shelves and stocks are lists and mappings
that several share. -/
inductive Handle
  | variable (path : List String)
  | query (kind : QueryKind) (slot : Nat)
  | pipeline (cls : ClassRef) (slot : Nat)
  | options (slot : Nat)
  | queryOptions (query : Nat)
  | document (model : ClassRef) (slot : Nat)
  | individual (cls : ClassRef) (slot : Nat)
  | record (kind : RecordKind) (cls : ClassRef) (slot : Nat)
  | cursor (kind : CursorKind) (slot : Nat)
  | source (slot : Nat)
  | promise (slot : Nat)
  | stream (slot : Nat)
  | connection (slot : Nat)
  | space (slot : Nat)
  | journal (slot : Nat)
  | shelf (slot : Nat)
  | stock (slot : Nat)
  | logger (name : String)
  | client (slot : Nat)
  | database (slot : Nat)
  | collection (slot : Nat)
  | config (serial : Nat)
  | state (s : CursorState)
  | routine (owner : ClassRef) (name : String)
  | factory (slot : Nat)
  deriving DecidableEq, Inhabited

/-- The class that an object behind a handle was made as. -/
def Handle.cls : Handle → ClassRef
  | .variable _ => .known "variable"
  | .query k _ => k.cls
  | .pipeline c _ => c
  | .options _ => .known "QueryOptions"
  | .queryOptions _ => .known "QueryOptions"
  | .document c _ => c
  | .individual c _ => c
  | .record _ c _ => c
  | .cursor k _ => k.cls
  | .source _ => .known "MockCursor"
  | .promise _ => .known "coroutine"
  | .stream _ => .known "async_generator"
  | .connection _ => .known "Connection"
  | .space _ => .known "SimpleNamespace"
  | .journal _ => .known "list"
  | .shelf _ => .known "list"
  | .stock _ => .known "dict"
  | .logger _ => .known "Logger"
  | .client _ => .known "MockClient"
  | .database _ => .known "MockDatabase"
  | .collection _ => .known "MockCollection"
  | .config _ => .known "ModelConfig"
  | .state _ => .known "CursorState"
  | .routine owner _ => .known (if owner.isPrimitive then "method_descriptor" else "function")
  | .factory _ => .known "function"

/-- Whether what shows of an object decides what it equals; such objects are no keys. -/
def Handle.isComparable : Handle → Bool
  | .record .struct .. | .record .schema .. | .options _ | .queryOptions _ | .config _ | .space _
  | .journal _ | .shelf _ | .stock _ => true
  | _ => false

mutual

inductive Value
  | null
  | bool (b : Bool)
  | int (n : Int)
  | float (text : String)
  | nan (identity : Nat)
  | str (s : String)
  | bytes (bs : List UInt8)
  | objectId (hex : String)
  | dateTime (iso : String)
  | list (items : List Value)
  | tuple (items : List Value)
  | set (items : List Value)
  | frozenSet (items : List Value)
  | dict (entries : List (Value × Value))
  | mapping (entries : List (Value × Value))
  | cls (c : ClassRef)
  | handle (h : Handle)
  | object (identity : Option Nat) (shape : Shape)

/-- An object as a tree.  Records, documents, options, configurations and namespaces are what a
record of a store is like, seen from outside or not stored yet.  An `inert` object shows nothing, a
`raised` one is an error, a `bound` function has its first argument already, and a `refusing` one
fails whatever it is given. -/
inductive Shape
  | record (kind : RecordKind) (cls : ClassRef) (fields : List (Value × Value))
  | document (model : ClassRef) (fields isNew : Value)
  | options (o : Options)
  | config (connection collection : Value)
  | namespaced (members : List (Value × Value))
  | inert (cls : ClassRef)
  | raised (cls : ClassRef) (message : String)
  | function (calls : List Call) (result : Option Value)
  | bound (receiver function : Value)
  | refusing (message : String)

/-- What a query may ask for beside its criteria; an unset option is null. -/
structure Options where
  sort : Value
  skip : Value
  limit : Value
  projection : Value

/-- One call of a function body, on the builder given to the function unless it has a target. -/
structure Call where
  target : Option Value
  method : String
  args : List Value
  named : List (Value × Value)

end

instance : Inhabited Value := ⟨.null⟩
instance : Inhabited Shape := ⟨.inert .object⟩
instance : Inhabited Options := ⟨⟨.dict [], .null, .null, .null⟩⟩
instance : Inhabited Call := ⟨⟨none, "", [], []⟩⟩

/-- No order, and nothing else set. -/
def Options.empty : Options := ⟨.dict [], .null, .null, .null⟩

/-- Keys and values in insertion order. -/
abbrev Entries := List (Value × Value)

/-- Options by their names. -/
def Options.entries (o : Options) : Entries :=
  [(.str "sort", o.sort), (.str "skip", o.skip), (.str "limit", o.limit),
    (.str "projection", o.projection)]

def Shape.cls : Shape → ClassRef
  | .record _ c _ => c
  | .document c .. => c
  | .options .. => .known "QueryOptions"
  | .config .. => .known "ModelConfig"
  | .namespaced _ => .known "SimpleNamespace"
  | .inert c => c
  | .raised c _ => c
  | .function .. => .known "function"
  | .bound _ (.handle (.routine owner _)) =>
    .known (if owner.isPrimitive then "builtin_function_or_method" else "method")
  | .bound .. => .known "method"
  | .refusing _ => .known "function"

namespace Value

/-- The entries of a value that maps keys to values. -/
def entries? : Value → Option Entries
  | .dict es => some es
  | .mapping es => some es
  | _ => none

def isMapping (v : Value) : Bool :=
  v.entries?.isSome

/-- Nothing, zero and whatever is empty count as false. -/
def truthy : Value → Bool
  | .null => false
  | .bool b => b
  | .int n => n != 0
  | .float t => t != "0.0" && t != "-0.0"
  | .str s => s != ""
  | .bytes bs => !bs.isEmpty
  | .list xs => !xs.isEmpty
  | .tuple xs => !xs.isEmpty
  | .set xs => !xs.isEmpty
  | .frozenSet xs => !xs.isEmpty
  | .dict es => !es.isEmpty
  | .mapping es => !es.isEmpty
  | _ => true

/-- The class that a value was made as; a class is an instance of a class of its own. -/
def ofClass : Value → ClassRef
  | .null => .known "NoneType"
  | .bool _ => .known "bool"
  | .int _ => .known "int"
  | .float _ => .known "float"
  | .nan _ => .known "float"
  | .str _ => .known "str"
  | .bytes _ => .known "bytes"
  | .objectId _ => .known "ObjectId"
  | .dateTime _ => .known "datetime"
  | .list _ => .known "list"
  | .tuple _ => .known "tuple"
  | .set _ => .known "set"
  | .frozenSet _ => .known "frozenset"
  | .dict _ => .known "dict"
  | .mapping _ => .known "UserDict"
  | .cls c => if c.isModel then .known "ModelMeta" else .known "type"
  | .handle h => h.cls
  | .object _ s => s.cls

/-- The text of a value that is a non-empty text. -/
def name? : Value → Option String
  | .str s => if s = "" then none else some s
  | _ => none

@[simp] theorem entries?_dict (es : Entries) : (Value.dict es).entries? = some es := rfl

@[simp] theorem entries?_mapping (es : Entries) : (Value.mapping es).entries? = some es := rfl

@[simp] theorem name?_eq_some {v : Value} {s : String} :
    v.name? = some s ↔ v = .str s ∧ s ≠ "" := by
  cases v <;> simp [name?]
  rename_i t
  constructor
  · rintro ⟨h, rfl⟩
    exact ⟨rfl, h⟩
  · rintro ⟨rfl, h⟩
    exact ⟨h, rfl⟩

end Value

end DocMapper
