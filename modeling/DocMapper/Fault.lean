import DocMapper.Value.Literal

/-!
What can go wrong, by cause.  Each cause belongs to one kind of fault, kinds refine one another, and
`Fault.message` holds the wording of all of them.  A fault keeps the values that it is about, not
their texts, so that it can be put into words when it is reported.
-/

namespace DocMapper

inductive FaultKind
  | notFound
  | configuration
  | cursorState
  | validation
  | valueRange
  | invalidStage
  | type
  | value
  | key
  | index
  | member
  | operation
  | decoding
  | exhausted
  | runtime
  | recursion
  | unbound
  deriving DecidableEq, Inhabited

namespace FaultKind

def name : FaultKind → String
  | notFound => "ObjectNotFoundException"
  | configuration => "ModelConfigurationException"
  | cursorState => "CursorStateException"
  | validation => "ValidationError"
  | valueRange => "ValueRangeError"
  | invalidStage => "InvalidStageError"
  | type => "TypeError"
  | value => "ValueError"
  | key => "KeyError"
  | index => "IndexError"
  | member => "AttributeError"
  | operation => "OperationFailure"
  | decoding => "UnicodeDecodeError"
  | exhausted => "StopAsyncIteration"
  | runtime => "RuntimeError"
  | recursion => "RecursionError"
  | unbound => "Unbound"

/-- The kinds that a kind of the library refines, itself first and the most general last. -/
def lineage : FaultKind → List String
  | validation => ["ValidationError", "TypeError", "Exception", "BaseException", "object"]
  | valueRange => ["ValueRangeError", "ValidationError", "TypeError", "ValueError", "Exception",
      "BaseException", "object"]
  | invalidStage => ["InvalidStageError", "ValidationError", "TypeError", "ValueError",
      "Exception", "BaseException", "object"]
  | k => [k.name, "Exception", "BaseException", "object"]

/-- A malformed argument is a fault of type. -/
def isType : FaultKind → Bool
  | validation | valueRange | invalidStage | type => true
  | _ => false

/-- What a fault of the library says if it is given nothing to say. -/
def defaultMessage : FaultKind → String
  | notFound => "The requested object was not found."
  | configuration => "The model is not configured."
  | cursorState => "The cursor cannot be consumed in its current state."
  | _ => ""

theorem name_mem_lineage (k : FaultKind) : k.name ∈ k.lineage := by
  cases k <;> decide

end FaultKind

inductive Fault
  | notMapping (what : String) (given : Value)
  | fieldName (given : Value)
  | notMembers (operator : String) (given : Value)
  | notBoolean (given : Value)
  | notBranches (method : String) (given : Value)
  | branch (method : String) (index : Nat) (given : Value)
  | selection (given : Value)
  | notCount (what : String) (given : Value)
  | countName (given : Value)
  | matchSource (given : Value)
  | matchResult (given : Value)
  | groupWithoutKey
  | unwindWithoutPath
  | unwindSource (given : Value)
  | emptyRoot
  | rootSource (given : Value)
  | nestedStage (context : String) (index : Nat) (given : Value)
  | nestedResult (context : String) (given : Value)
  | nestedSource (context : String) (given : Value)
  | lookupWithoutFrom
  | lookupWithoutAs
  | lookupWithoutForeign
  | lookupWithoutForm
  | facetEmpty
  | facetName (given : Value)
  | unionUnbound
  | unionWithoutCollection
  | emptyCollectionName (context : String)
  | collectionSource (context : String) (given : Value)
  | queryUnbound
  | pipelineUnbound
  | notConnection (model given : Value)
  | noConnection (model : Value)
  | abstractCollection
  | collectionType (model given : Value)
  | collectionEmpty (model : Value)
  | noCollection (model : Value)
  | noDatabase (url : String)
  | notConnected
  | partlyStreamed (cursor : ClassRef)
  | notFound (model : ClassRef) (key : Value)
  | missing (name : String)
  | brackets
  | bracketedVersion
  | bracketedNumbers
  | bracketedHost (host : String)
  | foldedAuthority (authority : String)
  | notText
  | notAscii (byte position : Nat)
  | notIterable (given : Value)
  | unhashable (given : Value)
  | unordered (operator : String) (left right : Value)
  | elementType (index : Nat)
  | elementLength (index length : Nat)
  | sliceBound
  | noArguments (cls : ClassRef)
  | noAttribute (given : Value) (name : String)
  | noClassAttribute (cls : ClassRef) (name : String)
  | noSetter (given : Value) (name : String)
  | noKey (key : Value)
  | duplicateBase (base : ClassRef)
  | unmergeable (bases : List ClassRef)
  | immutableClass (cls : ClassRef) (name : String)
  | className (cls : ClassRef) (member : String) (given : Value)
  | typed (kind : FaultKind) (before : String) (given : Value) (after : String)
  | written (kind : FaultKind) (given : Value) (after : String)
  | refused (message : String)
  | raised (kind : FaultKind) (message : String)
  | unbound (name : String)
  deriving Inhabited

/-- How what a fault is about is put into words: values as literals or inside a sentence, the types
of values by their names, with or without the module of a type that is built into one, or by the
names that they were declared with, classes by theirs, and models as those who configure them call
them. -/
structure Wording where
  literal : Value → String
  plain : Value → String
  typeName : Value → String
  fullTypeName : Value → String
  className : ClassRef → String
  declaredName : Value → String
  label : Value → String

namespace Fault

def kind : Fault → FaultKind
  | notMapping .. | fieldName _ | notMembers .. | notBoolean _ | notBranches .. | branch ..
  | selection _ | countName _ | matchSource _ | unwindSource _ | emptyRoot | rootSource _ =>
    .validation
  | notCount .. => .valueRange
  | matchResult _ | groupWithoutKey | unwindWithoutPath | nestedStage .. | nestedResult ..
  | nestedSource .. | lookupWithoutFrom | lookupWithoutAs | lookupWithoutForeign
  | lookupWithoutForm | facetEmpty | facetName _ | unionUnbound | unionWithoutCollection
  | emptyCollectionName _ | collectionSource .. => .invalidStage
  | queryUnbound | pipelineUnbound | notConnection .. | noConnection _ | abstractCollection
  | collectionType .. | collectionEmpty _ | noCollection _ | noDatabase _ | notConnected =>
    .configuration
  | partlyStreamed _ => .cursorState
  | notFound .. => .notFound
  | missing _ | brackets | bracketedVersion | bracketedNumbers | bracketedHost _ | foldedAuthority _
  | elementLength .. => .value
  | notAscii .. => .decoding
  | notText | notIterable _ | unhashable _ | unordered .. | elementType _ | sliceBound
  | noArguments _ | duplicateBase _ | unmergeable _ | immutableClass .. | className .. => .type
  | noAttribute .. | noClassAttribute .. | noSetter .. => .member
  | noKey _ => .key
  | typed k .. => k
  | written k .. => k
  | refused _ => .operation
  | raised k _ => k
  | unbound _ => .unbound

/-- The wording of a fault. -/
def message (w : Wording) : Fault → String
  | notMapping what v => s!"{what} must be a mapping, got {w.typeName v}"
  | fieldName v => s!"Field name must be a non-empty string, got {w.literal v}"
  | notMembers op v => s!"Operator '{op}' requires a list/set/tuple, got {w.typeName v}"
  | notBoolean v => s!"Operator 'exists' requires a boolean value, got {w.typeName v}"
  | notBranches m v => s!"{m}() requires a list of criteria, got {w.typeName v}"
  | branch m i v => s!"{m}() branch {i} must be a mapping or QueryBuilder, got {w.typeName v}"
  | selection v => s!"select() field names must be non-empty strings, got {w.literal v}"
  | notCount what (.int n) => s!"{what} must be a non-negative integer, got {n}"
  | notCount what v =>
    s!"{what} must be a non-negative integer, got {w.literal v} ({w.typeName v})"
  | countName v => s!"count() requires a non-empty field name, got {w.literal v}"
  | matchSource v => s!"match() requires a mapping, QueryBuilder or function, got {w.typeName v}"
  | matchResult v => s!"match() function must return a QueryBuilder, got {w.typeName v}"
  | groupWithoutKey => "group() must have an _id key"
  | unwindWithoutPath => "unwind() spec must have a 'path' key"
  | unwindSource v => s!"unwind() requires a string or a mapping, got {w.typeName v}"
  | emptyRoot => "replace_root() field name must not be empty"
  | rootSource v => s!"replace_root() requires a field name or an expression, got {w.typeName v}"
  | nestedStage context i v => s!"{context}: stage {i} must be a mapping, got {w.typeName v}"
  | nestedResult context v =>
    s!"{context}: function must return an AggregateBuilder, got {w.typeName v}"
  | nestedSource context v =>
    s!"{context}: expected a list of stages, an AggregateBuilder or a function, " ++
      s!"got {w.typeName v}"
  | lookupWithoutFrom => "lookup() spec must have a 'from' key"
  | lookupWithoutAs => "lookup() spec must have a non-empty 'as' key"
  | lookupWithoutForeign => "lookup() with 'localField' must also have 'foreignField'"
  | lookupWithoutForm => "lookup() needs either 'localField' or 'pipeline'"
  | facetEmpty => "facet() needs at least one branch"
  | facetName v => s!"facet() branch names must be non-empty strings, got {w.literal v}"
  | unionUnbound => "union_with() builder must be bound to a model, use Model.aggregate()"
  | unionWithoutCollection => "union_with() spec must have a 'coll' key"
  | emptyCollectionName context => s!"{context}: collection name must not be empty"
  | collectionSource context v =>
    s!"{context}: expected a collection name or a model class, got {w.typeName v}"
  | queryUnbound => "Query is not bound to a model. Use Model.find() or .bind(Model)."
  | pipelineUnbound => "Aggregate is not bound to a model. Use Model.aggregate() or .bind(Model)."
  | notConnection model v =>
    s!"{w.label model}.connection must be an instance of Connection, got {w.typeName v}."
  | noConnection model =>
    s!"No connection was configured for {w.label model}. " ++
      s!"Do `{w.label model}.connection = connection` before using any models."
  | abstractCollection =>
    "Cannot configure a collection on the base Model class. Instead " ++
      "extend this class, and configure a collection on the subclass."
  | collectionType model v => s!"{w.label model}.collection must be a string, got {w.typeName v}."
  | collectionEmpty model => s!"{w.label model}.collection must not be an empty string."
  | noCollection model =>
    s!"No collection was configured for {w.label model}. " ++
      s!"Do `{w.label model}.collection = 'name'` before using this model."
  | noDatabase url => s!"Connection URL must name a database in its path, got '{url}'"
  | notConnected => "Connection is not connected. Await connection.connect(url) first."
  | partlyStreamed cursor =>
    s!"{w.className cursor} was already partially streamed; " ++
      "a cursor must be either streamed or resolved in bulk, not both."
  | notFound model key => s!"{w.className model} with ID '{w.plain key}' not found."
  | missing name => s!"missing {name}"
  | brackets => "Invalid IPv6 URL"
  | bracketedVersion => "IPvFuture address is invalid"
  | bracketedNumbers => "An IPv4 address cannot be in brackets"
  | bracketedHost host =>
    s!"{Text.quoted host} does not appear to be an IPv4 or IPv6 address"
  | foldedAuthority authority =>
    s!"netloc '{authority}' contains invalid characters under NFKC normalization"
  | notText => "startswith first arg must be bytes or a tuple of bytes, not str"
  | notAscii byte position =>
    s!"'ascii' codec can't decode byte 0x{String.ofList (Text.hexDigits 2 byte)} " ++
      s!"in position {position}: ordinal not in range(128)"
  | notIterable v => s!"'{w.fullTypeName v}' object is not iterable"
  | unhashable v => s!"unhashable type: '{w.fullTypeName v}'"
  | unordered op left right =>
    s!"'{op}' not supported between instances of '{w.fullTypeName left}' and " ++
      s!"'{w.fullTypeName right}'"
  | elementType i => s!"cannot convert dictionary update sequence element #{i} to a sequence"
  | elementLength i n =>
    s!"dictionary update sequence element #{i} has length {n}; 2 is required"
  | sliceBound => "slice indices must be integers or None or have an __index__ method"
  | noArguments c => s!"{w.className c}() takes no arguments"
  | noAttribute v name => s!"'{w.fullTypeName v}' object has no attribute '{name}'"
  | noClassAttribute c name => s!"type object '{w.className c}' has no attribute '{name}'"
  | noSetter v name =>
    s!"property {Text.quoted name} of {Text.quoted (w.declaredName v)} object has no setter"
  | noKey key => w.literal key
  | duplicateBase c => s!"duplicate base class {w.className c}"
  | unmergeable bases =>
    "Cannot create a consistent method resolution\norder (MRO) for bases " ++
      ", ".intercalate (bases.map w.className)
  | immutableClass c name =>
    s!"cannot set '{name}' attribute of immutable type '{w.className c}'"
  | className c name v =>
    s!"can only assign string to {w.className c}.{name}, not '{w.fullTypeName v}'"
  | typed _ before v after => before ++ w.fullTypeName v ++ after
  | written _ v after => w.literal v ++ after
  | refused m => m
  | raised _ m => m
  | unbound v => v

end Fault

namespace Fault

def notCallable (v : Value) : Fault :=
  .typed .type "'" v "' object is not callable"

def unawaitable (v : Value) : Fault :=
  .typed .type "object " v " can't be used in 'await' expression"

def notContainer (v : Value) : Fault :=
  .typed .type "argument of type '" v "' is not iterable"

def noItemAssignment (v : Value) : Fault :=
  .typed .type "'" v "' object does not support item assignment"

/-- The fault of asking for an item of what has none; a class is called by its own name then. -/
def notSubscriptable (v : Value) : Fault :=
  match v with
  | .cls c => .typed .type "type '" (.object none (.inert c)) "' is not subscriptable"
  | v => .typed .type "'" v "' object is not subscriptable"

end Fault

/-- The fault of asking a value for an attribute that it does not have. -/
def Value.lacks (v : Value) (name : String) : Fault :=
  match v with
  | .cls c => .noClassAttribute c name
  | v => .noAttribute v name

/-- The fault of calling a function of mappings on what is none.  The class of dictionaries has such
functions, but wants a dictionary first. -/
def Value.noMapping (v : Value) (method : String) (args : List Value) : Fault :=
  match v, args with
  | .cls (.known "dict"), [] =>
    .raised .type s!"unbound method dict.{method}() needs an argument"
  | .cls (.known "dict"), a :: _ =>
    .typed .type s!"descriptor '{method}' for 'dict' objects doesn't apply to a '" a "' object"
  | v, _ => v.lacks method

end DocMapper
