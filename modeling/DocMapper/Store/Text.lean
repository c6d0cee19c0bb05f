import DocMapper.Store.Basic

/-!
Values and faults in words, as they are by now.  An object is written with what it holds.  One that
leads back to itself is written again, except for the containers that are being written already:
those are shown by dots.  Structs, configurations and namespaces give way to dots as a whole.
-/

namespace DocMapper

namespace Store

def className (st : Store) (c : ClassRef) : String :=
  st.registry.className c

def typeName (st : Store) (v : Value) : String :=
  st.className (st.classOf v)

/-- The type name together with the module of a type that is built into one. -/
def fullTypeName (st : Store) (v : Value) : String :=
  match st.classOf v with
  | .known "datetime" => "datetime.datetime"
  | .known "SimpleNamespace" => "types.SimpleNamespace"
  | c => st.className c

/-- The module that a class was declared in, or that it was given since. -/
def moduleOf (st : Store) (c : ClassRef) : Value :=
  match st.registry.ownMember? c "__module__" with
  | some (.value v) => v
  | _ => .str (Interface.moduleName c)

/-- A class with the module that it was declared in, if that is to be shown. -/
def classPath (st : Store) (c : ClassRef) : String :=
  match st.moduleOf c with
  | .str "builtins" => st.className c
  | .str m => m ++ "." ++ st.registry.fullClassName c
  | _ => st.className c

/-- The text of a class. -/
def classText (st : Store) (c : ClassRef) : String :=
  match st.registry.classOfClass c with
  | .known "EnumType" => s!"<enum {Text.quoted (st.className c)}>"
  | _ => s!"<class '{st.classPath c}'>"

/-- What a value itself has for its name. -/
def nameOf? (st : Store) (v : Value) : Option Value :=
  match v, st.extraOf? v "__name__" with
  | _, some x => some x
  | .cls c, none => some (.str (st.className c))
  | .handle (.routine _ n), none => some (.str n)
  | .object _ (.bound _ (.handle (.routine _ n))), none => some (.str n)
  | .handle (.space i), none => Entries.field? (st.spaces.getD i []) "__name__"
  | _, none => none

/-- The name of the database that a connection has selected. -/
def databaseName (st : Store) (connection : Nat) : Value :=
  let database := (st.connections.getD connection default).database
  match database, st.extraOf? database "name" with
  | .handle (.database i), _ => (st.databases.getD i default).name
  | .handle (.collection i), _ => (st.collections.getD i default).name
  | .handle (.space i), _ => (Entries.field? (st.spaces.getD i []) "name").getD .null
  | .handle (.record _ _ i), none => (Entries.field? (st.records.getD i []) "name").getD .null
  | .handle (.logger n), none => .str n
  | .handle (.state s), none => .str s.name.toUpper
  | _, some v => v
  | _, none => .null

/-- A way through an object that is being written: from a place of it to a leaf there. -/
structure Way where
  self : Holder
  start : Value.Place
  leaf : Value.Place

/-- The ways that are being written, the innermost first. -/
abbrev Writing := List Way

/-- Whether what stands at a place of an object is being written already. -/
def Writing.reaches (ways : Writing) (h : Holder) (place : Value.Place) : Bool :=
  ways.any fun w => w.self == h && w.start.isPrefixOf place && place.isPrefixOf w.leaf

section

variable (inner : Holder → Value.Place → Value → String)

/-- Fields as they are given to a constructor, each at a place of its own. -/
def fieldTexts (h : Holder) : (index : Nat) → Entries → List String
  | _, [] => []
  | i, (.str k, v) :: es => (k ++ "=" ++ inner h [i] v) :: fieldTexts h (i + 1) es
  | i, (_, v) :: es => inner h [i] v :: fieldTexts h (i + 1) es

/-- The options that are set. -/
def optionsText (h : Holder) (o : Options) : String :=
  let isSet (v : Value) : Bool := match v with | .null => false | _ => true
  let part (name : String) (place : Nat) (shown : Bool) (v : Value) : List String :=
    if shown then [name ++ "=" ++ inner h [place] v] else []
  enclosed "QueryOptions("
    (part "sort" 0 o.sort.truthy o.sort ++ part "skip" 1 (isSet o.skip) o.skip ++
      part "limit" 2 (isSet o.limit) o.limit ++
      part "projection" 3 (isSet o.projection) o.projection) ")"

/-- The text of an object behind a handle. -/
def handleText (st : Store) (writing : Writing) (h : Handle) : String :=
  let self : Holder := .handle h
  let again : Bool := writing.any fun w => w.self == self
  match h with
  | .query _ i =>
    let q := st.query i
    let options := match q.held with
      | .null => optionsText inner (.handle (.queryOptions i)) q.options
      | v => inner self [1] v
    enclosed (st.typeName (.handle h) ++ "(") [inner self [0] q.toJson, options] ")"
  | .pipeline _ i =>
    st.typeName (.handle h) ++ "(" ++ inner self [0] (st.pipelines.getD i default).toJson ++ ")"
  | .options i => optionsText inner self (st.options.getD i default)
  | .queryOptions i => optionsText inner self (st.queries.getD i default).options
  | .document _ i =>
    st.typeName (.handle h) ++ "(" ++ inner self [0] (st.documents.getD i default).fields ++ ")"
  | .record .struct _ i =>
    if again then "..."
    else enclosed (st.registry.fullClassName (st.classOf (.handle h)) ++ "(")
      (fieldTexts inner self 0 (st.records.getD i [])) ")"
  | .record .schema _ i =>
    enclosed (st.typeName (.handle h) ++ "(") (fieldTexts inner self 0 (st.records.getD i [])) ")"
  | .space i =>
    let name := match st.classOf (.handle h) with
      | .known "SimpleNamespace" => "namespace"
      | c => st.className c
    if again then name ++ "(...)"
    else enclosed (name ++ "(") (fieldTexts inner self 0 (st.spaces.getD i [])) ")"
  | .config serial =>
    let c := (st.registry.recordWith? serial).getD { serial }
    if again then "..."
    else enclosed (st.registry.fullClassName (st.classOf (.handle h)) ++ "(")
      ["connection=" ++ inner self [0] c.connection,
       "collection=" ++ inner self [1] c.collection] ")"
  | .connection i => "Connection(db=" ++ inner self [0] (st.databaseName i) ++ ")"
  | .journal i => inner self [] (.list (st.journals.getD i []))
  | .shelf i => inner self [] (st.shelves.getD i (.list []))
  | .stock i => inner self [] (.dict (st.stocks.getD i []))
  | .state s => s!"<CursorState.{s.name.toUpper}: '{s.name}'>"
  | .routine c n => s!"<function {st.className c}.{n}>"
  | h => s!"<{st.typeName (.handle h)} object>"

/-- The text of a class or an object. -/
def leafText (st : Store) (writing : Writing) (v : Value) : String :=
  match v with
  | .cls c => st.classText c
  | .handle h => st.handleText inner writing h
  | .object _ (.raised c m) => st.className c ++ "(" ++ Text.quoted m ++ ")"
  | v => s!"<{st.typeName v} object>"

end

/-- The text of a value that stands at a place of an object, while others are being written. -/
def literalIn (st : Store) :
    (depth : Nat) → Writing → Holder → Value.Place → Value → String
  | 0, _, _, _, _ => "..."
  | n + 1, writing, h, place, v =>
    v.literalAt (writing.reaches h)
      (fun p u =>
        let writing := ⟨h, place, p⟩ :: writing
        st.leafText (st.literalIn n writing) writing u) place

/-- The text of a value that stands at a place of an object. -/
def textAt (st : Store) (h : Holder) (place : Value.Place) (v : Value) : String :=
  st.literalIn (2 * st.population + 2) [] h place v

def text (st : Store) (v : Value) : String :=
  st.textAt .fleeting [] v

/-- The text of a value inside a sentence: texts, ids and times stand there without quotes, states
by their names, schemas by their fields alone, and errors by their messages. -/
def plainText (st : Store) (v : Value) : String :=
  match v with
  | .str s => s
  | .objectId hex => hex
  | .dateTime iso => iso.map fun c => if c = 'T' then ' ' else c
  | .handle (.state s) => "CursorState." ++ s.name.toUpper
  | .handle (.record .schema c i) =>
    " ".intercalate (fieldTexts st.textAt (.handle (.record .schema c i)) 0 (st.records.getD i []))
  | .object _ (.raised _ m) => m
  | v => st.text v

/-- What messages call a model, or whatever is configured like one: by its name, or after the root
if it has none. -/
def label (st : Store) (v : Value) : String :=
  match (st.nameOf? v).filter Value.truthy with
  | some name => st.plainText name
  | none => "Model"

def wording (st : Store) : Wording where
  literal := st.text
  plain := st.plainText
  typeName := st.typeName
  fullTypeName := st.fullTypeName
  className := st.className
  declaredName v := st.registry.fullClassName (st.classOf v)
  label := st.label

def message (st : Store) (e : Fault) : String :=
  e.message st.wording

end Store

end DocMapper
