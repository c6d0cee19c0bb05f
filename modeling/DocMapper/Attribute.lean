import DocMapper.Pipeline.Nested

/-!
Attributes of objects, read and assigned by name.  What is read off an instance comes first, then
what was set on it, the places it has by itself, and last what its class offers.  On a model class
two attributes are configuration, and assigning one is checked.
-/

namespace DocMapper.Act

/-- What a name reads off an instance. -/
def readProperty (d : Dispatch) (v : Value) (name : String) : Act Value := do
  match v, name with
  | .handle (.cursor _ i), "state" => return .handle (.state (← cursor i).state)
  | .handle (.cursor _ i), "model" => return (← cursor i).model
  | v, "connection" => classConnection ((← get).classOf v)
  | v, "collection" => collectionFor d (.cls ((← get).classOf v))
  | v, _ => throw (v.lacks name)

def optionsPlace (o : Options) (name : String) : Option Value :=
  match name with
  | "sort" => some o.sort
  | "skip" => some o.skip
  | "limit" => some o.limit
  | "projection" => some o.projection
  | _ => none

def withOption (o : Options) (name : String) (v : Value) : Option Options :=
  match name with
  | "sort" => some { o with sort := v }
  | "skip" => some { o with skip := v }
  | "limit" => some { o with limit := v }
  | "projection" => some { o with projection := v }
  | _ => none

def readConfig (serial : Nat) (name : String) : Act (Option Value) := do
  let config := ((← registry).recordWith? serial).getD { serial }
  match name with
  | "connection" => return some config.connection
  | "collection" => return some config.collection
  | _ => return none

/-- What stands in the place that an object has for a name. -/
def placeOf? (v : Value) (name : String) : Act (Option Value) := do
  match v, name with
  | v, "_logger" => return ((← get).logOf? v).map fun log => .handle (.logger log)
  | .handle (.query _ i), "_criteria" => return some (← query i).toJson
  | .handle (.query _ i), "_options" => return some ((← get).optionsHeld i)
  | .handle (.query k i), "model_cls" =>
    let q ← query i
    return if k.bindable then some q.model else none
  | .handle (.pipeline _ i), "_stages" => return some (← pipeline i).toJson
  | .handle (.pipeline _ i), "model_cls" => return some (← pipeline i).model
  | .handle (.options i), name =>
    return ((← get).optionsAt? (.options i)).bind fun o => optionsPlace o name
  | .handle (.queryOptions i), name =>
    return ((← get).optionsAt? (.queryOptions i)).bind fun o => optionsPlace o name
  | .handle (.record _ _ i), name => return (← fields i).field? name
  | .handle (.document _ i), "fields" => return some (← document i).fields
  | .handle (.document _ i), "is_new" => return some (← document i).isNew
  | .handle (.cursor _ i), "_state" => return some (.handle (.state (← cursor i).state))
  | .handle (.cursor _ i), "_cursor" => return some (← cursor i).source
  | .handle (.cursor k i), "_model" =>
    let c ← cursor i
    return if k.hydrates then some c.model else none
  | .handle (.cursor k i), "_hydrate_fn" =>
    let c ← cursor i
    return if k.hydrates then some c.hydrate else none
  | .handle (.cursor _ i), "_lock" => return some (← cursor i).lock
  | .handle (.source i), "results" => return some (.list (← source i).pending)
  | .handle (.source i), "error" => return some (← source i).error
  | .handle (.source i), "next_calls" => return some (.int (← source i).pulls)
  | .handle (.source i), "to_list_calls" => return some (.int (← source i).drains)
  | .handle (.connection i), "client" => return some (← connection i).client
  | .handle (.connection i), "db" => return some (← connection i).database
  | .handle (.connection i), "collections" => return some (← connection i).handles
  | .handle (.connection i), "models" => return some (← connection i).models
  | .handle (.connection i), "_client_factory" => return some (← connection i).factory
  | .handle (.space i), name => return (← space i).field? name
  | .handle (.client i), "closed" => return some (← client i).closed
  | .handle (.client i), "databases" => return some (← client i).databases
  | .handle (.client i), "data" => return some (← client i).data
  | .handle (.database i), "name" => return some (← database i).name
  | .handle (.database i), "_data" => return some (← database i).data
  | .handle (.database i), "get_collection_calls" => return some (← database i).requests
  | .handle (.collection i), "name" => return some (← collection i).name
  | .handle (.collection i), "documents" =>
    return some (.handle (.shelf (← collection i).shelf))
  | .handle (.collection i), "aggregate_results" => return some (← collection i).results
  | .handle (.collection i), "calls" => return some (← collection i).calls
  | .handle (.config serial), name => readConfig serial name
  | .handle (.logger name), "name" => return some (.str name)
  | .handle (.state s), "value" => return some (.str s.name)
  | .handle (.state s), "name" => return some (.str s.name.toUpper)
  | _, _ => return none

/-- The class of classes with a fixed number of instances. -/
def enumeration : ClassRef := .known "EnumType"

/-- What every class has under a name. -/
def commonToClasses (c : ClassRef) (name : String) : Act (Option Value) := do
  let r ← registry
  match name with
  | "__name__" => return some (.str (r.className c))
  | "__qualname__" => return some (.str (r.fullClassName c))
  | "__module__" => return some ((← get).moduleOf c)
  | "__mro__" => return some (.tuple ((r.ancestors c).map .cls))
  | "__bases__" => return some (.tuple ((r.bases c).map .cls))
  | "__base__" => return some (((r.bases c).head?.map Value.cls).getD .null)
  | "__class__" => return some (.cls (r.classOfClass c))
  | "__dict__" => return some (← made (.inert (.known "mappingproxy")))
  | _ => return none

/-- What a class, or one that it refines, has under a name. -/
def readMember (c : ClassRef) (name : String) : Act Value := do
  match (← registry).member? c name with
  | some (_, .value v) => return v
  | some (owner, .method _) | some (owner, .requiring _) =>
    return .handle (.routine owner name)
  | some (owner, .ofClass _) | some (owner, .hydrating _) =>
    made (.bound (.cls c) (.handle (.routine owner name)))
  | some (_, .property) => made (.inert (.known "property"))
  | none =>
    let r ← registry
    let cls := r.classOfClass c
    match r.member? cls name with
    | some (owner, .method _) => made (.bound (.cls c) (.handle (.routine owner name)))
    | _ =>
      throw (if cls = enumeration then .raised .member name else .noClassAttribute c name)

def readClass (c : ClassRef) (name : String) : Act Value := do
  match c.isModel, name with
  | true, "connection" => classConnection c
  | true, "collection" => ofExcept ((← registry).collection (.cls c))
  | _, _ =>
    match ← commonToClasses c name with
    | some v => return v
    | none => readMember c name

/-- The function behind a function of a class, with what it has to be waited for. -/
def methodNamed? (owner : ClassRef) (name : String) : Act (Option Method) := do
  match (← registry).ownMember? owner name with
  | some (.method m) | some (.ofClass m) => return some m
  | _ => return none

/-- What every function of a class has under a name. -/
def commonToFunctions (owner : ClassRef) (method name : String) : Act (Option Value) := do
  match name with
  | "__name__" => return some (.str method)
  | "__qualname__" =>
    let full := ((← methodNamed? owner method).map Method.fullName).getD method
    return some (.str full)
  | "__module__" => return some ((← get).moduleOf owner)
  | _ => return none

/-- What a bound function shows of itself. -/
def readBound (receiver f : Value) (name : String) : Act (Option Value) := do
  match name, f with
  | "__self__", _ => return some receiver
  | "__func__", f => return some f
  | name, .handle (.routine owner method) => commonToFunctions owner method name
  | _, _ => return none

/-- What a class offers to its instances; functions take the instance along. -/
def readInherited (v : Value) (name : String) : Act Value := do
  let st ← get
  match st.member? v name with
  | some (_, .value (.object i (.function cs r))) => made (.bound v (.object i (.function cs r)))
  | some (_, .value (.handle (.routine c n))) => made (.bound v (.handle (.routine c n)))
  | some (_, .value x) => return x
  | some (owner, .method _) | some (owner, .requiring _) =>
    made (.bound v (.handle (.routine owner name)))
  | some (owner, .ofClass _) | some (owner, .hydrating _) =>
    made (.bound (.cls (st.classOf v)) (.handle (.routine owner name)))
  | _ =>
    match name with
    | "__class__" => return .cls (st.classOf v)
    | "__module__" => return st.moduleOf (st.classOf v)
    | _ => throw (v.lacks name)

/-- The places that an object has by itself, in the order in which they were filled. -/
def placesOf (st : Store) : Handle → Option (List String)
  | .query k _ =>
    some (["_logger", "_criteria", "_options"] ++ if k.bindable then ["model_cls"] else [])
  | .pipeline .. => some ["_logger", "_stages", "model_cls"]
  | .options _ | .queryOptions _ => some ["sort", "skip", "limit", "projection"]
  | .document .. => some ["fields", "is_new"]
  | .individual .. => some []
  | .record _ _ i => some (namesIn (st.records.getD i []))
  | .cursor k _ =>
    some (["_cursor", "_state", "_lock"] ++ if k.hydrates then ["_model", "_hydrate_fn"] else [])
  | .source _ => some ["results", "error", "next_calls", "to_list_calls"]
  | .connection _ => some ["client", "db", "collections", "models", "_client_factory", "_logger"]
  | .space i => some (namesIn (st.spaces.getD i []))
  | .client _ => some ["data", "databases", "closed"]
  | .database _ => some ["name", "_data", "get_collection_calls"]
  | .collection _ => some ["name", "documents", "aggregate_results", "calls"]
  | .config _ => some ["connection", "collection"]
  | _ => none
where
  namesIn (es : Entries) : List String :=
    es.filterMap fun e => e.1.name?

/-- Everything that an object has by itself, with what was set on it since. -/
def readPlaces? (h : Handle) : Act (Option Value) := do
  let st ← get
  match placesOf st h with
  | none => return none
  | some places =>
    let filled ← places.mapM fun name => do
      let v ← match st.extraOf? (.handle h) name with
        | some x => pure x
        | none => do pure ((← placeOf? (.handle h) name).getD .null)
      return (Value.str name, st.current v)
    let extras := st.extras.filterMap fun e =>
      if e.1.1 = .handle h && !places.contains e.1.2 then some (Value.str e.1.2, e.2) else none
    return some (.dict (filled ++ extras))

/-- What a name leads to that is no member of a class: a place of the object, or what functions show
of themselves. -/
def readPlace? (v : Value) (name : String) : Act (Option Value) := do
  match v, name with
  | .handle (.routine owner method), name => commonToFunctions owner method name
  | .object _ (.bound receiver f), name => readBound receiver f name
  | .handle h, "__dict__" => readPlaces? h
  | v, name => placeOf? v name

def readAttribute (d : Dispatch) (v : Value) (name : String) : Act Value := do
  match v with
  | .cls c => readClass c name
  | v =>
    let st ← get
    match st.member? v name, st.extraOf? v name with
    | some (_, .property), _ => readProperty d v name
    | _, some x => return x
    | _, none =>
      match ← readPlace? v name with
      | some x => return x
      | none => readInherited v name

/-- How a source fails that was given something to fail with. -/
def failureOf : Value → Option Fault
  | .null => none
  | .object _ (.raised _ message) => some (.refused message)
  | _ => some (.raised .type "exceptions must derive from BaseException")

/-- Assigns to a place for data that several may share. -/
def assignShared (v : Value) (name : String) (x : Value) : Act Bool := do
  match v, name with
  | .handle (.client i), "data" =>
    setClient i { (← client i) with data := ← stocked x }
    return true
  | .handle (.database i), "_data" =>
    setDatabase i { (← database i) with data := ← stocked x }
    return true
  | .handle (.collection i), "documents" =>
    let shelf ← shelfHolding x
    changeCollection i fun c => { c with shelf }
    return true
  | _, _ => return false

/-- Gives a query other options to hold. -/
def setOptionsHeld (i : Nat) (held : Value) : Act Unit :=
  modify fun st => { st with queries := st.queries.modify i fun q => { q with held } }

def assignOption (h : Handle) (name : String) (x : Value) : Act Bool := do
  match ((← get).optionsAt? h).bind fun o => withOption o name x with
  | some o =>
    modify fun st => st.setOptionsAt o h
    return true
  | none => return false

/-- Assigns to the place that an object has for a name, if it has one. -/
def assignPlace (v : Value) (name : String) (x : Value) : Act Bool := do
  match v, name with
  | .handle (.query _ i), "_criteria" =>
    setQuery i ((← query i).holding x)
    return true
  | .handle (.query _ i), "_options" =>
    let held := match x with
      | .handle (.queryOptions j) => if i = j then .null else x
      | x => x
    setOptionsHeld i held
    return true
  | .handle (.query k i), "model_cls" =>
    if k.bindable then setQuery i { (← query i) with model := x }
    return k.bindable
  | .handle (.pipeline _ i), "_stages" =>
    setPipeline i ((← pipeline i).holding x)
    return true
  | .handle (.pipeline _ i), "model_cls" =>
    setPipeline i { (← pipeline i) with model := x }
    return true
  | .handle (.options i), name => assignOption (.options i) name x
  | .handle (.queryOptions i), name => assignOption (.queryOptions i) name x
  | .handle (.record _ _ i), name =>
    let es ← fields i
    if es.has (.str name) then setFields i (es.put (.str name) x)
    return es.has (.str name)
  | .handle (.document _ i), "fields" =>
    setDocument i { (← document i) with fields := x }
    return true
  | .handle (.document _ i), "is_new" =>
    setDocument i { (← document i) with isNew := x }
    return true
  | .handle (.cursor _ i), "_state" =>
    match x with
    | .handle (.state state) =>
      setCursor i { (← cursor i) with state }
      return true
    | _ => return false
  | .handle (.cursor _ i), "_cursor" =>
    setCursor i { (← cursor i) with source := x }
    return true
  | .handle (.cursor _ i), "_lock" =>
    setCursor i { (← cursor i) with lock := x }
    return true
  | .handle (.cursor k i), "_model" =>
    if k.hydrates then setCursor i { (← cursor i) with model := x }
    return k.hydrates
  | .handle (.cursor k i), "_hydrate_fn" =>
    if k.hydrates then setCursor i { (← cursor i) with hydrate := x }
    return k.hydrates
  | .handle (.source i), "results" =>
    let pending := match x with
      | .list xs => some xs
      | _ => none
    setSource i { (← source i) with pending := pending.getD [] }
    if pending.isSome then dropExtra (.handle (.source i)) name
    return pending.isSome
  | .handle (.source i), "error" =>
    setSource i { (← source i) with error := x, failure := failureOf x }
    return true
  | .handle (.source i), "next_calls" =>
    setSource i { (← source i) with pulls := x.whole?.getD 0 }
    return true
  | .handle (.source i), "to_list_calls" =>
    setSource i { (← source i) with drains := x.whole?.getD 0 }
    return true
  | .handle (.connection i), "client" =>
    setConnection i { (← connection i) with client := x }
    return true
  | .handle (.connection i), "db" =>
    setConnection i { (← connection i) with database := x }
    return true
  | .handle (.connection i), "_client_factory" =>
    setConnection i { (← connection i) with factory := x }
    return true
  | .handle (.connection i), "collections" =>
    setConnection i { (← connection i) with handles := x }
    return true
  | .handle (.connection i), "models" =>
    setConnection i { (← connection i) with models := x }
    return true
  | .handle (.space i), name =>
    setSpace i (Entries.put (← space i) (.str name) x)
    return true
  | .handle (.client i), "closed" =>
    setClient i { (← client i) with closed := x }
    return true
  | .handle (.client i), "databases" =>
    setClient i { (← client i) with databases := x }
    return true
  | .handle (.database i), "name" =>
    setDatabase i { (← database i) with name := x }
    return true
  | .handle (.database i), "get_collection_calls" =>
    setDatabase i { (← database i) with requests := x }
    return true
  | .handle (.collection i), "name" =>
    changeCollection i fun c => { c with name := x }
    return true
  | .handle (.collection i), "aggregate_results" =>
    changeCollection i fun c => { c with results := x }
    return true
  | .handle (.collection i), "calls" =>
    changeCollection i fun c => { c with calls := x }
    return true
  | .handle (.config serial), "connection" =>
    setRegistry ((← registry).changeRecord serial fun c => { c with connection := x })
    return true
  | .handle (.config serial), "collection" =>
    setRegistry ((← registry).changeRecord serial fun c => { c with collection := x })
    return true
  | _, _ => return false

/-- The text that a class is to be called by. -/
def newName (c : ClassRef) (name : String) (x : Value) : Except Fault String :=
  match x with
  | .str s =>
    if s.contains '\x00' then .error (.raised .value "type name must not contain null characters")
    else .ok s
  | x => .error (.className c name x)

/-- The classes in what is to be the bases of a class. -/
def newBases (st : Store) (c : ClassRef) (x : Value) : Except Fault (List ClassRef) :=
  let bases := st.className c ++ ".__bases__"
  let refuse (text : String) : Except Fault (List ClassRef) := .error (.raised .type text)
  match x with
  | .tuple [] => refuse s!"can only assign non-empty tuple to {bases}, not ()"
  | .tuple vs =>
    match vs.mapM (fun | .cls b => some b | _ => none), vs.find? fun v => !v matches .cls _ with
    | some bs, _ => .ok bs
    | none, odd =>
      refuse s!"{bases} must be tuple of classes, not '{st.typeName (odd.getD .null)}'"
  | v => refuse s!"can only assign tuple to {bases}, not {st.typeName v}"

/-- Gives a declared class other bases, unless nothing but the first of all classes was one. -/
def assignBases (c : ClassRef) (x : Value) : Act Unit := do
  let bases ← ofExcept (newBases (← get) c x)
  let r ← registry
  if r.bases c = [.object] && bases ≠ [.object] then
    let name := r.className (bases.headD .object)
    throw (.raised .type s!"__bases__ assignment: '{name}' object layout differs from 'object'")
  setRegistry (← ofExcept (r.rebase c bases))

def fixedClass : Fault :=
  .raised .type "__class__ assignment only supported for mutable types or ModuleType subclasses"

/-- The class of a class stays what it is. -/
def assignMeta (c : ClassRef) (x : Value) : Act Unit := do
  let r ← registry
  let isFixed (c : ClassRef) : Bool := Interface.moduleName c = "builtins"
  let maker := r.classOfClass c
  match x with
  | .cls d =>
    if isFixed maker || isFixed d then throw fixedClass
    else if d = maker then return
    else
      throw (.raised .type (s!"__class__ assignment: '{r.className d}' object layout differs " ++
        s!"from '{r.className maker}'"))
  | x => throw (.typed .type "__class__ must be set to a class, not '" x "' object")

def writeClass (c : ClassRef) (name : String) (x : Value) : Act Unit := do
  match c.isModel, name with
  | true, "connection" => configureConnection (.cls c) x
  | true, "collection" => configureCollection (c = .root) (.cls c) x
  | _, _ =>
    let r ← registry
    if Interface.moduleName c = "builtins" then throw (.immutableClass c name)
    if r.classOfClass c = enumeration && (r.ownMember? c name).isSome then
      throw (.raised .member s!"cannot reassign member {Text.quoted name}")
    match name with
    | "__name__" => setRegistry (r.rename c (← ofExcept (newName c name x)))
    | "__qualname__" =>
      match x with
      | .str s => setRegistry (r.renameInFull c s)
      | x => throw (.className c name x)
    | "__bases__" => assignBases c x
    | "__mro__" | "__base__" => throw (.raised .member "readonly attribute")
    | "__dict__" =>
      throw (.raised .member "attribute '__dict__' of 'type' objects is not writable")
    | "__class__" => assignMeta c x
    | _ => setRegistry (r.setMember c name (.value x))

/-- Why an object refuses to be given something new under a name: a schema's instance has fields of
its own and no others, unless the name is a private one, and what runs or is bound has no names. -/
def refusal? (v : Value) (name : String) : Act (Option Fault) := do
  match v with
  | .handle (.promise _) | .handle (.stream _) | .object _ (.bound ..) =>
    return some (v.lacks name)
  | .handle (.state _) =>
    if name = "name" || name = "value" then
      return some (.raised .member s!"<enum 'Enum'> cannot set attribute {Text.quoted name}")
    else return none
  | .handle (.record .schema c i) =>
    if name.startsWith "_" || (← fields i).has (.str name) then return none
    else
      let schema := (← get).className c
      return some (.raised .value ("\"" ++ schema ++ "\" object has no field \"" ++ name ++ "\""))
  | _ => return none

/-- Whether an object can be made one of another class: those that every program has cannot. -/
def isRemade : Handle → Bool
  | .space _ | .journal _ | .shelf _ | .stock _ | .promise _ | .stream _ | .routine .. | .factory _
  | .state _ | .variable _ => false
  | _ => true

/-- Makes an object one of another class; schemas keep to themselves. -/
def assignClass (v x : Value) : Act Unit := do
  let st ← get
  let isSchema (c : ClassRef) : Bool := st.registry.isSubclass c (.known "BaseModel")
  let fixed (c : ClassRef) : Bool := match Interface.moduleName c with
    | "builtins" | "types" | "datetime" => true
    | _ => false
  match v, x with
  | .handle h, .cls c =>
    if !isRemade h || fixed c then throw fixedClass
    else if isSchema c != isSchema (st.classOf v) then
      throw (.raised .type (s!"__class__ assignment: '{st.className c}' object layout differs " ++
        s!"from '{st.typeName v}'"))
    else
      let _ ← refine v c
  | _, .cls _ => throw fixedClass
  | _, x => throw (.typed .type "__class__ must be set to a class, not '" x "' object")

/-- Assigns to a place of an object, or else adds to what was set on it. -/
def assignOwn (v : Value) (name : String) (x : Value) : Act Unit := do
  unless ← assignShared v name x do
    let x := (← get).current x
    unless ← assignPlace v name x do
      match Holder.of? v with
      | some h => setExtra h name x
      | none => throw (v.lacks name)

/-- Gives an object other things to have by itself; its places stay filled. -/
def assignPlaces (v : Value) (h : Holder) (x : Value) : Act Unit := do
  match x with
  | .dict es =>
    modify fun st => { st with extras := st.extras.filter fun e => e.1.1 ≠ h }
    for (k, u) in es do
      if let some name := k.name? then assignOwn v name u
  | x =>
    let type := (← get).typeName x
    throw (.raised .type s!"__dict__ must be set to a dictionary, not a '{type}'")

def writeAttribute (v : Value) (name : String) (x : Value) : Act Unit := do
  match v, name, Holder.of? v with
  | .cls c, _, _ => writeClass c name ((← get).current x)
  | v, "__class__", _ => assignClass v x
  | v, "__dict__", some h => assignPlaces v h ((← get).current x)
  | v, name, _ =>
    if let some e := ← refusal? v name then throw e
    match (← get).member? v name with
    | some (_, .property) => throw (.noSetter v name)
    | _ => assignOwn v name x

/-- Puts back a container that was changed in place: where the object has it, or else where its
class does. -/
def restoreAttribute (v : Value) (name : String) (x : Value) : Act Unit := do
  let st ← get
  let owned ← match v with
    | .cls _ => pure false
    | v => do pure ((st.extraOf? v name).isSome || (← placeOf? v name).isSome)
  match owned, st.member? v name with
  | false, some (c, .value _) => setRegistry ((← registry).setMember c name (.value x))
  | _, _ => writeAttribute v name x

end DocMapper.Act
