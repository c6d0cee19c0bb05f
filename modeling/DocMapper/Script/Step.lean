import DocMapper.Method
import DocMapper.Script.Specimen
import DocMapper.Script.State

/-!
The steps of a script and what each does.  A step acts on the store and may bind names; its result
is a value, or the separate outcomes of calls that ran side by side.
-/

namespace DocMapper.Script

inductive Step
  | bind (value : Value)
  | create (cls : String) (args : List Value) (named : Entries)
  | declare (name : String) (bases : List String) (members : List (String × Member))
  | connect (data : Option Value) (factory : Option FactoryKind)
  | cursor (kind : CursorKind) (docs : List Value) (model : Option String) (failure : Option String)
      (promised : Bool)
  | function (name : String) (args : List Value)
  | call (on : List String) (method : String) (args : List Value) (named : Entries)
  | get (on : List String) (name : String)
  | set (on : List String) (name : String) (value : Value)
  | assign (on : List String) (path : List Value) (value : Value)
  | look (on : List String)
  | write (on : List String)
  | wait (on : List String)
  | iterate (on : List String) (limit : Option Nat) (stream : Bool)
  | gather (on : List String) (methods : List String)
  | isInstance (on : List String) (cls : String)
  | fail (on : List String) (method message : String)

inductive Result
  | value (v : Value)
  | outcomes (rs : List (Except Fault Value))

/-- The path of the object that a step is about. -/
def Step.on? : Step → Option (List String)
  | .call on _ _ _ | .get on _ | .set on _ _ | .assign on _ _ | .look on | .write on | .wait on
  | .iterate on _ _ | .gather on _ | .isInstance on _ | .fail on _ _ => some on
  | _ => none

/-- One-character texts, small numbers and what is empty are the same object wherever they occur. -/
def isShared : Value → Bool
  | .bool _ => true
  | .int n => -5 ≤ n && n ≤ 256
  | .str s => s.length = 0 || (s.length = 1 && s.toList.all fun c => c.toNat < 256)
  | .bytes bs => bs.length ≤ 1
  | .tuple [] => true
  | _ => false

/-- Whether an argument is one and the same object as another: by its name, or because all that are
like it are. -/
def isSameArgument (written : List Value) (args : List Value) (i j : Nat) : Bool :=
  let a := args.getD i .null
  let b := args.getD j .null
  let byName :=
    match written.getD i .null, written.getD j .null, a, b with
    | _, _, .handle (.state s), .handle (.state t) => s = t
    | .handle (.variable p), .handle (.variable q), a, _ => p == q && (Holder.of? a).isNone
    | _, _, _, _ => false
  Names.sameObject a b || byName || (isShared a && a.ofClass == b.ofClass && a.equal b)

/-- The functions of the library, on arguments that are written in a way and in order. -/
def callFunction (d : Dispatch) (name : String) (written : List Value) (a : Arguments) :
    Act Value := do
  let what : Act String := do return (← get).plainText (a.at 1)
  match name with
  | "prepare_for_storage" => Act.prepare d (a.at 0)
  | "flatten" => return .list (Value.flatten (← Act.itemsOf (a.at 0)))
  | "check_non_negative_int" =>
    let _ ← Act.ofExcept (Argument.count (← what) (a.at 0))
    return a.at 0
  | "check_mapping" =>
    let _ ← Act.ofExcept (Argument.mapping (← what) (a.at 0))
    return a.at 0
  | "is_operator_document" => return .bool (a.at 0).isOperatorDocument
  | "is_model_class" => return .bool (← Act.givesCollection (a.at 0))
  | "resolve_collection_name" => Act.resolveCollection d (a.at 0) (← what)
  | "database_name_from_url" =>
    return .str (← Act.ofExcept (ConnectionString.databaseNameOf (a.at 0)))
  | "get_config" =>
    let h ← Act.ofExcept (Registry.holderOf (a.at 0))
    let (serial, r) := (← Act.registry).record h
    Act.setRegistry r
    return .handle (.config serial)
  | "clear_config" =>
    Act.setRegistry ((← Act.registry).clear (← Act.ofExcept (Registry.holderOf (a.at 0))))
    return .null
  | "set_connection" =>
    Act.configureConnection (a.at 0) (a.at 1)
    return .null
  | "get_connection" =>
    match a.at 0 with
    | .cls c => Act.classConnection c
    | v => Act.connectionAlong v (← Act.itemsOf (← d.read v "__mro__"))
  | "set_collection_name" =>
    let abstract := Registry.isSet (a.at 2) && isSameArgument written a.values 0 2
    Act.configureCollection abstract (a.at 0) (a.at 1)
    return .null
  | "get_collection_name" => Act.ofExcept ((← Act.registry).collection (a.at 0))
  | _ => Act.bindModel d (a.at 0) (a.at 1) (a.at 2)

/-- The builders that a script can make by their names. -/
def builderNames : List String :=
  ["QueryBuilder", "ModelQuery", "TracingQuery", "AggregateBuilder", "TracingAggregate",
   "QueryOptions"]

/-- A new object of a class of the library, or of a named one. -/
def create (d : Dispatch) (ns : Names) (cls : String) (args : List Value) (named : Entries) :
    Act Value := do
  if cls ∈ builderNames then Act.construct d (.known cls) args named
  else d.apply .ifPending (← ns.resolve d (cls.splitOn ".")) args named

def baseOf (d : Dispatch) (ns : Names) (name : String) : Act ClassRef := do
  match ns.lookup name, name with
  | none, "object" => return .object
  | _, _ =>
    match ← ns.resolve d (name.splitOn ".") with
    | .cls c => return c
    | v => throw (.typed .type "'" v "' is no class")

/-- A connection, on a client over the given data or with a factory of such clients, whose journal
is given too. -/
def openConnection (data : Option Value) (factory : Option FactoryKind) :
    Act (Nat × Option Nat) := do
  let stock ← match data with
    | some (.handle (.stock i)) => pure i
    | data => do Act.newStock (← Act.shelved ((data.bind Value.entries?).getD []))
  let models ← Act.newSpace []
  match factory with
  | some kind =>
    let journal ← Act.newJournal
    let factory ← Act.newFactory { kind, journal, stock }
    return (← Act.newConnection { factory, models }, some journal)
  | none =>
    let client ← Act.newClient { data := .handle (.stock stock) }
    return (← Act.newConnection { client := .handle (.client client), models }, none)

/-- The place of an item that an index stands for, counted from the end if it is negative; `odd` is
said of what is no index, and `beyond` of one that leads nowhere. -/
def placeOf (size : Nat) (k : Value) (odd : Fault) (beyond : String) : Except Fault Nat :=
  match k.whole? with
  | none => .error odd
  | some n =>
    let place := if n < 0 then n + size else n
    if 0 ≤ place ∧ place < size then .ok place.toNat else .error (.raised .index beyond)

def oddIndex (kind : String) (k : Value) : Fault :=
  .typed .type s!"{kind} indices must be integers or slices, not " k ""

/-- The item under an index of a value whose own items cannot be assigned. -/
def itemOf (v k : Value) : Except Fault Value := do
  match v with
  | .tuple xs =>
    let i ← placeOf xs.length k (oddIndex "tuple" k) "tuple index out of range"
    return xs.getD i .null
  | .str s =>
    let odd := Fault.typed .type "string indices must be integers, not '" k "'"
    let i ← placeOf s.length k odd "string index out of range"
    return .str (String.ofList ((s.toList.drop i).take 1))
  | .bytes bs =>
    let i ← placeOf bs.length k (oddIndex "byte" k) "index out of range"
    return .int (bs.getD i 0).toNat
  | v => throw (.notSubscriptable v)

/-- A container with the item at the end of a path assigned. -/
def assigned (v : Value) (path : List Value) (new : Value) : Except Fault Value :=
  match path with
  | [] => .ok new
  | k :: path =>
    let last := path.isEmpty
    let inEntries (es : Entries) : Except Fault Entries := do
      match k.unhashable?, es.get? k with
      | some part, _ => throw (.unhashable part)
      | none, some u => return es.put k (← assigned u path new)
      | none, none => if last then return es.put k new else throw (.noKey k)
    match v with
    | .dict es => do return .dict (← inEntries es)
    | .mapping es => do return .mapping (← inEntries es)
    | .list xs => do
      let beyond := if last then "list assignment index out of range" else "list index out of range"
      let i ← placeOf xs.length k (oddIndex "list" k) beyond
      return .list (xs.set i (← assigned (xs.getD i .null) path new))
    | v =>
      if last then .error (.noItemAssignment v)
      else do
        let item ← assigned (← itemOf v k) path new
        match v with
        | .tuple xs => return .tuple (xs.set (← placeOf xs.length k (oddIndex "tuple" k) "") item)
        | v => return v
termination_by structural path

/-- Assigns inside data that several share: a list put under a name is another shelf, and what is
assigned further down changes the shelf that is there. -/
def assignInStock (i : Nat) (path : List Value) (new : Value) : Act Unit := do
  let es ← Act.stock i
  match path with
  | [k] => do
    Act.checkKey k
    let new ← match new with
      | .list xs => do pure (.handle (.shelf (← Act.newShelf (.list xs))))
      | .handle (.shelf s) => pure (.handle (.shelf s))
      | v => do pure ((← get).current v)
    Act.setStock i (Entries.put es k new)
  | path =>
    match path.head?.bind (Entries.get? es) with
    | some (.handle (.shelf s)) =>
      let new := (← get).current new
      Act.setShelf s (← Act.ofExcept (assigned (← Act.shelf s) path.tail new))
    | _ =>
      match ← Act.ofExcept (assigned (.dict es) path ((← get).current new)) with
      | .dict es => Act.setStock i es
      | _ => return

/-- Puts a change of what a path leads to where the path leads. -/
def change (d : Dispatch) (ns : Names) (on : List String) (v changed : Value) : Act Names := do
  match v with
  | .handle (.stock i) =>
    Act.setStock i (← Act.shelved (changed.entries?.getD []))
    return ns
  | .handle (.shelf i) =>
    Act.setShelf i changed
    return ns
  | .handle (.journal i) =>
    Act.setJournal i (changed.listed?.getD [])
    return ns
  | _ =>
    match on with
    | [name] => return ns.put name changed
    | on =>
      Act.restoreAttribute (← ns.resolve d on.dropLast) (on.getLastD "") changed
      return ns

/-- Assigns inside what a path leads to. -/
def assign (d : Dispatch) (ns : Names) (on : List String) (path : List Value) (new : Value) :
    Act Names := do
  match ← ns.locate d on with
  | .handle (.stock i) =>
    assignInStock i path new
    return ns
  | v =>
    let st ← get
    change d ns on v (← Act.ofExcept (assigned (st.current v) path (st.current new)))

/-- Calls a function of a container, which may change it where it stands. -/
def callInPlace (d : Dispatch) (ns : Names) (on : List String) (v : Value) (name : String)
    (args : List Value) (named : Entries) : Act (Value × Names) := do
  let container ← match v with
    | .handle (.stock i) => pure (.dict (← Act.stock i))
    | v => do pure ((← get).current v)
  let (result, changed) ← Act.callContainer container name args named
  return ((← get).current result, ← change d ns on v changed)

/-- Waits for values side by side, served in the order in which they asked. -/
def gather (d : Dispatch) : List Value → Act (List (Except Fault Value))
  | [] => return []
  | v :: vs => do
    let r ← tryCatch (do return .ok (← Act.awaited d v)) fun e => return .error e
    return r :: (← gather d vs)

/-- Calls methods and waits for what they give, all of which has to be something to wait for. -/
def gatherCalls (d : Dispatch) (target : Value) (methods : List String) :
    Act (List (Except Fault Value)) := do
  let given ← methods.mapM fun m => d.call .never target m [] []
  unless given.all Value.isAwaitable do
    throw (.raised .type "An asyncio.Future, a coroutine or an awaitable is required")
  gather d given

/-- Whether a question of kind holds of any class that it is about, asked in order. -/
def anyKind (refused : Fault) (holds : ClassRef → Bool) : Value → Except Fault Bool
  | .cls c => .ok (holds c)
  | .tuple vs => vs.anyM fun
    | .cls c => .ok (holds c)
    | _ => .error refused
  | _ => .error refused

def isInstance (v kind : Value) : Act Bool := do
  let r ← Act.registry
  match v with
  | .cls c =>
    let refused := "issubclass() arg 2 must be a class, a tuple of classes, or a union"
    Act.ofExcept (anyKind (.raised .type refused) (r.isSubclass c) kind)
  | v =>
    let refused := "isinstance() arg 2 must be a type, a tuple of types, or a union"
    Act.ofExcept (anyKind (.raised .type refused) (r.isSubclass ((← get).classOf v)) kind)

/-- The members that every declared class has of its own. -/
def withModule (members : List (String × Member)) : List (String × Member) :=
  ("__module__", .value (.str "app")) :: members

/-- Takes a step, under the names bound so far. -/
def perform (ns : Names) (step : Step) : Act (Result × Names) := do
  let d := ns.dispatch
  let same (v : Value) : Act (Result × Names) := return (.value v, ns)
  let on (path : List String) : Act Value := ns.resolve d path
  match step with
  | .bind v => same (← ns.completeShared d v)
  | .create cls args named =>
    let args ← ns.completeItems d args
    let named := Entries.ofPairs (← ns.completeEntries d named)
    same (← create d ns cls args named)
  | .declare name bases members =>
    let bases ← bases.mapM (baseOf d ns)
    let (c, r) ← Act.ofExcept ((← Act.registry).declare name bases (withModule members))
    Act.setRegistry r
    same (.cls c)
  | .connect data factory =>
    let data ← data.mapM (ns.completeShared d)
    let (i, journal) ← openConnection data factory
    let ns := match journal with
      | some j => ns.put "factory_calls" (.handle (.journal j))
      | none => ns
    return (.value (.handle (.connection i)), ns)
  | .cursor kind docs model failure promised =>
    let docs ← ns.completeItems d docs
    let model ← match model with
      | some name => on (name.splitOn ".")
      | none => pure .null
    let error ← match failure with
      | some m => Act.made (.raised (.known FaultKind.operation.name) m)
      | none => pure .null
    let failure := failure.map Fault.refused
    let s ← Act.newSource { pending := ← Act.copies docs, failure, error }
    let source ← if promised then Act.newPromise { promised := .source s }
      else pure (.handle (.source s))
    same (← Act.startCursor d kind model source)
  | .function name args =>
    let given ← ns.completeItems d args
    let a ← Act.ofExcept ((Interface.function name).bind given [])
    same (← callFunction d name args a)
  | .call path method args named =>
    let located ← ns.locate d path
    let target := (← get).current located
    let args ← ns.completeItems d args
    let named := Entries.ofPairs (← ns.completeEntries d named)
    if Container.offers target method then
      let (v, ns) ← callInPlace d ns path located method args named
      return (.value v, ns)
    match ← d.call .ifPending target method args named with
    | .handle (.promise p) => same (← Act.keepPromise d p)
    | v => same v
  | .get path name => same (← d.read (← on path) name)
  | .set path name v =>
    let target ← on path
    let v ← ns.completeShared d v
    Act.writeAttribute target name v
    same .null
  | .assign path keys v =>
    let keys ← ns.completeItems d keys
    let v ← ns.completeShared d v
    return (.value .null, ← assign d ns path keys v)
  | .look path =>
    let _ ← on path
    same .null
  | .write path =>
    let v ← on path
    same (.str ((← get).text v))
  | .wait path => same (← Act.wait d (← on path))
  | .iterate path limit stream =>
    let v ← on path
    let source ← if stream then d.call .never v "stream" [] [] else pure v
    same (← Act.iterate d source limit)
  | .gather path methods => return (.outcomes (← gatherCalls d (← on path) methods), ns)
  | .isInstance path cls =>
    let v ← on path
    same (.bool (← isInstance v (← on (cls.splitOn "."))))
  | .fail path method message =>
    Act.writeAttribute (← on path) method (← Act.made (.refusing message))
    same .null

end DocMapper.Script
