import DocMapper.Cursor
import DocMapper.Pipeline.Stage
import DocMapper.Query.Basic
import DocMapper.Registry
import DocMapper.Value.Rebuild

/-!
The store that calls act on: everything that has a slot, the registry of classes, and what was noted
along the way.  A value holds handles into the store; `Store.contents` shows what one leads to.
-/

namespace DocMapper

/-- A model instance, or what is to become one. -/
structure Document where
  model : ClassRef
  fields : Value
  isNew : Value
  deriving Inhabited

/-- How a factory answers: with a client, with the promise of one, or not at all. -/
inductive FactoryKind
  | direct
  | promised
  | failing
  deriving DecidableEq, Inhabited

/-- A function that makes clients over the same stock, and writes down in a journal what it is
asked. -/
structure Factory where
  kind : FactoryKind
  journal : Nat
  stock : Nat
  deriving Inhabited

/-- A connection keeps the collection handles it has handed out, by name, and a space of the models
defined on it.  If it was not given a client, its factory makes one.  What it does itself it notes
in a log that is named for its class. -/
structure Connection where
  log : String := "async_odm.db_implementations.mongodb_connection.Connection"
  client : Value := .null
  factory : Value := Interface.defaultFactory
  database : Value := .null
  handles : Value := .dict []
  models : Value := .null
  deriving Inhabited

/-- The databases of a client share its data, a stock as a rule. -/
structure Client where
  data : Value
  databases : Value := .dict []
  closed : Value := .bool false
  deriving Inhabited

structure Database where
  name : Value
  data : Value
  requests : Value := .list []
  deriving Inhabited

/-- A handle on the documents of one shelf, with a record of the calls made through it. -/
structure Collection where
  name : Value
  shelf : Nat
  results : Value := .list []
  calls : Value := .list []
  deriving Inhabited

/-- What a promise is of: a source that is there already, or a call that is still to be made. -/
inductive Promised
  | source (slot : Nat)
  | call (function : Value) (args : List Value) (named : Entries)
  deriving Inhabited

/-- A promise is waited for at most once. -/
structure Promise where
  promised : Promised
  spent : Bool := false
  deriving Inhabited

/-- The items of a cursor one by one, until there are none. -/
structure Stream where
  cursor : Value
  done : Bool := false
  deriving Inhabited

/-- The parts of the library that note what they do. -/
inductive Part
  | query
  | aggregate
  | cursor
  | registry
  | model
  | storedForm
  deriving DecidableEq, Inhabited

/-- The log that a part writes to. -/
def Part.log : Part → String
  | query => "async_odm.base.query"
  | aggregate => "async_odm.base.aggregate"
  | cursor => "async_odm.base.cursor"
  | registry => "async_odm.base.registry"
  | model => "async_odm.base.model"
  | storedForm => "async_odm.base.utils"

structure Note where
  level : Level
  log : String
  message : String
  deriving DecidableEq, Inhabited

/-- What a function was given: the builder, what it was bound to, its type, the name of its model, and
how far it was built. -/
structure Sighting where
  builder : Value
  bound : Value
  type : String
  model : Value
  size : Nat
  deriving Inhabited

/-- What was set on an object by name stands in `extras`, unless the object has a place for it.  An
object of a declared class is `refined` if its handle does not say so.  A shelf holds one list of
documents; a stock says what stands under which name, shelves mostly. -/
structure Store where
  noting : Bool := true
  notes : Array Note := #[]
  sightings : Array Sighting := #[]
  registry : Registry := .initial
  extras : List ((Holder × String) × Value) := []
  refined : List (Handle × ClassRef) := []
  queries : Array Query := #[]
  pipelines : Array Pipeline := #[]
  options : Array Options := #[]
  documents : Array Document := #[]
  individuals : Nat := 0
  records : Array Entries := #[]
  cursors : Array Cursor := #[]
  sources : Array Source := #[]
  promises : Array Promise := #[]
  streams : Array Stream := #[]
  connections : Array Connection := #[]
  factories : Array Factory := #[]
  spaces : Array Entries := #[]
  clients : Array Client := #[]
  databases : Array Database := #[]
  collections : Array Collection := #[]
  shelves : Array Value := #[]
  stocks : Array Entries := #[]
  journals : Array (List Value) := #[]
  generated : Nat := 0
  identities : Nat := 0
  deriving Inhabited

namespace Store

/-- The class of a value as it is by now. -/
def classOf (st : Store) (v : Value) : ClassRef :=
  match v with
  | .cls c => st.registry.classOfClass c
  | .handle h => (st.refined.lookup h).getD h.cls
  | v => v.ofClass

/-- What was set on an object under a name; a class keeps its members elsewhere. -/
def extraOf? (st : Store) (v : Value) (name : String) : Option Value :=
  match v with
  | .cls _ => none
  | v => (Holder.of? v).bind fun h => st.extras.lookup (h, name)

/-- The log that an object was made to write to, if it is one that writes. -/
def logOf? (st : Store) (v : Value) : Option String :=
  match v with
  | .handle (.query ..) => some Part.query.log
  | .handle (.pipeline ..) => some Part.aggregate.log
  | .handle (.connection i) => some (st.connections.getD i default).log
  | _ => none

/-- A query with the options that it holds by now. -/
def query (st : Store) (i : Nat) : Query :=
  let q := st.queries.getD i default
  match q.held with
  | .handle (.options j) => { q with options := st.options.getD j default }
  | .handle (.queryOptions j) => { q with options := (st.queries.getD j default).options }
  | _ => q

/-- A query changed together with the options that it holds. -/
def setQuery (st : Store) (i : Nat) (q : Query) : Store :=
  let st := { st with queries := st.queries.setIfInBounds i q }
  match q.held with
  | .handle (.options j) => { st with options := st.options.setIfInBounds j q.options }
  | .handle (.queryOptions j) =>
    { st with queries := st.queries.modify j fun r => { r with options := q.options } }
  | _ => st

/-- The options of a query: its own, unless it was given others to hold. -/
def optionsHeld (st : Store) (i : Nat) : Value :=
  match (st.queries.getD i default).held with
  | .null => .handle (.queryOptions i)
  | v => v

/-- The options that a handle leads to. -/
def optionsAt? (st : Store) : Handle → Option Options
  | .options i => st.options[i]?
  | .queryOptions i => st.queries[i]?.map Query.options
  | _ => none

/-- The options that a value is. -/
def optionsIn? (st : Store) (v : Value) : Option Options :=
  match v with
  | .handle h => st.optionsAt? h
  | _ => none

def setOptionsAt (st : Store) (o : Options) : Handle → Store
  | .options i => { st with options := st.options.setIfInBounds i o }
  | .queryOptions i => { st with queries := st.queries.modify i fun q => { q with options := o } }
  | _ => st

/-- What a handle leads to, as far as it can be looked into; the value holds handles again. -/
def contents (st : Store) : Handle → Option Value
  | .options i => (st.optionsAt? (.options i)).map fun o => .object none (.options o)
  | .queryOptions i => (st.optionsAt? (.queryOptions i)).map fun o => .object none (.options o)
  | .document c i => st.documents[i]?.map fun d => .object none (.document c d.fields d.isNew)
  | .record k c i => st.records[i]?.map fun es => .object none (.record k c es)
  | .space i => st.spaces[i]?.map fun es => .object none (.namespaced es)
  | .journal i => st.journals[i]?.map .list
  | .shelf i => st.shelves[i]?
  | .stock i => st.stocks[i]?.map .dict
  | .config serial =>
    (st.registry.recordWith? serial).map fun c => .object none (.config c.connection c.collection)
  | _ => none

/-- How many objects there are. -/
def population (st : Store) : Nat :=
  2 * st.queries.size + st.pipelines.size + st.options.size + st.documents.size +
    st.individuals + st.records.size + st.cursors.size + st.sources.size + st.promises.size +
    st.streams.size + st.connections.size + st.factories.size + st.spaces.size + st.clients.size +
    st.databases.size + st.collections.size + st.shelves.size + st.stocks.size +
    st.journals.size + st.registry.serials + st.identities

/-- A value with the objects that are compared by what shows of them opened, except inside of
themselves; `seen` are the handles that lead here. -/
def opened (st : Store) : (depth : Nat) → (seen : List Handle) → Value → Value
  | 0, _, v => v
  | n + 1, seen, v =>
    v.rebuild (fun
      | .handle h =>
        some (if h.isComparable && !seen.contains h then
          (st.contents h).elim (.handle h) (st.opened n (h :: seen))
        else .handle h)
      | _ => none) id true

/-- A value as comparisons see it. -/
def comparable (st : Store) (v : Value) : Value :=
  st.opened (st.population + 1) [] v

/-- A list or a mapping that several share, as it is now. -/
def current (st : Store) (v : Value) : Value :=
  match v with
  | .handle (.journal i) => .list (st.journals.getD i [])
  | .handle (.shelf i) => st.shelves.getD i (.list [])
  | .handle (.stock i) =>
    .dict ((st.stocks.getD i []).map fun e =>
      match e.2 with
      | .handle (.shelf s) => (e.1, st.shelves.getD s (.list []))
      | u => (e.1, u))
  | v => v

/-- What gives items, as the items that it gives now: a schema's instance gives its fields. -/
def walked (st : Store) (v : Value) : Value :=
  match st.current v with
  | .handle (.record .schema c i) => .object none (.record .schema c (st.records.getD i []))
  | v => v

/-- What gives pairs, and the pairs themselves, as the items that they give now. -/
def walkedTwice (st : Store) (v : Value) : Value :=
  match st.walked v with
  | .list xs => .list (xs.map st.walked)
  | .tuple xs => .tuple (xs.map st.walked)
  | v => v

end Store

end DocMapper
