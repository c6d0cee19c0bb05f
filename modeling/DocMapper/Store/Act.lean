import DocMapper.Store.Copy

/-!
Actions on the store.  An action changes the store and either answers or fails; what it changed
before it failed stays changed.
-/

namespace DocMapper

/-- An action on the store. -/
abbrev Act := ExceptT Fault (StateM Store)

namespace Act

/-- An answer that may be a fault. -/
def ofExcept (r : Except Fault α) : Act α :=
  match r with
  | .ok a => pure a
  | .error e => throw e

def noteIn (log : String) (level : Level) (message : Store → String) : Act Unit :=
  modify fun st =>
    if st.noting then
      { st with notes := st.notes.push { level, log, message := message st } }
    else st

def note (level : Level) (part : Part) (message : Store → String) : Act Unit :=
  noteIn part.log level message

/-- What an object notes itself: in the log that it was given, or else in the one that it was made
to write to. -/
def noteOf (self : Value) (level : Level) (message : Store → String) : Act Unit := do
  let st ← get
  match st.extraOf? self "_logger", st.logOf? self with
  | some (.handle (.logger name)), _ => noteIn name level message
  | some v, _ => throw (v.lacks level.name.toLower)
  | none, some log => noteIn log level message
  | none, none => throw (self.lacks "_logger")

/-- A copy, unless something in the value cannot be copied. -/
def copy (v : Value) : Act Value := do
  let st ← get
  match st.uncopyable? v with
  | some e => throw e
  | none =>
    let (v, st) := st.cloned v
    set st
    return v

def freshIdentity : Act Nat :=
  modifyGet fun st => (st.identities, { st with identities := st.identities + 1 })

/-- A new object with an identity of its own. -/
def made (s : Shape) : Act Value := do
  return .object (some (← freshIdentity)) s

def setExtra (h : Holder) (name : String) (v : Value) : Act Unit :=
  modify fun st =>
    { st with
      extras :=
        if (st.extras.lookup (h, name)).isSome then
          st.extras.map fun e => if e.1 = (h, name) then (e.1, v) else e
        else st.extras ++ [((h, name), v)] }

def dropExtra (h : Holder) (name : String) : Act Unit :=
  modify fun st => { st with extras := st.extras.filter fun e => e.1 ≠ (h, name) }

def query (i : Nat) : Act Query := do
  return (← get).query i

def setQuery (i : Nat) (q : Query) : Act Unit :=
  modify fun st => st.setQuery i q

def newQuery (q : Query) : Act Value :=
  modifyGet fun st =>
    (.handle (.query q.kind st.queries.size), { st with queries := st.queries.push q })

def pipeline (i : Nat) : Act Pipeline := do
  return (← get).pipelines.getD i default

def setPipeline (i : Nat) (p : Pipeline) : Act Unit :=
  modify fun st => { st with pipelines := st.pipelines.setIfInBounds i p }

def newPipeline (p : Pipeline) : Act Value :=
  modifyGet fun st =>
    (.handle (.pipeline p.cls st.pipelines.size), { st with pipelines := st.pipelines.push p })

def newOptions (o : Options) : Act Value :=
  modifyGet fun st => (.handle (.options st.options.size), { st with options := st.options.push o })

def document (i : Nat) : Act Document := do
  return (← get).documents.getD i default

def setDocument (i : Nat) (d : Document) : Act Unit :=
  modify fun st => { st with documents := st.documents.setIfInBounds i d }

def newDocument (d : Document) : Act Value :=
  modifyGet fun st =>
    (.handle (.document d.model st.documents.size), { st with documents := st.documents.push d })

/-- The fields of a record. -/
def fields (i : Nat) : Act Entries := do
  return (← get).records.getD i []

def setFields (i : Nat) (es : Entries) : Act Unit :=
  modify fun st => { st with records := st.records.setIfInBounds i es }

def newRecord (k : RecordKind) (c : ClassRef) (es : Entries) : Act Value :=
  modifyGet fun st =>
    (.handle (.record k c st.records.size), { st with records := st.records.push es })

/-- An object whose handle says of which class it is by itself, as one of the given class. -/
def refine (v : Value) (c : ClassRef) : Act Value := do
  if let .handle h := v then
    modify fun st =>
      let others := st.refined.filter fun e => e.1 ≠ h
      { st with refined := if h.cls = c then others else (h, c) :: others }
  return v

def cursor (i : Nat) : Act Cursor := do
  return (← get).cursors.getD i default

def setCursor (i : Nat) (c : Cursor) : Act Unit :=
  modify fun st => { st with cursors := st.cursors.setIfInBounds i c }

def newCursor (c : Cursor) : Act Value :=
  modifyGet fun st =>
    (.handle (.cursor c.kind st.cursors.size), { st with cursors := st.cursors.push c })

def newIndividual (c : ClassRef) : Act Value :=
  modifyGet fun st =>
    (.handle (.individual c st.individuals), { st with individuals := st.individuals + 1 })

def source (i : Nat) : Act Source := do
  return (← get).sources.getD i default

def setSource (i : Nat) (s : Source) : Act Unit :=
  modify fun st => { st with sources := st.sources.setIfInBounds i s }

def newSource (s : Source) : Act Nat :=
  modifyGet fun st => (st.sources.size, { st with sources := st.sources.push s })

def promise (i : Nat) : Act Promise := do
  return (← get).promises.getD i default

def setPromise (i : Nat) (p : Promise) : Act Unit :=
  modify fun st => { st with promises := st.promises.setIfInBounds i p }

def newPromise (p : Promise) : Act Value :=
  modifyGet fun st =>
    (.handle (.promise st.promises.size), { st with promises := st.promises.push p })

def stream (i : Nat) : Act Stream := do
  return (← get).streams.getD i default

def setStream (i : Nat) (s : Stream) : Act Unit :=
  modify fun st => { st with streams := st.streams.setIfInBounds i s }

def newStream (s : Stream) : Act Value :=
  modifyGet fun st => (.handle (.stream st.streams.size), { st with streams := st.streams.push s })

def space (i : Nat) : Act Entries := do
  return (← get).spaces.getD i []

def setSpace (i : Nat) (es : Entries) : Act Unit :=
  modify fun st => { st with spaces := st.spaces.setIfInBounds i es }

def newSpace (es : Entries) : Act Value :=
  modifyGet fun st => (.handle (.space st.spaces.size), { st with spaces := st.spaces.push es })

def connection (i : Nat) : Act Connection := do
  return (← get).connections.getD i default

def setConnection (i : Nat) (c : Connection) : Act Unit :=
  modify fun st => { st with connections := st.connections.setIfInBounds i c }

def newConnection (c : Connection) : Act Nat :=
  modifyGet fun st => (st.connections.size, { st with connections := st.connections.push c })

def factory (i : Nat) : Act Factory := do
  return (← get).factories.getD i default

def newFactory (f : Factory) : Act Value :=
  modifyGet fun st =>
    (.handle (.factory st.factories.size), { st with factories := st.factories.push f })

def client (i : Nat) : Act Client := do
  return (← get).clients.getD i default

def setClient (i : Nat) (c : Client) : Act Unit :=
  modify fun st => { st with clients := st.clients.setIfInBounds i c }

def newClient (c : Client) : Act Nat :=
  modifyGet fun st => (st.clients.size, { st with clients := st.clients.push c })

def database (i : Nat) : Act Database := do
  return (← get).databases.getD i default

def setDatabase (i : Nat) (d : Database) : Act Unit :=
  modify fun st => { st with databases := st.databases.setIfInBounds i d }

def newDatabase (d : Database) : Act Nat :=
  modifyGet fun st => (st.databases.size, { st with databases := st.databases.push d })

def collection (i : Nat) : Act Collection := do
  return (← get).collections.getD i default

def setCollection (i : Nat) (c : Collection) : Act Unit :=
  modify fun st => { st with collections := st.collections.setIfInBounds i c }

def newCollection (c : Collection) : Act Nat :=
  modifyGet fun st => (st.collections.size, { st with collections := st.collections.push c })

def shelf (i : Nat) : Act Value := do
  return (← get).shelves.getD i (.list [])

def setShelf (i : Nat) (ds : Value) : Act Unit :=
  modify fun st => { st with shelves := st.shelves.setIfInBounds i ds }

def newShelf (ds : Value) : Act Nat :=
  modifyGet fun st => (st.shelves.size, { st with shelves := st.shelves.push ds })

def stock (i : Nat) : Act Entries := do
  return (← get).stocks.getD i []

def setStock (i : Nat) (es : Entries) : Act Unit :=
  modify fun st => { st with stocks := st.stocks.setIfInBounds i es }

def newStock (es : Entries) : Act Nat :=
  modifyGet fun st => (st.stocks.size, { st with stocks := st.stocks.push es })

def journal (i : Nat) : Act (List Value) := do
  return (← get).journals.getD i []

def setJournal (i : Nat) (vs : List Value) : Act Unit :=
  modify fun st => { st with journals := st.journals.setIfInBounds i vs }

def newJournal : Act Nat :=
  modifyGet fun st => (st.journals.size, { st with journals := st.journals.push [] })

def registry : Act Registry := do
  return (← get).registry

def setRegistry (r : Registry) : Act Unit :=
  modify fun st => { st with registry := r }

end Act

end DocMapper
