import DocMapper.ConnectionString
import DocMapper.Database

/-!
Connections, and the configuration of classes with the notes that it leaves.  A connection selects
the database that its connection string names and hands out one handle per collection name.
-/

namespace DocMapper.Act

/-- Whatever can carry a configuration is given a connection, a class as a rule. -/
def configureConnection (target v : Value) : Act Unit := do
  let st ← get
  setRegistry (← ofExcept (st.registry.setConnection target v (st.classOf v)))
  note .debug .registry fun st => s!"Connection {st.text v} configured on {st.label target}"

def classConnection (c : ClassRef) : Act Value := do
  match (← registry).connection c with
  | .ok v => return v
  | .error e =>
    note .warning .registry fun st =>
      s!"Connection lookup failed for {st.label (.cls c)}: none configured on it or its bases"
    throw e

/-- The first connection configured along the values that something says it refines. -/
def connectionAlong (target : Value) : List Value → Act Value
  | [] => do
    note .warning .registry fun st =>
      s!"Connection lookup failed for {st.label target}: none configured on it or its bases"
    throw (.noConnection target)
  | v :: vs => do
    let h ← ofExcept (Registry.holderOf v)
    match (((← registry).config? h).map Config.connection).filter Registry.isSet with
    | some connection => return connection
    | none => connectionAlong target vs

def configureCollection (abstract : Bool) (target v : Value) : Act Unit := do
  setRegistry (← ofExcept ((← registry).setCollection abstract target v))
  note .debug .registry fun st =>
    s!"Collection '{st.plainText v}' configured on {st.label target}"

/-- What a connection notes itself. -/
def noteConnection (i : Nat) (level : Level) (message : Store → String) : Act Unit := do
  noteOf (.handle (.connection i)) level message

/-- A client made by a factory, which writes down what it is asked first. -/
def runFactory (i : Nat) (url : Value) (options : Entries) : Act Value := do
  let f ← factory i
  setJournal f.journal ((← journal f.journal) ++ [.tuple [url, .dict options]])
  match f.kind with
  | .failing => throw (.refused "cannot reach server")
  | _ => return .handle (.client (← newClient { data := .handle (.stock f.stock) }))

/-- A client made by whatever a connection has for its factory. -/
def makeClient (d : Dispatch) (i : Nat) (url : Value) (options : Entries) : Act Value := do
  match (← connection i).factory with
  | .handle (.factory k) => runFactory k url options
  | f => awaited d (← d.apply .never f [url] options)

/-- Selects the database that `url` names; the client is made first if there is none. -/
def connect (d : Dispatch) (i : Nat) (url : Value) (options : Entries) : Act Unit := do
  let name ← ofExcept (ConnectionString.databaseNameOf url)
  let c ← connection i
  let k ← match c.client with
    | .null => do
      let k ← makeClient d i url options
      setConnection i { (← connection i) with client := k }
      noteConnection i .info fun _ => s!"Created client for database '{name}'"
      pure k
    | k => pure k
  let direct : Act Value :=
    match k with
    | .handle (.client k) => databaseOf k (.str name)
    | k => throw (k.lacks "get_database")
  let database ← callOr d .never k (.known "MockClient") "get_database" [.str name] [] direct
  setConnection i { (← connection i) with database }
  noteConnection i .info fun _ => s!"Connected to database '{name}'"

/-- The handle kept under a name; null counts as none. -/
def keptHandle (handles name : Value) : Except Fault (Option Value) :=
  match handles.entries?, name.unhashable? with
  | none, _ => .error (handles.noMapping "get" [name])
  | _, some u => .error (.unhashable u)
  | some es, none => .ok ((es.get? name).filter Registry.isSet)

def keepHandle (handles name handle : Value) : Except Fault Value :=
  match handles with
  | .dict es => .ok (.dict (Entries.put es name handle))
  | .mapping es => .ok (.mapping (Entries.put es name handle))
  | v => .error (.noItemAssignment v)

/-- The handle of a collection: the one handed out before under this name, or a new one. -/
def handleOf (d : Dispatch) (i : Nat) (name : Value) : Act Value := do
  match (← connection i).database with
  | .null =>
    noteConnection i .warning fun st =>
      s!"Collection '{st.plainText name}' requested before connect()"
    throw .notConnected
  | database =>
    match ← ofExcept (keptHandle (← connection i).handles name) with
    | some h => return h
    | none =>
      let direct : Act Value :=
        match database with
        | .handle (.database k) => do return .handle (.collection (← newHandle k name))
        | v => throw (v.lacks "get_collection")
      let h ← callOr d .never database (.known "MockDatabase") "get_collection" [name] [] direct
      let c ← connection i
      setConnection i { c with handles := ← ofExcept (keepHandle c.handles name h) }
      noteConnection i .debug fun st => s!"Cached collection handle for '{st.plainText name}'"
      return h

def closeClient (k : Nat) : Act Unit := do
  setClient k { (← client k) with closed := .bool true }

def close (d : Dispatch) (i : Nat) : Act Unit := do
  match (← connection i).client with
  | .null => return
  | k =>
    let direct : Act Value :=
      match k with
      | .handle (.client k) => do
        closeClient k
        return .null
      | v => throw (v.lacks "close")
    let _ ← callOr d .never k (.known "MockClient") "close" [] [] direct
    noteConnection i .info fun _ => "Client closed"

end DocMapper.Act
