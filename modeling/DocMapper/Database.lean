import DocMapper.Criteria.Matching
import DocMapper.Store.Member

/-!
The database behind the library: clients with shelves of documents, databases that hand out handles,
and the calls that a handle answers.  A handle records each call before it answers it; searches give
copies, and a document that is stored is a copy too.
-/

namespace DocMapper

/-- The items from a place on; a negative place is counted from the end. -/
def itemsFrom (n : Int) (xs : List α) : List α :=
  if 0 ≤ n then xs.drop n.toNat else xs.drop (xs.length - (-n).toNat)

/-- The items before a place; a negative place is counted from the end. -/
def itemsBefore (n : Int) (xs : List α) : List α :=
  if 0 ≤ n then xs.take n.toNat else xs.take (xs.length - (-n).toNat)

/-- The part of a list that the arguments `skip` and `limit` leave; zero and null leave all. -/
def window (args : Entries) (xs : List α) : Except Fault (List α) := do
  let bound (name : String) : Except Fault Int :=
    match args.field? name with
    | none => .ok 0
    | some v =>
      if v.truthy then
        match v.whole? with
        | some n => .ok n
        | none => .error .sliceBound
      else .ok 0
  let xs := itemsFrom (← bound "skip") xs
  let limit ← bound "limit"
  return if limit = 0 then xs else itemsBefore limit xs

/-- Generated ids count from one. -/
def generatedId (n : Nat) : Value :=
  .objectId (String.ofList (Text.hexDigits 24 n))

/-- A list of values with one more; nothing else can be added to. -/
def appended (v item : Value) : Except Fault Value :=
  match v with
  | .list xs => .ok (.list (xs ++ [item]))
  | v => .error (v.lacks "append")

namespace Act

def changeCollection (i : Nat) (f : Collection → Collection) : Act Unit := do
  setCollection i (f (← collection i))

/-- A value that can be looked up. -/
def checkKey (v : Value) : Act Unit :=
  match v.unhashable? with
  | some u => throw (.unhashable u)
  | none => pure ()

/-- A database of a client, the same one for the same name. -/
def databaseOf (c : Nat) (name : Value) : Act Value := do
  let k ← client c
  let known ← isIn name k.databases
  match k.databases.entries?, known with
  | some es, true => return (Entries.get? es name).getD .null
  | some es, false => do
    let d := Value.handle (.database (← newDatabase { name, data := k.data }))
    let es := Entries.put es name d
    setClient c { k with
      databases := match k.databases with
        | .mapping _ => .mapping es
        | _ => .dict es }
    return d
  | none, true => throw (.notSubscriptable k.databases)
  | none, false => throw (.noItemAssignment k.databases)

/-- The shelf that stands under a name, an empty one if there was none.  Null under a name is no
shelf: whoever asks gets an empty one of its own. -/
def shelfOf (s : Nat) (name : Value) : Act Nat := do
  checkKey name
  let es ← stock s
  match Entries.get? es name with
  | some (.handle (.shelf i)) => return i
  | some .null => newShelf (.list [])
  | found => do
    let i ← newShelf (found.getD (.list []))
    setStock s (Entries.put es name (.handle (.shelf i)))
    return i

/-- Entries with a shelf in the place of every list. -/
def shelved : List (Value × Value) → Act Entries
  | [] => return []
  | (k, .list xs) :: es => do
    let s ← newShelf (.list xs)
    return (k, .handle (.shelf s)) :: (← shelved es)
  | e :: es => return e :: (← shelved es)

/-- What clients and databases keep their data in: a stock if it is a mapping. -/
def stocked (v : Value) : Act Value := do
  match v.entries? with
  | some es => return .handle (.stock (← newStock (← shelved es)))
  | none => return v

/-- The shelf that a list of documents stands on, a new one unless it stands on one already. -/
def shelfHolding (v : Value) : Act Nat :=
  match v with
  | .handle (.shelf i) => pure i
  | v => newShelf v

/-- A new handle; the database remembers that it was asked. -/
def newHandle (d : Nat) (name : Value) : Act Nat := do
  let db ← database d
  setDatabase d { db with requests := ← ofExcept (appended db.requests name) }
  match db.data with
  | .handle (.stock s) => newCollection { name, shelf := ← shelfOf s name }
  | v => throw (v.noMapping "setdefault" [name, .list []])

def recordCall (i : Nat) (method : String) (args : List Value) : Act Unit := do
  let calls ← ofExcept (appended (← collection i).calls (.tuple (.str method :: args)))
  changeCollection i fun c => { c with calls }

/-- The stored documents of a handle that satisfy a filter. -/
def matching (i : Nat) (filter : Value) : Act (List Value) := do
  let ds ← itemsOf (← shelf (← collection i).shelf)
  let st ← get
  let seen := ds.map fun d => (st.comparable d, d)
  let found ← ofExcept (Criteria.selectBy Prod.fst (st.comparable filter) seen)
  return found.map Prod.snd

/-- Copies of documents, each of them a copy of its own. -/
def copies (ds : List Value) : Act (List Value) :=
  ds.mapM copy

/-- A source of copies. -/
def sourceOf (ds : List Value) : Act Value := do
  return .handle (.source (← newSource { pending := ← copies ds }))

def find (i : Nat) (filter : Value) (args : Entries) : Act Value := do
  recordCall i "find" [filter, .dict args]
  sourceOf (← ofExcept (window args (← matching i filter)))

/-- A pipeline is not run: the handle gives the results it was prepared with. -/
def aggregate (i : Nat) (stages : Value) (args : Entries) : Act Value := do
  recordCall i "aggregate" [stages, .dict args]
  sourceOf (← itemsOf (← collection i).results)

def countDocuments (i : Nat) (filter : Value) (args : Entries) : Act Nat := do
  recordCall i "count_documents" [filter, .dict args]
  return (← ofExcept (window args (← matching i filter))).length

/-- Stores a copy and gives its id, generated if it had none.  An id is used up either way. -/
def insertOne (i : Nat) (document : Value) : Act Value := do
  recordCall i "insert_one" [document]
  let copied ← copy document
  match copied.entries? with
  | none => throw (document.noMapping "setdefault" [.str "_id"])
  | some es =>
    let fresh ← modifyGet fun st =>
      (generatedId (st.generated + 1), { st with generated := st.generated + 1 })
    let key := (es.field? "_id").getD fresh
    let stored := if es.has (.str "_id") then es else es ++ [(.str "_id", fresh)]
    let s := (← collection i).shelf
    let stored := match copied with
      | .mapping _ => Value.mapping stored
      | _ => .dict stored
    setShelf s (← ofExcept (appended (← shelf s) stored))
    return key

/-- What an update sets; an update that sets nothing is one. -/
def changesIn (update : Value) : Except Fault Value :=
  match update.entries? with
  | some es => .ok ((es.field? "$set").getD (.dict []))
  | none => .error (update.noMapping "get" [.str "$set"])

/-- A document with what an update sets, as `walk` shows it, up to the first change that cannot be
made. -/
def updated (walk : Value → Value) (document update : Value) :
    Except Fault (Value × Option Fault) :=
  match document with
  | .dict es => do
    let (es, fault) := Value.putInto Value.pairAt es (walk (← changesIn update))
    return (.dict es, fault)
  | .mapping es => do
    let (es, fault) := Value.putInto (fun _ => Value.unpacked) es (walk (← changesIn update))
    return (.mapping es, fault)
  | v => .error (v.lacks "update")

/-- Documents with another one in a place. -/
def replaced (documents : Value) (place : Nat) (document : Value) : Value :=
  match documents with
  | .list ds => .list (ds.set place document)
  | .tuple ds => .tuple (ds.set place document)
  | v => v

/-- Updates the first document that satisfies a filter; whether there is one. -/
def updateOne (i : Nat) (filter update : Value) : Act Bool := do
  recordCall i "update_one" [filter, update]
  let s := (← collection i).shelf
  let documents ← shelf s
  let ds ← itemsOf documents
  let st ← get
  let filter := st.comparable filter
  match ← ofExcept (ds.zipIdx.findM? fun d => Criteria.holds (st.comparable d.1) filter) with
  | none => return false
  | some (document, place) =>
    let (document, fault) ← ofExcept (updated st.walkedTwice document update)
    setShelf s (replaced documents place document)
    match fault with
    | some e => throw e
    | none => return true

end Act

end DocMapper
