import DocMapper.Schema
import DocMapper.Store.Member
import DocMapper.StoredForm

/-!
The stored form of objects.  A struct is stored as a dictionary of copies of its fields; any other
object, and a class, as what its dump by aliases is stored as, or else its conversion to plain data.
A dump by aliases that fails by a fault of type, or is made of what does, gives way to the dump by
names.  Whoever offers neither is stored as it is.
-/

namespace DocMapper

namespace Store

/-- The dump of an object inside of a schema's instance; `seen` are the objects around it. -/
def dump (st : Store) (byAlias : Bool) :
    (depth : Nat) → (seen : List Handle) → Handle → Except Fault Value
  | 0, _, h => .ok (.handle h)
  | n + 1, seen, h => do
    if seen.contains h then throw (.raised .value "Circular reference detected (id repeated)")
    let inner := st.dump byAlias n (h :: seen)
    match st.contents h with
    | some (.object _ (.record .schema c es)) => Schema.dumpedFields inner byAlias c es
    | some (.object _ (.record .struct _ es)) => return .dict (← Schema.dumpedEntries inner es)
    | some (.object _ (.options o)) => return .dict (← Schema.dumpedEntries inner o.entries)
    | some (.object _ (.config a b)) =>
      return .dict (← Schema.dumpedEntries inner
        [(.str "connection", a), (.str "collection", b)])
    | _ => return .handle h

/-- The dump of a schema's instance. -/
def dumpOf (st : Store) (byAlias : Bool) (h : Handle) : Except Fault Value :=
  st.dump byAlias (st.population + 1) [] h

end Store

namespace Act

/-- The fields of a struct. -/
def structFields? (v : Value) : Act (Option Entries) := do
  match v with
  | .handle (.record .struct _ i) => return some (← fields i)
  | .handle (.config serial) =>
    let c := ((← registry).recordWith? serial).getD { serial }
    return some [(.str "connection", c.connection), (.str "collection", c.collection)]
  | .handle h => return ((← get).optionsAt? h).map Options.entries
  | _ => return none

/-- A struct as a dictionary, and so are the structs inside of it; everything else is copied. -/
def asEntries : (depth : Nat) → Value → Act Value
  | 0, _ => throw tooDeep
  | n + 1, v => v.takenOut fun u => do
    match ← structFields? u with
    | some es => return .dict (← Value.takenOutEntries (asEntries n) es)
    | none => copy u

/-- What an object is converted to by the function under a name, as `store` stores it. -/
def converted (d : Dispatch) (store : Value → Act Value) (v : Value) (name : String)
    (named : Entries) : Act Value := do
  store (← d.call .never v name [] named)

/-- The stored form of an object that can dump itself. -/
def storeDump (d : Dispatch) (store : Value → Act Value) (v : Value) : Act Value :=
  tryCatch (converted d store v "model_dump" [(.str "by_alias", .bool true)]) fun e => do
    if e.kind.isType then
      note .debug .storedForm fun st =>
        s!"model_dump(by_alias=True) failed, retrying without alias: {st.message e}"
      converted d store v "model_dump" []
    else throw e

/-- The stored form of an object that can convert itself; an instance of a model is converted to the
stored form of its fields. -/
def storeJson (d : Dispatch) (store : Value → Act Value) (v : Value) : Act Value := do
  let direct : Act Value := do
    match v with
    | .handle (.document _ i) => store (← store (← document i).fields)
    | v => converted d store v "to_json" []
  if (← get).usual v .root "to_json" then direct else converted d store v "to_json" []

/-- The stored form of an object or a class. -/
def storeObject (d : Dispatch) (store : Value → Act Value) (v : Value) : Act Value := do
  if ← offersCall d v "model_dump" then storeDump d store v
  else if ← offersCall d v "to_json" then storeJson d store v
  else
    match v with
    | .handle (.journal _) | .handle (.shelf _) | .handle (.stock _) => store ((← get).current v)
    | v => return v

def prepareTo (d : Dispatch) : (depth : Nat) → Value → Act Value
  | 0, _ => throw tooDeep
  | n + 1, v => v.stored fun u => do
    match ← structFields? u with
    | some _ => prepareTo d n (← asEntries deepest u)
    | none => storeObject d (prepareTo d n) u

/-- The stored form of a value as it is now, with a note of every dump that was given up. -/
def prepare (d : Dispatch) (v : Value) : Act Value :=
  prepareTo d deepest v

end Act

end DocMapper
