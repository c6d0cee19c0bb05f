import DocMapper.Attribute

/-!
Models attached to a connection.  Each is a subclass of its own with the collection of its base, so
that the classes they refine stay as they are.
-/

namespace DocMapper.Act

/-- The collection that a model to be attached names. -/
def collectionOfBase (d : Dispatch) (base : Value) : Act Value :=
  match base with
  | .cls c => readClass c "collection"
  | v => d.read v "collection"

def className (v : Value) : Act String :=
  match v with
  | .str n => pure n
  | .null => throw (.raised .type "type.__new__() argument 1 must be str, not None")
  | v => throw (.typed .type "type.__new__() argument 1 must be str, not " v "")

/-- A subclass with the collection of its base, attached to a connection of its own. -/
def bindModel (d : Dispatch) (base name connection : Value) : Act Value := do
  let collection ← collectionOfBase d base
  match base with
  | .cls c => do
    let place := (← get).moduleOf c
    let bound ← className name
    let (ref, r) ← ofExcept ((← registry).declare bound [c]
      [("__module__", .value place), ("__bound_base__", .value base)])
    setRegistry r
    writeClass ref "connection" connection
    writeClass ref "collection" collection
    note .debug .model fun st =>
      s!"Bound {st.className c} as {bound} (collection '{st.plainText collection}') " ++
        s!"to {st.text connection}"
    return .cls ref
  | v => d.apply .never (.cls ((← get).classOf v)) [name, .tuple [base], .dict []] []

/-- Attaches models one after another, each under its name. -/
def define (d : Dispatch) (i : Nat) : List (Value × Value) → Act Unit
  | [] => return
  | (name, base) :: rest => do
    let self := Value.handle (.connection i)
    let models := (← connection i).models
    let bound ← bindModel d base name self
    writeAttribute models (name.name?.getD "") bound
    noteConnection i .info fun st => s!"Defined model '{st.plainText name}' on {st.text self}"
    define d i rest

end DocMapper.Act
