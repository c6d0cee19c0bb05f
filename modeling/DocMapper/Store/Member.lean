import DocMapper.Store.Act
import DocMapper.Store.Text

/-!
Members of objects.  What was set on an object hides what its class offers, except for what is read
off each instance.  A call inside the library goes straight to the function that the library has
under a name as long as nothing hides it; otherwise it goes through a `Dispatch`, which reads the
member and applies it.
-/

namespace DocMapper

/-- Whether whoever calls waits for what it is given: never, if there is something to be waited for,
or always, so that there has to be. -/
inductive Waiting
  | never
  | ifPending
  | always
  deriving DecidableEq, Inhabited

/-- How members are read and applied, and how values are waited for. -/
structure Dispatch where
  read : Value → String → Act Value
  apply : Waiting → Value → List Value → Entries → Act Value
  await : Value → Act Value

/-- Reads a member and applies it. -/
def Dispatch.call (d : Dispatch) (waiting : Waiting) (target : Value) (name : String)
    (args : List Value) (named : Entries) : Act Value := do
  d.apply waiting (← d.read target name) args named

namespace Store

/-- What the class of an object, or a class itself, has under a name. -/
def member? (st : Store) (v : Value) (name : String) : Option (ClassRef × Member) :=
  match v with
  | .cls c => st.registry.member? c name
  | v => st.registry.member? (st.classOf v) name

/-- Whether a name reaches the function that a class of the library has under it. -/
def usual (st : Store) (v : Value) (owner : ClassRef) (name : String) : Bool :=
  (st.extraOf? v name).isNone &&
    match st.member? v name with
    | some (c, .method _) => c = owner
    | some (c, .ofClass _) => c = owner
    | some (c, .property) => c = owner
    | _ => false

/-- Whether a name leads to anything that is no place of the object's own. -/
def offers (st : Store) (v : Value) (name : String) : Bool :=
  (st.extraOf? v name).isSome || (st.member? v name).isSome ||
    match v with
    | .handle (.space i) => Entries.has (st.spaces.getD i []) (.str name)
    | _ => false

end Store

/-- Whether a value can be called at all. -/
def Value.isCallable : Value → Bool
  | .cls _ => true
  | .handle (.routine ..) => true
  | .handle (.factory _) => true
  | .object _ (.function ..) => true
  | .object _ (.bound ..) => true
  | .object _ (.refusing _) => true
  | _ => false

/-- Whether a value can be waited for. -/
def Value.isAwaitable : Value → Bool
  | .handle (.promise _) => true
  | .handle (.query k _) => k.bindable
  | .handle (.pipeline ..) => true
  | .handle (.cursor ..) => true
  | _ => false

namespace Act

/-- How deep calls may lead into one another. -/
def deepest : Nat := 1000

def tooDeep : Fault := .raised .recursion "maximum recursion depth exceeded"

/-- A call that goes straight to the library's own function if it is the one under the name. -/
def callOr (d : Dispatch) (waiting : Waiting) (target : Value) (owner : ClassRef) (name : String)
    (args : List Value) (named : Entries) (direct : Act Value) : Act Value := do
  if (← get).usual target owner name then direct else d.call waiting target name args named

/-- What a name leads to, if it leads anywhere. -/
def offered? (d : Dispatch) (v : Value) (name : String) : Act (Option Value) := do
  if (← get).offers v name then
    tryCatch (do return some (← d.read v name)) fun e =>
      if e.kind = .member then return none else throw e
  else return none

/-- Whether a name leads to something that can be called. -/
def offersCall (d : Dispatch) (v : Value) (name : String) : Act Bool := do
  return ((← offered? d v name).map Value.isCallable).getD false

/-- How a function fails that has to find something under a name, but nothing of the kind that it
can go on with. -/
def lacking (d : Dispatch) (v : Value) (name : String) : Act Value := do
  let _ ← d.read v name
  throw (v.lacks name)

/-- A promise can be kept once. -/
def spend (p : Nat) : Act Promised := do
  let promise ← promise p
  if promise.spent then throw (.raised .runtime "cannot reuse already awaited coroutine")
  setPromise p { promise with spent := true }
  return promise.promised

/-- What was promised. -/
def keepPromise (d : Dispatch) (p : Nat) : Act Value := do
  match ← spend p with
  | .source s => return .handle (.source s)
  | .call f args named => d.apply .always f args named

/-- A value that can be waited for is. -/
def awaited (d : Dispatch) (v : Value) : Act Value :=
  match v with
  | .handle (.promise p) => keepPromise d p
  | v => if v.isAwaitable then d.await v else pure v

/-- What a value gives to whoever waits for it; it has to be one that can be waited for. -/
def awaitedBy (d : Dispatch) (v : Value) : Act Value :=
  if v.isAwaitable then awaited d v else throw (.unawaitable v)

/-- What a walk over a value meets, as it is now. -/
def itemsOf (v : Value) : Act (List Value) := do
  ofExcept ((← get).walked v).items

/-- Whether a walk over a value meets another, or one equal to it. -/
def isIn (x container : Value) : Act Bool := do
  ofExcept (x.isIn ((← get).walked container))

/-- Entries made of a mapping, or of a walk over pairs, as they are now. -/
def entriesOf (v : Value) : Act Entries := do
  ofExcept ((← get).walkedTwice v).toEntries

end Act

end DocMapper
