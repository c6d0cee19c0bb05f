import DocMapper.Store.Member
import DocMapper.Value.Sequence

/-!
Names for values.  A name stands for what was last bound to it, and a path of attributes may follow
it.  Values written with names are completed when they are used: names are looked up, a repeated key
takes the last value, and every object becomes one of its own.  A function keeps its names until it
is run.
-/

namespace DocMapper

/-- Bound names, in the order in which they were first bound. -/
abbrev Names := List (String × Value)

namespace Names

def put (name : String) (v : Value) : Names → Names
  | [] => [(name, v)]
  | (n, u) :: ns => if n = name then (n, v) :: ns else (n, u) :: put name v ns

/-- Whether two values are one and the same object.  Plain data is never an object, and neither is
what several share of it. -/
def sameObject : Value → Value → Bool
  | .handle (.journal _), _ => false
  | .handle (.shelf _), _ => false
  | .handle (.stock _), _ => false
  | .handle (.state _), _ => false
  | .handle h, .handle k => h == k
  | .cls c, .cls d => c == d
  | .object (some i) _, .object (some j) _ => i == j
  | _, _ => false

/-- The name that was first bound to an object, of those that still are. -/
def nameOf? (ns : Names) (v : Value) : Option String :=
  (List.find? (fun n => sameObject v n.2) ns).map Prod.fst

section

variable (d : Dispatch) (ns : Names)

/-- What a path leads to. -/
def locate (path : List String) : Act Value := do
  match path with
  | [] => throw (.unbound "")
  | name :: members =>
    match ns.lookup name with
    | none => throw (.unbound name)
    | some v => members.foldlM d.read v

/-- A list or a mapping that several share is used as it is by then. -/
def resolve (path : List String) : Act Value := do
  let v ← locate d ns path
  return (← get).current v

end

/-- The members of a set once each, whole numbers in ascending order. -/
def distinct (xs : List Value) : List Value :=
  let once := xs.foldl (fun ys x => if ys.any x.same then ys else ys ++ [x]) []
  if once.all fun x => x.whole?.isSome then
    once.mergeSort fun a b => decide (a.whole?.getD 0 ≤ b.whole?.getD 0)
  else once

section

variable (d : Dispatch) (ns : Names)

mutual

def complete (v : Value) : Act Value :=
  match v with
  | .float "nan" => return .nan (← Act.freshIdentity)
  | .list xs => return .list (← completeItems xs)
  | .tuple xs => return .tuple (← completeItems xs)
  | .set xs => return .set (distinct (← completeItems xs))
  | .frozenSet xs => return .frozenSet (distinct (← completeItems xs))
  | .dict es => return .dict (Entries.ofPairs (← completeEntries es))
  | .mapping es => return .mapping (Entries.ofPairs (← completeEntries es))
  | .handle (.variable path) => resolve d ns path
  | .object _ (.record k c es) => do
    Act.newRecord k c (← completeEntries es)
  | .object _ s => Act.made s
  | v => return v
termination_by structural v

def completeItems (xs : List Value) : Act (List Value) :=
  match xs with
  | [] => return []
  | x :: xs => do
    let y ← complete x
    return y :: (← completeItems xs)
termination_by structural xs

def completeEntries (es : List (Value × Value)) : Act (List (Value × Value)) :=
  match es with
  | [] => return []
  | (k, v) :: es => do
    let k ← complete k
    let v ← complete v
    return (k, v) :: (← completeEntries es)
termination_by structural es

end

end

/-- A value completed, except that a list or a mapping that several share stays shared if its name
is all there is. -/
def completeShared (d : Dispatch) (ns : Names) (v : Value) : Act Value :=
  match v with
  | .handle (.variable path) => locate d ns path
  | v => complete d ns v

end Names

end DocMapper
