import DocMapper.Value.Sequence

/-!
What lists, tuples and dictionaries do when they are called by the names of their functions.  A call
answers with a result and with the container as it is after that.
-/

namespace DocMapper.Container

/-- How many arguments a function takes, and so how it refuses any other number of them. -/
inductive Arity
  | none
  | one
  | between (least most : Nat)
  deriving DecidableEq, Inhabited

/-- The functions of a class of containers. -/
def functions : String → List (String × Arity)
  | "list" =>
    [("append", .one), ("extend", .one), ("insert", .between 2 2), ("pop", .between 0 1),
     ("remove", .one), ("clear", .none), ("reverse", .none), ("copy", .none), ("count", .one),
     ("index", .between 1 3)]
  | "tuple" => [("count", .one), ("index", .between 1 3)]
  | "dict" =>
    [("get", .between 1 2), ("pop", .between 1 2), ("popitem", .none),
     ("setdefault", .between 1 2), ("update", .between 0 1), ("clear", .none), ("copy", .none),
     ("keys", .none), ("values", .none), ("items", .none)]
  | _ => []

def arguments (n : Nat) : String :=
  if n = 1 then "1 argument" else s!"{n} arguments"

/-- Refuses arguments by name, and any number of arguments that a function does not take. -/
def check (owner name : String) (arity : Arity) (given : Nat) (named : Entries) :
    Except Fault Unit := do
  let refuse (text : String) : Except Fault Unit := throw (.raised .type text)
  unless named.isEmpty || name = "update" do
    refuse s!"{owner}.{name}() takes no keyword arguments"
  match arity with
  | .none => if given ≠ 0 then refuse s!"{owner}.{name}() takes no arguments ({given} given)"
  | .one =>
    if given ≠ 1 then refuse s!"{owner}.{name}() takes exactly one argument ({given} given)"
  | .between least most =>
    let bound := if least = most then "" else if given < least then "at least " else "at most "
    if given < least then refuse s!"{name} expected {bound}{arguments least}, got {given}"
    if most < given then refuse s!"{name} expected {bound}{arguments most}, got {given}"

/-- A place in a row of items, counted from the end if it is negative. -/
def placeIn (size : Nat) (n : Int) : Int :=
  if n < 0 then n + size else n

def wholeOf (v : Value) : Except Fault Int :=
  match v.whole? with
  | some n => .ok n
  | none => .error (.typed .type "'" v "' object cannot be interpreted as an integer")

/-- The first place of an item, from a start to before an end. -/
def indexOf (owner : String) (xs : List Value) (x : Value) (bounds : List Value) :
    Except Fault Nat := do
  let bounds ← bounds.mapM fun v => match v.whole? with
    | some n => .ok (max 0 (placeIn xs.length n)).toNat
    | none =>
      .error (.raised .type "slice indices must be integers or have an __index__ method")
  let start := bounds.getD 0 0
  let size := (bounds.getD 1 xs.length) - start
  match ((xs.drop start).take size).findIdx? fun y => x.same y with
  | some i => return start + i
  | none =>
    if owner = "list" then throw (.written .value x " is not in list")
    else throw (.raised .value "tuple.index(x): x not in tuple")

/-- A function of a list that gives away one of its items. -/
def popped (xs : List Value) (place : Value) : Except Fault (Value × Value) := do
  let n ← wholeOf place
  if xs.isEmpty then throw (.raised .index "pop from empty list")
  let i := placeIn xs.length n
  if i < 0 || xs.length ≤ i then throw (.raised .index "pop index out of range")
  return (xs.getD i.toNat .null, .list (xs.eraseIdx i.toNat))

def callList (xs : List Value) (name : String) (args : List Value) :
    Except Fault (Value × Value) := do
  let now (ys : List Value) : Except Fault (Value × Value) := .ok (.null, .list ys)
  let same (v : Value) : Except Fault (Value × Value) := .ok (v, .list xs)
  match name, args with
  | "append", [x] => now (xs ++ [x])
  | "extend", [v] => now (xs ++ (← v.items))
  | "insert", [place, x] =>
    let i := (max 0 (placeIn xs.length (← wholeOf place))).toNat
    now (xs.take i ++ x :: xs.drop i)
  | "pop", args => popped xs (args.getD 0 (.int (-1)))
  | "remove", [x] =>
    match xs.findIdx? fun y => y.same x with
    | some i => now (xs.eraseIdx i)
    | none => throw (.raised .value "list.remove(x): x not in list")
  | "clear", _ => now []
  | "reverse", _ => now xs.reverse
  | "copy", _ => same (.list xs)
  | "count", [x] => same (.int (xs.countP fun y => y.same x))
  | "index", x :: bounds => same (.int (← indexOf "list" xs x bounds))
  | name, _ => throw ((Value.list xs).lacks name)

def callTuple (xs : List Value) (name : String) (args : List Value) :
    Except Fault (Value × Value) := do
  match name, args with
  | "count", [x] => return (.int (xs.countP fun y => y.same x), .tuple xs)
  | "index", x :: bounds => return (.int (← indexOf "tuple" xs x bounds), .tuple xs)
  | name, _ => throw ((Value.tuple xs).lacks name)

def erase (es : Entries) (k : Value) : Entries :=
  List.filter (fun e => !e.1.same k) es

def callDict (es : Entries) (name : String) (args : List Value) (named : Entries) :
    Except Fault (Value × Value) := do
  let same (v : Value) : Except Fault (Value × Value) := .ok (v, .dict es)
  let view (kind : String) := same (.object none (.inert (.known kind)))
  let found (k : Value) : Except Fault (Option Value) :=
    match k.unhashable? with
    | some u => .error (.unhashable u)
    | none => .ok (es.get? k)
  match name, args with
  | "get", k :: other => same ((← found k).getD (other.getD 0 .null))
  | "pop", k :: other =>
    match ← if es.isEmpty then pure none else found k, other with
    | some v, _ => return (v, .dict (erase es k))
    | none, v :: _ => same v
    | none, [] => throw (.noKey k)
  | "popitem", _ =>
    match es.getLast? with
    | some (k, v) => return (.tuple [k, v], .dict es.dropLast)
    | none => throw (.noKey (.str "popitem(): dictionary is empty"))
  | "setdefault", k :: other =>
    match ← found k with
    | some v => same v
    | none => return (other.getD 0 .null, .dict (es.put k (other.getD 0 .null)))
  | "update", args =>
    let given ← match args with
      | [] => pure []
      | v :: _ => v.toEntries
    return (.null, .dict (Entries.merge (Entries.merge es given) named))
  | "clear", _ => return (.null, .dict [])
  | "copy", _ => same (.dict es)
  | "keys", _ => view "dict_keys"
  | "values", _ => view "dict_values"
  | "items", _ => view "dict_items"
  | name, _ => throw ((Value.dict es).lacks name)

/-- Whether a value is a container with a function of a name. -/
def offers (v : Value) (name : String) : Bool :=
  match v.ofClass with
  | .known owner => ((functions owner).lookup name).isSome
  | _ => false

/-- A call of a function of a container: its result, and the container after it. -/
def call (v : Value) (name : String) (args : List Value) (named : Entries) :
    Except Fault (Value × Value) := do
  let checked (owner : String) : Except Fault Unit :=
    check owner name (((functions owner).lookup name).getD .none) args.length named
  match v with
  | .list xs =>
    checked "list"
    callList xs name args
  | .tuple xs =>
    checked "tuple"
    callTuple xs name args
  | .dict es =>
    checked "dict"
    callDict es name args named
  | v => throw (v.lacks name)

@[simp] theorem call_append (xs : List Value) (x : Value) :
    call (.list xs) "append" [x] [] = .ok (.null, .list (xs ++ [x])) := rfl

end DocMapper.Container
