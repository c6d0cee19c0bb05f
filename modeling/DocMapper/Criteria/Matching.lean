import DocMapper.Criteria.Operator
import DocMapper.Value.Sequence

/-!
Which documents satisfy which criteria.  Every key of the criteria must hold: a list of criteria
under `$and` in all of its branches, one under `$or` in at least one, and a field either in all the
operators of an operator document or by equality.  A missing field counts as null, and null is
ordered with nothing.  Conditions are tested in order, up to the first that fails.
-/

namespace DocMapper.Criteria

/-- What a document holds under a key, and whether it holds the key. -/
def fieldOf (doc key : Value) : Except Fault (Value × Bool) :=
  match doc.entries? with
  | some es => .ok ((es.get? key).getD .null, es.has key)
  | none => .error (doc.noMapping "get" [key])

def ordered (op : Comparison) (actual expected : Value) : Except Fault Bool :=
  match actual with
  | .null => .ok false
  | _ => actual.ordered op expected

def test (op : Operator) (actual : Value) (held : Bool) (expected : Value) : Except Fault Bool :=
  match op with
  | .eq => .ok (actual.equal expected)
  | .ne => .ok (!actual.equal expected)
  | .gt => ordered .gt actual expected
  | .gte => ordered .ge actual expected
  | .lt => ordered .lt actual expected
  | .lte => ordered .le actual expected
  | .isIn => actual.isIn expected
  | .notIn => do return !(← actual.isIn expected)
  | .present => .ok (Value.equal (.bool held) expected)

/-- The operators of an operator document, tested one by one. -/
def testAll (actual : Value) (held : Bool) : Entries → Except Fault Bool
  | [] => .ok true
  | (k, expected) :: es =>
    match k with
    | .str s =>
      match Operator.ofKey? s with
      | some op => do
        if ← test op actual held expected then testAll actual held es else return false
      | none => .error (.noKey k)
    | _ => .error (.noKey k)

/-- Whether all keys are operator keys; only texts can be asked. -/
def operatorKeys : Entries → Except Fault Bool
  | [] => .ok true
  | (k, _) :: es =>
    match k with
    | .str s => if isOperatorKey s then operatorKeys es else .ok false
    | .bytes _ => .error .notText
    | k => .error (k.lacks "startswith")

/-- The condition that one field of a document has to meet. -/
def holdsAt (doc key expected : Value) : Except Fault Bool := do
  let (actual, held) ← fieldOf doc key
  match expected with
  | .dict (e :: es) =>
    if ← operatorKeys (e :: es) then testAll actual held (e :: es)
    else return actual.equal expected
  | _ => return actual.equal expected

/-- Branches that are no list of criteria: none are met and none fail, the others are refused. -/
def oddBranches (branches : Value) (ifNone : Bool) : Except Fault Bool := do
  match ← branches.items with
  | [] => return ifNone
  | x :: _ => throw (x.noMapping "items" [])

mutual

def holds (doc criteria : Value) : Except Fault Bool :=
  match criteria with
  | .dict es => holdsEach doc es
  | .mapping es => holdsEach doc es
  | v => .error (v.noMapping "items" [])
termination_by structural criteria

def holdsEach (doc : Value) (es : List (Value × Value)) : Except Fault Bool :=
  match es with
  | [] => .ok true
  | (.str "$and", .list xs) :: es => do
    if ← holdsAll doc xs then holdsEach doc es else return false
  | (.str "$and", .tuple xs) :: es => do
    if ← holdsAll doc xs then holdsEach doc es else return false
  | (.str "$and", v) :: es => do
    if ← oddBranches v true then holdsEach doc es else return false
  | (.str "$or", .list xs) :: es => do
    if ← holdsAny doc xs then holdsEach doc es else return false
  | (.str "$or", .tuple xs) :: es => do
    if ← holdsAny doc xs then holdsEach doc es else return false
  | (.str "$or", v) :: es => do
    if ← oddBranches v false then holdsEach doc es else return false
  | (k, v) :: es => do
    if ← holdsAt doc k v then holdsEach doc es else return false
termination_by structural es

def holdsAll (doc : Value) (xs : List Value) : Except Fault Bool :=
  match xs with
  | [] => .ok true
  | x :: xs => do
    if ← holds doc x then holdsAll doc xs else return false
termination_by structural xs

def holdsAny (doc : Value) (xs : List Value) : Except Fault Bool :=
  match xs with
  | [] => .ok false
  | x :: xs => do
    if ← holds doc x then return true else holdsAny doc xs
termination_by structural xs

end

/-- The items whose documents satisfy the criteria, in order. -/
def selectBy (document : α → Value) (criteria : Value) : List α → Except Fault (List α)
  | [] => .ok []
  | x :: xs => do
    let here ← holds (document x) criteria
    let rest ← selectBy document criteria xs
    return if here then x :: rest else rest

/-- The documents that satisfy the criteria, in order. -/
def select (criteria : Value) (documents : List Value) : Except Fault (List Value) :=
  selectBy id criteria documents

@[simp] theorem holds_empty (doc : Value) : holds doc (.dict []) = .ok true := by
  simp [holds, holdsEach]

end DocMapper.Criteria
