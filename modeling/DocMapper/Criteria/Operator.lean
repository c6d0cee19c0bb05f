import DocMapper.Value.Entries

/-!
The operators that a condition on a field may use, and the keys they are stored under.
-/

namespace DocMapper

inductive Operator
  | eq
  | ne
  | gt
  | gte
  | lt
  | lte
  | isIn
  | notIn
  | present
  deriving DecidableEq, Inhabited

namespace Operator

def all : List Operator :=
  [eq, ne, gt, gte, lt, lte, isIn, notIn, present]

/-- The name under which the operator is published. -/
def name : Operator → String
  | eq => "EQ"
  | ne => "NE"
  | gt => "GT"
  | gte => "GTE"
  | lt => "LT"
  | lte => "LTE"
  | isIn => "IN"
  | notIn => "NIN"
  | present => "EXISTS"

def key : Operator → String
  | eq => "$eq"
  | ne => "$ne"
  | gt => "$gt"
  | gte => "$gte"
  | lt => "$lt"
  | lte => "$lte"
  | isIn => "$in"
  | notIn => "$nin"
  | present => "$exists"

def ofKey? : String → Option Operator
  | "$eq" => some eq
  | "$ne" => some ne
  | "$gt" => some gt
  | "$gte" => some gte
  | "$lt" => some lt
  | "$lte" => some lte
  | "$in" => some isIn
  | "$nin" => some notIn
  | "$exists" => some present
  | _ => none

theorem mem_all (op : Operator) : op ∈ all := by
  cases op <;> decide

@[simp] theorem ofKey?_key (op : Operator) : ofKey? op.key = some op := by
  cases op <;> rfl

theorem key_injective {a b : Operator} (h : a.key = b.key) : a = b := by
  have := congrArg ofKey? h
  simpa using this

end Operator

/-- Whether a text begins as an operator does. -/
def isOperatorKey (s : String) : Bool :=
  match s.toList with
  | '$' :: _ => true
  | _ => false

theorem isOperatorKey_key (op : Operator) : isOperatorKey op.key = true := by
  cases op <;> rfl

namespace Value

def isOperatorName : Value → Bool
  | .str s => isOperatorKey s
  | _ => false

/-- A mapping with entries, all of whose keys are operator keys. -/
def isOperatorDocument (v : Value) : Bool :=
  match v.entries? with
  | some (e :: es) => (e :: es).all fun e => e.1.isOperatorName
  | _ => false

end Value

end DocMapper
