import DocMapper.Fault
import DocMapper.Value.Equality

/-!
Order between values, and membership of a value in another.  Only values of one kind are ordered,
all numbers being of one kind; lists and tuples by their first difference, sets by inclusion.
-/

namespace DocMapper

inductive Comparison
  | lt
  | le
  | gt
  | ge
  deriving DecidableEq

namespace Comparison

def symbol : Comparison → String
  | lt => "<"
  | le => "<="
  | gt => ">"
  | ge => ">="

def holds : Comparison → Ordering → Bool
  | lt, o => o.isLT
  | le, o => o.isLE
  | gt, o => o.isGT
  | ge, o => o.isGE

end Comparison

/-- Sequences are ordered by their first difference, and a beginning comes first. -/
def compareSequences : List Nat → List Nat → Ordering
  | [], [] => .eq
  | [], _ :: _ => .lt
  | _ :: _, [] => .gt
  | a :: as, b :: bs => (compare a b).then (compareSequences as bs)

def compareTexts (s t : String) : Ordering :=
  compareSequences (s.toList.map Char.toNat) (t.toList.map Char.toNat)

/-- Whether a sequence occurs, unbroken, in another. -/
def occursIn [BEq α] (xs : List α) : List α → Bool
  | [] => xs.isEmpty
  | y :: ys => xs.isPrefixOf (y :: ys) || occursIn xs ys

namespace Value

/-- The whole numbers first: they need no scaling. -/
def compareNumbers (a b : Value) : Option (Option Ordering) :=
  match a.whole?, b.whole? with
  | some m, some n => some (some (compare m n))
  | _, _ =>
    match a.point?, b.point? with
    | some p, some q => some (p.compare q)
    | _, _ => none

def subsetOf (xs ys : List Value) : Bool :=
  xs.all fun x => ys.any x.same

/-- Inclusion, proper for the strict comparisons. -/
def compareSets (op : Comparison) (xs ys : List Value) : Bool :=
  match op with
  | .lt => subsetOf xs ys && xs.length < ys.length
  | .le => subsetOf xs ys
  | .gt => subsetOf ys xs && ys.length < xs.length
  | .ge => subsetOf ys xs

mutual

def ordered (op : Comparison) (a b : Value) : Except Fault Bool :=
  let refused := .error (.unordered op.symbol a b)
  match a with
  | .str s => match b with | .str t => .ok (op.holds (compareTexts s t)) | _ => refused
  | .bytes s =>
    match b with
    | .bytes t => .ok (op.holds (compareSequences (s.map UInt8.toNat) (t.map UInt8.toNat)))
    | _ => refused
  | .objectId s => match b with | .objectId t => .ok (op.holds (compareTexts s t)) | _ => refused
  | .dateTime s => match b with | .dateTime t => .ok (op.holds (compareTexts s t)) | _ => refused
  | .list xs => match b with | .list ys => orderedItems op xs ys | _ => refused
  | .tuple xs => match b with | .tuple ys => orderedItems op xs ys | _ => refused
  | .set xs => match b.members? with | some ys => .ok (compareSets op xs ys) | none => refused
  | .frozenSet xs => match b.members? with | some ys => .ok (compareSets op xs ys) | none => refused
  | a =>
    match compareNumbers a b with
    | some (some o) => .ok (op.holds o)
    | some none => .ok false
    | none => refused
termination_by structural a

def orderedItems (op : Comparison) (xs ys : List Value) : Except Fault Bool :=
  match xs with
  | [] => .ok (op.holds (if ys.isEmpty then .eq else .lt))
  | x :: xs =>
    match ys with
    | [] => .ok (op.holds .gt)
    | y :: ys => if x.same y then orderedItems op xs ys else ordered op x y
termination_by structural xs

end

mutual

/-- The first part of a value that keeps it from being a key. -/
def unhashable? (v : Value) : Option Value :=
  match v with
  | .list xs => some (.list xs)
  | .set xs => some (.set xs)
  | .dict es => some (.dict es)
  | .mapping es => some (.mapping es)
  | .tuple xs => unhashableItem? xs
  | .frozenSet xs => unhashableItem? xs
  | .object i (.record .struct c es) => some (.object i (.record .struct c es))
  | .object i (.record .schema c es) => some (.object i (.record .schema c es))
  | .object i (.options o) => some (.object i (.options o))
  | .object i (.config a b) => some (.object i (.config a b))
  | .object i (.namespaced es) => some (.object i (.namespaced es))
  | .handle h => if h.isComparable then some (.handle h) else none
  | _ => none
termination_by structural v

def unhashableItem? (xs : List Value) : Option Value :=
  match xs with
  | [] => none
  | x :: xs => (unhashable? x).or (unhashableItem? xs)
termination_by structural xs

end

def isIn (a b : Value) : Except Fault Bool :=
  let amongKeys (xs : List Value) : Except Fault Bool :=
    match a.unhashable? with
    | some u => .error (.unhashable u)
    | none => .ok (xs.any a.same)
  let amongMembers (xs : List Value) : Except Fault Bool :=
    match a with
    | .set _ => .ok (xs.any a.same)
    | _ => amongKeys xs
  match b with
  | .list xs => .ok (xs.any a.same)
  | .tuple xs => .ok (xs.any a.same)
  | .set xs => amongMembers xs
  | .frozenSet xs => amongMembers xs
  | .dict es => amongKeys (es.map Prod.fst)
  | .mapping es => amongKeys (es.map Prod.fst)
  | .str t =>
    match a with
    | .str s => .ok (occursIn s.toList t.toList)
    | _ => .error (.typed .type "'in <string>' requires string as left operand, not " a "")
  | .bytes t =>
    match a, a.whole? with
    | .bytes s, _ => .ok (occursIn s t)
    | _, some n =>
      if 0 ≤ n ∧ n < 256 then .ok (t.any fun b => (b.toNat : Int) == n)
      else .error (.raised .value "byte must be in range(0, 256)")
    | _, none => .error (.typed .type "a bytes-like object is required, not '" a "'")
  | .object _ (.record .schema _ es) => .ok (es.any fun e => a.same (.tuple [e.1, e.2]))
  | b => .error (.notContainer b)

theorem isIn_list (a : Value) (xs : List Value) : a.isIn (.list xs) = .ok (xs.any a.same) := rfl

end Value

end DocMapper
