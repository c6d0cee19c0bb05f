import DocMapper.Value.Basic
import DocMapper.Number.Binary64

/-!
Equality of values.  Numbers are equal by value whatever their kind, truth values counting as zero
and one.  Lists equal lists and tuples equal tuples, item by item; sets are equal if they have the
same members, and mappings if they give equal values to equal keys.  An object equals itself; two
records of one class are equal if they show equal fields.  What is no number equals nothing, not
even itself; inside of a container, though, `same` takes it for what it is.
-/

namespace DocMapper

open Number (Point)

namespace Value

/-- The value of a whole number or a truth value. -/
def whole? : Value → Option Int
  | .bool b => some (if b then 1 else 0)
  | .int n => some n
  | _ => none

def point? : Value → Option Point
  | .float t => some (.ofText t)
  | .nan _ => some (.ofText "nan")
  | v => v.whole?.map .ofInt

def sameNumber (a b : Value) : Bool :=
  match a.whole?, b.whole? with
  | some m, some n => m == n
  | _, _ =>
    match a.point?, b.point? with
    | some p, some q => p.equal q
    | _, _ => false

/-- The members of a set of either kind. -/
def members? : Value → Option (List Value)
  | .set xs => some xs
  | .frozenSet xs => some xs
  | _ => none

/-- One and the same value that is no number. -/
def sameNan : Value → Value → Bool
  | .nan i, .nan j => i == j
  | _, _ => false

mutual

def equal (a b : Value) : Bool :=
  match a with
  | .null => match b with | .null => true | _ => false
  | .bool x => sameNumber (.bool x) b
  | .int x => sameNumber (.int x) b
  | .float x => sameNumber (.float x) b
  | .nan _ => false
  | .str x => match b with | .str y => x == y | _ => false
  | .bytes x => match b with | .bytes y => x == y | _ => false
  | .objectId x => match b with | .objectId y => x == y | _ => false
  | .dateTime x => match b with | .dateTime y => x == y | _ => false
  | .list xs => match b with | .list ys => equalItems xs ys | _ => false
  | .tuple xs => match b with | .tuple ys => equalItems xs ys | _ => false
  | .set xs =>
    match b.members? with
    | some ys => xs.length == ys.length && allAmong xs ys
    | none => false
  | .frozenSet xs =>
    match b.members? with
    | some ys => xs.length == ys.length && allAmong xs ys
    | none => false
  | .dict es =>
    match b.entries? with
    | some fs => es.length == fs.length && allEntriesAmong es fs
    | none => false
  | .mapping es =>
    match b.entries? with
    | some fs => es.length == fs.length && allEntriesAmong es fs
    | none => false
  | .cls c => match b with | .cls d => c == d | _ => false
  | .handle h => match b with | .handle k => h == k | _ => false
  | .object i s =>
    match b with
    | .object j t => (i.isSome && i == j) || equalShape s t
    | _ => false
termination_by structural a

def equalItems : List Value → List Value → Bool
  | [], ys => ys.isEmpty
  | _ :: _, [] => false
  | x :: xs, y :: ys => (sameNan x y || x.equal y) && equalItems xs ys
termination_by structural x => x

def allAmong : List Value → List Value → Bool
  | [], _ => true
  | x :: xs, ys => (ys.any fun y => sameNan x y || x.equal y) && allAmong xs ys
termination_by structural x => x

def allEntriesAmong : List (Value × Value) → List (Value × Value) → Bool
  | [], _ => true
  | (k, v) :: es, fs =>
    (match fs.find? fun f => sameNan k f.1 || k.equal f.1 with
      | some f => sameNan v f.2 || v.equal f.2
      | none => false) && allEntriesAmong es fs
termination_by structural x => x

def equalFields : List (Value × Value) → List (Value × Value) → Bool
  | [], fs => fs.isEmpty
  | _ :: _, [] => false
  | (k, v) :: es, (l, w) :: fs => k.equal l && (sameNan v w || v.equal w) && equalFields es fs
termination_by structural x => x

def equalShape (s t : Shape) : Bool :=
  match s with
  | .record k c es =>
    match t with
    | .record l d fs => k == l && c == d && k != .specimen && equalFields es fs
    | _ => false
  | .options ⟨a, b, c, d⟩ =>
    match t with
    | .options o =>
      (sameNan a o.sort || a.equal o.sort) && (sameNan b o.skip || b.equal o.skip) &&
        (sameNan c o.limit || c.equal o.limit) && (sameNan d o.projection || d.equal o.projection)
    | _ => false
  | .config a b =>
    match t with
    | .config c d => (sameNan a c || a.equal c) && (sameNan b d || b.equal d)
    | _ => false
  | .namespaced es =>
    match t with
    | .namespaced fs => es.length == fs.length && allEntriesAmong es fs
    | _ => false
  | .bound r f => match t with | .bound s g => r.equal s && f.equal g | _ => false
  | _ => false
termination_by structural s

end

/-- Equality as containers see it. -/
def same (a b : Value) : Bool :=
  sameNan a b || a.equal b

end Value

end DocMapper
