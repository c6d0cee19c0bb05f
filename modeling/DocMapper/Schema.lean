import DocMapper.Fault

/-!
Instances of schemas.  A schema names its fields and the aliases that they are written under; an
instance is dumped as a mapping, together with every instance and every struct inside of it.
-/

namespace DocMapper.Schema

/-- A field of a schema: its name, the alias it is written under, and whether it may be left out. -/
structure Field where
  name : String
  written : String
  optional : Bool

def fieldsOf : ClassRef → List Field
  | .known "User" => [⟨"name", "name", false⟩, ⟨"age", "age", false⟩, ⟨"email", "email", true⟩]
  | .known "Aliased" => [⟨"first_name", "firstName", false⟩, ⟨"extra", "_extra", true⟩]
  | _ => []

/-- The alias of a field. -/
def aliasOf (schema : ClassRef) (name : Value) : Value :=
  match name with
  | .str n => .str ((((fieldsOf schema).find? fun f => f.name = n).map Field.written).getD n)
  | v => v

section

variable (dump : Handle → Except Fault Value)

mutual

/-- What a dump makes of a value inside an instance, where `dump` says what it makes of objects. -/
def dumped (v : Value) : Except Fault Value :=
  match v with
  | .list xs => return .list (← dumpedItems xs)
  | .tuple xs => return .tuple (← dumpedItems xs)
  | .set xs => return .set (← dumpedItems xs)
  | .frozenSet xs => return .frozenSet (← dumpedItems xs)
  | .dict es => return .dict (← dumpedEntries es)
  | .handle h => dump h
  | v => .ok v
termination_by structural v

def dumpedItems (xs : List Value) : Except Fault (List Value) :=
  match xs with
  | [] => .ok []
  | x :: xs => do
    let y ← dumped x
    return y :: (← dumpedItems xs)
termination_by structural xs

def dumpedEntries (es : List (Value × Value)) : Except Fault (List (Value × Value)) :=
  match es with
  | [] => .ok []
  | (k, v) :: es => do
    let k ← dumped k
    let v ← dumped v
    return (k, v) :: (← dumpedEntries es)
termination_by structural es

end

/-- The dump of an instance with the given fields. -/
def dumpedFields (byAlias : Bool) (schema : ClassRef) (fields : List (Value × Value)) :
    Except Fault Value := do
  let fields := if byAlias then fields.map fun f => (aliasOf schema f.1, f.2) else fields
  return .dict (← dumpedEntries dump fields)

end

/-- An instance of a schema; fields are given by alias, and a repeated one counts last. -/
def ofAliases (schema : String) (given : List (String × Value)) : Shape :=
  .record .schema (.known schema) ((fieldsOf (.known schema)).map fun f =>
    (.str f.name, (given.reverse.lookup f.written).getD .null))

end DocMapper.Schema
