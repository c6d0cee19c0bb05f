import DocMapper.Value.Entries
import DocMapper.Value.Order

/-!
Values as sequences.  Anything with items can be walked over, and a walk over pairs makes entries:
the second of a pair goes under the first.
-/

namespace DocMapper

namespace Value

/-- The items of a value in order; those of a mapping are its keys, and those of the class of states
are the states. -/
def items? : Value → Option (List Value)
  | .list xs => some xs
  | .tuple xs => some xs
  | .set xs => some xs
  | .frozenSet xs => some xs
  | .dict es => some (es.map Prod.fst)
  | .mapping es => some (es.map Prod.fst)
  | .str s => some (s.toList.map fun c => .str c.toString)
  | .bytes bs => some (bs.map fun b => .int b.toNat)
  | .cls (.known "CursorState") => some (CursorState.all.map fun s => .handle (.state s))
  | .object _ (.record .schema _ es) => some (es.map fun e => .tuple [e.1, e.2])
  | _ => none

def items (v : Value) : Except Fault (List Value) :=
  match v.items? with
  | some xs => .ok xs
  | none => .error (.notIterable v)

/-- The items of a list or a tuple, the two kinds that a call unfolds. -/
def listed? : Value → Option (List Value)
  | .list xs => some xs
  | .tuple xs => some xs
  | _ => none

/-- One level of lists and tuples unfolded. -/
def flatten (xs : List Value) : List Value :=
  xs.flatMap fun x => x.listed?.getD [x]

theorem flatten_append (xs ys : List Value) : flatten (xs ++ ys) = flatten xs ++ flatten ys := by
  simp [flatten]

/-- An item of a walk over pairs, counted from the start. -/
def pairAt (index : Nat) (v : Value) : Except Fault (Value × Value) :=
  match v.items? with
  | none => .error (.elementType index)
  | some [k, w] => .ok (k, w)
  | some ys => .error (.elementLength index ys.length)

/-- A value taken apart into two. -/
def unpacked (v : Value) : Except Fault (Value × Value) :=
  match v.items? with
  | none => .error (.typed .type "cannot unpack non-iterable " v " object")
  | some [k, w] => .ok (k, w)
  | some ys =>
    .error (.raised .value (if ys.length < 2 then
      s!"not enough values to unpack (expected 2, got {ys.length})"
      else "too many values to unpack (expected 2)"))

section

variable (pair : Nat → Value → Except Fault (Value × Value))

/-- Entries with pairs put into them in order, up to the first item that is none; items are counted
from `index`. -/
def putPairs (es : Entries) (index : Nat) : List Value → Entries × Option Fault
  | [] => (es, none)
  | x :: xs =>
    match pair index x with
    | .error e => (es, some e)
    | .ok (k, v) =>
      match k.unhashable? with
      | some u => (es, some (.unhashable u))
      | none => putPairs (Entries.put es k v) (index + 1) xs

/-- Entries with those of a mapping put into them, or those that a walk over pairs gives. -/
def putInto (es : Entries) (v : Value) : Entries × Option Fault :=
  match v.entries? with
  | some fs => (Entries.merge es fs, none)
  | none =>
    match v with
    | .cls (.known "dict") => (es, some (v.noMapping "keys" []))
    | v =>
      match v.items with
      | .ok xs => putPairs pair es 0 xs
      | .error e => (es, some e)

end

/-- Entries made of a mapping, or of a walk over pairs. -/
def toEntries (v : Value) : Except Fault Entries :=
  match v.entries? with
  | some es => .ok es
  | none =>
    match putInto pairAt [] v with
    | (es, none) => .ok es
    | (_, some e) => .error e

@[simp] theorem toEntries_dict (es : Entries) : (Value.dict es).toEntries = .ok es := rfl

end Value

end DocMapper
