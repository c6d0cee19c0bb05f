import DocMapper.Value.Basic
import DocMapper.Text.Quoted

/-!
The literal of a value, as messages and log lines show it.  Texts are quoted, a tuple of one item
keeps a comma, and an empty set is spelled out because braces alone are an empty mapping.  What a
class or an object looks like is for its store to say, and so is which containers are being written
already: those are shown by dots alone.
-/

namespace DocMapper

open Text (quoted quotedBytes)

/-- Items between brackets, with a comma and a blank between them. -/
def enclosed (opening : String) (items : List String) (closing : String) : String :=
  opening ++ ", ".intercalate items ++ closing

/-- The number that the decimal digits of a text stand for, other characters left out. -/
def decimalValue (s : String) : Nat :=
  (s.toList.filter Char.isDigit).foldl (fun n c => n * 10 + (c.toNat - 0x30)) 0

/-- The parts of a point in time as a call; the smallest ones are left out while they are zero. -/
def timeLiteral (iso : String) : String :=
  let cs := iso.toList
  let part (start size : Nat) : Nat := decimalValue (String.ofList ((cs.drop start).take size))
  let micro := part 20 6
  let second := part 17 2
  let small := if micro != 0 then [second, micro] else if second != 0 then [second] else []
  let parts := [part 0 4, part 5 2, part 8 2, part 11 2, part 14 2] ++ small
  enclosed "datetime.datetime(" (parts.map toString) ")"

namespace Value

section

/-- A place inside of a value: the number of the item at each level, from the outside in. -/
abbrev Place := List Nat

variable (shut : Place → Bool) (leaf : Place → Value → String)

mutual

/-- The literal of a value at a place; `shut` are the places that are being written already. -/
def literalAt (place : Place) (v : Value) : String :=
  let items (opening dots closing : String) (texts : List String) : String :=
    if shut place then opening ++ dots ++ closing else enclosed opening texts closing
  match v with
  | .null => "None"
  | .bool b => if b then "True" else "False"
  | .int n => toString n
  | .float t => t
  | .nan _ => "nan"
  | .str s => quoted s
  | .bytes bs => quotedBytes bs
  | .objectId hex => "ObjectId('" ++ hex ++ "')"
  | .dateTime iso => timeLiteral iso
  | .list xs => items "[" "..." "]" (literalsAt place 0 xs)
  | .tuple [x] =>
    if shut place then "(...)" else "(" ++ literalAt (place ++ [0]) x ++ ",)"
  | .tuple xs => items "(" "..." ")" (literalsAt place 0 xs)
  | .set [] => "set()"
  | .set xs =>
    if shut place then "set(...)" else enclosed "\x7b" (literalsAt place 0 xs) "\x7d"
  | .frozenSet [] => "frozenset()"
  | .frozenSet xs =>
    if shut place then "frozenset(...)"
    else enclosed "frozenset(\x7b" (literalsAt place 0 xs) "\x7d)"
  | .dict es => items "\x7b" "..." "\x7d" (entryLiteralsAt place 0 es)
  | .mapping es => items "\x7b" "..." "\x7d" (entryLiteralsAt place 0 es)
  | v => leaf place v
termination_by structural v

/-- The literals of items, counted from `index`. -/
def literalsAt (place : Place) (index : Nat) (xs : List Value) : List String :=
  match xs with
  | [] => []
  | x :: xs => literalAt (place ++ [index]) x :: literalsAt place (index + 1) xs
termination_by structural xs

/-- The literals of entries; a key stands at an even number and its value at the next odd one. -/
def entryLiteralsAt (place : Place) (index : Nat) (es : List (Value × Value)) : List String :=
  match es with
  | [] => []
  | (k, v) :: es =>
    (literalAt (place ++ [index]) k ++ ": " ++ literalAt (place ++ [index + 1]) v) ::
      entryLiteralsAt place (index + 2) es
termination_by structural es

end

end

end Value

end DocMapper
