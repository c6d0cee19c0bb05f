import DocMapper.Value.Rebuild

/-!
The plain form in which data is stored.  Mappings become dictionaries and sets become lists; keys,
and plain data, are stored as they are.  Objects and classes give way to what they convert to, which
is for whoever asks to say.
-/

namespace DocMapper

namespace Value

section

variable {m : Type → Type} [Monad m] (convert : Value → m Value)

mutual

/-- The stored form of a value, where `convert` stores objects and classes. -/
def stored (v : Value) : m Value :=
  match v with
  | .list xs => return .list (← storedItems xs)
  | .tuple xs => return .tuple (← storedItems xs)
  | .set xs => return .list (← storedItems xs)
  | .dict es => return .dict (← storedEntries es)
  | .mapping es => return .dict (← storedEntries es)
  | .cls c => convert (.cls c)
  | .handle h => convert (.handle h)
  | .object i s => convert (.object i s)
  | v => return v
termination_by structural v

def storedItems (xs : List Value) : m (List Value) :=
  match xs with
  | [] => return []
  | x :: xs => do
    let y ← stored x
    return y :: (← storedItems xs)
termination_by structural xs

def storedEntries (es : List (Value × Value)) : m (List (Value × Value)) :=
  match es with
  | [] => return []
  | (k, v) :: es => do
    let w ← stored v
    return (k, w) :: (← storedEntries es)
termination_by structural es

end

mutual

/-- A value taken out of a struct: its lists, tuples and dictionaries are rebuilt, keys included,
and `convert` takes out everything else. -/
def takenOut (v : Value) : m Value :=
  match v with
  | .list xs => return .list (← takenOutItems xs)
  | .tuple xs => return .tuple (← takenOutItems xs)
  | .dict es => return .dict (← takenOutEntries es)
  | v => convert v
termination_by structural v

def takenOutItems (xs : List Value) : m (List Value) :=
  match xs with
  | [] => return []
  | x :: xs => do
    let y ← takenOut x
    return y :: (← takenOutItems xs)
termination_by structural xs

def takenOutEntries (es : List (Value × Value)) : m (List (Value × Value)) :=
  match es with
  | [] => return []
  | (k, v) :: es => do
    let k ← takenOut k
    let v ← takenOut v
    return (k, v) :: (← takenOutEntries es)
termination_by structural es

end

end

end Value

end DocMapper
