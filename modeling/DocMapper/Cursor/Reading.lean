import DocMapper.Model

/-!
Reading cursors.  A search gives model instances, a pipeline gives its documents as they are.
-/

namespace DocMapper.Act

/-- A new cursor over what a database handed out; a search's documents have to become something. -/
def startCursor (d : Dispatch) (kind : CursorKind) (model source : Value) : Act Value := do
  if kind.hydrates then newCursor { kind, source, model, hydrate := ← hydration d model }
  else newCursor { kind, source }

/-- A document as its cursor delivers it. -/
def deliver (d : Dispatch) (c : Cursor) (stored : Value) : Act Value :=
  if c.kind.hydrates then applyHydration d c.hydrate stored else pure stored

/-- What a cursor reads from; what has to be waited for gives way to what it gives. -/
def openSource (d : Dispatch) (i : Nat) : Act Value := do
  let native := (← cursor i).source
  if native.isAwaitable then
    let source ← awaited d native
    setCursor i { (← cursor i) with source }
    return source
  else return native

/-- What a cursor reads from, by the function that it has for that. -/
def handleOfCursor (d : Dispatch) (self : Value) (i : Nat) : Act Value :=
  callOr d .always self (.known "BaseCursor") "_handle" [] [] (openSource d i)

/-- A document as a cursor delivers it, by the function that it has for that. -/
def delivered (d : Dispatch) (self : Value) (c : Cursor) (stored : Value) : Act Value :=
  let owner := if c.kind.hydrates then "QueryCursor" else "BaseCursor"
  callOr d .never self (.known owner) "_hydrate" [stored] [] (deliver d c stored)

/-- The lock of a cursor, a new one if it has none. -/
def lockOf (i : Nat) : Act Value := do
  let c ← cursor i
  match c.lock with
  | .null =>
    let lock ← made (.inert (.known "Lock"))
    setCursor i { c with lock }
    return lock
  | lock => return lock

/-- Takes the lock of a cursor, by the function that it has for that; only a lock can be taken. -/
def takeLock (d : Dispatch) (self : Value) (i : Nat) : Act Unit := do
  match ← callOr d .never self (.known "BaseCursor") "_pull_lock" [] [] (lockOf i) with
  | .object _ (.inert (.known "Lock")) => return
  | v =>
    throw (.typed .type "'" v "' object does not support the asynchronous context manager protocol")

/-- What a source was given to hold in the place of a list of results. -/
def heldInstead? (s : Nat) : Act (Option Value) := do
  return (← get).extraOf? (.handle (.source s)) "results"

/-- The first of what is held in the place of a list; only a dictionary has something to give. -/
def pullInstead (s : Nat) (v : Value) : Act Value := do
  unless v.truthy do throw (.raised .exhausted "")
  match v with
  | .dict es =>
    let (first, rest) ← ofExcept (Container.call (.dict es) "pop" [.int 0] [])
    setExtra (.handle (.source s)) "results" rest
    return first
  | v => throw (v.lacks "pop")

/-- The next document of a source, none at its end. -/
def pullSource (s : Nat) : Act Value := do
  let (after, result) := (← source s).pull
  setSource s after
  let found ← ofExcept result
  match ← heldInstead? s, found with
  | some v, _ => pullInstead s v
  | none, some v => return v
  | none, none => throw (.raised .exhausted "")

/-- Whatever a source holds; it holds an empty list after that. -/
def drainSource (s : Nat) : Act Value := do
  let (after, result) := (← source s).drain
  setSource s after
  let found ← ofExcept result
  match ← heldInstead? s with
  | some v =>
    dropExtra (.handle (.source s)) "results"
    return v
  | none => return .list found

/-- Whether a source is asked in its own way, and for a list of results. -/
def asksPlainly (native : Value) (name : String) : Act Bool := do
  let st ← get
  return st.usual native (.known "MockCursor") name && (st.extraOf? native "results").isNone

def noteExhausted (self : Value) : Act Unit :=
  note .debug .cursor fun st => s!"{st.typeName self} exhausted"

/-- The next item, null once there is none. -/
def next (d : Dispatch) (i : Nat) : Act Value := do
  let self := Value.handle (.cursor (← cursor i).kind i)
  takeLock d self i
  match (← cursor i).state with
  | .exhausted => return .null
  | _ =>
    let native ← handleOfCursor d self i
    let c ← cursor i
    match native, ← asksPlainly native "next" with
    | .handle (.source s), true =>
      let ((after, s'), result) := c.pull (← source s)
      setCursor i after
      setSource s s'
      match ← ofExcept result with
      | some stored => delivered d self after stored
      | none =>
        noteExhausted self
        return .null
    | native, _ =>
      let found ← tryCatch (d.call .always native "next" [] []) fun e =>
        if e.kind = .exhausted then pure .null else throw e
      match found with
      | .null =>
        setCursor i { (← cursor i) with state := .exhausted }
        noteExhausted self
        return .null
      | stored =>
        setCursor i { (← cursor i) with state := .streaming }
        delivered d self c stored

def deliverAll (d : Dispatch) (self : Value) (c : Cursor) : List Value → Act (List Value)
  | [] => return []
  | x :: xs => do
    let y ← delivered d self c x
    return y :: (← deliverAll d self c xs)

def noteDrained (self : Value) (number : Nat) : Act Unit :=
  note .debug .cursor fun st => s!"{st.typeName self} drained {number} document(s)"

/-- The items of what has a length. -/
def sized (v : Value) : Act (List Value) := do
  match (← get).current v with
  | .handle _ | .object .. => throw (.typed .type "object of type '" v "' has no len()")
  | u =>
    match u.items? with
    | some xs => return xs
    | none => throw (.typed .type "object of type '" v "' has no len()")

/-- All items, if none were read yet. -/
def collectAll (d : Dispatch) (i : Nat) : Act (List Value) := do
  let self := Value.handle (.cursor (← cursor i).kind i)
  takeLock d self i
  match (← cursor i).state with
  | .exhausted => return []
  | .streaming => throw (.partlyStreamed ((← get).classOf self))
  | .idle =>
    let native ← handleOfCursor d self i
    let c ← cursor i
    match native, ← asksPlainly native "to_list" with
    | .handle (.source s), true =>
      let ((after, s'), result) := c.drain (← source s)
      setCursor i after
      setSource s s'
      let stored ← ofExcept result
      noteDrained self stored.length
      deliverAll d self after stored
    | native, _ =>
      let found ← d.call .always native "to_list" [.null] []
      setCursor i { (← cursor i) with state := .exhausted }
      let stored ← sized found
      noteDrained self stored.length
      deliverAll d self c stored

/-- The next item of a cursor, by the function that it has for that. -/
def nextItem (d : Dispatch) (cursor : Value) : Act Value := do
  let direct : Act Value :=
    match cursor with
    | .handle (.cursor _ i) => next d i
    | v => throw (v.lacks "next")
  callOr d .always cursor (.known "BaseCursor") "next" [] [] direct

/-- The items still to come, at most `limit` of them; each step uses up a document. -/
def readUpTo (d : Dispatch) (cursor : Value) :
    (steps : Nat) → (limit : Option Nat) → Act (List Value)
  | 0, _ => return []
  | _ + 1, some 0 => return []
  | n + 1, limit => do
    match ← nextItem d cursor with
    | .null => return []
    | x => return x :: (← readUpTo d cursor n (limit.map (· - 1)))

/-- How many documents all sources together can still give, from a list or from what is held in the
place of one. -/
def pendingInAll (st : Store) : Nat :=
  st.sources.foldl (fun n s => n + s.pending.length) st.extras.length

def readSome (d : Dispatch) (cursor : Value) (limit : Option Nat) : Act (List Value) := do
  readUpTo d cursor (limit.getD (pendingInAll (← get)) + 1) limit

/-- The items of a stream still to come; a stream that came to its end, or failed, gives no more. -/
def readStream (d : Dispatch) (s : Nat) (limit : Option Nat) : Act (List Value) := do
  let st ← stream s
  if st.done then return []
  let items ← tryCatch (readSome d st.cursor limit) fun e => do
    setStream s { st with done := true }
    throw e
  if limit.all fun n => items.length < n then setStream s { st with done := true }
  return items

end DocMapper.Act
