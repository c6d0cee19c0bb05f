import DocMapper.Pipeline.Nested

/-!
Results of builders and cursors, waited for or walked over.  A builder executes itself first; a
query that is bound to no models cannot.
-/

namespace DocMapper.Act

/-- Has a builder execute itself, by the function that it has for that. -/
def executed (d : Dispatch) (v : Value) : Act Value := do
  match v with
  | .handle (.query ..) =>
    callOr d .never v (.known "ModelQuery") "execute" [] [] (execute d v [])
  | .handle (.pipeline ..) =>
    callOr d .never v pipelineClass "execute" [] [] (executePipeline d v [])
  | v => d.call .never v "execute" [] []

/-- All items of a cursor, by the function that it has for that. -/
def collected (d : Dispatch) (cursor : Value) : Act Value := do
  if (← get).usual cursor (.known "BaseCursor") "collect_all" then
    match cursor with
    | .handle (.cursor _ i) => return .list (← collectAll d i)
    | v => throw (v.lacks "collect_all")
  else
    let given ← d.call .never cursor "collect_all" [] []
    if given.isAwaitable then awaited d given else throw (given.lacks "__await__")

/-- All results of a builder or a cursor, or what was promised. -/
def wait (d : Dispatch) (v : Value) : Act Value := do
  match v with
  | .handle (.promise p) => keepPromise d p
  | .handle (.cursor ..) => collected d v
  | v => if v.isAwaitable then collected d (← executed d v) else throw (.unawaitable v)

/-- Whether items come from an object one by one. -/
def givesItems : Value → Bool
  | .handle (.cursor ..) => true
  | .handle (.stream _) => true
  | _ => false

/-- What gives the results of a builder, a cursor or a stream one by one. -/
def walkOver (d : Dispatch) (v : Value) : Act Value := do
  if givesItems v then return v
  else if v.isAwaitable && !(v matches .handle (.promise _)) then
    let source ← executed d v
    if givesItems source then return source else d.call .never source "__aiter__" [] []
  else throw (.typed .type "'async for' requires an object with __aiter__ method, got " v "")

/-- The results of a builder, a cursor or a stream one by one, as many as are wanted. -/
def iterate (d : Dispatch) (v : Value) (limit : Option Nat) : Act Value := do
  match ← walkOver d v with
  | .handle (.stream i) => return .list (← readStream d i limit)
  | source =>
    if givesItems source then return .list (← readSome d source limit)
    else
      throw (.typed .type ("'async for' received an object from __aiter__ that does not " ++
        "implement __anext__: ") source "")

end DocMapper.Act
