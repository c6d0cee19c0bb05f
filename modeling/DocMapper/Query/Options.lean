import DocMapper.Value.Sequence

/-!
The options of a query as arguments of the calls that run it.  A search takes all that are set; a
count takes the window alone, where a limit of zero means none.
-/

namespace DocMapper.Options

def isSet : Value → Bool
  | .null => false
  | _ => true

/-- The order as a list of pairs, if it orders by anything. -/
def sortPairs (sort : Value) : Except Fault (List Value) :=
  match sort.entries? with
  | some es => .ok (es.map fun e => .tuple [e.1, e.2])
  | none => .error (sort.noMapping "items" [])

def sortArgument (o : Options) : Except Fault Entries :=
  if o.sort.truthy then do return [(.str "sort", .list (← sortPairs o.sort))]
  else .ok []

def skipArgument (o : Options) : Entries :=
  if isSet o.skip then [(.str "skip", o.skip)] else []

def projectionArgument (o : Options) : Except Fault Entries :=
  if isSet o.projection then do return [(.str "projection", .list (← o.projection.items))]
  else .ok []

def findArguments (o : Options) : Except Fault Entries := do
  let sort ← o.sortArgument
  let limit := if isSet o.limit then [(.str "limit", o.limit)] else []
  return sort ++ o.skipArgument ++ limit ++ (← o.projectionArgument)

def countArguments (o : Options) : Entries :=
  o.skipArgument ++ if o.limit.truthy then [(.str "limit", o.limit)] else []

@[simp] theorem findArguments_empty : Options.empty.findArguments = .ok [] := rfl

@[simp] theorem countArguments_empty : Options.empty.countArguments = [] := rfl

end DocMapper.Options
