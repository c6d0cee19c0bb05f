import DocMapper.Interface
import DocMapper.Value.Order

/-!
Declared classes and what is configured on them.  A class carries its ancestors, itself first, fixed
when it is declared, and has every member that the first of them has that has it.  Its connection is
the first one configured along its ancestors; its collection is its own alone.
-/

namespace DocMapper

/-- Whoever is known by what it is and not by what it holds.  Nobody refers to a `fleeting` one, so
that nothing is kept for it. -/
inductive Holder
  | cls (c : ClassRef)
  | handle (h : Handle)
  | made (identity : Nat)
  | fleeting
  deriving DecidableEq, Inhabited

def Holder.of? : Value → Option Holder
  | .cls c => some (.cls c)
  | .handle h => some (.handle h)
  | .object (some i) _ => some (.made i)
  | _ => none

/-- What is configured on exactly one class; null is as good as nothing. -/
structure Config where
  serial : Nat
  connection : Value := .null
  collection : Value := .null
  deriving Inhabited

/-- A declared class, by the name that it was given, with the class that it is an instance of. -/
structure Declaration where
  ref : ClassRef
  name : String
  bases : List ClassRef
  ancestors : List ClassRef
  maker : ClassRef
  deriving Inhabited

namespace Linearization

/-- The first head that stands in no tail. -/
def candidate? (chains : List (List ClassRef)) : Option ClassRef :=
  chains.findSome? fun
    | [] => none
    | c :: _ => if chains.any fun d => d.tail.contains c then none else some c

def removeHead (c : ClassRef) (chain : List ClassRef) : List ClassRef :=
  if chain.head? = some c then chain.tail else chain

/-- Merges chains so that each keeps its order; none if they contradict each other. -/
def merge : (steps : Nat) → List (List ClassRef) → Option (List ClassRef)
  | 0, chains => if chains.all List.isEmpty then some [] else none
  | n + 1, chains =>
    if chains.all List.isEmpty then some []
    else do
      let c ← candidate? chains
      return c :: (← merge n (chains.map (removeHead c)))

/-- The ancestors of a class with the given bases, whose ancestors are given too. -/
def ancestors? (self : ClassRef) (bases : List (List ClassRef)) : Option (List ClassRef) :=
  let chains := bases ++ [bases.filterMap List.head?]
  (merge chains.flatten.length chains).map (self :: ·)

end Linearization

/-- Members set on classes stand before those they have by themselves, and names given to them
before those they were made with.  A detached record is nobody's, or nobody's any more, but whoever
holds it still sees what it says. -/
structure Registry where
  declarations : Array Declaration
  names : List (ClassRef × String) := []
  fullNames : List (ClassRef × String) := []
  own : List ((ClassRef × String) × Member) := []
  configs : List (Holder × Config) := []
  detached : List Config := []
  serials : Nat := 0

namespace Registry

/-- The root model alone, and nothing configured. -/
def initial : Registry where
  declarations := #[{
    ref := .root, name := "Model", bases := [.object], ancestors := [.root, .object]
    maker := .known "ModelMeta" }]

instance : Inhabited Registry := ⟨initial⟩

def declaration? (r : Registry) : ClassRef → Option Declaration
  | .known _ => none
  | .plain slot => r.declarations[slot]?
  | .model slot => r.declarations[slot]?

/-- The name that a class was made with. -/
def givenName (r : Registry) (c : ClassRef) : String :=
  match c with
  | .known n => n
  | c => ((r.declaration? c).map Declaration.name).getD ""

/-- What a class is called by now. -/
def className (r : Registry) (c : ClassRef) : String :=
  (r.names.lookup c).getD (r.givenName c)

/-- What a class is called where it is shown in full. -/
def fullClassName (r : Registry) (c : ClassRef) : String :=
  (r.fullNames.lookup c).getD (r.givenName c)

def rename (r : Registry) (c : ClassRef) (name : String) : Registry :=
  { r with names := (c, name) :: r.names.filter fun e => e.1 ≠ c }

def renameInFull (r : Registry) (c : ClassRef) (name : String) : Registry :=
  { r with fullNames := (c, name) :: r.fullNames.filter fun e => e.1 ≠ c }

/-- The class that a class is an instance of. -/
def classOfClass (r : Registry) (c : ClassRef) : ClassRef :=
  match c, r.declaration? c with
  | _, some d => d.maker
  | .known n, none => .known (Interface.metaName n)
  | _, none => .known "type"

def ancestors (r : Registry) (c : ClassRef) : List ClassRef :=
  match c, r.declaration? c with
  | _, some d => d.ancestors
  | .known n, none => (Interface.lineage n).map .known
  | c, none => [c, .object]

/-- The classes that a class was declared under. -/
def bases (r : Registry) (c : ClassRef) : List ClassRef :=
  match c, r.declaration? c with
  | _, some d => d.bases
  | .known n, none => (Interface.bases n).map .known
  | _, none => []

def isSubclass (r : Registry) (c d : ClassRef) : Bool :=
  (r.ancestors c).contains d

/-- What a class has under a name by itself. -/
def ownMember? (r : Registry) (c : ClassRef) (name : String) : Option Member :=
  (r.own.lookup (c, name)).or (Interface.member? c name)

/-- What the first ancestor has that has anything under a name, and that ancestor. -/
def member? (r : Registry) (c : ClassRef) (name : String) : Option (ClassRef × Member) :=
  (r.ancestors c).findSome? fun d => (r.ownMember? d name).map (d, ·)

def setMember (r : Registry) (c : ClassRef) (name : String) (m : Member) : Registry :=
  { r with own := ((c, name), m) :: r.own.filter fun e => e.1 ≠ (c, name) }

/-- The first ancestor that says how instances are made. -/
def maker? (r : Registry) (c : ClassRef) : Option Method :=
  (r.ancestors c).findSome? fun
    | .known n => Interface.maker? n
    | d => if d = .root then Interface.maker? "Model" else none

def config? (r : Registry) (h : Holder) : Option Config :=
  r.configs.lookup h

/-- The record of a holder, an empty one if it has none. -/
def configOf (r : Registry) (h : Holder) : Config :=
  (r.config? h).getD { serial := r.serials }

def putConfig (r : Registry) (h : Holder) (config : Config) : Registry :=
  match h, r.config? h with
  | .fleeting, _ => r
  | h, some _ =>
    { r with configs := r.configs.map fun e => if e.1 = h then (h, config) else e }
  | h, none => { r with configs := r.configs ++ [(h, config)], serials := r.serials + 1 }

/-- A record that belongs to nobody. -/
def detach (r : Registry) (connection collection : Value) : Registry :=
  { r with
    detached := { serial := r.serials, connection, collection } :: r.detached
    serials := r.serials + 1 }

/-- Looking a record up creates it; its serial number, too. -/
def record (r : Registry) (h : Holder) : Nat × Registry :=
  match h with
  | .fleeting => (r.serials, r.detach .null .null)
  | h =>
    let config := r.configOf h
    (config.serial, r.putConfig h config)

def clear (r : Registry) (h : Holder) : Registry :=
  { r with
    configs := r.configs.filter fun e => e.1 ≠ h
    detached := (r.config? h).toList ++ r.detached }

/-- A record by its serial number, whether it is still in use or not. -/
def recordWith? (r : Registry) (serial : Nat) : Option Config :=
  (r.configs.map Prod.snd ++ r.detached).find? fun c => c.serial = serial

/-- A change of the record with a serial number, wherever it is. -/
def changeRecord (r : Registry) (serial : Nat) (f : Config → Config) : Registry :=
  let change (c : Config) : Config := if c.serial = serial then f c else c
  { r with
    configs := r.configs.map fun e => (e.1, change e.2)
    detached := r.detached.map change }

/-- Who a record can be kept for: nobody that is known only by what it holds. -/
def holderOf (v : Value) : Except Fault Holder :=
  let anchored := match v.ofClass with
    | .known n => Interface.isAnchored n
    | _ => false
  if anchored then .error (.typed .type "cannot create weak reference to '" v "' object")
  else
    match v.unhashable?, Holder.of? v with
    | none, some h => .ok h
    | none, none => .ok .fleeting
    | some u, _ => .error (.unhashable u)

/-- Gives a class a connection; `cls` is the class of what is given. -/
def setConnection (r : Registry) (target v : Value) (cls : ClassRef) : Except Fault Registry := do
  unless r.isSubclass cls (.known "BaseConnection") do throw (.notConnection target v)
  let h ← holderOf target
  return r.putConfig h { r.configOf h with connection := v }

def isSet : Value → Bool
  | .null => false
  | _ => true

def connection (r : Registry) (c : ClassRef) : Except Fault Value :=
  let configured (d : ClassRef) : Option Value :=
    ((r.config? (.cls d)).map Config.connection).filter isSet
  match (r.ancestors c).findSome? configured with
  | some v => .ok v
  | none => .error (.noConnection (.cls c))

/-- What is abstract takes no collection. -/
def setCollection (r : Registry) (abstract : Bool) (target v : Value) : Except Fault Registry := do
  if abstract then throw .abstractCollection
  match v with
  | .str "" => throw (.collectionEmpty target)
  | .str name =>
    let h ← holderOf target
    return r.putConfig h { r.configOf h with collection := .str name }
  | v => throw (.collectionType target v)

def collection (r : Registry) (target : Value) : Except Fault Value := do
  let h ← holderOf target
  match ((r.config? h).map Config.collection).filter Value.truthy with
  | some v => return v
  | none => throw (.noCollection target)

/-- The class of a class under bases of the given classes: one that refines all of theirs. -/
def commonMaker (r : Registry) (makers : List ClassRef) : Option ClassRef :=
  makers.foldlM (fun winner m =>
    if r.isSubclass winner m then some winner
    else if r.isSubclass m winner then some m
    else none) (.known "type")

/-- Declares a class anew under other bases, together with the classes that refine it. -/
def rebase (r : Registry) (c : ClassRef) (bases : List ClassRef) : Except Fault Registry := do
  if bases.any fun b => (r.ancestors b).contains c then
    throw (.raised .type "a __bases__ item causes an inheritance cycle")
  if let some b := bases.find? fun b => 1 < bases.count b then throw (.duplicateBase b)
  let placed (r : Registry) (d : Declaration) (bases : List ClassRef) : Except Fault Registry :=
    match Linearization.ancestors? d.ref (bases.map r.ancestors) with
    | some ancestors =>
      let change (e : Declaration) := if e.ref = d.ref then { d with bases, ancestors } else e
      .ok { r with declarations := r.declarations.map change }
    | none => .error (.unmergeable bases)
  let some own := r.declaration? c | return r
  let refining := r.declarations.toList.filter fun d => d.ref ≠ c && d.ancestors.contains c
  refining.foldlM (fun r d => placed r d d.bases) (← placed r own bases)

/-- Declares a class under its bases; it is a model if any of them is. -/
def declare (r : Registry) (name : String) (bases : List ClassRef)
    (members : List (String × Member)) : Except Fault (ClassRef × Registry) := do
  let slot := r.declarations.size
  let ref : ClassRef := if bases.any ClassRef.isModel then .model slot else .plain slot
  let some maker := r.commonMaker (bases.map r.classOfClass)
    | throw (.raised .type ("metaclass conflict: the metaclass of a derived class must be a " ++
        "(non-strict) subclass of the metaclasses of all its bases"))
  if name.contains '\x00' then
    throw (.raised .value "type name must not contain null characters")
  if let some b := bases.find? fun b => 1 < bases.count b then throw (.duplicateBase b)
  let some ancestors := Linearization.ancestors? ref (bases.map r.ancestors)
    | throw (.unmergeable bases)
  return (ref, { r with
    declarations := r.declarations.push { ref, name, bases, ancestors, maker }
    own := ((members ++ undocumented).map fun m => ((ref, m.1), m.2)) ++ r.own })
where
  undocumented : List (String × Member) := [("__doc__", .value .null)]

end Registry

end DocMapper
