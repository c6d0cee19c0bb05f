import DocMapper.Store.Basic

/-!
Copies.  A copy of a value shares nothing that can change with it: everything that the value leads
to is there a second time, in records of its own, and what was one object twice is one object twice
again.  Classes and functions are not copied, and plain data is its own copy: `cloned_plain`.
-/

namespace DocMapper

/-- Entries with their keys and values replaced. -/
def Entries.mapBoth (f : Value → Value) (es : Entries) : Entries :=
  es.map fun e => (f e.1, f e.2)

/-- The values that entries are made of. -/
def Entries.parts (es : Entries) : List Value :=
  es.flatMap fun e => [e.1, e.2]

namespace Options

def parts (o : Options) : List Value :=
  [o.sort, o.skip, o.limit, o.projection]

def mapParts (f : Value → Value) (o : Options) : Options :=
  ⟨f o.sort, f o.skip, f o.limit, f o.projection⟩

end Options

namespace Query

def parts (q : Query) : List Value :=
  q.model :: q.held :: (q.instead.toList ++ Entries.parts q.criteria ++ q.options.parts)

def mapParts (f : Value → Value) (q : Query) : Query :=
  { q with
    criteria := Entries.mapBoth f q.criteria, options := q.options.mapParts f, model := f q.model
    held := f q.held, instead := q.instead.map f }

end Query

namespace Pipeline

def parts (p : Pipeline) : List Value :=
  p.model :: (p.instead.toList ++ p.stages)

def mapParts (f : Value → Value) (p : Pipeline) : Pipeline :=
  { p with stages := p.stages.map f, model := f p.model, instead := p.instead.map f }

end Pipeline

namespace Document

def parts (d : Document) : List Value :=
  [d.fields, d.isNew]

def mapParts (f : Value → Value) (d : Document) : Document :=
  { d with fields := f d.fields, isNew := f d.isNew }

end Document

namespace Cursor

def parts (c : Cursor) : List Value :=
  [c.source, c.model, c.hydrate, c.lock]

def mapParts (f : Value → Value) (c : Cursor) : Cursor :=
  { c with
    source := f c.source, model := f c.model, hydrate := f c.hydrate, lock := f c.lock }

end Cursor

namespace Source

def parts (s : Source) : List Value :=
  s.error :: s.pending

def mapParts (f : Value → Value) (s : Source) : Source :=
  { s with pending := s.pending.map f, error := f s.error }

end Source

namespace Connection

def parts (c : Connection) : List Value :=
  [c.client, c.factory, c.database, c.handles, c.models]

def mapParts (f : Value → Value) (c : Connection) : Connection :=
  { c with
    client := f c.client, factory := f c.factory, database := f c.database
    handles := f c.handles, models := f c.models }

end Connection

namespace Client

def parts (c : Client) : List Value :=
  [c.data, c.databases, c.closed]

def mapParts (f : Value → Value) (c : Client) : Client :=
  { c with data := f c.data, databases := f c.databases, closed := f c.closed }

end Client

namespace Database

def parts (d : Database) : List Value :=
  [d.name, d.data, d.requests]

def mapParts (f : Value → Value) (d : Database) : Database :=
  { d with name := f d.name, data := f d.data, requests := f d.requests }

end Database

namespace Collection

def parts (c : Collection) : List Value :=
  [c.name, .handle (.shelf c.shelf), c.results, c.calls]

/-- A shelf gives way to a shelf. -/
def mapParts (f : Value → Value) (c : Collection) : Collection :=
  let shelf := match f (.handle (.shelf c.shelf)) with
    | .handle (.shelf i) => i
    | _ => c.shelf
  { c with name := f c.name, shelf, results := f c.results, calls := f c.calls }

end Collection

namespace Config

def parts (c : Config) : List Value :=
  [c.connection, c.collection]

def mapParts (f : Value → Value) (c : Config) : Config :=
  { c with connection := f c.connection, collection := f c.collection }

end Config

namespace Value

mutual

/-- The objects that a value mentions; what a function mentions is its own affair. -/
def holders (v : Value) : List Holder :=
  match v with
  | .list xs => holdersOfItems xs
  | .tuple xs => holdersOfItems xs
  | .set xs => holdersOfItems xs
  | .frozenSet xs => holdersOfItems xs
  | .dict es => holdersOfEntries es
  | .mapping es => holdersOfEntries es
  | .handle h => [.handle h]
  | .object none s => holdersOfShape s
  | .object (some i) s => .made i :: holdersOfShape s
  | _ => []
termination_by structural v

def holdersOfItems (xs : List Value) : List Holder :=
  match xs with
  | [] => []
  | x :: xs => holders x ++ holdersOfItems xs
termination_by structural xs

def holdersOfEntries (es : List (Value × Value)) : List Holder :=
  match es with
  | [] => []
  | (k, v) :: es => holders k ++ holders v ++ holdersOfEntries es
termination_by structural es

def holdersOfShape (s : Shape) : List Holder :=
  match s with
  | .record _ _ es => holdersOfEntries es
  | .bound r f => holders r ++ holders f
  | .document _ v n => holders v ++ holders n
  | .options ⟨a, b, c, d⟩ => holders a ++ holders b ++ holders c ++ holders d
  | .config a b => holders a ++ holders b
  | .namespaced es => holdersOfEntries es
  | _ => []
termination_by structural s

end

theorem holdersOfItems_eq_flatMap (xs : List Value) :
    holdersOfItems xs = xs.flatMap holders := by
  induction xs with
  | nil => rfl
  | cons x xs ih => simp [holdersOfItems, ih]

theorem holdersOfEntries_eq_flatMap (es : List (Value × Value)) :
    holdersOfEntries es = es.flatMap fun e => holders e.1 ++ holders e.2 := by
  induction es with
  | nil => rfl
  | cons e es ih => simp [holdersOfEntries, ih]

/-- Plain data mentions no objects. -/
theorem holders_plain {v : Value} (h : Plain v) : v.holders = [] := by
  induction h with
  | list xs _ ih => simpa [holders, holdersOfItems_eq_flatMap] using ih
  | tuple xs _ ih => simpa [holders, holdersOfItems_eq_flatMap] using ih
  | set xs _ ih => simpa [holders, holdersOfItems_eq_flatMap] using ih
  | frozenSet xs _ ih => simpa [holders, holdersOfItems_eq_flatMap] using ih
  | dict es _ _ ihk ihv =>
    simp only [holders, holdersOfEntries_eq_flatMap, List.flatMap_eq_nil_iff,
      List.append_eq_nil_iff]
    exact fun e he => ⟨ihk e he, ihv e he⟩
  | mapping es _ _ ihk ihv =>
    simp only [holders, holdersOfEntries_eq_flatMap, List.flatMap_eq_nil_iff,
      List.append_eq_nil_iff]
    exact fun e he => ⟨ihk e he, ihv e he⟩
  | _ => rfl

end Value

namespace Store

/-- What the record behind a handle is made of. -/
def parts (st : Store) : Handle → List Value
  | .query _ i => .handle (.queryOptions i) :: (st.queries.getD i default).parts
  | .queryOptions i => (st.queries.getD i default).options.parts
  | .pipeline _ i => (st.pipelines.getD i default).parts
  | .options i => (st.options.getD i default).parts
  | .document _ i => (st.documents.getD i default).parts
  | .record _ _ i => Entries.parts (st.records.getD i [])
  | .cursor _ i => (st.cursors.getD i default).parts
  | .source i => (st.sources.getD i default).parts
  | .connection i => (st.connections.getD i default).parts
  | .space i => Entries.parts (st.spaces.getD i [])
  | .client i => (st.clients.getD i default).parts
  | .database i => (st.databases.getD i default).parts
  | .collection i => (st.collections.getD i default).parts
  | .shelf i => [st.shelves.getD i (.list [])]
  | .stock i => Entries.parts (st.stocks.getD i [])
  | .config serial => ((st.registry.recordWith? serial).getD { serial }).parts
  | _ => []

/-- The record behind a handle with its parts replaced. -/
def mapParts (st : Store) (f : Value → Value) : Handle → Store
  | .query _ i => { st with queries := st.queries.modify i (Query.mapParts f) }
  | .pipeline _ i => { st with pipelines := st.pipelines.modify i (Pipeline.mapParts f) }
  | .options i => { st with options := st.options.modify i (Options.mapParts f) }
  | .document _ i => { st with documents := st.documents.modify i (Document.mapParts f) }
  | .record _ _ i => { st with records := st.records.modify i (Entries.mapBoth f) }
  | .cursor _ i => { st with cursors := st.cursors.modify i (Cursor.mapParts f) }
  | .source i => { st with sources := st.sources.modify i (Source.mapParts f) }
  | .connection i => { st with connections := st.connections.modify i (Connection.mapParts f) }
  | .space i => { st with spaces := st.spaces.modify i (Entries.mapBoth f) }
  | .client i => { st with clients := st.clients.modify i (Client.mapParts f) }
  | .database i => { st with databases := st.databases.modify i (Database.mapParts f) }
  | .collection i => { st with collections := st.collections.modify i (Collection.mapParts f) }
  | .shelf i => { st with shelves := st.shelves.modify i f }
  | .stock i => { st with stocks := st.stocks.modify i (Entries.mapBoth f) }
  | .config serial =>
    { st with registry := st.registry.changeRecord serial (Config.mapParts f) }
  | _ => st

/-- Everything that an object refers to: what it is made of, and what was set on it. -/
def references (st : Store) (h : Holder) : List Value :=
  let extras := (st.extras.filter fun e => e.1.1 = h).map Prod.snd
  match h with
  | .handle h => st.parts h ++ extras
  | _ => extras

/-- The objects that one leads to, in the order in which they are met, after those met before. -/
def visit (st : Store) : (depth : Nat) → (met : List Holder) → Holder → List Holder
  | 0, met, _ => met
  | n + 1, met, h =>
    if met.contains h then met
    else ((st.references h).flatMap Value.holders).foldl (st.visit n) (met ++ [h])

/-- Every object that a value leads to. -/
def reachable (st : Store) (v : Value) : List Holder :=
  v.holders.foldl (st.visit (st.population + 1)) []

/-- Objects in the middle of what they do cannot be copied. -/
def isUncopyable : Holder → Bool
  | .handle (.promise _) | .handle (.stream _) => true
  | _ => false

/-- Why a value cannot be copied. -/
def uncopyable? (st : Store) (v : Value) : Option Fault :=
  ((st.reachable v).find? isUncopyable).map fun h =>
    let v := match h with
      | .handle h => .handle h
      | _ => .null
    .typed .type "cannot pickle '" v "' object"

/-- What stands for an object in a copy: pairs of old and new. -/
abbrev Counterparts := List (Holder × Holder)

/-- A value with every object in it replaced by its counterpart. -/
def renamed (cs : Counterparts) (v : Value) : Value :=
  v.rebuild
    (fun
      | .handle h =>
        match cs.lookup (.handle h) with
        | some (.handle k) => some (.handle k)
        | _ => some (.handle h)
      | .object i (.refusing m) => some (.object i (.refusing m))
      | _ => none)
    (fun i =>
      match i with
      | none => none
      | some n =>
        match cs.lookup (.made n) with
        | some (.made m) => some m
        | _ => some n)
    true

/-- A second record like the one behind a handle, if there is anything to copy. -/
def duplicate (st : Store) : Handle → Option (Handle × Store)
  | .query k i =>
    some (.query k st.queries.size,
      { st with queries := st.queries.push (st.queries.getD i default) })
  | .queryOptions i =>
    some (.options st.options.size,
      { st with options := st.options.push (st.queries.getD i default).options })
  | .pipeline c i =>
    some (.pipeline c st.pipelines.size,
      { st with pipelines := st.pipelines.push (st.pipelines.getD i default) })
  | .options i =>
    some (.options st.options.size,
      { st with options := st.options.push (st.options.getD i default) })
  | .document c i =>
    some (.document c st.documents.size,
      { st with documents := st.documents.push (st.documents.getD i default) })
  | .record k c i =>
    some (.record k c st.records.size,
      { st with records := st.records.push (st.records.getD i []) })
  | .individual c _ =>
    some (.individual c st.individuals, { st with individuals := st.individuals + 1 })
  | .cursor k i =>
    some (.cursor k st.cursors.size,
      { st with cursors := st.cursors.push (st.cursors.getD i default) })
  | .source i =>
    some (.source st.sources.size,
      { st with sources := st.sources.push (st.sources.getD i default) })
  | .connection i =>
    some (.connection st.connections.size,
      { st with connections := st.connections.push (st.connections.getD i default) })
  | .space i =>
    some (.space st.spaces.size, { st with spaces := st.spaces.push (st.spaces.getD i []) })
  | .client i =>
    some (.client st.clients.size,
      { st with clients := st.clients.push (st.clients.getD i default) })
  | .database i =>
    some (.database st.databases.size,
      { st with databases := st.databases.push (st.databases.getD i default) })
  | .collection i =>
    some (.collection st.collections.size,
      { st with collections := st.collections.push (st.collections.getD i default) })
  | .shelf i =>
    some (.shelf st.shelves.size,
      { st with shelves := st.shelves.push (st.shelves.getD i (.list [])) })
  | .stock i =>
    some (.stock st.stocks.size, { st with stocks := st.stocks.push (st.stocks.getD i []) })
  | .config serial =>
    let c := (st.registry.recordWith? serial).getD { serial }
    some (.config st.registry.serials,
      { st with registry := st.registry.detach c.connection c.collection })
  | _ => none

/-- An object of the class that another one is refined to, if it is. -/
def refineLike (st : Store) (h k : Handle) : Store :=
  match st.refined.lookup h with
  | some c => { st with refined := (k, c) :: st.refined }
  | none => st

/-- The options that belong to a query's counterpart, if the query has one. -/
def counterpartOptions (cs : Counterparts) (i : Nat) : Option Handle :=
  cs.findSome? fun
    | (.handle (.query _ j), .handle (.query _ k)) => if i = j then some (.queryOptions k) else none
    | _ => none

/-- Gives an object a counterpart. -/
def accompany (acc : Counterparts × Store) (h : Holder) : Counterparts × Store :=
  let (cs, st) := acc
  match h with
  | .handle (.queryOptions i) =>
    match counterpartOptions cs i, st.duplicate (.queryOptions i) with
    | some k, _ => ((h, .handle k) :: cs, st)
    | none, some (k, st) => ((h, .handle k) :: cs, st)
    | none, none => acc
  | .handle k =>
    match st.duplicate k with
    | some (l, st) => ((h, .handle l) :: cs, st.refineLike k l)
    | none => acc
  | .made _ =>
    ((h, .made st.identities) :: cs, { st with identities := st.identities + 1 })
  | _ => acc

/-- The record of a counterpart with counterparts in it. -/
def adapt (cs : Counterparts) (st : Store) : Holder × Holder → Store
  | (_, .handle h) => st.mapParts (renamed cs) h
  | _ => st

/-- What was set on objects, set on their counterparts as well. -/
def spread (cs : Counterparts) (st : Store) : Store :=
  let copied := st.extras.filterMap fun e =>
    (cs.lookup e.1.1).map fun h => ((h, e.1.2), renamed cs e.2)
  { st with extras := copied ++ st.extras }

/-- A copy of a value, and the store with all that is in the copy. -/
def cloned (st : Store) (v : Value) : Value × Store :=
  match st.reachable v with
  | [] => (v, st)
  | hs =>
    let (cs, st) := hs.foldl accompany ([], st)
    (renamed cs v, spread cs (cs.foldl (adapt cs) st))

theorem reachable_plain (st : Store) {v : Value} (h : v.Plain) : st.reachable v = [] := by
  simp [reachable, Value.holders_plain h]

theorem uncopyable?_plain (st : Store) {v : Value} (h : v.Plain) : st.uncopyable? v = none := by
  simp [uncopyable?, reachable_plain st h]

/-- Plain data is its own copy. -/
theorem cloned_plain (st : Store) {v : Value} (h : v.Plain) : st.cloned v = (v, st) := by
  simp [cloned, reachable_plain st h]

end Store

end DocMapper
