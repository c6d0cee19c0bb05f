import DocMapper.Names

/-!
What a script shows of values and objects.  An object with a name is shown by it, others by what
they hold.
-/

namespace DocMapper.Script

/-- Something shown: a value, tagged or as bare data, or named parts, or parts in a row. -/
inductive Report
  | value (v : Value)
  | bare (v : Value)
  | record (fields : List (String × Report))
  | sequence (items : List Report)
  deriving Inhabited

/-- Classes by the names that they have by now; what else shows of an object is its type. -/
def outline (st : Store) (v : Value) : Value :=
  match v with
  | .cls c => .cls (.known (st.className c))
  | .handle (.state s) => .handle (.state s)
  | v => .object none (.inert (.known (st.typeName v)))

/-- What an object without a name shows: instances what they hold, others their types. -/
def shownBy (st : Store) (h : Handle) : Option Value :=
  match h with
  | .document _ i =>
    st.documents[i]?.map fun d =>
      .object none (.document (.known (st.typeName (.handle h))) d.fields d.isNew)
  | .record .. => none
  | h => st.contents h

/-- A value with its objects replaced by what they show, unless `keep` replaces them. -/
def reveal (st : Store) (keep : Value → Option Value) : (depth : Nat) → Value → Value
  | 0, v => v
  | n + 1, v =>
    v.rebuild (fun u =>
      match keep u, u with
      | some w, _ => some w
      | none, .handle h => some (((shownBy st h).map (reveal st keep n)).getD (outline st u))
      | none, .cls c => some (outline st (.cls c))
      | none, .object i (.function cs r) => some (outline st (.object i (.function cs r)))
      | none, .object i (.bound r f) => some (outline st (.object i (.bound r f)))
      | none, .object i (.raised c m) => some (outline st (.object i (.raised c m)))
      | none, .object i (.inert c) => some (outline st (.object i (.inert c)))
      | none, .object i (.refusing m) => some (outline st (.object i (.refusing m)))
      | none, _ => none) id true

/-- A value with its objects replaced by their names, or else by what they show. -/
def present (st : Store) (ns : Names) (v : Value) : Value :=
  reveal st (fun u => (ns.nameOf? u).map fun name => .handle (.variable [name]))
    (st.population + 1) v

/-- What shows of a copy of a value: nobody in it has a name but whoever is never copied. -/
def anonymous (st : Store) (v : Value) : Value :=
  reveal st (fun
    | .cls c => some (.cls c)
    | .handle (.routine c n) => some (.handle (.routine c n))
    | .handle (.logger n) => some (.handle (.logger n))
    | .object i (.function cs r) => some (.object i (.function cs r))
    | _ => none) (st.population + 1) v

mutual

/-- A report with its values replaced, those that are shown with tags and those without. -/
def Report.map (f g : Value → Value) (r : Report) : Report :=
  match r with
  | .value v => .value (f v)
  | .bare v => .bare (g v)
  | .record fs => .record (mapFields f g fs)
  | .sequence rs => .sequence (mapItems f g rs)
termination_by structural r

def mapFields (f g : Value → Value) (fs : List (String × Report)) : List (String × Report) :=
  match fs with
  | [] => []
  | (n, r) :: fs => (n, r.map f g) :: mapFields f g fs
termination_by structural fs

def mapItems (f g : Value → Value) (rs : List Report) : List Report :=
  match rs with
  | [] => []
  | r :: rs => r.map f g :: mapItems f g rs
termination_by structural rs

end

def text (s : String) : Report := .value (.str s)

def optionsReport (o : Options) : Report :=
  .record [("sort", .value o.sort), ("skip", .value o.skip), ("limit", .value o.limit),
    ("projection", .value o.projection)]

/-- The name of whatever a builder is bound to. -/
def modelReport (st : Store) (model : Value) : Report :=
  .value ((st.nameOf? model).getD .null)

/-- What a source has been asked and still holds; nothing is known of one that is only promised. -/
def sourceReport (st : Store) (c : Cursor) : Report :=
  match c.source with
  | .handle (.source i) =>
    let s := st.sources.getD i default
    let left := match st.extraOf? c.source "results" with
      | some v => (v.items?.getD []).length
      | none => s.pending.length
    .value (.list [.int s.pulls, .int s.drains, .int left])
  | _ => .value .null

/-- A query shows copies of its criteria and its options. -/
def queryReport (st : Store) (q : Query) : Report :=
  let model := if q.kind.bindable then [("model", modelReport st q.model)] else []
  let options := q.options.mapParts (anonymous st)
  .record ([("criteria", .value (anonymous st q.toJson)), ("options", optionsReport options)] ++
    model)

def connectionReport (st : Store) (i : Nat) : Report :=
  let c := st.connections.getD i default
  let models := match c.models with
    | .handle (.space s) => Entries.keys (st.spaces.getD s [])
    | _ => []
  let closed := match c.client with
    | .handle (.client k) => (st.clients.getD k default).closed
    | _ => .null
  .record [
    ("db", .bare (st.databaseName i)),
    ("collections", .bare (.list (c.handles.items?.getD []))),
    ("models", .bare (.list models)),
    ("closed", .bare closed)]

def collectionReport (st : Store) (c : Collection) : Report :=
  .record [("name", .bare c.name), ("documents", .value (st.shelves.getD c.shelf (.list []))),
    ("calls", .value c.calls)]

/-- What is configured on a class itself. -/
def classReport (st : Store) (c : ClassRef) : Report :=
  let config := st.registry.configOf (.cls c)
  .record [("name", text (st.className c)), ("collection", .bare config.collection),
    ("own_connection", .value (.bool (Registry.isSet config.connection)))]

def stateReport (st : Store) : Value → Report
  | .handle (.query _ i) => queryReport st (st.query i)
  | .handle (.pipeline _ i) =>
    let p := st.pipelines.getD i default
    .record [("stages", .value (anonymous st p.toJson)), ("model", modelReport st p.model)]
  | .handle (.cursor _ i) =>
    let c := st.cursors.getD i default
    .record [("state", text c.state.name), ("native", sourceReport st c)]
  | .handle (.document _ i) =>
    let d := st.documents.getD i default
    .record [("fields", .value d.fields), ("is_new", .bare d.isNew)]
  | .handle (.connection i) => connectionReport st i
  | .handle (.collection i) => collectionReport st (st.collections.getD i default)
  | .handle (.database i) =>
    let d := st.databases.getD i default
    .record [("name", .bare d.name), ("get_collection_calls", .value d.requests)]
  | .cls c => classReport st c
  | v => .record [("value", .value v)]

end DocMapper.Script
