import DocMapper.Proofs.Touching
import DocMapper.Proofs.Updating

/-!
What deals with the models of one connection come to.  A ledger has the documents that stand under
each name and the instances that were given, and nothing else; what a deal answers and what it leaves
is read off these.
-/

namespace DocMapper

/-- What is done with the models that a connection shows, and with the instances that they gave, which
are told by their place. -/
inductive Deal
  | create (name : String) (fields : Entries)
  | edit (place : Nat) (fields : Entries)
  | save (place : Nat) (generated : Nat)
  | find (name : String) (criteria : Value)
  | count (name : String) (criteria : Value)
  | findById (name : String) (id : Value)

/-- An instance of an attached class, with what it is stored as. -/
structure Instance where
  kind : Attached
  fields : Entries
  form : Except Fault Entries
  isNew : Bool

namespace Instance

def document (x : Instance) : Document := ⟨x.kind.cls, .dict x.fields, .bool x.isNew⟩

def shown (x : Instance) : Value := .object none (.document x.kind.cls (.dict x.fields) (.bool x.isNew))

/-- A stored document as an instance. -/
def wrapping (m : Attached) (x : Value) : Instance where
  kind := m
  fields := x.entries?.getD []
  form := .ok ((x.entries?.getD []).map fun e => (e.1, e.2.flat))
  isNew := false

end Instance

/-- The documents under a name. -/
def Entries.documents (data : Entries) (name : String) : List Value :=
  match data.field? name with
  | some (.list ds) => ds
  | _ => []

structure Ledger where
  data : Entries
  instances : List Instance

namespace Ledger

def touched (l : Ledger) (name : String) : Ledger := { l with data := l.data.touched name }

def storing (l : Ledger) (name : String) (ds : List Value) : Ledger :=
  { l with data := l.data.put (.str name) (.list ds) }

def giving (l : Ledger) (xs : List Instance) : Ledger := { l with instances := l.instances ++ xs }

def revising (l : Ledger) (place : Nat) (x : Instance) : Ledger :=
  { l with instances := l.instances.set place x }

/-- A new instance is stored under its id, or else under the one that is generated, and takes that. -/
def insert (l : Ledger) (place generated : Nat) (x : Instance) (es : Entries) : Ledger :=
  let key := (es.field? "_id").getD (generatedId (generated + 1))
  let l := l.touched x.kind.collection
  (l.storing x.kind.collection
    (l.data.documents x.kind.collection ++ [.dict (es.keyed key)])).revising place
      { x with fields := x.fields.keyed key, form := .ok (es.keyed key), isNew := false }

/-- The document that the id of an instance selects takes what the instance is stored as. -/
def update (l : Ledger) (x : Instance) (es : Entries) : Except Fault Value × Ledger :=
  let l := l.touched x.kind.collection
  match x.fields.field? "_id" with
  | none => (.error (.noKey (.str "_id")), l)
  | some id =>
    match revised (l.data.documents x.kind.collection) id es.withoutKey with
    | .error e => (.error e, l)
    | .ok ds => (.ok .null, l.storing x.kind.collection ds)

def save (l : Ledger) (place generated : Nat) (x : Instance) : Except Fault Value × Ledger :=
  match x.kind.required.find? fun name => (x.fields.field? name).isNone, x.form with
  | some name, _ => (.error (.missing name), l)
  | none, .error e => (.error e, l)
  | none, .ok es =>
    if x.isNew then (.ok .null, l.insert place generated x es) else l.update x es

/-- What a search for criteria finds. -/
def select (l : Ledger) (m : Attached) (criteria : Entries) : Except Fault (List Value) :=
  Criteria.select (.dict criteria) ((l.data.touched m.collection).documents m.collection)

def find (l : Ledger) (m : Attached) (criteria : Value) : Except Fault Value × Ledger :=
  match Query.start .bound criteria (.cls m.cls) with
  | .error e => (.error e, l)
  | .ok q =>
    match l.select m q.criteria with
    | .error e => (.error e, l.touched m.collection)
    | .ok found =>
      let xs := found.map (Instance.wrapping m)
      (.ok (.list (xs.map Instance.shown)), (l.touched m.collection).giving xs)

def count (l : Ledger) (m : Attached) (criteria : Value) : Except Fault Value × Ledger :=
  match Query.start .bound criteria (.cls m.cls) with
  | .error e => (.error e, l)
  | .ok q =>
    ((l.select m q.criteria).map fun found => .int found.length, l.touched m.collection)

/-- The first that a search finds, or else a fault. -/
def first (l : Ledger) (m : Attached) (criteria : Entries) (missing : Fault) :
    Except Fault Value × Ledger :=
  match l.select m criteria with
  | .error e => (.error e, l.touched m.collection)
  | .ok [] => (.error missing, l.touched m.collection)
  | .ok (x :: _) =>
    (.ok (Instance.wrapping m x).shown, (l.touched m.collection).giving [.wrapping m x])

def findById (l : Ledger) (m : Attached) (id : Value) : Except Fault Value × Ledger :=
  let key := Act.searchKey id
  l.first m [(.str "_id", key)] (.notFound m.cls key)

section

variable (models : String → Option Attached) (space : Nat) (turn : Entries → Except Fault Entries)

/-- What is done with the model of a name, if there is one. -/
def withModel (l : Ledger) (name : String) (f : Attached → Except Fault Value × Ledger) :
    Except Fault Value × Ledger :=
  match models name with
  | some m => f m
  | none => (.error ((Value.handle (.space space)).lacks name), l)

/-- What is done with the instance at a place, if there is one. -/
def withInstance (l : Ledger) (place : Nat) (f : Instance → Except Fault Value × Ledger) :
    Except Fault Value × Ledger :=
  match l.instances[place]? with
  | some x => f x
  | none => (.ok .null, l)

/-- What a deal answers, and what is in the ledger after it; `turn` says what fields are stored as. -/
def step (l : Ledger) : Deal → Except Fault Value × Ledger
  | .create name fields => withModel models space l name fun m =>
    let x : Instance := ⟨m, fields, turn fields, true⟩
    (.ok x.shown, l.giving [x])
  | .edit place fields => withInstance l place fun x =>
    (.ok .null, l.revising place { x with fields, form := turn fields })
  | .save place generated => withInstance l place (l.save place generated)
  | .find name criteria => withModel models space l name fun m => l.find m criteria
  | .count name criteria => withModel models space l name fun m => l.count m criteria
  | .findById name id => withModel models space l name fun m => l.findById m id

/-- A class that the models of a connection or the given instances are of. -/
def Uses (l : Ledger) (m : Attached) : Prop :=
  (∃ name, models name = some m) ∨ ∃ x ∈ l.instances, x.kind = m

variable {models space turn} {l : Ledger} {m used : Attached} {place : Nat}

theorem uses_giving {xs : List Instance} (named : ∃ name, models name = some m)
    (kinds : ∀ x ∈ xs, x.kind = m) (uses : (l.giving xs).Uses models used) : l.Uses models used := by
  rcases uses with named | ⟨x, member, rfl⟩
  · exact .inl named
  · rcases List.mem_append.mp member with member | member
    · exact .inr ⟨x, member, rfl⟩
    · exact .inl (kinds x member ▸ named)

theorem uses_revising {x y : Instance} (uses : (l.revising place y).Uses models m)
    (there : l.instances[place]? = some x) (kind : y.kind = x.kind) : l.Uses models m := by
  rcases uses with named | ⟨z, member, rfl⟩
  · exact .inl named
  · rcases List.mem_or_eq_of_mem_set member with member | rfl
    · exact .inr ⟨z, member, rfl⟩
    · exact .inr ⟨x, List.mem_of_getElem? there, kind.symm⟩

theorem uses_save {x : Instance} {generated : Nat} (there : l.instances[place]? = some x)
    (uses : (l.save place generated x).2.Uses models m) : l.Uses models m := by
  unfold save update at uses
  split at uses
  · exact uses
  · exact uses
  · split at uses
    · exact uses_revising (l := l.touched x.kind.collection) uses there rfl
    · split at uses
      · exact uses
      · dsimp only at uses
        split at uses <;> exact uses

theorem uses_find {criteria : Value} (named : ∃ name, models name = some m)
    (uses : (l.find m criteria).2.Uses models used) : l.Uses models used := by
  unfold find at uses
  split at uses
  · exact uses
  · split at uses
    · exact uses
    · exact uses_giving (l := l.touched m.collection) named (by simp [Instance.wrapping]) uses

theorem uses_first {criteria : Entries} {missing : Fault} (named : ∃ name, models name = some m)
    (uses : (l.first m criteria missing).2.Uses models used) : l.Uses models used := by
  unfold first at uses
  split at uses
  · exact uses
  · exact uses
  · exact uses_giving (l := l.touched m.collection) named (by simp [Instance.wrapping]) uses

theorem uses_withModel {name : String} {f : Attached → Except Fault Value × Ledger}
    (each : ∀ m, (∃ name, models name = some m) → (f m).2.Uses models used → l.Uses models used)
    (uses : (l.withModel models space name f).2.Uses models used) : l.Uses models used := by
  unfold withModel at uses
  split at uses
  · exact each _ ⟨name, by assumption⟩ uses
  · exact uses

theorem uses_withInstance {f : Instance → Except Fault Value × Ledger}
    (each : ∀ x, l.instances[place]? = some x → (f x).2.Uses models m → l.Uses models m)
    (uses : (l.withInstance place f).2.Uses models m) : l.Uses models m := by
  unfold withInstance at uses
  split at uses
  · exact each _ (by assumption) uses
  · exact uses

/-- No deal brings in other classes. -/
theorem step_uses {deal : Deal} (uses : (l.step models space turn deal).2.Uses models m) :
    l.Uses models m := by
  cases deal with
  | create name fields =>
    exact uses_withModel (fun m named uses => uses_giving named (by simp) uses) uses
  | edit place fields =>
    refine uses_withInstance (fun x there uses => ?_) uses
    exact uses_revising (y := { x with fields, form := turn fields }) uses there rfl
  | save place generated => exact uses_withInstance (fun x there uses => uses_save there uses) uses
  | find name criteria => exact uses_withModel (fun m named uses => uses_find named uses) uses
  | count name criteria =>
    refine uses_withModel (fun m named uses => ?_) uses
    unfold count at uses
    split at uses <;> exact uses
  | findById name id => exact uses_withModel (fun m named uses => uses_first named uses) uses

end

end Ledger

end DocMapper
