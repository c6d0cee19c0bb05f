import DocMapper.Proofs.Usual

/-!
Handles of collections.  A connection makes a handle when a name is first asked for, and gives the
same one from then on; the documents under the name stay what they were.
-/

namespace DocMapper

theorem Entries.get?_put_self (es : Entries) {k : Value} (v : Value) (same : k.same k) :
    get? (put es k v) k = some v := by
  induction es with
  | nil => simp [put, get?, same]
  | cons e es ih =>
    cases here : e.1.same k with
    | true => simp [put, get?, here]
    | false => simpa [put, get?, here] using ih

/-- What connections lead to: databases with their data, the handles of it, and the models that were
attached. -/
structure Ground where
  connections : Array Connection
  spaces : Array Entries
  databases : Array Database
  collections : Array Collection
  shelves : Array Value
  stocks : Array Entries

namespace Store

def ground (st : Store) : Ground :=
  ⟨st.connections, st.spaces, st.databases, st.collections, st.shelves, st.stocks⟩

def connectionAt (st : Store) (k : Nat) : Connection := st.connections.getD k default

def databaseAt (st : Store) (b : Nat) : Database := st.databases.getD b default

def collectionAt (st : Store) (j : Nat) : Collection := st.collections.getD j default

def shelfAt (st : Store) (s : Nat) : Value := st.shelves.getD s (.list [])

/-- A store but for connections with what they lead to, and for notes. -/
def aside (st : Store) : Store :=
  { st with
    connections := #[], databases := #[], collections := #[], shelves := #[], stocks := #[]
    notes := #[] }

theorem ground_of_beyond {st after : Store} (h : after.beyond = st.beyond) :
    after.ground = st.ground := by
  change after.beyond.ground = st.beyond.ground
  rw [h]

theorem setting_of_aside {st after : Store} (h : after.aside = st.aside) :
    after.setting = st.setting := by
  change after.aside.setting = st.aside.setting
  rw [h]

theorem desk_of_aside {st after : Store} (h : after.aside = st.aside) :
    after.desk = st.desk := by
  change after.aside.desk = st.aside.desk
  rw [h]

theorem documents_of_aside {st after : Store} (h : after.aside = st.aside) :
    after.documents = st.documents := by
  change after.aside.documents = st.aside.documents
  rw [h]

theorem queries_of_aside {st after : Store} (h : after.aside = st.aside) :
    after.queries = st.queries := by
  change after.aside.queries = st.aside.queries
  rw [h]

section

variable (st : Store) (log : String) (level : Level) (message : Store → String)

@[simp] theorem aside_noted : (st.noted log level message).aside = st.aside := by
  unfold noted
  split <;> rfl

@[simp] theorem ground_noted : (st.noted log level message).ground = st.ground := by
  unfold noted
  split <;> rfl

@[simp] theorem connections_noted : (st.noted log level message).connections = st.connections := by
  unfold noted
  split <;> rfl

@[simp] theorem clients_noted : (st.noted log level message).clients = st.clients := by
  unfold noted
  split <;> rfl

@[simp] theorem databases_noted : (st.noted log level message).databases = st.databases := by
  unfold noted
  split <;> rfl

@[simp] theorem collections_noted : (st.noted log level message).collections = st.collections := by
  unfold noted
  split <;> rfl

end

/-- A connection that keeps a handle under a name, over these documents. -/
structure Keeps (st : Store) (k : Nat) (name : String) (j : Nat) (ds : List Value) : Prop where
  selected : ∃ b, (st.connectionAt k).database = .handle (.database b)
  kept : ∃ es, (st.connectionAt k).handles = .dict es ∧
    Entries.get? es (.str name) = some (.handle (.collection j))
  present : j < st.collections.size
  calls : ∃ vs, (st.collectionAt j).calls = .list vs
  shelved : (st.collectionAt j).shelf < st.shelves.size
  stored : st.shelfAt (st.collectionAt j).shelf = .list ds

/-- The documents under a name; where there is no shelf, there are none. -/
def Shelved (st : Store) (t : Nat) (name : String) (ds : List Value) : Prop :=
  match Entries.get? (st.stocks.getD t []) (.str name) with
  | some (.handle (.shelf s)) => s < st.shelves.size ∧ st.shelfAt s = .list ds
  | some .null => ds = []
  | some _ => False
  | none => ds = []

/-- A connection that has no handle under a name yet, for data with these documents there. -/
structure Lends (st : Store) (k : Nat) (name : String) (b t : Nat) (ds : List Value) : Prop where
  selected : (st.connectionAt k).database = .handle (.database b)
  requests : ∃ vs, (st.databaseAt b).requests = .list vs
  bare : st.Bare (.database b)
  data : (st.databaseAt b).data = .handle (.stock t)
  stocked : t < st.stocks.size
  shelved : st.Shelved t name ds
  fresh : ∃ es, (st.connectionAt k).handles = .dict es ∧
    (Entries.get? es (.str name)).filter Registry.isSet = none

/-- A connection to a database that holds these documents under a name. -/
def Connected (st : Store) (k : Nat) (name : String) (ds : List Value) : Prop :=
  (∃ j, st.Keeps k name j ds ∧ st.Bare (.collection j)) ∨ ∃ b t, st.Lends k name b t ds

/-- What a connection leads to is all that this depends on, and which function a name reaches. -/
theorem Connected.of_ground {st after : Store} {k : Nat} {name : String} {ds : List Value}
    (h : st.Connected k name ds) (setting : after.setting = st.setting)
    (ground : after.ground = st.ground) : after.Connected k name ds := by
  simp only [Store.ground, Ground.mk.injEq] at ground
  obtain ⟨connections, -, databases, collections, shelves, stocks⟩ := ground
  cases h with
  | inl kept =>
    obtain ⟨j, keeps, bare⟩ := kept
    refine .inl ⟨j, ?_, bare.of_setting setting⟩
    constructor <;> simp only [connectionAt, collectionAt, shelfAt, connections, collections, shelves]
    · exact keeps.selected
    · exact keeps.kept
    · exact keeps.present
    · exact keeps.calls
    · exact keeps.shelved
    · exact keeps.stored
  | inr lent =>
    obtain ⟨b, t, lends⟩ := lent
    refine .inr ⟨b, t, ?_⟩
    constructor
    case bare => exact lends.bare.of_setting setting
    all_goals simp only [Shelved, connectionAt, databaseAt, shelfAt, connections, databases, stocks,
      shelves]
    · exact lends.selected
    · exact lends.requests
    · exact lends.data
    · exact lends.stocked
    · exact lends.shelved
    · exact lends.fresh

theorem Keeps.noted {st : Store} {k j : Nat} {name : String} {ds : List Value}
    (h : st.Keeps k name j ds) (log : String) (level : Level) (message : Store → String) :
    (st.noted log level message).Keeps k name j ds := by
  unfold Store.noted
  split
  · exact ⟨h.selected, h.kept, h.present, h.calls, h.shelved, h.stored⟩
  · exact h

/-- What is stored is what it was. -/
def Stays (st after : Store) : Prop := after.shelves = st.shelves ∧ after.stocks = st.stocks

/-- From one store to the next, a connection gave a handle of these documents.  If there are none, a
shelf for them may have come. -/
structure Hands (st : Store) (k : Nat) (name : String) (j : Nat) (ds : List Value)
    (after : Store) : Prop where
  aside : after.aside = st.aside
  keeps : after.Keeps k name j ds
  bare : after.Bare (.collection j)
  more : st.collections.size ≤ after.collections.size
  stays : st.Stays after ∨ ds = []

theorem Hands.noted {st after : Store} {k j : Nat} {name : String} {ds : List Value}
    (h : st.Hands k name j ds after) (log : String) (level : Level) (message : Store → String) :
    st.Hands k name j ds (after.noted log level message) := by
  have ground := after.ground_noted log level message
  refine ⟨?_, h.keeps.noted log level message, h.bare.of_setting (setting_noted ..), ?_,
    h.stays.imp_left fun stays => ⟨?_, ?_⟩⟩
  · rw [aside_noted, h.aside]
  · rw [collections_noted]
    exact h.more
  · exact (congrArg Ground.shelves ground).trans stays.1
  · exact (congrArg Ground.stocks ground).trans stays.2

theorem connection_known {st : Store} {k b : Nat}
    (selected : (st.connectionAt k).database = .handle (.database b)) :
    k < st.connections.size := by
  apply Nat.lt_of_not_le
  intro beyond
  rw [connectionAt, Array.getD_eq_getD_getElem?, Array.getElem?_eq_none beyond] at selected
  cases selected

end Store

namespace Act

variable {d : Dispatch} {st : Store} {k b t j : Nat} {name : String} {ds : List Value}

theorem outcome_noteOf {self : Value} {log : String} (extra : st.extraOf? self "_logger" = none)
    (log_eq : st.logOf? self = some log) (level : Level) (message : Store → String) :
    (noteOf self level message).outcome st = (.ok (), st.noted log level message) := by
  rw [noteOf, outcome_bind_ok (outcome_get st), extra, log_eq]
  exact outcome_noteIn log level message st

theorem outcome_noteConnection (bare : st.Bare (.connection k)) (level : Level)
    (message : Store → String) :
    (noteConnection k level message).outcome st =
      (.ok (), st.noted (st.connectionAt k).log level message) :=
  outcome_noteOf (bare.extraOf? "_logger") rfl level message

theorem outcome_connection (k : Nat) (st : Store) :
    (connection k).outcome st = (.ok (st.connectionAt k), st) := by
  rw [connection, bind_pure_comp, outcome_map]
  rfl

theorem outcome_database (b : Nat) (st : Store) :
    (database b).outcome st = (.ok (st.databaseAt b), st) := by
  rw [database, bind_pure_comp, outcome_map]
  rfl

theorem outcome_collection (j : Nat) (st : Store) :
    (collection j).outcome st = (.ok (st.collectionAt j), st) := by
  rw [collection, bind_pure_comp, outcome_map]
  rfl

theorem outcome_stock (t : Nat) (st : Store) :
    (stock t).outcome st = (.ok (st.stocks.getD t []), st) := by
  rw [stock, bind_pure_comp, outcome_map]
  rfl

theorem outcome_shelf (s : Nat) (st : Store) :
    (shelf s).outcome st = (.ok (st.shelfAt s), st) := by
  rw [shelf, bind_pure_comp, outcome_map]
  rfl

theorem outcome_handleOf_kept (h : st.Keeps k name j ds) :
    (handleOf d k (.str name)).outcome st = (.ok (.handle (.collection j)), st) := by
  obtain ⟨b, selected⟩ := h.selected
  obtain ⟨es, handles, kept⟩ := h.kept
  have found : keptHandle (st.connectionAt k).handles (.str name) =
      .ok (some (.handle (.collection j))) := by
    rw [handles, keptHandle]
    simp [Value.entries?, Value.unhashable?, kept, Registry.isSet]
  rw [handleOf, outcome_bind_ok (outcome_connection k st), selected]
  simp only
  rw [outcome_bind_ok (outcome_connection k st), found, outcome_bind_ok (outcome_ofExcept ..)]
  rfl

/-- The shelf that a new handle is made for holds the documents that were under the name. -/
theorem outcome_shelfOf (h : st.Shelved t name ds) :
    ∃ s after, (shelfOf t (.str name)).outcome st = (.ok s, after) ∧ after.aside = st.aside ∧
      after.connections = st.connections ∧ after.collections = st.collections ∧
      s < after.shelves.size ∧ after.shelfAt s = .list ds ∧ (st.Stays after ∨ ds = []) := by
  have key : (checkKey (.str name)).outcome st = (.ok (), st) := rfl
  rw [shelfOf, outcome_bind_ok key, outcome_bind_ok (outcome_stock t st)]
  have pushed : ∀ σ : Store, σ.shelves = st.shelves.push (.list []) →
      σ.shelfAt st.shelves.size = .list [] := by
    intro σ hσ
    simp [Store.shelfAt, Array.getD_eq_getD_getElem?, hσ]
  rw [Store.Shelved] at h
  split at h
  · rename_i s hs
    rw [hs]
    exact ⟨s, st, rfl, rfl, rfl, rfl, h.1, h.2, .inl ⟨rfl, rfl⟩⟩
  · rename_i hs
    rw [hs, h]
    exact ⟨_, _, rfl, rfl, rfl, rfl, by simp, pushed _ rfl, .inr rfl⟩
  · exact h.elim
  · rename_i hs
    rw [hs, h]
    exact ⟨_, _, rfl, rfl, rfl, rfl, by simp, pushed _ rfl, .inr rfl⟩

theorem outcome_newHandle (h : st.Lends k name b t ds) :
    ∃ after, (newHandle b (.str name)).outcome st = (.ok st.collections.size, after) ∧
      after.aside = st.aside ∧ after.connections = st.connections ∧
      st.collections.size < after.collections.size ∧
      (∃ vs, (after.collectionAt st.collections.size).calls = .list vs) ∧
      (after.collectionAt st.collections.size).shelf < after.shelves.size ∧
      after.shelfAt (after.collectionAt st.collections.size).shelf = .list ds ∧
      (st.Stays after ∨ ds = []) := by
  obtain ⟨vs, requests⟩ := h.requests
  have asked : appended (st.databaseAt b).requests (.str name) = .ok (.list (vs ++ [.str name])) := by
    rw [requests]
    rfl
  let noted : Store := { st with
    databases := st.databases.setIfInBounds b
      { st.databaseAt b with requests := .list (vs ++ [.str name]) } }
  have put : (setDatabase b { st.databaseAt b with requests := .list (vs ++ [.str name]) }).outcome
      st = (.ok (), noted) := rfl
  have shelved : noted.Shelved t name ds := h.shelved
  obtain ⟨s, mid, hs, aside, connections, collections, there, stored, stays⟩ :=
    outcome_shelfOf shelved
  rw [newHandle, outcome_bind_ok (outcome_database b st), asked,
    outcome_bind_ok (outcome_ofExcept ..), outcome_bind_ok put, h.data]
  simp only
  rw [outcome_bind_ok hs]
  let made : Collection := { name := .str name, shelf := s }
  have last : Store.collectionAt { mid with collections := mid.collections.push made }
      st.collections.size = made := by
    rw [← show mid.collections = st.collections from collections]
    simp [Store.collectionAt, Array.getD_eq_getD_getElem?]
  have given : (newCollection made).outcome mid =
      (.ok st.collections.size, { mid with collections := mid.collections.push made }) := by
    rw [← show mid.collections = st.collections from collections]
    rfl
  refine ⟨_, given, aside, connections, ?_, ⟨[], by rw [last]⟩, ?_, ?_, stays⟩
  · simp [show mid.collections = st.collections from collections]
  · rw [last]
    exact there
  · rw [last]
    exact stored

/-- A new handle is kept, and the documents under the name are its documents. -/
theorem outcome_handleOf_lent (h : st.Lends k name b t ds) (pristine : st.registry.Pristine)
    (bare : st.Bare (.connection k)) (fresh : st.Bare (.collection st.collections.size)) :
    ∃ after, (handleOf d k (.str name)).outcome st =
        (.ok (.handle (.collection st.collections.size)), after) ∧
      st.Hands k name st.collections.size ds after := by
  obtain ⟨es, handles, unknown⟩ := h.fresh
  have found : keptHandle (st.connectionAt k).handles (.str name) = .ok none := by
    rw [handles, keptHandle]
    simp [Value.entries?, Value.unhashable?, unknown]
  obtain ⟨mid, made, aside, connections, present, calls, shelved, stored, stays⟩ :=
    outcome_newHandle h
  have connection : mid.connectionAt k = st.connectionAt k := by
    rw [Store.connectionAt, connections, Store.connectionAt]
  have usual := h.bare.usual pristine rfl
    (show Interface.inherited? "MockDatabase" "get_collection" = some (.known "MockDatabase", _)
      from rfl)
  -- the handle was made by the database; the connection keeps it under the name
  let handle : Value := .handle (.collection st.collections.size)
  let keeping : Connection :=
    { mid.connectionAt k with handles := .dict (Entries.put es (.str name) handle) }
  let kept : Store := { mid with connections := mid.connections.setIfInBounds k keeping }
  have there : kept.connectionAt k = keeping := by
    have known : k < mid.connections.size := connections ▸ Store.connection_known h.selected
    simp [Store.connectionAt, kept, Array.getD_eq_getD_getElem?, known]
  have put : (setConnection k keeping).outcome mid = (.ok (), kept) := rfl
  have bare : kept.Bare (.connection k) := bare.of_setting (Store.setting_of_aside aside)
  rw [handleOf, outcome_bind_ok (outcome_connection k st), h.selected]
  simp only
  rw [outcome_bind_ok (outcome_connection k st), found, outcome_bind_ok (outcome_ofExcept ..)]
  simp only
  rw [outcome_bind, outcome_callOr_usual usual]
  simp only [outcome_bind_ok made, outcome_pure]
  rw [outcome_bind_ok (outcome_connection k mid), connection, handles]
  simp only [keepHandle]
  rw [outcome_bind_ok (outcome_ofExcept ..), ← connection, outcome_bind_ok put,
    outcome_bind_ok (outcome_noteConnection bare ..)]
  have selected : keeping.database = .handle (.database b) := by
    rw [← h.selected, ← connection]
  have keeps : kept.Keeps k name st.collections.size ds :=
    ⟨⟨b, by rw [there, selected]⟩, ⟨_, by rw [there], Entries.get?_put_self _ _ (by simp)⟩,
      present, calls, shelved, stored⟩
  have hands : st.Hands k name st.collections.size ds kept :=
    ⟨aside, keeps, fresh.of_setting (Store.setting_of_aside aside), Nat.le_of_lt present, stays⟩
  exact ⟨_, rfl, hands.noted ..⟩

end Act

/-- A class with a connection and a collection of its own, which it hands out itself. -/
structure Store.Configured (st : Store) (c : ClassRef) (k : Nat) (name : String) : Prop where
  pristine : st.registry.Pristine
  connection : st.registry.connection c = .ok (.handle (.connection k))
  collection : st.registry.collection (.cls c) = .ok (.str name)
  handsOut : st.usual (.cls c) .root "get_collection"
  bare : st.Bare (.connection k)
  fresh : ∀ j, st.collections.size ≤ j → st.Bare (.collection j)

theorem Store.Configured.of_setting {st after : Store} {c : ClassRef} {k : Nat} {name : String}
    (h : st.Configured c k name) (setting : after.setting = st.setting)
    (collections : st.collections.size ≤ after.collections.size) : after.Configured c k name := by
  have registry : after.registry = st.registry := congrArg Setting.registry setting
  refine ⟨registry ▸ h.pristine, registry ▸ h.connection, registry ▸ h.collection, ?_,
    h.bare.of_setting setting, fun j hj => ?_⟩
  · rw [usual_congr setting]
    exact h.handsOut
  · exact (h.fresh j (Nat.le_trans collections hj)).of_setting setting

namespace Act

variable {d : Dispatch} {st : Store} {c : ClassRef} {k : Nat} {name : String} {ds : List Value}

theorem outcome_handleOf (h : st.Configured c k name) (connected : st.Connected k name ds) :
    ∃ j after, (handleOf d k (.str name)).outcome st = (.ok (.handle (.collection j)), after) ∧
      st.Hands k name j ds after := by
  cases connected with
  | inl kept =>
    obtain ⟨j, keeps, bare⟩ := kept
    exact ⟨j, st, outcome_handleOf_kept keeps, rfl, keeps, bare, Nat.le_refl _, .inl ⟨rfl, rfl⟩⟩
  | inr lent =>
    obtain ⟨b, t, lends⟩ := lent
    exact ⟨_, outcome_handleOf_lent lends h.pristine h.bare (h.fresh _ (Nat.le_refl _))⟩

theorem outcome_classConnection (h : st.Configured c k name) :
    (classConnection c).outcome st = (.ok (.handle (.connection k)), st) := by
  have registry : (registry).outcome st = (.ok st.registry, st) := rfl
  rw [classConnection, outcome_bind_ok registry, h.connection]
  rfl

theorem outcome_collectionFor (h : st.Configured c k name) :
    (collectionFor d (.cls c)).outcome st = (handleOf d k (.str name)).outcome st := by
  have usual := h.bare.usual h.pristine rfl
    (show Interface.inherited? "Connection" "collection" = some (.known "Connection", _) from rfl)
  have registry : (registry).outcome st = (.ok st.registry, st) := rfl
  rw [collectionFor, outcome_callOr_usual h.handsOut, modelCollection,
    outcome_bind_ok (outcome_classConnection h)]
  simp only
  rw [outcome_bind_ok (outcome_get st), if_pos usual, outcome_bind_ok registry, h.collection,
    outcome_bind_ok (outcome_ofExcept ..)]

end Act

def Store.posts (ds : List Value) : Store where
  registry := { Registry.initial with
    declarations := Registry.initial.declarations.push {
      ref := .model 1, name := "Post", bases := [.root], ancestors := [.model 1, .root, .object]
      maker := .known "ModelMeta" }
    configs := [(.cls (.model 1),
      { serial := 0, connection := .handle (.connection 0), collection := .str "posts" })]
    serials := 1 }
  connections := #[{ database := .handle (.database 0) }]
  databases := #[{ name := .str "app", data := .handle (.stock 0) }]
  stocks := #[[(.str "posts", .handle (.shelf 0))]]
  shelves := #[.list ds]

theorem Store.bare_posts (ds : List Value) (h : Handle) : (posts ds).Bare h := ⟨fun _ => rfl, rfl⟩

theorem Store.configured_posts (ds : List Value) :
    (posts ds).Configured (.model 1) 0 "posts" where
  pristine _ _ := rfl
  connection := rfl
  collection := rfl
  handsOut := rfl
  bare := bare_posts ds _
  fresh _ _ := bare_posts ds _

end DocMapper
