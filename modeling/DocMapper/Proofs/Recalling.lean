import DocMapper.Proofs.Inserting
import DocMapper.Proofs.Ways

/-!
A new instance that is saved, and then looked up by its id.  What comes back is an instance over what
was stored of the first, the id included.
-/

namespace DocMapper

namespace Store

/-- A class whose instances are made, converted and asked for as those of models are. -/
structure Models (st : Store) (c : ClassRef) : Prop where
  makes : st.MakesModels c
  finds : st.usual (.cls c) .root "find"
  builder : ∃ owner, st.registry.member? c "QueryBuilder" =
    some (owner, .value (.cls (.known "ModelQuery")))
  json : ∃ f, st.registry.member? c "to_json" = some (.root, .method f)
  placed : st.registry.member? c "collection" = some (.root, .property)

/-- Nothing was set on the queries, cursors and sources that are still to come. -/
structure Fresh (st : Store) : Prop where
  queries : ∀ j, st.queries.size ≤ j → st.Bare (.query .bound j)
  options : ∀ j, st.queries.size ≤ j → st.Bare (.queryOptions j)
  cursors : ∀ j, st.cursors.size ≤ j → st.Bare (.cursor .query j)
  sources : ∀ j, st.sources.size ≤ j → st.Bare (.source j)

/-- An instance is valid, and its fields are turned into plain data; objects may come by that. -/
structure Turns (st : Store) (d : Dispatch) (c : ClassRef) (i : Nat) (es : Entries)
    (held : Store) : Prop where
  turned : ∃ checked, (Act.validate d (.handle (.document c i))).outcome st = (.ok (), checked) ∧
    st.Grows checked ∧ checked.documentAt i = st.documentAt i ∧
    (Act.prepare d (st.documentAt i).fields).outcome checked = (.ok (.dict es), held)
  grows : st.Grows held
  same : held.documentAt i = st.documentAt i
  plain : (Value.dict es).Plain

variable {st after : Store} {c : ClassRef} {k i : Nat} {name : String} {ds : List Value}

theorem Extends.models (e : st.Extends after) (h : st.Models c) : after.Models c where
  makes := e.makesModels h.makes
  finds := by
    rw [← h.finds]
    simp only [usual, extraOf?, Store.member?, e.member?]
  builder := by
    rw [e.member?]
    exact h.builder
  json := by
    rw [e.member?]
    exact h.json
  placed := (e.member? c _).trans h.placed

theorem Models.of_setting (h : st.Models c) (setting : after.setting = st.setting) :
    after.Models c := by
  have registry : after.registry = st.registry := congrArg Setting.registry setting
  refine ⟨h.makes.of_setting setting, ?_, registry ▸ h.builder, registry ▸ h.json,
    registry ▸ h.placed⟩
  rw [usual_congr setting]
  exact h.finds

theorem Fresh.of_setting (h : st.Fresh) (setting : after.setting = st.setting)
    (queries : st.queries.size ≤ after.queries.size) (cursors : st.cursors.size ≤ after.cursors.size)
    (sources : st.sources.size ≤ after.sources.size) : after.Fresh where
  queries j hj := (h.queries j (Nat.le_trans queries hj)).of_setting setting
  options j hj := (h.options j (Nat.le_trans queries hj)).of_setting setting
  cursors j hj := (h.cursors j (Nat.le_trans cursors hj)).of_setting setting
  sources j hj := (h.sources j (Nat.le_trans sources hj)).of_setting setting

end Store

theorem Value.Plain.searchKey {id : Value} (plain : id.Plain) : (Act.searchKey id).Plain := by
  unfold Act.searchKey
  split
  · split
    · exact .objectId _
    · exact plain
  · exact plain

/-- An id that is stored as it is, and asked for as it is. -/
structure Value.IsId (v : Value) : Prop where
  settled : v.Settled
  same : v.equal v
  simple : ∀ es, v ≠ .dict es
  spelled : Act.searchKey v = v

theorem isId_generated (n : Nat) : (generatedId n).IsId where
  settled := .objectId _
  same := by simp [generatedId, Value.equal]
  simple := nofun
  spelled := rfl

/-- An id that no other document has finds the one that has it. -/
theorem Store.selects_id (st : Store) {ds : List Value} {es : Entries} {id : Value} (plain : id.Plain)
    (simple : ∀ es, id ≠ .dict es) (others : ∀ x ∈ ds, st.Apart id x)
    (stored : (Value.dict es).Plain) (here : es.field? "_id" = some id) (same : id.equal id) :
    st.selects (.dict [(.str "_id", id)]) (ds ++ [.dict es]) = .ok [.dict es] := by
  have criteria : (Value.dict [(.str "_id", id)]).Plain :=
    .dict _ (by simpa using .str "_id") (by simpa using plain)
  have others : ∀ x ∈ ds,
      Criteria.holds (st.comparable x) (.dict [(.str "_id", id)]) = .ok false := by
    intro x hx
    obtain ⟨gs, u, entries, field, other⟩ := others x hx
    rw [st.comparable_plain plain] at other
    rw [Criteria.holds_id entries simple, field, Option.getD_some, other]
  have last : Criteria.holds (.dict es) (.dict [(.str "_id", id)]) = .ok true := by
    rw [Criteria.holds_id rfl simple, here, Option.getD_some, same]
  have seen : ∀ p ∈ (ds ++ [Value.dict es]).map fun x => (st.comparable x, x),
      ∃ b, Criteria.holds p.1 (.dict [(.str "_id", id)]) = .ok b := by
    intro p hp
    obtain ⟨x, hx, rfl⟩ := List.mem_map.mp hp
    obtain hx | hx := List.mem_append.mp hx
    · exact ⟨_, others x hx⟩
    · rw [List.mem_singleton.mp hx, st.comparable_plain stored]
      exact ⟨_, last⟩
  have none : (ds.map fun x => (st.comparable x, x)).filter (fun p =>
      (Criteria.holds p.1 (.dict [(.str "_id", id)])).toOption.getD false) = [] := by
    rw [List.filter_eq_nil_iff]
    intro p hp
    obtain ⟨x, hx, rfl⟩ := List.mem_map.mp hp
    rw [others x hx]
    exact Bool.false_ne_true
  rw [selects, st.comparable_plain criteria, Criteria.selectBy_eq_filter seen, List.map_append,
    List.filter_append, none, List.map_singleton, st.comparable_plain stored,
    List.filter_singleton, last]
  rfl

/-- A query for one id. -/
def Query.byId (c : ClassRef) (id : Value) : Query where
  kind := .bound
  criteria := [(.str "_id", id)]
  options := .empty
  model := .cls c

/-- A look-up gave a new instance over this document, which counts as stored, or else said that there
is none. -/
structure Store.Finds (st : Store) (c : ClassRef) (key : Value) (x : Option Value)
    (result : Except Fault Value) (after : Store) : Prop where
  answer : result =
    match x with
    | some _ => .ok (.handle (.document c st.documents.size))
    | none => .error (.notFound c key)
  documents : after.documents = st.documents ++ (x.toList.map (Document.wrapping c)).toArray

namespace Act

variable {d : Dispatch} {st : Store} {c : ClassRef} {k i : Nat} {name : String} {ds : List Value}
variable {id x : Value} {es fs : Entries}

/-- A search by the builder that models use is a new query, unless the criteria are refused. -/
theorem outcome_findIn {criteria : Value} (builder : ∃ owner, st.registry.member? c "QueryBuilder" =
      some (owner, .value (.cls (.known "ModelQuery")))) (plain : criteria.Plain) :
    (findIn d c criteria).outcome st =
      match Query.start .bound criteria (.cls c) with
      | .error e => (.error e, st)
      | .ok q => (.ok (.handle (.query .bound st.queries.size)),
          { st with queries := st.queries.push q }) := by
  obtain ⟨owner, builder⟩ := builder
  have registry : (registry).outcome st = (.ok st.registry, st) := rfl
  rw [findIn, outcome_bind_ok registry, builder]
  simp only [startQuery]
  cases started : Query.start .bound criteria (.cls c) with
  | error e => exact outcome_bind_error (outcome_ofExcept ..)
  | ok q =>
    rw [outcome_bind_ok (outcome_ofExcept ..), outcome_bind_ok (outcome_copy plain st), started,
      outcome_bind_ok (outcome_ofExcept ..)]
    obtain ⟨es, rfl, -⟩ := Query.start_eq_ok started
    rfl

/-- The store once a class has made the query for an id. -/
def asking (st : Store) (c : ClassRef) (key : Value) : Store :=
  { st with queries := st.queries.push (.byId c key) }

/-- A class that is asked for an id makes a query for it, and gives its first instance. -/
theorem outcome_findById_eq {key : Value} (models : st.Models c) (plain : key.Plain)
    (spelled : searchKey id = key) (bare : st.Bare (.query .bound st.queries.size))
    (pristine : st.registry.Pristine) :
    (findById d c id).outcome st = (do
      match ← first d (.handle (.query .bound st.queries.size)) with
      | .null =>
        note .warning .model fun st => s!"{st.className c} with _id {st.text key} not found."
        throw (.notFound c key)
      | found => return found : Act Value).outcome (asking st c key) := by
  have criteria : (Value.dict [(.str "_id", key)]).Plain :=
    .dict _ (by simpa using .str "_id") (by simpa using plain)
  have started : (findIn d c (.dict [(.str "_id", key)])).outcome st =
      (.ok (.handle (.query .bound st.queries.size)), asking st c key) :=
    outcome_findIn models.builder criteria
  have usual := (bare.of_setting (show (asking st c key).setting = st.setting from rfl)).usual
    (show (asking st c key).registry.Pristine from pristine) rfl
    (show Interface.inherited? "ModelQuery" "first" = some (.known "ModelQuery", _) from rfl)
  rw [findById, spelled, outcome_bind_ok ((outcome_callOr_usual models.finds).trans started),
    outcome_bind, outcome_callOr_usual usual]
  exact (outcome_bind ..).symm

section

variable {key : Value} (configured : st.Configured c k name) (fresh : st.Fresh)
include configured fresh

theorem poses_asking (key : Value) :
    (asking st c key).Poses c k name st.queries.size (.byId c key) where
  configured := configured.of_setting rfl (Nat.le_refl _)
  query := by simp [asking]
  built := ⟨.dict [(.str "_id", key)], .cls c, [], _, rfl, rfl⟩
  bare := (fresh.queries _ (Nat.le_refl _)).of_setting rfl
  options := (fresh.options _ (Nat.le_refl _)).of_setting rfl

variable (models : st.Models c) (connected : st.Connected k name ds)
variable (docs : ∀ x ∈ ds, x.entries?.isSome)
include models connected docs

theorem runs_asking (key : Value) :
    (asking st c key).Runs c k name st.queries.size (.byId c key) ds := by
  obtain ⟨configured, query, built, bare, options⟩ := poses_asking configured fresh key
  exact ⟨configured, models.makes.of_setting rfl, connected.of_ground rfl rfl, query, built, docs,
    bare, options, fun j hj => (fresh.cursors j hj).of_setting rfl,
    fun j hj => (fresh.sources j hj).of_setting rfl⟩

/-- A class gives an instance over the first of the documents that an id picks, and says so if it
picks none. -/
theorem outcome_findById_picked {xs : List Value} (picks : (Query.byId c key).Picks ds xs)
    (plain : key.Plain) (spelled : searchKey id = key) :
    ∃ result found, (findById d c id).outcome st = (result, found) ∧
      st.Finds c key xs.head? result found ∧ found.setting = st.setting ∧
      found.Connected k name ds := by
  have runs := runs_asking configured fresh models connected docs key
  obtain ⟨vs, found, first, stays, setting, wraps⟩ := Way.outcome_first runs picks d
  have eq := outcome_findById_eq (d := d) models plain spelled (fresh.queries _ (Nat.le_refl _))
    configured.pristine
  have all : (Query.byId c key).part xs = xs := rfl
  rw [all] at wraps
  rw [wraps.instances] at first
  rw [eq, outcome_bind_ok first]
  have documents : (asking st c key).documents = st.documents := rfl
  have wrapped := wraps.documents
  rw [documents] at wrapped
  cases xs with
  | nil =>
    refine ⟨_, found.noted Part.model.log .warning _, outcome_bind_ok (outcome_noteIn ..),
      ⟨rfl, Eq.trans ?_ wrapped⟩, (Store.setting_noted ..).trans setting,
      stays.connected.of_ground (Store.setting_noted ..) (Store.ground_noted ..)⟩
    unfold Store.noted
    split <;> rfl
  | cons x xs => exact ⟨_, found, rfl, ⟨rfl, wrapped⟩, setting, stays.connected⟩

end

/-- The first save of an instance of plain data, up to what is stored of it. -/
theorem outcome_save_plain {held : Store} {key : Value} (ready : st.Ready c k name i)
    (connected : st.Connected k name ds) (new : st.documentAt i = ⟨c, .dict fs, .bool true⟩)
    (json : ∃ f, st.registry.member? c "to_json" = some (.root, .method f))
    (turns : st.Turns d c i es held)
    (key_eq : key = (fs.field? "_id").getD (generatedId (held.generated + 1)))
    (settled : key.Settled) :
    ∃ saved, (save d i).outcome st = (.ok (), saved) ∧ saved.setting = held.setting ∧
      saved.Connected k name (ds ++ [.dict (es.keyed key)]) ∧
      saved.documentAt i = ⟨c, .dict (fs.keyed key), .bool false⟩ ∧
      saved.documents.size = held.documents.size ∧
      held.collections.size ≤ saved.collections.size ∧ (held.Fresh → saved.Fresh) := by
  obtain ⟨checked, valid, checks, still, turned⟩ := turns.turned
  rw [new] at turned
  have converted : (do
      validate d (.handle (.document c i))
      documentJson d (.handle (.document c i))).outcome st = (.ok (.dict es), held) := by
    obtain ⟨f, json⟩ := json
    rw [← checks.member?] at json
    rw [outcome_bind_ok valid, outcome_documentJson (checks.bare _ (.inl ready.present) ready.bare) json,
      still, new, turned]
  obtain ⟨ready, saving⟩ := outcome_save ready connected.known converted turns.grows turns.same
  obtain ⟨j, handed, handle, hands⟩ :=
    outcome_handleOf (d := d) ready.configured (turns.grows.connected connected)
  have ready : handed.Ready c k name i := ready.of_aside hands.aside hands.more
  have document : handed.documentAt i = ⟨c, .dict fs, .bool true⟩ := by
    rw [Store.documentAt, Store.documents_of_aside hands.aside, ← new, ← turns.same, Store.documentAt]
  have generated : handed.generated = held.generated := by
    change handed.aside.generated = held.aside.generated
    rw [hands.aside]
  -- the document is stored under the id that the instance has, or is given
  have stored : (es.field? "_id").getD (generatedId (handed.generated + 1)) = key := by
    rw [generated, outcome_prepare_id turned (key_eq ▸ settled), key_eq]
  have filled : fs.field? "_id" = none → key ≠ .null := by
    intro none null
    rw [key_eq, none] at null
    cases null
  obtain ⟨vs, message, inserted⟩ := outcome_saveNew_plain (d := d) (i := i) hands.keeps hands.bare
    ready.configured.pristine turns.plain (by rw [document]) stored filled
  let placed := handed.inserting i j vs ds (es.keyed key) (fs.keyed key)
  let saved := placed.noted Part.model.log .info message
  have aside : saved.aside = { held.aside with
      generated := handed.generated + 1, documents := placed.documents } := by
    rw [Store.aside_noted, ← hands.aside]
    rfl
  have setting : saved.setting = held.setting := by
    change saved.aside.setting = held.aside.setting
    rw [aside]
    rfl
  refine ⟨saved, ?_, setting, .inl ⟨j, ?_, ?_⟩, ?_, ?_, ?_, fun fresh => ?_⟩
  · rw [saving, outcome_bind_ok handle, outcome_bind_ok (outcome_document i handed), document,
      if_pos (show (Value.bool true).truthy from rfl)]
    exact inserted
  · exact (hands.keeps.inserting i vs _ _).noted ..
  · exact hands.bare.of_setting (setting.trans (Store.setting_of_aside hands.aside).symm)
  · rw [Store.documentAt_noted, Store.documentAt_inserting ready.present, document]
  · change saved.aside.documents.size = _
    rw [aside]
    simp [placed, Store.inserting, Store.documents_of_aside hands.aside]
  · refine Nat.le_trans hands.more ?_
    simp [saved, placed, Store.inserting, Store.called, Store.shelving]
  · apply fresh.of_setting setting <;> apply Nat.le_of_eq
    · change _ = saved.aside.queries.size
      rw [aside]
      rfl
    · change _ = saved.aside.cursors.size
      rw [aside]
      rfl
    · change _ = saved.aside.sources.size
      rw [aside]
      rfl

end Act

theorem Entries.plain_keyed {es : Entries} {key : Value} (plain : (Value.dict es).Plain)
    (id : key.Plain) : (Value.dict (es.keyed key)).Plain := by
  unfold keyed
  split
  · exact plain
  · cases plain with
    | dict es keys values =>
      refine .dict _ (fun e he => ?_) fun e he => ?_ <;> obtain he | he := List.mem_append.mp he
      · exact keys e he
      · rw [List.mem_singleton.mp he]
        exact .str "_id"
      · exact values e he
      · rw [List.mem_singleton.mp he]
        exact id

section

open Act

variable {d : Dispatch} {st held : Store} {c : ClassRef} {k : Nat} {name : String}
variable {ds : List Value} {fields key : Value} {fs es : Entries}

/-- A post that an address was stored in as it is. -/
def homedPost : Value :=
  .dict [(.str "_id", .int 7), (.str "home", .handle (.record .struct (.known "Address") 0))]

/-- A store of posts, and an address that may be one of their values. -/
def Store.addressed : Store :=
  { posts [homedPost] with
    records := #[[(.str "city", .str "Oslo"), (.str "zipcode", .int 150)]] }

def livingPost : Entries :=
  [(.str "home", .handle (.record .struct (.known "Address") 0)), (.str "tags", .set [.int 1]),
    (.int 2, .tuple [.mapping [(.str "n", .nan 0)], .frozenSet [.str "a"]])]

def storedPost : Entries :=
  [(.str "home", .dict [(.str "city", .str "Oslo"), (.str "zipcode", .int 150)]),
    (.str "tags", .list [.int 1]),
    (.int 2, .tuple [.dict [(.str "n", .nan 0)], .frozenSet [.str "a"]])]

theorem Store.bare_addressed (h : Handle) : addressed.Bare h := ⟨fun _ => rfl, rfl⟩

theorem plain_storedPost : (Value.dict storedPost).Plain := by
  refine .dict _ ?_ ?_ <;> simp only [storedPost, List.forall_mem_cons]
  · exact ⟨.str _, .str _, .int _, by simp⟩
  · refine ⟨.dict _ ?_ ?_, .list _ (by simpa using .int 1), .tuple _ ?_, by simp⟩ <;>
      simp only [List.forall_mem_cons]
    · exact ⟨.str _, .str _, by simp⟩
    · exact ⟨.str _, .int _, by simp⟩
    · exact ⟨.dict _ (by simpa using .str "n") (by simpa using .nan 0),
        .frozenSet _ (by simpa using .str "a"), by simp⟩

def Store.made : Store := addressed.created ⟨.model 1, .dict livingPost, .bool true⟩

def Store.saved : Store := ((save (dispatch [] 0) 0).outcome made).2

def Store.found : Store := ((findById (dispatch [] 0) (.model 1) (generatedId 1)).outcome saved).2

theorem Store.bare_made (h : Handle) : made.Bare h := ⟨fun _ => rfl, rfl⟩

theorem Store.models_addressed : addressed.Models (.model 1) :=
  ⟨⟨⟨_, rfl, rfl⟩, _, _, rfl⟩, rfl, ⟨_, rfl⟩, ⟨_, rfl⟩, rfl⟩

theorem Store.turns_made :
    made.Turns (dispatch [] 0) (.model 1) 0 storedPost made :=
  ⟨⟨made, rfl, .refl _, rfl, rfl⟩, .refl _, rfl, plain_storedPost⟩

theorem Store.configured_addressed : addressed.Configured (.model 1) 0 "posts" :=
  (configured_posts [homedPost]).of_setting rfl (Nat.le_refl _)

theorem Store.connected_addressed : addressed.Connected 0 "posts" [homedPost] :=
  .inr ⟨0, 0, rfl, ⟨[], rfl⟩, bare_addressed _, rfl, Nat.one_pos, ⟨Nat.one_pos, rfl⟩, [], rfl, rfl⟩

end

end DocMapper
