import DocMapper.Proofs.Copying
import DocMapper.Proofs.Wrapping

/-!
What a query finds when it is run.  Running it makes a new cursor over the documents that it is for,
and leaves the query and the documents as they were.
-/

namespace DocMapper

/-- A query by the calls that made it, bound to a class by now. -/
def Query.BuiltFor (q : Query) (c : ClassRef) : Prop :=
  ∃ criteria model calls q₀, Query.start .bound criteria model = .ok q₀ ∧
    q = { q₀.run calls with model := .cls c }

theorem Query.BuiltFor.fair {q : Query} {c : ClassRef} (h : q.BuiltFor c) :
    q.Fair ∧ q.model = .cls c := by
  obtain ⟨criteria, model, calls, q₀, started, rfl⟩ := h
  have fair := (fair_start started).run calls
  exact ⟨⟨fair.options, fair.held, fair.instead⟩, rfl⟩

/-- The documents in the window of a query. -/
def Query.part (q : Query) (xs : List Value) : List Value :=
  windowed q.options.skip q.options.limit xs

/-- Criteria of plain data that pick these documents, plain as well, whatever else there is. -/
structure Query.Picks (q : Query) (ds xs : List Value) : Prop where
  plain : (Value.dict q.criteria).Plain
  selected : ∀ st : Store, st.selects (.dict q.criteria) ds = .ok xs
  docs : ∀ x ∈ xs, x.Plain

/-- Plain criteria that fail on no document, all of which are plain, pick those that they choose. -/
theorem Query.picks_plain {q : Query} {ds : List Value} (plain : (Value.dict q.criteria).Plain)
    (docs : ∀ x ∈ ds, x.Plain)
    (decided : ∀ x ∈ ds, ∃ b, Criteria.holds x (.dict q.criteria) = .ok b) :
    q.Picks ds (Criteria.chosen (.dict q.criteria) ds) where
  plain := plain
  selected st := (st.selects_plain plain docs).trans (Criteria.selectBy_eq_filter decided)
  docs x hx := docs x (Criteria.chosen_subset _ _ hx)

namespace Store

/-- A query that can be run: on a class that is connected and wraps documents as models do. -/
structure Runs (st : Store) (c : ClassRef) (k : Nat) (name : String) (i : Nat) (q : Query)
    (ds : List Value) : Prop where
  configured : st.Configured c k name
  makes : st.MakesModels c
  connected : st.Connected k name ds
  query : st.queries[i]? = some q
  built : q.BuiltFor c
  docs : ∀ x ∈ ds, x.entries?.isSome
  bare : st.Bare (.query .bound i)
  options : st.Bare (.queryOptions i)
  cursors : ∀ j, st.cursors.size ≤ j → st.Bare (.cursor .query j)
  sources : ∀ j, st.sources.size ≤ j → st.Bare (.source j)

/-- A query that can be asked what it is for, on a class that is connected. -/
structure Poses (st : Store) (c : ClassRef) (k : Nat) (name : String) (i : Nat) (q : Query) :
    Prop where
  configured : st.Configured c k name
  query : st.queries[i]? = some q
  built : q.BuiltFor c
  bare : st.Bare (.query .bound i)
  options : st.Bare (.queryOptions i)

variable {st after : Store} {c : ClassRef} {k i : Nat} {name : String} {q : Query}
variable {ds : List Value}

theorem Runs.poses (h : st.Runs c k name i q ds) : st.Poses c k name i q :=
  ⟨h.configured, h.query, h.built, h.bare, h.options⟩

theorem MakesModels.of_setting (h : st.MakesModels c) (setting : after.setting = st.setting) :
    after.MakesModels c := by
  have registry : after.registry = st.registry := congrArg Setting.registry setting
  exact ⟨registry ▸ h.maker, registry ▸ h.hydrate⟩

theorem Extends.makesModels (e : st.Extends after) (h : st.MakesModels c) : after.MakesModels c := by
  obtain ⟨m, maker, owner⟩ := h.maker
  refine ⟨⟨m, ?_, owner⟩, ?_⟩
  · rw [← maker]
    simp only [Registry.maker?, Registry.ancestors, Registry.declaration?, e.declarations]
  · rw [e.member?]
    exact h.hydrate

theorem Runs.of_setting (h : st.Runs c k name i q ds)
    (setting : after.setting = st.setting) (queries : after.queries = st.queries)
    (connected : after.Connected k name ds)
    (collections : st.collections.size ≤ after.collections.size)
    (cursors : st.cursors.size ≤ after.cursors.size)
    (sources : st.sources.size ≤ after.sources.size) : after.Runs c k name i q ds where
  configured := h.configured.of_setting setting collections
  makes := h.makes.of_setting setting
  connected := connected
  query := queries ▸ h.query
  built := h.built
  docs := h.docs
  bare := h.bare.of_setting setting
  options := h.options.of_setting setting
  cursors j hj := (h.cursors j (Nat.le_trans cursors hj)).of_setting setting
  sources j hj := (h.sources j (Nat.le_trans sources hj)).of_setting setting

theorem Runs.of_hands {j : Nat} (h : st.Runs c k name i q ds)
    (hands : st.Hands k name j ds after) : after.Runs c k name i q ds := by
  have desk := desk_of_aside hands.aside
  have cursors : after.cursors = st.cursors := congrArg Desk.cursors desk
  have sources : after.sources = st.sources := congrArg Desk.sources desk
  exact h.of_setting (setting_of_aside hands.aside) (queries_of_aside hands.aside)
    (.inl ⟨j, hands.keeps, hands.bare⟩) hands.more (cursors ▸ Nat.le_refl _)
    (sources ▸ Nat.le_refl _)

/-- Copies that were made do not keep a query from being run. -/
theorem Runs.of_doubles (h : st.Runs c k name i q ds) (numbered : st.registry.Numbered)
    (doubles : st.Doubles after) : after.Runs c k name i q ds := by
  have grows := doubles.grows numbered
  have there : i < st.queries.size := (Array.getElem?_eq_some_iff.mp h.query).1
  have cursors : st.cursors.size ≤ after.cursors.size := doubles.room (.cursor .query 0)
  have sources : st.sources.size ≤ after.sources.size := doubles.room (.source 0)
  constructor
  case configured =>
    exact grows.configured h.configured
      (grows.bare _ (.inl h.connected.known) h.configured.bare) fun j hj =>
        grows.bare _ (.inr ⟨j, hj, rfl⟩)
          (h.configured.fresh j (Nat.le_trans grows.collections.length_le hj))
  case makes => exact grows.makesModels h.makes
  case connected => exact grows.connected h.connected
  case query => exact (getElem?_prefix_eq doubles.queries there).trans h.query
  case built => exact h.built
  case docs => exact h.docs
  case bare => exact doubles.bare (fun new => Nat.not_lt.mpr new.1 there) h.bare
  case options => exact doubles.bare (fun new => Nat.not_lt.mpr new.1 there) h.options
  case cursors =>
    exact fun j hj => doubles.bare (fun new => Nat.not_lt.mpr hj new.2)
      (h.cursors j (Nat.le_trans cursors hj))
  case sources =>
    exact fun j hj => doubles.bare (fun new => Nat.not_lt.mpr hj new.2)
      (h.sources j (Nat.le_trans sources hj))

theorem Hands.called {j : Nat} (hands : st.Hands k name j ds after) (vs : List Value) :
    st.Hands k name j ds (after.called j (.list vs)) := by
  refine ⟨hands.aside, hands.keeps.called vs, hands.bare.of_setting rfl, ?_, hands.stays⟩
  simpa [Store.called] using hands.more

theorem Poses.queryAt (h : st.Poses c k name i q) : st.query i = q := by
  obtain ⟨fair, -⟩ := h.built.fair
  simp [Store.query, Array.getD_eq_getD_getElem?, h.query, fair.held]

theorem Poses.optionsHeld (h : st.Poses c k name i q) :
    st.optionsHeld i = .handle (.queryOptions i) := by
  obtain ⟨fair, -⟩ := h.built.fair
  simp [Store.optionsHeld, Array.getD_eq_getD_getElem?, h.query, fair.held]

/-- A cursor of a query over a source, before it is read. -/
def started (c owner : ClassRef) (s : Nat) : Cursor where
  kind := .query
  source := .handle (.source s)
  model := .cls c
  hydrate := .object none (.bound (.cls c) (.handle (.routine owner "hydrate")))

theorem yields_started {d : Dispatch} {j s : Nat} {owner : ClassRef} {m : Method}
    {xs : List Value} (pristine : st.registry.Pristine) (makes : st.MakesModels c)
    (own : st.registry.ownMember? owner "hydrate" = some (.ofClass m)) (here : j < st.cursors.size)
    (cursor : st.cursorAt j = started c owner s)
    (there : s < st.sources.size) (source : st.sourceAt s = { pending := xs })
    (docs : ∀ x ∈ xs, x.entries?.isSome) (bare : st.Bare (.cursor .query j))
    (open_ : st.Bare (.source s)) : st.Yields (.wraps c) d j s := by
  have reader : st.reader j = .handle (.cursor .query j) := by
    rw [Store.reader, cursor, started]
  have delivers : ∀ σ : Store, σ.setting = st.setting → ∀ x, x.entries?.isSome →
      (Act.deliver d (st.cursorAt j) x).outcome σ =
        (.ok (.handle (.document c σ.documents.size)), σ.created (.wrapping c x)) := by
    intro σ setting x entries
    obtain ⟨es, entries⟩ := Option.isSome_iff_exists.mp entries
    have registry : σ.registry = st.registry := congrArg Setting.registry setting
    rw [Act.deliver, cursor]
    exact Act.outcome_applyHydration (makes.of_setting setting) (registry ▸ own) entries
  have reads : st.Reads j s := by
    refine ⟨here, there, .inl (by rw [cursor, started]), .inl (by rw [cursor, started]), ?_, ?_, ?_,
      open_.extraOf? "results"⟩
    · intro name hn
      rw [reader]
      simp only [List.mem_cons, List.not_mem_nil, or_false] at hn
      rcases hn with rfl | rfl | rfl | rfl <;> exact bare.usual pristine rfl rfl
    · rw [reader, cursor]
      exact bare.usual pristine rfl rfl
    · intro name hn
      simp only [List.mem_cons, List.not_mem_nil, or_false] at hn
      rcases hn with rfl | rfl <;> exact open_.usual pristine rfl rfl
  refine ⟨⟨reads, ?_, ?_⟩, by rw [source], ?_, ?_, ?_⟩
  · intro p hp
    rw [cursor] at hp
    cases hp
  · intro x hx σ setting
    rw [source] at hx
    rw [delivers σ setting x (docs x hx)]
    exact ⟨setting, rfl⟩
  · intro x hx null
    rw [source] at hx
    have entries := docs x hx
    rw [null] at entries
    cases entries
  · intro x hx σ setting
    rw [source] at hx
    exact ⟨_, _, delivers σ setting x (docs x hx), by simp, Effect.wraps_created σ c x⟩
  · intro ended
    rw [cursor] at ended
    cases ended

/-- A new cursor over these documents was made for a query. -/
structure Opens (st : Store) (d : Dispatch) (c : ClassRef) (k : Nat) (name : String) (i : Nat)
    (q : Query) (ds xs : List Value) (after : Store) : Prop where
  runs : after.Runs c k name i q ds
  yields : after.Yields (.wraps c) d st.cursors.size st.sources.size
  pending : (after.sourceAt st.sources.size).pending = xs
  idle : (after.cursorAt st.cursors.size).state = .idle
  reader : after.reader st.cursors.size = .handle (.cursor .query st.cursors.size)
  bare : after.Bare (.cursor .query st.cursors.size)
  documents : after.documents = st.documents
  setting : after.setting = st.setting
  one : after.cursors.size = st.cursors.size + 1 ∧ after.sources.size = st.sources.size + 1

theorem Opens.of_aside {mid : Store} {d : Dispatch} {xs : List Value}
    (h : mid.Opens d c k name i q ds xs after) (aside : mid.aside = st.aside) :
    st.Opens d c k name i q ds xs after := by
  have desk := desk_of_aside aside
  have cursors : mid.cursors = st.cursors := congrArg Desk.cursors desk
  have sources : mid.sources = st.sources := congrArg Desk.sources desk
  obtain ⟨runs, yields, pending, idle, reader, bare, documents, setting, one⟩ := h
  rw [cursors] at yields idle reader bare one
  rw [sources] at yields pending one
  exact ⟨runs, yields, pending, idle, reader, bare,
    documents.trans (documents_of_aside aside), setting.trans (setting_of_aside aside), one⟩

end Store

namespace Act

variable {d : Dispatch} {st : Store} {c : ClassRef} {k i : Nat} {name : String} {q : Query}

section

variable (h : st.Poses c k name i q)
include h

theorem outcome_query : (query i).outcome st = (.ok q, st) := by
  rw [query, outcome_bind_ok (outcome_get st), h.queryAt]
  rfl

theorem outcome_modelOf : (modelOf d (.handle (.query .bound i))).outcome st = (.ok (.cls c), st) := by
  have usual := h.bare.usual h.configured.pristine rfl
    (show Interface.inherited? "ModelQuery" "_require_model" = some (.known "ModelQuery", _)
      from rfl)
  obtain ⟨-, model⟩ := h.built.fair
  rw [modelOf, outcome_callOr_usual usual, ownModel, outcome_bind_ok (outcome_query h), model]
  rfl

theorem outcome_queryJson :
    (queryJson d (.handle (.query .bound i))).outcome st = (copy (.dict q.criteria)).outcome st := by
  have usual := h.bare.usual h.configured.pristine rfl
    (show Interface.inherited? "ModelQuery" "to_json" = some (queryClass, _) from rfl)
  obtain ⟨fair, -⟩ := h.built.fair
  have json : q.toJson = .dict q.criteria := by
    rw [Query.toJson, fair.instead]
    rfl
  rw [queryJson, outcome_callOr_usual usual, ownCriteria, outcome_bind_ok (outcome_query h), json]

theorem outcome_optionsOf :
    (optionsOf d (.handle (.query .bound i))).outcome st =
      (.ok (.handle (.queryOptions i)), st) := by
  rw [optionsOf, outcome_bind_ok (outcome_get st), h.optionsHeld]
  rfl

theorem optionsIn?_held : st.optionsIn? (.handle (.queryOptions i)) = some q.options := by
  simp [Store.optionsIn?, Store.optionsAt?, h.query]

theorem outcome_findArguments :
    ∃ args, (findArguments d (.handle (.query .bound i))).outcome st = (.ok args, st) ∧
      args.Asks q.options.skip q.options.limit := by
  have usual := h.options.usual h.configured.pristine rfl
    (show Interface.inherited? "QueryOptions" "to_find_kwargs" = some (.known "QueryOptions", _)
      from rfl)
  obtain ⟨fair, -⟩ := h.built.fair
  obtain ⟨args, translated, asks⟩ := fair.options.asks_find
  have searched := outcome_searchArguments fair.options translated st
  refine ⟨args, ?_, asks⟩
  rw [findArguments, outcome_bind_ok (outcome_optionsOf h), outcome_bind,
    outcome_callOr_usual usual, outcome_bind_ok (outcome_get st), optionsIn?_held h]
  simp only [searched]
  rfl

theorem outcome_countArguments :
    (countArguments d (.handle (.query .bound i))).outcome st =
      (.ok q.options.countArguments, st) := by
  have usual := h.options.usual h.configured.pristine rfl
    (show Interface.inherited? "QueryOptions" "to_count_kwargs" = some (.known "QueryOptions", _)
      from rfl)
  rw [countArguments, outcome_bind_ok (outcome_optionsOf h), outcome_bind,
    outcome_callOr_usual usual, outcome_bind_ok (outcome_get st), optionsIn?_held h]
  rfl

/-- What running a query does with the handle of its collection. -/
def searching (d : Dispatch) (c : ClassRef) (i : Nat) (criteria : Value) (args : Entries)
    (handle : Value) : Act Value := do
  let name ← modelName d (.cls c)
  noteOf (.handle (.query .bound i)) .info fun st =>
    s!"Executing find on {st.plainText name}: {st.text criteria} {st.text (.dict args)}"
  findThrough d handle criteria args >>= startCursor d .query (.cls c)

/-- What counting by a query does with the handle of its collection. -/
def counting (d : Dispatch) (c : ClassRef) (i : Nat) (criteria : Value) (args : Entries)
    (handle : Value) : Act Value := do
  let n ← countThrough d handle criteria args
  let name ← modelName d (.cls c)
  noteOf (.handle (.query .bound i)) .info fun st =>
    s!"Counted {st.plainText n} {st.plainText name}(s) matching {st.text criteria}"
  wholeNumber n

/-- What running a query does with a copy of its criteria. -/
theorem outcome_execute_eq (d : Dispatch) : ∃ args : Entries,
    args.Asks q.options.skip q.options.limit ∧
      ∀ extra, (execute d (.handle (.query .bound i)) extra).outcome st =
        (copy (.dict q.criteria) >>= fun criteria =>
          collectionFor d (.cls c) >>= searching d c i criteria (args.merge extra)).outcome st := by
  obtain ⟨args, translated, asked⟩ := outcome_findArguments (d := d) h
  refine ⟨args, asked, fun extra => ?_⟩
  rw [execute, outcome_bind_ok (outcome_modelOf h), outcome_bind_ok translated, outcome_bind,
    outcome_queryJson h, ← outcome_bind]
  rfl

theorem outcome_countMatching_eq (d : Dispatch) :
    (countMatching d (.handle (.query .bound i)) []).outcome st =
      (copy (.dict q.criteria) >>= fun criteria =>
        collectionFor d (.cls c) >>= counting d c i criteria q.options.countArguments).outcome st := by
  rw [countMatching, outcome_bind_ok (outcome_modelOf h), outcome_bind_ok (outcome_countArguments h),
    outcome_bind, outcome_queryJson h, ← outcome_bind]
  rfl

section

variable (plain : (Value.dict q.criteria).Plain)
include plain

/-- A query of plain criteria asks for the handle of its collection first, and then searches through
that. -/
theorem outcome_execute_plain (d : Dispatch) : ∃ args : Entries,
    args.Asks q.options.skip q.options.limit ∧
      ∀ extra, (execute d (.handle (.query .bound i)) extra).outcome st =
        (handleOf d k (.str name) >>=
          searching d c i (.dict q.criteria) (args.merge extra)).outcome st := by
  obtain ⟨args, asked, executed⟩ := outcome_execute_eq h d
  refine ⟨args, asked, fun extra => ?_⟩
  rw [executed, outcome_bind_ok (outcome_copy plain st), outcome_bind,
    outcome_collectionFor h.configured, ← outcome_bind]

theorem outcome_countMatching_plain (d : Dispatch) :
    (countMatching d (.handle (.query .bound i)) []).outcome st =
      (handleOf d k (.str name) >>=
        counting d c i (.dict q.criteria) q.options.countArguments).outcome st := by
  rw [outcome_countMatching_eq h, outcome_bind_ok (outcome_copy plain st), outcome_bind,
    outcome_collectionFor h.configured, ← outcome_bind]

end

end

theorem outcome_startCursor (makes : st.MakesModels c) (s : Nat) :
    ∃ owner m, st.registry.ownMember? owner "hydrate" = some (.ofClass m) ∧
      (startCursor d .query (.cls c) (.handle (.source s))).outcome st =
        (.ok (.handle (.cursor .query st.cursors.size)),
          { st with cursors := st.cursors.push (Store.started c owner s) }) := by
  obtain ⟨owner, m, own, hydration⟩ := outcome_hydration (d := d) makes
  refine ⟨owner, m, own, ?_⟩
  rw [startCursor, if_pos (show CursorKind.query.hydrates = true from rfl),
    outcome_bind_ok hydration]
  rfl

/-- What is done with the copies of the documents that a search finds. -/
def opening (d : Dispatch) (c : ClassRef) (ys : List Value) : Act Value := do
  startCursor d .query (.cls c) (.handle (.source (← newSource { pending := ys })))

variable {ds xs ys : List Value} (h : st.Runs c k name i q ds)
include h

/-- Copies of documents become a cursor over them. -/
theorem outcome_opening (docs : ∀ y ∈ ys, y.entries?.isSome) (d : Dispatch) :
    ∃ after, (opening d c ys).outcome st =
        (.ok (.handle (.cursor .query st.cursors.size)), after) ∧
      st.Opens d c k name i q ds ys after ∧ after.beyond = st.beyond := by
  let sourced : Store := { st with sources := st.sources.push { pending := ys } }
  have source : (newSource { pending := ys }).outcome st = (.ok st.sources.size, sourced) := rfl
  have makes : sourced.MakesModels c := h.makes.of_setting rfl
  obtain ⟨owner, m, own, begun⟩ := outcome_startCursor (d := d) makes st.sources.size
  let after : Store :=
    { sourced with cursors := st.cursors.push (Store.started c owner st.sources.size) }
  have cursor : after.cursorAt st.cursors.size = Store.started c owner st.sources.size := by
    simp [after, Store.cursorAt, Array.getD_eq_getD_getElem?]
  have pending : after.sourceAt st.sources.size = { pending := ys } := by
    simp [after, sourced, Store.sourceAt, Array.getD_eq_getD_getElem?]
  have one : after.cursors.size = st.cursors.size + 1 ∧
      after.sources.size = st.sources.size + 1 := by
    simp [after, sourced]
  have runs : after.Runs c k name i q ds :=
    h.of_setting rfl rfl (h.connected.of_ground rfl rfl) (Nat.le_refl _) (one.1 ▸ Nat.le_succ _)
      (one.2 ▸ Nat.le_succ _)
  have bare : after.Bare (.cursor .query st.cursors.size) :=
    (h.cursors _ (Nat.le_refl _)).of_setting rfl
  have yields : after.Yields (.wraps c) d st.cursors.size st.sources.size :=
    Store.yields_started runs.configured.pristine runs.makes own
      (one.1 ▸ Nat.lt_succ_self _) cursor (one.2 ▸ Nat.lt_succ_self _) pending docs bare
      ((h.sources _ (Nat.le_refl _)).of_setting rfl)
  refine ⟨after, ?_, ⟨runs, yields, ?_, ?_, ?_, bare, rfl, rfl, one⟩, rfl⟩
  · rw [opening, outcome_bind_ok source, begun]
  · rw [pending]
  · rw [cursor]
    rfl
  · rw [Store.reader, cursor]
    rfl

section

variable {σ : Store} {j : Nat} {args : Entries} {criteria limit : Value} {e : Fault}
variable (hands : st.Hands k name j ds σ)
include hands

theorem outcome_noteQuery (level : Level) (message : Store → String) :
    (noteOf (.handle (.query .bound i)) level message).outcome σ =
      (.ok (), σ.noted Part.query.log level message) :=
  outcome_noteOf ((h.bare.of_setting (Store.setting_of_aside hands.aside)).extraOf? "_logger") rfl
    level message

theorem usual_collection {method : String} {m : Method}
    (found : Interface.inherited? "MockCollection" method = some (.known "MockCollection", .method m)) :
    σ.usual (.handle (.collection j)) (.known "MockCollection") method := by
  have registry : σ.registry = st.registry :=
    congrArg Setting.registry (Store.setting_of_aside hands.aside)
  exact hands.bare.usual (registry ▸ h.configured.pristine) rfl found

/-- Criteria that fail on a document fail once the handle is called. -/
theorem outcome_searching_failed (failed : σ.selects criteria ds = .error e)
    (asks : args.Asks q.options.skip limit) (d : Dispatch) : ∃ vs after,
      (searching d c i criteria args (.handle (.collection j))).outcome σ = (.error e, after) ∧
      st.Hands k name j ds after ∧ after.beyond = (σ.called j (.list vs)).beyond := by
  have called : (modelName d (.cls c)).outcome σ = (.ok (.str (σ.className c)), σ) := rfl
  rw [searching, outcome_bind_ok called, outcome_bind_ok (outcome_noteQuery h hands ..)]
  rw [← Store.selects_noted] at failed
  generalize noted : σ.noted _ _ _ = mid
  have hands : st.Hands k name j ds mid := noted ▸ hands.noted ..
  obtain ⟨a, passed⟩ := asks.passedOn "find"
  obtain ⟨vs, found⟩ := outcome_find_failed hands.keeps (noted ▸ failed) args
  have through : (findThrough d (.handle (.collection j)) criteria args).outcome mid =
      (.error e, mid.called j (.list vs)) := by
    rw [findThrough, outcome_callOr_usual (usual_collection h hands rfl), passed,
      outcome_bind_ok (outcome_ofExcept ..), found]
  exact ⟨vs, _, outcome_bind_error through, hands.called vs,
    Store.beyond_called (noted ▸ Store.beyond_noted ..) ..⟩

theorem outcome_counting_failed (failed : σ.selects criteria ds = .error e)
    (asks : args.Asks q.options.skip limit) (d : Dispatch) :
    ∃ vs, (counting d c i criteria args (.handle (.collection j))).outcome σ =
      (.error e, σ.called j (.list vs)) := by
  obtain ⟨a, passed⟩ := asks.passedOn "count_documents"
  obtain ⟨vs, found⟩ := outcome_countDocuments_failed hands.keeps failed args
  have through : (countThrough d (.handle (.collection j)) criteria args).outcome σ =
      (.error e, σ.called j (.list vs)) := by
    rw [countThrough, outcome_callOr_usual (usual_collection h hands rfl), passed,
      outcome_bind_ok (outcome_ofExcept ..), outcome_bind_error found]
  exact ⟨vs, outcome_bind_error through⟩

variable (selected : σ.selects criteria ds = .ok xs)
include selected

/-- Searching through the handle copies the documents in the window, and opens a cursor over them. -/
theorem outcome_searching_eq (count : limit.IsCount) (asks : args.Asks q.options.skip limit)
    (d : Dispatch) : ∃ vs mid,
      (searching d c i criteria args (.handle (.collection j))).outcome σ =
        (copies (windowed q.options.skip limit xs) >>= opening d c).outcome mid ∧
      st.Hands k name j ds mid ∧ mid.selects criteria ds = .ok xs ∧
      mid.beyond = (σ.called j (.list vs)).beyond := by
  have called : (modelName d (.cls c)).outcome σ = (.ok (.str (σ.className c)), σ) := rfl
  rw [searching, outcome_bind_ok called, outcome_bind_ok (outcome_noteQuery h hands ..)]
  rw [← Store.selects_noted] at selected
  generalize noted : σ.noted _ _ _ = mid
  have hands : st.Hands k name j ds mid := noted ▸ hands.noted ..
  have selected : mid.selects criteria ds = .ok xs := noted ▸ selected
  obtain ⟨a, passed⟩ := asks.passedOn "find"
  obtain ⟨vs, found⟩ := outcome_find hands.keeps selected
    (asks.window h.built.fair.1.options.skip count xs)
  have through : (findThrough d (.handle (.collection j)) criteria args).outcome mid =
      (sourceOf (windowed q.options.skip limit xs)).outcome (mid.called j (.list vs)) := by
    rw [findThrough, outcome_callOr_usual (usual_collection h hands rfl), passed]
    exact found
  have later : (mid.called j (.list vs)).selects criteria ds = .ok xs := by
    rw [Store.selects_called, selected]
  refine ⟨vs, mid.called j (.list vs), ?_, hands.called vs, later,
    Store.beyond_called (noted ▸ Store.beyond_noted ..) ..⟩
  rw [outcome_bind, through, ← outcome_bind, sourceOf]
  simp only [bind_assoc, pure_bind]
  rfl

/-- Counting through the handle gives the number of the documents in the window. -/
theorem outcome_counting (d : Dispatch) :
    ∃ after, (counting d c i criteria q.options.countArguments
        (.handle (.collection j))).outcome σ = (.ok (.int (q.part xs).length), after) ∧
      st.Hands k name j ds after ∧ ∃ vs, after.beyond = (σ.called j (.list vs)).beyond := by
  obtain ⟨fair, -⟩ := h.built.fair
  obtain ⟨limit, count, same, asks⟩ := fair.options.asks_count
  have found : windowed q.options.skip limit xs = q.part xs := by
    rw [Query.part, windowed, windowed, same]
  obtain ⟨a, passed⟩ := asks.passedOn "count_documents"
  obtain ⟨vs, counted⟩ := outcome_countDocuments hands.keeps selected
    (asks.window fair.options.skip count _)
  have through : (countThrough d (.handle (.collection j)) criteria
      q.options.countArguments).outcome σ =
      (.ok (.int (q.part xs).length), σ.called j (.list vs)) := by
    rw [countThrough, outcome_callOr_usual (usual_collection h hands rfl), passed,
      outcome_bind_ok (outcome_ofExcept ..), outcome_bind_ok counted, found]
    rfl
  have called : (modelName d (.cls c)).outcome (σ.called j (.list vs)) =
    (.ok (.str ((σ.called j (.list vs)).className c)), σ.called j (.list vs)) := rfl
  rw [counting, outcome_bind_ok through, outcome_bind_ok called,
    outcome_bind_ok (outcome_noteQuery h (hands.called vs) ..)]
  exact ⟨_, rfl, (hands.called vs).noted .., vs, Store.beyond_noted ..⟩

end

section

variable (picks : q.Picks ds xs)
include picks

/-- Searching by plain criteria gives a new cursor over the documents in the window. -/
theorem outcome_searching {σ : Store} {j : Nat} {args : Entries} {limit : Value}
    (hands : st.Hands k name j ds σ) (count : limit.IsCount) (asks : args.Asks q.options.skip limit) :
    ∃ after, (searching d c i (.dict q.criteria) args (.handle (.collection j))).outcome σ =
        (.ok (.handle (.cursor .query st.cursors.size)), after) ∧
      st.Opens d c k name i q ds (windowed q.options.skip limit xs) after ∧
      ∃ vs, after.beyond = (σ.called j (.list vs)).beyond := by
  obtain ⟨vs, mid, searched, hands, -, beyond⟩ :=
    outcome_searching_eq h hands (picks.selected σ) count asks d
  have copied := outcome_copies
    (fun x hx => picks.docs x (windowed_subset q.options.skip limit xs hx)) mid
  have docs : ∀ x ∈ windowed q.options.skip limit xs, x.entries?.isSome := fun x hx =>
    h.docs x (Store.selects_subset (picks.selected σ) (windowed_subset _ _ _ hx))
  obtain ⟨after, opened, opens, same⟩ := outcome_opening (h.of_hands hands) docs d
  have size : mid.cursors.size = st.cursors.size :=
    congrArg (fun k : Desk => k.cursors.size) (Store.desk_of_aside hands.aside)
  refine ⟨after, ?_, opens.of_aside hands.aside, vs, same.trans beyond⟩
  rw [searched, outcome_bind_ok copied, opened, size]

/-- Running a query of plain criteria gives a new cursor over the documents in its window. -/
theorem outcome_execute {extra : Entries} {limit : Value} (count : limit.IsCount)
    (asks : ∀ args : Entries, args.Asks q.options.skip q.options.limit →
      (args.merge extra).Asks q.options.skip limit) (d : Dispatch) :
    ∃ after, (execute d (.handle (.query .bound i)) extra).outcome st =
        (.ok (.handle (.cursor .query st.cursors.size)), after) ∧
      st.Opens d c k name i q ds (windowed q.options.skip limit xs) after := by
  obtain ⟨args, asked, executed⟩ := outcome_execute_plain h.poses picks.plain d
  obtain ⟨j, mid, handle, hands⟩ := outcome_handleOf (d := d) h.configured h.connected
  obtain ⟨after, searched, opens, -⟩ :=
    outcome_searching (d := d) h picks hands count (asks args asked)
  exact ⟨after, by rw [executed, outcome_bind_ok handle, searched], opens⟩

end

end Act

end DocMapper
