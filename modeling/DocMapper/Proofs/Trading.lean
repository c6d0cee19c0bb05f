import DocMapper.Proofs.Ledgers
import DocMapper.Proofs.Ways

/-!
Deals with the models of a connection, one by one.  What each does in the store is what it does in a
ledger, and it stays within what the connection owns.
-/

namespace DocMapper

namespace Store

/-- A store but for classes, for instances and queries, and for connections with what they lead to. -/
def outside (st : Store) : Store :=
  { st.beyond with
    registry := .initial, queries := #[], documents := #[], connections := #[], spaces := #[]
    databases := #[], collections := #[], shelves := #[], stocks := #[], generated := 0 }

/-- From one store to another: classes were added at most, and instances, queries and connections were
used. -/
structure Leads (st after : Store) : Prop where
  outside : after.outside = st.outside
  widens : st.registry.Widens after.registry
  orderly : after.Orderly

/-- What fields are stored as from a store on; nothing else happens when they are converted. -/
structure Forms (st : Store) (d : Dispatch) (fs : Entries) (form : Except Fault Entries) : Prop where
  prepared : ∀ σ, st.Leads σ → ∃ after, (Act.prepare d (.dict fs)).outcome σ =
    (form.map .dict, after) ∧ after.beyond = σ.beyond
  simple : ∀ es, form = .ok es → (Value.dict es).Simple
  id : ∀ v, fs.field? "_id" = some v → v.Plain

/-- From one store to the next, a connection changed nothing but what it owns, and classes stayed
what they were. -/
structure Trades (st : Store) (p : Seat) (after : Store) : Prop where
  setting : after.setting = st.setting
  outside : after.outside = st.outside
  spaces : after.spaces = st.spaces
  sits : after.Sits p
  spares : st.Spares p after

/-- The documents under a name were asked for, and none was changed. -/
structure Visits (st : Store) (p : Seat) (name : String) (after : Store) : Prop
    extends Trades st p after where
  stored : after.stored p.stock = (st.stored p.stock).touched name

variable {st mid after : Store} {p : Seat} {m : Attached}

theorem Leads.refl (o : st.Orderly) : st.Leads st := ⟨rfl, .refl _, o⟩

theorem Leads.trans (h : st.Leads mid) (k : mid.Leads after) : st.Leads after :=
  ⟨k.outside.trans h.outside, h.widens.trans k.widens, k.orderly⟩

theorem Forms.mono {d : Dispatch} {fs : Entries} {form : Except Fault Entries} (h : st.Forms d fs form)
    (leads : st.Leads after) : after.Forms d fs form :=
  ⟨fun σ later => h.prepared σ (leads.trans later), h.simple, h.id⟩

theorem documents_of_beyond (beyond : after.beyond = st.beyond) : after.documents = st.documents := by
  change after.beyond.documents = st.beyond.documents
  rw [beyond]

namespace Trades

theorem leads (h : st.Trades p after) (o : st.Orderly) : st.Leads after := by
  refine ⟨h.outside, ?_, o.of_setting h.setting⟩
  rw [show after.registry = st.registry from congrArg Setting.registry h.setting]
  exact .refl _

theorem of_ground (sits : st.Sits p) (ground : after.ground = st.ground)
    (setting : after.setting = st.setting) (outside : after.outside = st.outside) :
    st.Trades p after :=
  ⟨setting, outside, congrArg Ground.spaces ground, sits.of_ground ground, .of_ground ground⟩

theorem of_beyond (sits : st.Sits p) (beyond : after.beyond = st.beyond) : st.Trades p after := by
  apply of_ground sits (ground_of_beyond beyond) (setting_of_beyond beyond)
  rw [Store.outside, Store.outside, beyond]

theorem of_within (within : st.Within p after) : st.Trades p after := by
  have same {α : Type} (f : Store → α) : f after.aside = f st.aside := congrArg f within.aside
  exact ⟨setting_of_aside within.aside, same Store.outside, same Store.spaces, within.sits,
    within.spares⟩

theorem trans (h : st.Trades p mid) (k : mid.Trades p after) : st.Trades p after :=
  ⟨k.setting.trans h.setting, k.outside.trans h.outside, k.spaces.trans h.spaces, k.sits,
    h.spares.trans k.spares⟩

end Trades

/-- Documents are read through a cursor, and nothing else happens. -/
theorem Visits.read {name : String} (h : st.Visits p name mid)
    (beyond : after.beyond = { mid.beyond with documents := after.documents }) :
    st.Visits p name after := by
  have ground : after.ground = mid.ground := by
    change after.beyond.ground = mid.ground
    rw [beyond]
    rfl
  refine ⟨h.toTrades.trans (.of_ground h.sits ground ?_ ?_),
    (stored_of_ground ground _).trans h.stored⟩
  · change after.beyond.setting = mid.setting
    rw [beyond]
    rfl
  · rw [Store.outside, beyond]
    rfl

theorem Visits.noted {name : String} (h : st.Visits p name mid) (log : String) (level : Level)
    (message : Store → String) : st.Visits p name (mid.noted log level message) ∧
      (mid.noted log level message).documents = mid.documents := by
  have beyond := beyond_noted mid log level message
  have documents := documents_of_beyond beyond
  refine ⟨h.read ?_, documents⟩
  rw [beyond, documents]
  rfl

/-- The documents under the name that was asked for. -/
theorem Touches.documents {name : String} {j : Nat} {ds : List Value} (h : st.Touches p name j ds mid) :
    ((st.stored p.stock).touched name).documents name = ds := by
  rw [← h.stored, Entries.documents, h.here]

/-- Plain criteria pick what they select of the documents under the name. -/
theorem Touches.picks {name : String} {j : Nat} {ds found : List Value} {q : Query}
    (h : st.Touches p name j ds mid) (plain : (Value.dict q.criteria).Plain)
    (selected : Criteria.select (.dict q.criteria) ds = .ok found) : q.Picks ds found := by
  obtain ⟨decided, rfl⟩ := Criteria.select_eq_chosen selected
  exact Query.picks_plain plain (fun x member => (h.docs x member).1.plain) decided

/-- The handle that was given is called, and nothing else is done. -/
theorem Touches.visits {name : String} {j : Nat} {ds vs : List Value}
    (h : st.Touches p name j ds mid) (beyond : after.beyond = (mid.called j (.list vs)).beyond) :
    st.Visits p name after ∧ after.documents = st.documents := by
  obtain ⟨⟨within, stored⟩, -⟩ := h.writing vs
  have trades := Trades.of_within (h.toWithin.trans within)
  refine ⟨⟨trades.trans (.of_beyond trades.sits beyond), ?_⟩, ?_⟩
  · exact (stored_of_ground (ground_of_beyond beyond) _).trans stored
  · exact (documents_of_beyond beyond).trans (documents_of_aside h.aside)

/-- What was read through a cursor over what a connection found. -/
theorem Opens.given {opened : Store} {d : Dispatch} {c : ClassRef} {k i : Nat} {name key : String}
    {q : Query} {ds xs ys vs : List Value} (h : mid.Opens d c k name i q ds xs opened)
    (visits : st.Visits p key opened) (documents : opened.documents = st.documents)
    (delivers : Delivers (.wraps c) d mid.cursors.size mid.sources.size opened after vs)
    (split : xs = ys ++ (after.sourceAt mid.sources.size).pending) :
    st.Visits p key after ∧ st.Wraps c ys vs after := by
  obtain ⟨-, -, wraps⟩ := h.delivered delivers
  obtain ⟨-, -, -, beyond⟩ := delivers.share
  have same : mid.documents = st.documents := h.documents.symm.trans documents
  exact ⟨visits.read beyond, same ▸ (wraps ys split).documents, same ▸ (wraps ys split).instances⟩

end Store

namespace Act

variable {d : Dispatch} {st : Store} {p : Seat} {m : Attached} {c : ClassRef} {i : Nat}
variable {fs : Entries} {isNew : Bool} {names : List String}

/-- An instance needs the fields that its class requires, the first of which is told. -/
theorem outcome_requireFields (here : st.documentAt i = ⟨c, .dict fs, .bool isNew⟩) :
    (requireFields d (.handle (.document c i)) names).outcome st =
      (match names.find? fun name => (fs.field? name).isNone with
        | some name => .error (.missing name)
        | none => .ok (), st) := by
  induction names with
  | nil => rfl
  | cons name names ih =>
    have asked : (isIn (.str name) (.dict fs)).outcome st = (.ok (fs.field? name).isSome, st) := by
      rw [outcome_isIn]
      exact congrArg (·, st) (isIn_text rfl name)
    simp only [requireFields, List.forIn_cons, bind_assoc] at ih ⊢
    rw [outcome_bind_ok (outcome_document i st), here, pure_bind, outcome_bind_ok asked]
    cases found : fs.field? name with
    | some v => simpa [found] using ih
    | none => simp [found]

theorem outcome_validate_ordinary (o : st.Orderly) (ordinary : st.registry.Ordinary c names)
    (here : st.documentAt i = ⟨c, .dict fs, .bool isNew⟩) :
    (validate d (.handle (.document c i))).outcome st =
      (match names.find? fun name => (fs.field? name).isNone with
        | some name => .error (.missing name)
        | none => .ok (), st) := by
  have bare := o.bare (.document c i)
  rcases ordinary.valid with ⟨⟨owner, m, valid⟩, rfl⟩ | ⟨owner, valid⟩
  · exact outcome_validate bare valid
  · rw [validate, outcome_bind_ok (outcome_get st), member?_document bare, bare.extraOf?, valid]
    exact outcome_requireFields here

section

variable (o : st.Orderly) {k : Nat} (hosts : st.Hosts k m)
variable (here : st.documentAt i = ⟨m.cls, .dict fs, .bool isNew⟩)
include o hosts here

/-- An instance that lacks a required field is not saved. -/
theorem outcome_save_invalid {name : String}
    (lacks : (m.required.find? fun name => (fs.field? name).isNone) = some name) :
    (save d i).outcome st = (.error (.missing name), st) := by
  have refused := outcome_validate_ordinary (d := d) o hosts.ordinary here
  rw [lacks] at refused
  rw [save, outcome_bind_ok (outcome_document i st), here, outcome_bind_error refused]

variable (valid : (m.required.find? fun name => (fs.field? name).isNone) = none) {held : Store}
include valid

/-- What a valid instance is stored as is what its fields are converted to. -/
theorem outcome_save_valid {form : Except Fault Value}
    (prepared : (prepare d (.dict fs)).outcome st = (form, held)) :
    (save d i).outcome st = (do
      let v ← ofExcept form
      let h ← instanceCollection d (.handle (.document m.cls i))
      if (← document i).isNew.truthy then saveNew d i h v else saveStored d i h v).outcome held := by
  have validated := outcome_validate_ordinary (d := d) o hosts.ordinary here
  rw [valid] at validated
  obtain ⟨f, json⟩ := hosts.ordinary.json
  have converted : (documentJson d (.handle (.document m.cls i))).outcome st = (form, held) := by
    rw [outcome_documentJson (o.bare _) json, here, prepared]
  rw [save, outcome_bind_ok (outcome_document i st), here, outcome_bind_ok validated, outcome_bind,
    converted, outcome_bind, outcome_ofExcept]

/-- A valid instance that is saved gives what it is stored as, and then asks for its handle. -/
theorem outcome_save_hosted {v : Value}
    (prepared : (prepare d (.dict fs)).outcome st = (.ok v, held))
    (beyond : held.beyond = st.beyond) :
    (save d i).outcome st = (do
      let h ← handleOf d k (.str m.collection)
      if (← document i).isNew.truthy then saveNew d i h v else saveStored d i h v).outcome held := by
  have setting := Store.setting_of_beyond beyond
  have orderly : held.Orderly := o.of_setting setting
  have hosts' : held.Hosts k m := hosts.of_setting setting
  rw [outcome_save_valid o hosts here valid prepared, outcome_bind_ok (outcome_ofExcept ..),
    outcome_bind,
    outcome_instanceCollection (orderly.bare _) hosts'.ordinary.placed (hosts'.configured orderly),
    ← outcome_bind]

end

section

variable {held : Store} {name : String} {j : Nat} {ds : List Value} {es : Entries}
variable (o : st.Orderly) (touches : held.Touches p name j ds st)
include o touches

/-- A new instance is stored after the documents that stand under its name. -/
theorem outcome_saveNew_seat (here : st.documentAt i = ⟨c, .dict fs, .bool true⟩)
    (simple : (Value.dict es).Simple) (kept : fs.field? "_id" = none → es.field? "_id" = none) :
    let key := (es.field? "_id").getD (generatedId (st.generated + 1))
    ∃ after, (saveNew d i (.handle (.collection j)) (.dict es)).outcome st = (.ok (), after) ∧
      st.Trades p after ∧
      after.stored p.stock = ((held.stored p.stock).touched name).put (.str name)
        (.list (ds ++ [.dict (es.keyed key)])) ∧
      after.documents = st.documents.setIfInBounds i ⟨c, .dict (fs.keyed key), .bool false⟩ := by
  intro key
  have filled : fs.field? "_id" = none → key ≠ .null := by
    intro none
    simp only [key]
    rw [kept none]
    exact nofun
  obtain ⟨vs, message, saved⟩ := outcome_saveNew_plain (d := d) (i := i) touches.keeps (o.bare _)
    o.pristine simple.plain (by rw [here]) rfl filled
  have id : key.Simple := by
    cases there : es.field? "_id" with
    | none =>
      simp only [key, there]
      exact ⟨.objectId _, .objectId _⟩
    | some v =>
      obtain ⟨e, member, rfl⟩ := Option.map_eq_some_iff.mp there
      simp only [key, there]
      exact (Value.Simple.dict_iff.mp simple e (List.mem_of_find?_eq_some member)).2
  obtain ⟨-, writes⟩ := touches.writing vs
  obtain ⟨within, stored⟩ := writes (ds ++ [.dict (es.keyed key)]) fun x member => by
    rcases List.mem_append.mp member with member | member
    · exact touches.docs x member
    · rw [List.mem_singleton.mp member]
      exact ⟨Entries.simple_keyed simple id, _, rfl⟩
  have written := Store.Trades.of_within within
  let placed := st.inserting i j vs ds (es.keyed key) (fs.keyed key)
  have placing : st.Trades p placed := written.trans (.of_ground within.sits rfl rfl rfl)
  refine ⟨_, saved, placing.trans (.of_beyond placing.sits (Store.beyond_noted ..)), ?_, ?_⟩
  · exact (Store.stored_of_ground (Store.ground_noted ..) _).trans stored
  · rw [Store.documents_of_beyond (Store.beyond_noted ..)]
    simp only [Store.inserting, here, key]

/-- The document that the id of an instance selects takes the changes. -/
theorem outcome_saveStored_seat {n : Value} {id : Value}
    (here : st.documentAt i = ⟨c, .dict fs, n⟩) (key : fs.field? "_id" = some id) (plain : id.Plain)
    (simple : (Value.dict es).Simple) :
    ∃ after, st.Trades p after ∧ after.documents = st.documents ∧
      match revised ds id es.withoutKey with
      | .error e => (saveStored d i (.handle (.collection j)) (.dict es)).outcome st =
          (.error e, after) ∧ after.stored p.stock = (held.stored p.stock).touched name
      | .ok new => (saveStored d i (.handle (.collection j)) (.dict es)).outcome st =
          (.ok (), after) ∧
        after.stored p.stock = ((held.stored p.stock).touched name).put (.str name) (.list new) := by
  obtain ⟨vs, message, saved⟩ := outcome_saveStored_plain (d := d) (i := i) (by rw [here])
    touches.keeps (o.bare _) o.pristine
    (fun x member => ⟨(touches.docs x member).1.plain, (touches.docs x member).2⟩) key plain es
  obtain ⟨⟨called, stored⟩, writes⟩ := touches.writing vs
  cases done : revised ds id es.withoutKey with
  | error e =>
    rw [done] at saved
    exact ⟨_, .of_within called, rfl, saved, stored⟩
  | ok new =>
    rw [done] at saved
    obtain ⟨within, stored⟩ :=
      writes new (revised_simple touches.docs (Entries.simple_withoutKey simple) done)
    refine ⟨_, (Store.Trades.of_within within).trans (.of_beyond within.sits (Store.beyond_noted ..)),
      (Store.documents_of_beyond (Store.beyond_noted ..)).trans rfl, saved, ?_⟩
    exact (Store.stored_of_ground (Store.ground_noted ..) _).trans stored

end

section

variable {q : Query} {name : String}
variable (o : st.Orderly) (hosts : st.Hosts p.connection m)
variable (query : st.queries[i]? = some q) (built : q.BuiltFor m.cls)
include o hosts query built

theorem poses_hosted : st.Poses m.cls p.connection m.collection i q :=
  ⟨hosts.configured o, query, built, o.bare _, o.bare _⟩

theorem runs_touched {j : Nat} {ds : List Value} {mid : Store}
    (touches : st.Touches p m.collection j ds mid) :
    mid.Runs m.cls p.connection m.collection i q ds ∧
      mid.Hands p.connection m.collection j ds mid := by
  have setting := Store.setting_of_aside touches.aside
  have orderly : mid.Orderly := o.of_setting setting
  have hosts : mid.Hosts p.connection m := hosts.of_setting setting
  refine ⟨⟨hosts.configured orderly, hosts.models.makes, .inl ⟨j, touches.keeps, orderly.bare _⟩,
    Store.queries_of_aside touches.aside ▸ query, built, fun x member => ?_, orderly.bare _,
    orderly.bare _, fun _ _ => orderly.bare _, fun _ _ => orderly.bare _⟩, rfl, touches.keeps,
    orderly.bare _, Nat.le_refl _, .inl ⟨rfl, rfl⟩⟩
  obtain ⟨simple, es, rfl⟩ := touches.docs x member
  rfl

variable (plain : (Value.dict q.criteria).Plain)
include plain

variable (sits : st.Sits p)
include sits

/-- A query that is run opens a cursor over what it finds, unless its criteria fail. -/
theorem outcome_execute_seat {extra : Entries} {limit : Value} (count : limit.IsCount)
    (asks : ∀ args : Entries, args.Asks q.options.skip q.options.limit →
      (args.merge extra).Asks q.options.skip limit) (d : Dispatch) :
    match Criteria.select (.dict q.criteria)
        (((st.stored p.stock).touched m.collection).documents m.collection) with
    | .error e => ∃ after, (execute d (.handle (.query .bound i)) extra).outcome st =
        (.error e, after) ∧ st.Visits p m.collection after ∧ after.documents = st.documents
    | .ok found => ∃ (ds : List Value) (mid opened : Store),
        (execute d (.handle (.query .bound i)) extra).outcome st =
          (.ok (.handle (.cursor .query mid.cursors.size)), opened) ∧
      mid.Opens d m.cls p.connection m.collection i q ds (windowed q.options.skip limit found)
        opened ∧ st.Visits p m.collection opened ∧ opened.documents = st.documents := by
  obtain ⟨args, asked, executed⟩ := outcome_execute_plain (poses_hosted o hosts query built) plain d
  obtain ⟨j, ds, mid, handle, touches⟩ := outcome_handleOf_seat o sits m.collection d
  obtain ⟨runs, hands⟩ := runs_touched o hosts query built touches
  rw [touches.documents, executed extra, outcome_bind_ok handle]
  cases selected : Criteria.select (.dict q.criteria) ds with
  | error e =>
    have failed : mid.selects (.dict q.criteria) ds = .error e :=
      (mid.selects_plain plain fun x member => (touches.docs x member).1.plain).trans selected
    obtain ⟨vs, after, failed, -, beyond⟩ :=
      outcome_searching_failed runs hands failed (asks args asked) d
    exact ⟨after, failed, touches.visits beyond⟩
  | ok found =>
    obtain ⟨opened, searched, opens, vs, beyond⟩ := outcome_searching (d := d) runs
      (touches.picks plain selected) hands count (asks args asked)
    exact ⟨ds, mid, opened, searched, opens, touches.visits beyond⟩

variable (empty : q.options = .empty)
include empty

/-- A query that is waited for gives what it finds, each wrapped by a new instance. -/
theorem outcome_wait_seat (d : Dispatch) :
    match Criteria.select (.dict q.criteria)
        (((st.stored p.stock).touched m.collection).documents m.collection) with
    | .error e => ∃ after, (wait d (.handle (.query .bound i))).outcome st = (.error e, after) ∧
        st.Visits p m.collection after ∧ after.documents = st.documents
    | .ok found => ∃ vs after, (wait d (.handle (.query .bound i))).outcome st =
        (.ok (.list vs), after) ∧ st.Visits p m.collection after ∧ st.Wraps m.cls found vs after := by
  have executes := outcome_execute_seat o hosts query built plain sits
    built.fair.1.options.limit (fun args asks => (show (Entries.merge args []).Asks _ _ from asks)) d
  have waits : (wait d (.handle (.query .bound i))).outcome st =
      (execute d (.handle (.query .bound i)) [] >>= collected d).outcome st := by
    change (executed d _ >>= collected d).outcome st = _
    rw [outcome_bind, outcome_bind,
      show (executed d (.handle (.query .bound i))).outcome st = _ from
        outcome_callOr_usual ((o.bare _).usual o.pristine rfl rfl)]
  rw [waits]
  cases selected : Criteria.select (.dict q.criteria)
      (((st.stored p.stock).touched m.collection).documents m.collection) with
  | error e =>
    rw [selected] at executes
    obtain ⟨after, failed, visits⟩ := executes
    exact ⟨after, outcome_bind_error failed, visits⟩
  | ok found =>
    rw [selected] at executes
    obtain ⟨ds, mid, opened, done, opens, visits, documents⟩ := executes
    obtain ⟨vs, answer, delivers, none, -⟩ := opens.yields.delivers_bulk (Effect.adds_wraps m.cls)
      (show Reading.collectAll ≠ .next by simp) (by rw [opens.idle]; simp)
    have all : windowed q.options.skip q.options.limit found = found := by
      rw [empty]
      rfl
    obtain ⟨visits, wraps⟩ := opens.given visits documents delivers
      (by rw [all, none, List.append_nil])
    have usual := opens.bare.usual opens.runs.configured.pristine rfl
      (show Interface.inherited? "QueryCursor" "collect_all" = some (.known "BaseCursor", _) from rfl)
    refine ⟨vs, _, ?_, visits, wraps⟩
    rw [outcome_bind_ok done, collected, outcome_bind_ok (outcome_get opened), if_pos usual]
    exact (Prod.ext answer rfl)

/-- The first that a query finds is wrapped by a new instance. -/
theorem outcome_first_seat (d : Dispatch) :
    match Criteria.select (.dict q.criteria)
        (((st.stored p.stock).touched m.collection).documents m.collection) with
    | .error e => ∃ after, (first d (.handle (.query .bound i))).outcome st = (.error e, after) ∧
        st.Visits p m.collection after ∧ after.documents = st.documents
    | .ok found => ∃ vs after, (first d (.handle (.query .bound i))).outcome st =
        (.ok (vs.headD .null), after) ∧ st.Visits p m.collection after ∧
        st.Wraps m.cls (found.take 1) vs after := by
  have executes := outcome_execute_seat o hosts query built plain sits
    (show Value.IsCount (.int 1) from .inr ⟨1, rfl⟩) (fun _ asks => asks.merge_limit (.int 1)) d
  have usual := (o.bare (.query .bound i)).usual o.pristine rfl
    (show Interface.inherited? "ModelQuery" "execute" = some (.known "ModelQuery", _) from rfl)
  have asks : (first d (.handle (.query .bound i))).outcome st =
      (execute d (.handle (.query .bound i)) [(.str "limit", .int 1)] >>= nextItem d).outcome st := by
    rw [first, outcome_bind, outcome_bind, outcome_callOr_usual usual]
  rw [asks]
  cases selected : Criteria.select (.dict q.criteria)
      (((st.stored p.stock).touched m.collection).documents m.collection) with
  | error e =>
    rw [selected] at executes
    obtain ⟨after, failed, visits⟩ := executes
    exact ⟨after, outcome_bind_error failed, visits⟩
  | ok found =>
    rw [selected] at executes
    obtain ⟨ds, mid, opened, done, opens, visits, documents⟩ := executes
    have next : (nextItem d (.handle (.cursor .query mid.cursors.size))).outcome opened =
        (Act.next d mid.cursors.size).outcome opened := by
      rw [← opens.reader]
      exact outcome_nextItem opens.yields.reads
    have one : windowed q.options.skip (.int 1) found = found.take 1 := by
      rw [empty]
      rfl
    rw [outcome_bind_ok done, next]
    rw [one] at opens
    rcases opens.yields.delivers_next (Effect.adds_wraps m.cls) with
      ⟨none, answer, delivers, -⟩ | ⟨x, xs, v, some, answer, -, delivers, rest⟩
    · obtain ⟨ys, split, -⟩ := delivers.share
      rw [none] at split
      have left := (List.append_eq_nil_iff.mp split.symm).2
      obtain ⟨visits, wraps⟩ := opens.given visits documents delivers
        (by rw [left, List.append_nil])
      exact ⟨[], _, Prod.ext answer rfl, visits, wraps⟩
    · have short : (x :: xs).length ≤ 1 := by
        rw [← some, opens.pending]
        exact List.length_take_le ..
      obtain rfl : xs = [] := by simpa using short
      obtain ⟨visits, wraps⟩ := opens.given visits documents delivers
        (by rw [rest, List.append_nil])
      exact ⟨[v], _, Prod.ext answer rfl, visits, wraps⟩

/-- A count gives the number of what a query finds. -/
theorem outcome_count_seat (d : Dispatch) :
    match Criteria.select (.dict q.criteria)
        (((st.stored p.stock).touched m.collection).documents m.collection) with
    | .error e => ∃ after, (countMatching d (.handle (.query .bound i)) []).outcome st =
        (.error e, after) ∧ st.Visits p m.collection after ∧ after.documents = st.documents
    | .ok found => ∃ after, (countMatching d (.handle (.query .bound i)) []).outcome st =
        (.ok (.int found.length), after) ∧ st.Visits p m.collection after ∧
        after.documents = st.documents := by
  have counts := outcome_countMatching_plain (poses_hosted o hosts query built) plain d
  obtain ⟨j, ds, mid, handle, touches⟩ := outcome_handleOf_seat o sits m.collection d
  obtain ⟨runs, hands⟩ := runs_touched o hosts query built touches
  rw [touches.documents, counts, outcome_bind_ok handle]
  cases selected : Criteria.select (.dict q.criteria) ds with
  | error e =>
    obtain ⟨limit, count, -, asks⟩ := built.fair.1.options.asks_count
    have failed : mid.selects (.dict q.criteria) ds = .error e :=
      (mid.selects_plain plain fun x member => (touches.docs x member).1.plain).trans selected
    obtain ⟨vs, failed⟩ := outcome_counting_failed runs hands failed asks d
    exact ⟨_, failed, touches.visits rfl⟩
  | ok found =>
    have picks := touches.picks plain selected
    obtain ⟨after, counted, -, vs, beyond⟩ := outcome_counting runs hands (picks.selected mid) d
    have all : q.part found = found := by
      rw [Query.part, empty]
      rfl
    rw [all] at counted
    exact ⟨after, counted, touches.visits beyond⟩

end

end Act

end DocMapper
