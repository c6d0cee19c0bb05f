import DocMapper.Proofs.Dealing

/-!
Every deal in the store is the deal in the ledger.  What a deal reads is what the ledger has, so the
answer is the same; what it writes is written in the ledger as well.
-/

namespace DocMapper

theorem Query.start_plain {criteria : Value} {c : ClassRef} {q : Query}
    (started : start .bound criteria (.cls c) = .ok q) (plain : criteria.Plain) :
    q.BuiltFor c ∧ (Value.dict q.criteria).Plain ∧ q.options = .empty := by
  obtain ⟨es, rfl, rfl | entries⟩ := start_eq_ok started
  · exact ⟨⟨criteria, .cls c, [], _, started, rfl⟩, .dict _ (by simp) (by simp), rfl⟩
  · refine ⟨⟨criteria, .cls c, [], _, started, rfl⟩, ?_, rfl⟩
    cases plain <;> cases entries <;> exact .dict _ (by assumption) (by assumption)

namespace Store

variable {st mid held after : Store} {d : Dispatch} {p : Seat} {models : String → Option Attached}
variable {given : List Nat} {l : Ledger} {m : Attached} {name : String} {x y : Instance}
variable {i j place : Nat} {es fs : Entries} {data : Entries} {ds found vs : List Value}
variable {result answer : Except Fault Value} {form : Except Fault Entries} {criteria id : Value}

/-- An instance that takes the id that it was stored under is stored as what was stored. -/
theorem Forms.keyed (forms : st.Forms d fs (.ok es)) (o : st.Orderly) (n : Nat) :
    st.Forms d (fs.keyed ((es.field? "_id").getD (generatedId n)))
      (.ok (es.keyed ((es.field? "_id").getD (generatedId n)))) := by
  have settled : es.field? "_id" = none → ((es.field? "_id").getD (generatedId n)).Settled := by
    intro free
    rw [free]
    exact .objectId _
  refine ⟨fun σ leads => ?_, fun gs same => ?_, fun v there => ?_⟩
  · obtain ⟨after, prepared, beyond⟩ := forms.prepared σ leads
    exact ⟨after, Act.outcome_prepare_keyed settled prepared, beyond⟩
  · cases same
    cases free : es.field? "_id" with
    | none => exact Entries.simple_keyed (forms.simple _ rfl) ⟨.objectId _, .objectId _⟩
    | some v =>
      rw [Entries.keyed_some free]
      exact forms.simple _ rfl
  · rw [Entries.field?_keyed] at there
    cases own : fs.field? "_id" with
    | some u =>
      rw [own] at there
      cases there
      exact forms.id _ own
    | none =>
      obtain ⟨σ, prepared, -⟩ := forms.prepared st (.refl o)
      rw [own, (Act.outcome_prepare prepared).2.1 _ own] at there
      cases there
      exact .objectId _

/-- What is stored under a name is plain data. -/
theorem Sits.documents_simple (sits : st.Sits p) (name : String) :
    ∀ x ∈ ((st.stored p.stock).touched name).documents name, x.Simple ∧ ∃ es, x = .dict es := by
  intro x member
  rw [Entries.documents, Entries.field?_touched, stored_eq, Entries.field?_map] at member
  cases there : (st.stockAt p.stock).field? name with
  | none =>
    rw [there] at member
    cases member
  | some v =>
    obtain ⟨s, ds, rfl, -, shelf, docs⟩ := sits.field? there
    rw [there] at member
    simp only [Option.map_some, Option.getD_some, onShelf, shelf] at member
    exact docs x member

/-- What was done before a deal, and changed no document, counts as part of it. -/
theorem Settles.after_trades {kept : Except Fault Value × Ledger} {out : Except Fault Value × Store}
    (trades : st.Trades p mid) (documents : mid.documents = st.documents)
    (h : mid.Settles d p models given out kept) : st.Settles d p models given out kept where
  answer := h.answer
  trades := trades.trans h.trades
  books := h.books
  more := documents ▸ h.more
  others i present other := by
    rw [h.others i (documents ▸ present) other, documentAt, documents, documentAt]
  fresh := documents ▸ h.fresh

/-- A query for plain data on a class, which was not limited. -/
structure Asks (st : Store) (c : ClassRef) (i : Nat) (q : Query) : Prop where
  query : st.queries[i]? = some q
  built : q.BuiltFor c
  plain : (Value.dict q.criteria).Plain
  empty : q.options = .empty

namespace Books

variable (h : st.Books d p models given l) (o : st.Orderly)
include h o

theorem settles_quiet (none : instancesIn result = []) (shows : result.map st.shown = result) :
    st.Settles d p models given (result, st) (result, l) :=
  h.settles_same o (.of_ground h.sits rfl rfl rfl) h.data rfl none shows

/-- A deal with the model of a name, if there is one. -/
theorem settles_named {f : ClassRef → Act Value} {g : Attached → Except Fault Value × Ledger}
    (each : ∀ m, st.Hosts p.connection m →
      st.Settles d p models given ((f m.cls).outcome st) (g m)) :
    st.Settles d p models given ((Act.modelNamed p.connection name >>= f).outcome st)
      (l.withModel models p.space name g) := by
  have named := Act.outcome_modelNamed h.sits h.exposes name
  rw [Ledger.withModel]
  cases found : models name with
  | some m =>
    rw [found] at named
    rw [Act.outcome_bind_ok named]
    exact each m (h.exposes.hosts name m found)
  | none =>
    rw [found] at named
    rw [Act.outcome_bind_error named]
    exact h.settles_quiet o rfl rfl

/-- A new instance is given. -/
theorem settles_create (hosts : st.Hosts p.connection m) (forms : st.Forms d fs form) :
    st.Settles d p models given ((Act.instantiate d m.cls (.dict fs)).outcome st)
      (.ok (Instance.shown ⟨m, fs, form, true⟩), l.giving [⟨m, fs, form, true⟩]) := by
  rw [Act.outcome_instantiate hosts.models.makes rfl]
  have trades : st.Trades p (st.created ⟨m.cls, .dict fs, .bool true⟩) :=
    .of_ground h.sits rfl rfl rfl
  refine h.settles o trades [⟨m, fs, form, true⟩] h.data Array.push_eq_append ?_ ?_ rfl ?_
  · simpa using hosts
  · simpa using forms
  · intro holds
    cases holds with
    | cons one _ => exact congrArg Except.ok (shown_document one.present one.document)

section

variable (visits : st.Visits p m.collection after)
include visits

theorem settles_visits (documents : after.documents = st.documents) (none : instancesIn result = [])
    (shows : result.map after.shown = result) :
    st.Settles d p models given (result, after) (result, l.touched m.collection) :=
  h.settles_same o visits.toTrades (by rw [visits.stored, h.data]) documents none shows

/-- Documents that were found are wrapped and given. -/
theorem settles_found (hosts : st.Hosts p.connection m) (wraps : st.Wraps m.cls found vs after)
    (docs : ∀ x ∈ found, x.Simple ∧ ∃ es, x = .dict es)
    (instances : instancesIn result = List.range' st.documents.size found.length)
    (shows : List.Forall₂ (after.Holds d p.connection)
      (List.range' st.documents.size found.length) (found.map (.wrapping m)) →
      result.map after.shown = answer) :
    st.Settles d p models given (result, after)
      (answer, (l.touched m.collection).giving (found.map (.wrapping m))) := by
  refine h.settles o visits.toTrades (found.map (.wrapping m)) (by rw [visits.stored, h.data]; rfl)
    ?_ ?_ ?_ ?_ ?_
  · rw [wraps.documents, List.map_map]
    rfl
  · intro x member
    obtain ⟨y, -, rfl⟩ := List.mem_map.mp member
    exact hosts
  · intro x member
    obtain ⟨y, there, rfl⟩ := List.mem_map.mp member
    obtain ⟨simple, es, rfl⟩ := docs y there
    exact forms_simple simple
  · rw [List.length_map]
    exact instances
  · rw [List.length_map]
    exact shows

end

/-- A search, and what is done with the query that it gives. -/
theorem settles_started {f : Value → Act Value} {g : Query → Except Fault Value × Ledger}
    (hosts : st.Hosts p.connection m) (plain : criteria.Plain)
    (each : ∀ (σ : Store) q i, σ.Books d p models given l → σ.Orderly → σ.Hosts p.connection m →
      σ.Asks m.cls i q → σ.Settles d p models given ((f (.handle (.query .bound i))).outcome σ) (g q)) :
    st.Settles d p models given ((Act.findIn d m.cls criteria >>= f).outcome st)
      (match Query.start .bound criteria (.cls m.cls) with
        | .error e => (.error e, l)
        | .ok q => g q) := by
  rw [Act.outcome_bind, Act.outcome_findIn hosts.models.builder plain]
  cases started : Query.start .bound criteria (.cls m.cls) with
  | error e => exact h.settles_quiet o rfl rfl
  | ok q =>
    obtain ⟨built, plain, empty⟩ := Query.start_plain started plain
    let asked : Store := { st with queries := st.queries.push q }
    have trades : st.Trades p asked := .of_ground h.sits rfl rfl rfl
    have books : asked.Books d p models given l :=
      h.keep (trades.leads o) (fun _ _ hosts => hosts.of_setting rfl) trades.sits rfl h.data
        fun i member => ⟨h.present i member, rfl⟩
    have asks : asked.Asks m.cls st.queries.size q := ⟨by simp [asked], built, plain, empty⟩
    exact (each asked q _ books (o.of_setting rfl) (hosts.of_setting rfl) asks).after_trades trades rfl

/-- A search that is waited for. -/
theorem settles_find (hosts : st.Hosts p.connection m) (plain : criteria.Plain) :
    st.Settles d p models given ((Act.findIn d m.cls criteria >>= Act.wait d).outcome st)
      (l.find m criteria) := by
  refine h.settles_started o hosts plain fun σ q i h o hosts asks => ?_
  have waits := Act.outcome_wait_seat o hosts asks.query asks.built asks.plain h.sits asks.empty d
  rw [Ledger.select]
  rw [h.data] at waits
  cases selected : Criteria.select (.dict q.criteria)
      ((l.data.touched m.collection).documents m.collection) with
  | error e =>
    rw [selected] at waits
    obtain ⟨after, failed, visits, documents⟩ := waits
    rw [failed]
    exact h.settles_visits o visits documents rfl rfl
  | ok found =>
    rw [selected] at waits
    obtain ⟨vs, after, done, visits, wraps⟩ := waits
    rw [done]
    obtain ⟨-, rfl⟩ := Criteria.select_eq_chosen selected
    refine h.settles_found o visits hosts wraps (fun x member => ?_) ?_ fun holds => ?_
    · exact h.sits.documents_simple m.collection x
        (h.data ▸ Criteria.chosen_subset _ _ member)
    · rw [wraps.instances]
      simp [instancesIn, Value.instances, List.filterMap_map]
    · have kinds : ∀ x ∈ (Criteria.chosen (.dict q.criteria)
          ((l.data.touched m.collection).documents m.collection)).map (Instance.wrapping m),
          x.kind = m := by simp [Instance.wrapping]
      rw [wraps.instances, ← map_shown holds kinds]
      simp [Except.map, shown, shown.one, Function.comp_def]

/-- A count. -/
theorem settles_count (hosts : st.Hosts p.connection m) (plain : criteria.Plain) :
    st.Settles d p models given
      ((Act.findIn d m.cls criteria >>= fun q => Act.countMatching d q []).outcome st)
      (l.count m criteria) := by
  refine h.settles_started o hosts plain fun σ q i h o hosts asks => ?_
  have counts := Act.outcome_count_seat o hosts asks.query asks.built asks.plain h.sits asks.empty d
  rw [Ledger.select]
  rw [h.data] at counts
  cases selected : Criteria.select (.dict q.criteria)
      ((l.data.touched m.collection).documents m.collection) with
  | error e =>
    rw [selected] at counts
    obtain ⟨after, failed, visits, documents⟩ := counts
    rw [failed]
    exact h.settles_visits o visits documents rfl rfl
  | ok found =>
    rw [selected] at counts
    obtain ⟨after, done, visits, documents⟩ := counts
    rw [done]
    exact h.settles_visits o visits documents rfl rfl

/-- A search for an id. -/
theorem settles_findById (hosts : st.Hosts p.connection m) (plain : id.Plain) :
    st.Settles d p models given ((Act.findById d m.cls id).outcome st) (l.findById m id) := by
  have criteria : (Value.dict [(.str "_id", Act.searchKey id)]).Plain :=
    .dict _ (by simpa using .str "_id") (by simpa using plain.searchKey)
  rw [Act.findById, Act.outcome_bind, Act.outcome_callOr_usual hosts.models.finds, ← Act.outcome_bind]
  let missing : Fault := .notFound m.cls (Act.searchKey id)
  suffices each : ∀ (σ : Store) q i, σ.Books d p models given l → σ.Orderly →
      σ.Hosts p.connection m → σ.Asks m.cls i q → σ.Settles d p models given _
        (l.first m q.criteria missing) from h.settles_started o hosts criteria each
  intro σ q i h o hosts asks
  have usual := (o.bare (.query .bound i)).usual o.pristine rfl
    (show Interface.inherited? "ModelQuery" "first" = some (.known "ModelQuery", _) from rfl)
  have firsts := Act.outcome_first_seat o hosts asks.query asks.built asks.plain h.sits asks.empty d
  rw [Act.outcome_bind, Act.outcome_callOr_usual usual, Ledger.first, Ledger.select]
  rw [h.data] at firsts
  cases selected : Criteria.select (.dict q.criteria)
      ((l.data.touched m.collection).documents m.collection) with
  | error e =>
    rw [selected] at firsts
    obtain ⟨after, failed, visits, documents⟩ := firsts
    rw [failed]
    exact h.settles_visits o visits documents rfl rfl
  | ok found =>
    rw [selected] at firsts
    obtain ⟨vs, after, done, visits, wraps⟩ := firsts
    rw [done]
    obtain ⟨-, chosen⟩ := Criteria.select_eq_chosen selected
    cases found with
    | nil =>
      obtain rfl : vs = [] := wraps.instances
      have documents : after.documents = σ.documents := by simpa using wraps.documents
      obtain ⟨noted, kept⟩ := visits.noted Part.model.log .warning fun st =>
        s!"{st.className m.cls} with _id {st.text (Act.searchKey id)} not found."
      exact h.settles_visits o noted (kept.trans documents) rfl rfl
    | cons x xs =>
      obtain rfl : vs = [.handle (.document m.cls σ.documents.size)] := wraps.instances
      have wraps : σ.Wraps m.cls [x] _ after := wraps
      refine h.settles_found o visits hosts wraps (fun y member => ?_) rfl fun holds => ?_
      · rw [List.mem_singleton.mp member]
        exact h.sits.documents_simple m.collection x
          (h.data ▸ Criteria.chosen_subset _ _ (chosen ▸ List.mem_cons_self))
      · cases holds with
        | cons one _ => exact congrArg Except.ok (shown_document one.present one.document)

/-- What is done with the instance of a place, if there is one. -/
theorem settles_instance {f : Nat → Act Unit} {g : Instance → Except Fault Value × Ledger}
    (each : ∀ i x, given[place]? = some i → l.instances[place]? = some x →
      st.Holds d p.connection i x →
      st.Settles d p models given ((f i >>= fun _ => pure .null).outcome st) (g x)) :
    st.Settles d p models given ((Deal.onInstance given place f).outcome st)
      (l.withInstance place g) := by
  rw [Deal.onInstance, Ledger.withInstance]
  rcases forall₂_getElem? h.instances place with ⟨none, nothing⟩ | ⟨i, x, there, instance_eq, holds⟩
  · rw [none, nothing]
    exact h.settles_quiet o rfl rfl
  · rw [there, instance_eq]
    exact each i x there instance_eq holds

/-- A given instance was changed. -/
theorem settles_revised (trades : st.Trades p after) (stored : after.stored p.stock = data)
    (there : given[place]? = some i)
    (documents : after.documents = st.documents.setIfInBounds i y.document)
    (hosts : st.Hosts p.connection y.kind) (forms : st.Forms d y.fields y.form) :
    st.Settles d p models given (.ok .null, after)
      (.ok .null, { data, instances := l.instances.set place y }) := by
  have leads := trades.leads o
  have kept (m : Attached) (hosts : st.Hosts p.connection m) : after.Hosts p.connection m :=
    hosts.of_setting trades.setting
  have present := h.present i (List.mem_of_getElem? there)
  have other (j : Nat) (different : j ≠ i) : after.documentAt j = st.documentAt j := by
    simp [documentAt, documents, Array.getD_eq_getD_getElem?, different.symm]
  have size : after.documents.size = st.documents.size := by simp [documents]
  have holds : after.Holds d p.connection i y := by
    refine ⟨size ▸ present, ?_, kept _ hosts, forms.mono leads⟩
    simp [documentAt, documents, Array.getD_eq_getD_getElem?, present]
  refine ⟨rfl, trades, ?_, Nat.le_of_eq size.symm, fun j _ mine => other j ?_,
    by simp [instancesIn, Value.instances]⟩
  · rw [show instancesIn (.ok .null) = [] from rfl, List.append_nil]
    exact h.revise leads (fun m _ => kept m) trades.sits
      (congrArg (fun ss : Array Entries => ss.getD p.space []) trades.spaces) stored there holds
      fun j member different => ⟨size ▸ h.present j member, other j different⟩
  · rintro rfl
    exact mine (List.mem_of_getElem? there)

/-- An instance gets other fields. -/
theorem settles_edit (there : given[place]? = some i) (holds : st.Holds d p.connection i x)
    (forms : st.Forms d fs form) :
    st.Settles d p models given ((Act.assignFields i fs >>= fun _ => pure .null).outcome st)
      (.ok .null, l.revising place { x with fields := fs, form }) := by
  rw [Act.outcome_bind_ok (Act.outcome_assignFields ..), holds.document]
  let y : Instance := { x with fields := fs, form }
  exact h.settles_revised (y := y) o (.of_ground h.sits rfl rfl rfl) h.data there rfl holds.hosts forms

section

variable (touches : held.Touches p x.kind.collection j ds mid) (trades : st.Trades p mid)
variable (stored : held.stored p.stock = l.data) (documents : mid.documents = st.documents)
variable (holds : st.Holds d p.connection i x) (form_eq : x.form = .ok es)
include touches trades stored documents holds form_eq

/-- A new instance is stored. -/
theorem settles_insert (there : given[place]? = some i) (isNew : x.isNew = true) :
    st.Settles d p models given
      ((Act.saveNew d i (.handle (.collection j)) (.dict es) >>= fun _ => pure .null).outcome mid)
      (.ok .null, l.insert place mid.generated x es) := by
  have orderly := (trades.leads o).orderly
  have forms := holds.forms
  rw [form_eq] at forms
  have here : mid.documentAt i = ⟨x.kind.cls, .dict x.fields, .bool true⟩ := by
    rw [documentAt, documents, ← isNew]
    exact holds.document
  obtain ⟨σ, prepared, -⟩ := forms.prepared st (.refl o)
  obtain ⟨after, saved, saving, kept, changed⟩ := Act.outcome_saveNew_seat (d := d) orderly touches here
    (forms.simple es rfl) ((Act.outcome_prepare prepared).2.1 _)
  rw [Act.outcome_bind_ok saved]
  let key := (es.field? "_id").getD (generatedId (mid.generated + 1))
  let y : Instance :=
    { x with fields := x.fields.keyed key, form := .ok (es.keyed key), isNew := false }
  refine h.settles_revised (y := y) o (trades.trans saving) ?_ there ?_ holds.hosts (forms.keyed o _)
  · rw [kept, stored, ← touches.documents, stored]
    rfl
  · rw [changed, documents]
    rfl

/-- The document that an instance selects is updated. -/
theorem settles_update :
    st.Settles d p models given
      ((Act.saveStored d i (.handle (.collection j)) (.dict es) >>= fun _ => pure .null).outcome mid)
      (l.update x es) := by
  have orderly := (trades.leads o).orderly
  have forms := holds.forms
  rw [form_eq] at forms
  have here : mid.documentAt i = x.document := by
    rw [documentAt, documents]
    exact holds.document
  have read : (l.touched x.kind.collection).data.documents x.kind.collection = ds := by
    rw [Ledger.touched, ← touches.documents, stored]
  rw [Ledger.update]
  cases key : x.fields.field? "_id" with
  | none =>
    have fields : (mid.documentAt i).fields = .dict x.fields := congrArg Document.fields here
    rw [Act.outcome_bind_error (Act.outcome_saveStored_unkeyed fields key es)]
    refine h.settles_same o trades ?_ documents rfl rfl
    rw [touches.stored, stored]
  | some id =>
    obtain ⟨after, saving, same, saved⟩ := Act.outcome_saveStored_seat (d := d) orderly touches here key
      (forms.id id key) (forms.simple es rfl)
    simp only [read]
    cases done : revised ds id es.withoutKey with
    | error e =>
      rw [done] at saved
      obtain ⟨saved, kept⟩ := saved
      rw [Act.outcome_bind_error saved]
      exact h.settles_same o (trades.trans saving) (by rw [kept, stored]) (same.trans documents) rfl rfl
    | ok new =>
      rw [done] at saved
      obtain ⟨saved, kept⟩ := saved
      rw [Act.outcome_bind_ok saved]
      exact h.settles_same o (trades.trans saving) (by rw [kept, stored]; rfl) (same.trans documents)
        rfl rfl

end

/-- An instance is saved. -/
theorem settles_save (there : given[place]? = some i) (holds : st.Holds d p.connection i x) :
    st.Settles d p models given ((Act.save d i >>= fun _ => pure .null).outcome st)
      (l.save place st.generated x) := by
  rw [Ledger.save]
  cases valid : x.kind.required.find? fun name => (x.fields.field? name).isNone with
  | some name =>
    rw [Act.outcome_bind_error (Act.outcome_save_invalid o holds.hosts holds.document valid)]
    exact h.settles_quiet o rfl rfl
  | none =>
    obtain ⟨held, prepared, beyond⟩ := holds.forms.prepared st (.refl o)
    have setting := setting_of_beyond beyond
    have trades : st.Trades p held := .of_beyond h.sits beyond
    have kept := documents_of_beyond beyond
    have stored : held.stored p.stock = l.data :=
      (stored_of_ground (ground_of_beyond beyond) _).trans h.data
    cases form : x.form with
    | error e =>
      rw [form] at prepared
      have refused := Act.outcome_save_valid o holds.hosts holds.document valid prepared
      rw [Act.outcome_bind_error (refused.trans (Act.outcome_bind_error (Act.outcome_ofExcept ..)))]
      exact h.settles_same o trades stored kept rfl rfl
    | ok es =>
      rw [form] at prepared
      obtain ⟨j, ds, mid, handle, touches⟩ :=
        Act.outcome_handleOf_seat (o.of_setting setting) trades.sits x.kind.collection d
      have trades := trades.trans (.of_within touches.toWithin)
      have documents : mid.documents = st.documents := (documents_of_aside touches.aside).trans kept
      have generated : mid.generated = st.generated := by
        change mid.aside.generated = st.beyond.generated
        rw [touches.aside, ← beyond]
        rfl
      have isNew : (mid.documentAt i).isNew.truthy = x.isNew := by
        rw [documentAt, documents]
        exact congrArg (Value.truthy ∘ Document.isNew) holds.document
      rw [Act.outcome_bind, Act.outcome_save_hosted o holds.hosts holds.document valid prepared beyond,
        Act.outcome_bind_ok handle, Act.outcome_bind_ok (Act.outcome_document i mid), isNew]
      cases new : x.isNew with
      | true =>
        rw [if_pos rfl, ← Act.outcome_bind, ← generated]
        exact h.settles_insert o touches trades stored documents holds form there new
      | false =>
        rw [if_neg Bool.false_ne_true, ← Act.outcome_bind]
        exact h.settles_update o touches trades stored documents holds form

/-- A deal in the store is the deal in the ledger, where `turn` says what fields are stored as. -/
theorem settles_deal {base : Store} {turn : Entries → Except Fault Entries} {deal : Deal}
    (leads : base.Leads st) (fits : deal.Fits d base)
    (turned : ∀ fs, (∃ form, base.Forms d fs form) → base.Forms d fs (turn fs)) :
    st.Settles d p models given ((deal.act d p.connection given).outcome st)
      (l.step models p.space turn deal) := by
  cases deal with
  | create name fields =>
    exact h.settles_named o fun m hosts => h.settles_create o hosts ((turned fields fits).mono leads)
  | edit place fields =>
    exact h.settles_instance o fun i x there _ holds =>
      h.settles_edit o there holds ((turned fields fits).mono leads)
  | save place generated =>
    refine h.settles_instance o fun i x there _ holds => ?_
    let mid : Store := { st with generated }
    have trades : st.Trades p mid := .of_ground h.sits rfl rfl rfl
    have leads := trades.leads o
    have kept (m : Attached) (hosts : st.Hosts p.connection m) : mid.Hosts p.connection m :=
      hosts.of_setting rfl
    have books : mid.Books d p models given l :=
      h.keep leads (fun m _ => kept m) trades.sits rfl h.data fun i member => ⟨h.present i member, rfl⟩
    rw [bind_assoc, Act.outcome_bind_ok (Act.outcome_modify ..)]
    exact (books.settles_save leads.orderly there
      (holds.keep leads (kept _) holds.present rfl)).after_trades trades rfl
  | find name criteria =>
    exact h.settles_named o fun m hosts => h.settles_find o hosts fits
  | count name criteria =>
    exact h.settles_named o fun m hosts => h.settles_count o hosts fits
  | findById name id =>
    exact h.settles_named o fun m hosts => h.settles_findById o hosts fits

end Books

end Store

end DocMapper
