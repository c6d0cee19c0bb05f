import DocMapper.Proofs.Connecting
import DocMapper.Proofs.Operating

/-!
Which handles a connection gives out, however it is come to.  Collections that are asked for by
their names, models that are asked for theirs and operations of models share one pool: a name has
one handle, two names have two, and the database was asked once for each name, in the order in which
the names were first needed.
-/

namespace DocMapper

namespace Act

variable {d : Dispatch} {st : Store} {k c f t : Nat} {es : Entries} {name : String} {url : Value}

/-- A connection selects a database that its client has not given before: it keeps no handles yet,
and the database was asked for nothing. -/
theorem outcome_select_new (ordinary : st.Ordinary) (present : k < st.connections.size)
    (handles : (st.connectionAt k).handles = .dict [])
    (kept : (st.clientAt c).databases = .dict es) (new : es.field? name = none)
    (data : (st.clientAt c).data = .handle (.stock t)) :
    ∃ after, (select d k c name).outcome st = (.ok (), after) ∧
      after.Caches k st.databases.size [] [] ∧ after.setting = st.setting ∧
      after.documentAt = st.documentAt := by
  have usual := ordinary.usual (h := .client c) rfl rfl
    (show Interface.inherited? "MockClient" "get_database" = some (.known "MockClient", _) from rfl)
  let grown := Entries.put es (.str name) (.handle (.database st.databases.size))
  let mid : Store := { st with
    databases := st.databases.push { name := .str name, data := (st.clientAt c).data }
    clients := st.clients.setIfInBounds c { st.clientAt c with databases := .dict grown } }
  have given : (databaseOf c (.str name)).outcome st =
      (.ok (.handle (.database st.databases.size)), mid) := by
    rw [databaseOf, outcome_bind_ok (outcome_client c st),
      outcome_bind_ok (outcome_isIn_databases kept name), kept, new]
    rfl
  let selecting : Connection :=
    { st.connectionAt k with database := .handle (.database st.databases.size) }
  let selected : Store := { mid with connections := st.connections.setIfInBounds k selecting }
  have put : (setConnection k selecting).outcome mid = (.ok (), selected) := rfl
  have bare : selected.Bare (.connection k) := (ordinary.bare _ rfl).of_setting rfl
  have there : selected.connectionAt k = selecting := by
    simp [Store.connectionAt, selected, Array.getD_eq_getD_getElem?, present]
  have made : selected.databaseAt st.databases.size =
      { name := .str name, data := (st.clientAt c).data } := by
    simp [Store.databaseAt, selected, mid, Array.getD_eq_getD_getElem?]
  have caches : selected.Caches k st.databases.size [] [] := by
    refine ⟨ordinary.of_setting rfl, ?_, ?_, by rw [there], ?_, ⟨t, ?_⟩, ?_, .nil, .nil, by simp⟩
    · simpa [selected] using present
    · simp [selected, mid]
    · rw [there]
      exact handles
    · rw [made]
      exact data
    · rw [made]
      rfl
  have ran : (select d k c name).outcome st = (.ok (), selected.noted
      (selected.connectionAt k).log .info fun _ => s!"Connected to database '{name}'") := by
    have same : mid.connectionAt k = st.connectionAt k := rfl
    rw [select, outcome_bind_ok ((outcome_callOr_usual usual).trans given),
      outcome_bind_ok (outcome_connection k mid), same, outcome_bind_ok put,
      outcome_noteConnection bare]
  exact ⟨_, ran, caches.accrues (.of_footing (Store.footing_noted ..)), Store.setting_noted ..,
    funext fun i => Store.documentAt_noted _ _ _ _ i⟩

/-- A connection that connects for the first time. -/
theorem outcome_connect_first (ordinary : st.Ordinary) (present : k < st.connections.size)
    (handles : (st.connectionAt k).handles = .dict [])
    (unserved : (st.connectionAt k).client = .null)
    (factory : (st.connectionAt k).factory = .handle (.factory f))
    (kind : (st.factories.getD f default).kind ≠ .failing)
    (named : ConnectionString.databaseNameOf url = .ok name) (options : Entries) :
    ∃ after, (connect d k url options).outcome st = (.ok (), after) ∧
      after.Caches k st.databases.size [] [] ∧ after.setting = st.setting ∧
      after.documentAt = st.documentAt := by
  let linked := ((st.consulting f url options).linked k f).noted (st.connectionAt k).log .info
    fun _ => s!"Created client for database '{name}'"
  have setting : linked.setting = st.setting := Store.setting_noted ..
  have connection : linked.connectionAt k =
      { st.connectionAt k with client := .handle (.client st.clients.size) } := by
    rw [Store.connectionAt, Store.connections_noted]
    simp [Store.linked, Store.consulting, Store.connectionAt, Array.getD_eq_getD_getElem?, present]
  have client : linked.clientAt st.clients.size =
      { data := .handle (.stock (st.factories.getD f default).stock) } := by
    rw [Store.clientAt, Store.clients_noted]
    simp [Store.linked, Store.furnished, Store.consulting, Array.getD_eq_getD_getElem?]
  have databases : linked.databases = st.databases := Store.databases_noted ..
  have there : k < linked.connections.size := by
    rw [Store.connections_noted]
    simpa [Store.linked, Store.consulting] using present
  have documents : linked.documentAt = st.documentAt :=
    funext fun i => Store.documentAt_noted _ _ _ _ i
  obtain ⟨after, done, caches, same, alike⟩ :=
    @outcome_select_new d linked k st.clients.size _ [] name (ordinary.of_setting setting) there
      (connection ▸ handles) (by rw [client]) rfl (by rw [client])
  rw [databases] at caches
  exact ⟨after, (outcome_connect_making named unserved factory (ordinary.bare _ rfl) present kind
    options).trans done, caches, same.trans setting, alike.trans documents⟩

end Act

/-- An operation of a model that needs the model's collection. -/
inductive Operation
  | opened (builder : Builder) (options : Entries)
  | waited (builder : Builder)
  | walked (builder : Builder) (limit : Option Nat)
  | count (kind : QueryKind) (i : Nat) (options : Entries)
  | first (kind : QueryKind) (i : Nat)
  | findById (id : Value)
  | save (i : Nat)

namespace Operation

def act (d : Dispatch) (c : ClassRef) : Operation → Act Value
  | opened builder options => builder.execute d options
  | waited builder => Act.wait d builder.value
  | walked builder limit => Act.iterate d builder.value limit
  | count kind i options => Act.countMatching d (.handle (.query kind i)) options
  | first kind i => Act.first d (.handle (.query kind i))
  | findById id => Act.findById d c id
  | save i => do
    Act.save d i
    return .null

/-- Queries and pipelines are bound to the model, and instances are of it.  Converting their fields
leaves alone what handles depend on. -/
def Fits (d : Dispatch) (st : Store) (c : ClassRef) : Operation → Prop
  | opened builder _ | waited builder | walked builder _ => builder.Of st c
  | count kind i _ | first kind i => (Builder.query kind i).Of st c
  | findById _ => True
  | save i => (st.documentAt i).model = c ∧
      st.Accrues ((Act.prepare d (st.documentAt i).fields).outcome st).2

/-- Instances that have nothing but data in their fields can be saved. -/
theorem fits_save (d : Dispatch) {st : Store} {c : ClassRef} {i : Nat}
    (model : (st.documentAt i).model = c) (data : (st.documentAt i).fields.Data) :
    (save i).Fits d st c := by
  refine ⟨model, ?_⟩
  rw [Act.outcome_prepare_data data]
  exact .refl st

end Operation

/-- What is asked for while a connection is used: a collection, in the connection's own name or
through a model, an operation of a model, or something that leaves the handles alone. -/
inductive Request
  | collection (name : String)
  | through (c : ClassRef) (name : String)
  | operation (c : ClassRef) (name : String) (o : Operation)
  | elsewhere (x : Act Value)

namespace Request

def act (d : Dispatch) (k : Nat) : Request → Act Value
  | collection name => Act.handleOf d k (.str name)
  | through c _ => Act.collectionFor d (.cls c)
  | operation c _ o => o.act d c
  | elsewhere x => x

/-- Models are attached to the connection, with collections of these names. -/
def Fits (d : Dispatch) (k b : Nat) (before : List Value) (st : Store) : Request → Prop
  | collection _ => True
  | through c name => st.Employs k c name
  | operation c name o => st.Employs k c name ∧ o.Fits d st c
  | elsewhere x => ∀ p, st.Caches k b before p → (x.outcome st).2.Caches k b before p

/-- The name of the collection that is needed. -/
def name? : Request → Option String
  | collection name | through _ name | operation _ name _ => some name
  | elsewhere _ => none

/-- Whether it is the handle that is asked for. -/
def asksHandle : Request → Bool
  | collection _ | through .. => true
  | _ => false

theorem named {u : Request} (asks : u.asksHandle) : ∃ name, u.name? = some name := by
  cases u with
  | collection name | through _ name => exact ⟨name, rfl⟩
  | operation | elsewhere => cases asks

/-- As long as objects come and nothing else happens, handles are left alone. -/
theorem fits_elsewhere {x : Act Value} (keeps : ∀ R, Lasts R → Act.Keeps R x) {d : Dispatch}
    {k b : Nat} {before : List Value} {st : Store} : Fits d k b before st (elsewhere x) := by
  intro p caches
  have lasts : Lasts fun st => st.Caches k b before p :=
    ⟨fun _ here => here.ordinary, fun _ _ here accrues => here.accrues accrues⟩
  exact keeps _ lasts st caches

end Request

/-- What a request makes of the handles that are kept. -/
inductive Passage.Draws (t : Passage Request) (p : Pool) : Pool → Prop
  | aside (free : t.use.name? = none) : t.Draws p p
  | barred {e : Fault} (asks : t.use.asksHandle = false) (failed : t.result = .error e)
      (others : ∀ i < t.before.collections.size, t.after.collectionAt i = t.before.collectionAt i) :
      t.Draws p p
  | given {name : String} {j : Nat} {q : Pool} (named : t.use.name? = some name)
      (gives : p.Gives name j q)
      (handed : t.use.asksHandle → t.result = .ok (.handle (.collection j)))
      (others : ∀ i < t.before.collections.size, i ≠ j →
        t.after.collectionAt i = t.before.collectionAt i) : t.Draws p q

section

variable {d : Dispatch} {st now : Store} {k b : Nat} {before : List Value} {c : ClassRef}
  {name : String} {p q : Pool} {o : Operation} {past : List (Passage Request)} {u : Request}

theorem Operation.uses (caches : st.Caches k b before p) (employs : st.Employs k c name)
    (fits : o.Fits d st c) :
    st.Uses k b before c name p (fun _ _ => True) ((o.act d c).outcome st) := by
  have underway := Store.Underway.start caches employs
  cases o with
  | opened builder options => exact (underway.execute fits options).forget
  | waited builder => exact underway.wait fits
  | walked builder limit => exact underway.iterate fits limit
  | count kind i options => exact underway.countMatching fits options
  | first kind i => exact underway.first fits
  | findById id => exact underway.findById id
  | save i =>
    refine (underway.save fits.1 fits.2).bind fun _ j q => ?_
    exact (Act.Keeps.pure _).leads_any

/-- One request. -/
theorem draws_act (caches : st.Caches k b before p) (fits : u.Fits d k b before st) :
    ∃ q, ((u.act d k).outcome st).2.Caches k b before q ∧
      Passage.Draws ⟨u, st, ((u.act d k).outcome st).1, ((u.act d k).outcome st).2⟩ p q := by
  have handed (name : String) (named : u.name? = some name)
      (same : (u.act d k).outcome st = (Act.handleOf d k (.str name)).outcome st) :
      ∃ q, ((u.act d k).outcome st).2.Caches k b before q ∧
        Passage.Draws ⟨u, st, ((u.act d k).outcome st).1, ((u.act d k).outcome st).2⟩ p q := by
    obtain ⟨j, q, after, done, gives, caches, -, more⟩ :=
      Act.outcome_handleOf_caches (d := d) caches name
    rw [same, done]
    refine ⟨q, caches, .given named gives (fun _ => rfl) fun i there _ => ?_⟩
    exact getD_prefix_eq more there _
  cases u with
  | collection name => exact handed name rfl rfl
  | through c name =>
    exact handed name rfl (Act.outcome_collectionFor (fits.configured caches.ordinary))
  | operation c name o =>
    have uses := o.uses caches fits.1 fits.2
    rw [Request.act]
    generalize (o.act d c).outcome st = went at uses
    cases uses with
    | barred underway =>
      exact ⟨p, underway.caches, .barred rfl rfl fun i there => underway.others i there id⟩
    | served gives underway =>
      have other : (Request.operation c name o).asksHandle = false := rfl
      exact ⟨_, underway.caches, .given rfl gives (fun asks => by simp [other] at asks)
        underway.others⟩
  | elsewhere x => exact ⟨p, fits p caches, .aside rfl⟩

/-- The name whose handle a request needed, if the request came so far. -/
def Passage.drawn? (k : Nat) (t : Passage Request) : Option String :=
  t.use.name?.filter fun name => (t.after.keptAt k name).isSome

theorem eraseDups_concat (names : List String) (name : String) :
    (names ++ [name]).eraseDups =
      if name ∈ names then names.eraseDups else names.eraseDups ++ [name] := by
  rw [List.eraseDups_append]
  by_cases known : name ∈ names <;> simp [List.removeAll, List.eraseDups_cons, known]

namespace Passage.Draws

variable {t : Passage Request}

theorem keeps (draws : t.Draws p q) {i : Nat} (there : p.lookup name = some i) :
    q.lookup name = some i := by
  cases draws with
  | aside | barred => exact there
  | given _ gives => exact gives.keeps there

/-- The names are those that were needed, each once. -/
theorem names (draws : t.Draws p q) (caches : t.after.Caches k b before q) {needed : List String}
    (before : p.names = needed.eraseDups) :
    q.names = (needed ++ (t.drawn? k).toList).eraseDups := by
  have stays (same : q = p) : q.names = (needed ++ (t.drawn? k).toList).eraseDups := by
    subst same
    cases drawn : t.drawn? k with
    | none => simpa using before
    | some name =>
      obtain ⟨-, kept⟩ := Option.filter_eq_some_iff.mp drawn
      have known : name ∈ q.names := by
        rw [caches.keptAt, Option.isSome_map] at kept
        by_contra absent
        rw [Pool.lookup_eq_none.mpr absent] at kept
        cases kept
      rw [before, List.mem_eraseDups] at known
      rw [Option.toList_some, eraseDups_concat, if_pos known, before]
  cases draws with
  | aside | barred => exact stays rfl
  | given named gives =>
    have drawn : t.drawn? k = some _ := Option.filter_eq_some_iff.mpr
      ⟨named, by rw [caches.keptAt, gives.lookup]; rfl⟩
    rw [drawn, Option.toList_some, eraseDups_concat, gives.names, before]
    simp only [List.mem_eraseDups]

end Passage.Draws

/-- What is so of a request that was made, by the handles that are kept after it. -/
structure Passage.Shares (k : Nat) (p : Pool) (t : Passage Request) : Prop where
  kept : ∀ name h, t.after.keptAt k name = some h →
    ∃ j, h = .handle (.collection j) ∧ p.lookup name = some j
  drawn : t.result.isOk → t.drawn? k = t.use.name?
  handed : t.use.asksHandle → ∃ name j, t.use.name? = some name ∧
    t.result = .ok (.handle (.collection j)) ∧ p.lookup name = some j
  others : ∀ name, t.use.name? = some name → ∀ i < t.before.collections.size,
    p.lookup name ≠ some i → t.after.collectionAt i = t.before.collectionAt i

namespace Passage

variable {t : Passage Request}

theorem Shares.mono (shares : t.Shares k p)
    (keeps : ∀ name j, p.lookup name = some j → q.lookup name = some j) : t.Shares k q where
  kept name h is := by
    obtain ⟨j, rfl, there⟩ := shares.kept name h is
    exact ⟨j, rfl, keeps name j there⟩
  drawn := shares.drawn
  handed asks := by
    obtain ⟨name, j, named, given, there⟩ := shares.handed asks
    exact ⟨name, j, named, given, keeps name j there⟩
  others name named i there other :=
    shares.others name named i there fun same => other (keeps name i same)

theorem Draws.shares (draws : t.Draws p q) (caches : t.after.Caches k b before q) :
    t.Shares k q := by
  have kept (name : String) (h : Value) (is : t.after.keptAt k name = some h) :
      ∃ j, h = .handle (.collection j) ∧ q.lookup name = some j := by
    rw [caches.keptAt] at is
    obtain ⟨j, there, rfl⟩ := Option.map_eq_some_iff.mp is
    exact ⟨j, rfl, there⟩
  cases draws with
  | aside free =>
    refine ⟨kept, fun _ => by simp [drawn?, free], fun asks => ?_, fun name named => ?_⟩
    · obtain ⟨name, named⟩ := Request.named asks
      rw [free] at named
      cases named
    · rw [free] at named
      cases named
  | barred asks failed others =>
    refine ⟨kept, fun ok => ?_, fun handed => ?_, fun name _ i there _ => others i there⟩
    · rw [failed] at ok
      cases ok
    · rw [asks] at handed
      cases handed
  | given named gives handed others =>
    refine ⟨kept, fun _ => ?_, fun asks => ⟨_, _, named, handed asks, gives.lookup⟩, ?_⟩
    · rw [named]
      exact Option.filter_eq_some_iff.mpr ⟨named, by rw [caches.keptAt, gives.lookup]; rfl⟩
    · intro name same i there other
      obtain rfl := Option.some.inj (named.symm.trans same)
      exact others i there fun same => other (same ▸ gives.lookup)

end Passage

/-- A run of requests. -/
theorem shares_run (caches : st.Caches k b before [])
    (run : Course (Request.act d k) (Request.Fits d k b before) st past now) :
    ∃ p, now.Caches k b before p ∧ p.names = (past.filterMap (Passage.drawn? k)).eraseDups ∧
      ∀ t ∈ past, t.Shares k p := by
  induction run with
  | start => exact ⟨[], caches, rfl, fun _ member => absurd member List.not_mem_nil⟩
  | step earlier u fits ih =>
    obtain ⟨p, caches, names, all⟩ := ih
    obtain ⟨q, after, draws⟩ := draws_act (d := d) caches fits
    refine ⟨q, after, ?_, fun t member => ?_⟩
    · rw [List.filterMap_append, draws.names after names]
      rfl
    · obtain old | new := List.mem_append.mp member
      · exact (all t old).mono fun name j there => draws.keeps there
      · rw [List.mem_singleton.mp new]
        exact draws.shares after

/-- However the collections of a connection are come to, its database was asked once for each name
that was needed, in the order in which the names first were.  What did not fail needed its name.
The handle of a name stays what it is, and two names have two; it is what those are given who ask
for it, and the only one that operations touch. -/
theorem requests_share_handles (caches : st.Caches k b before [])
    (run : Course (Request.act d k) (Request.Fits d k b before) st past now) :
    (now.databaseAt b).requests =
        .list (before ++ (past.filterMap (Passage.drawn? k)).eraseDups.map Value.str) ∧
      (∀ t ∈ past, t.result.isOk → t.drawn? k = t.use.name?) ∧
      (∀ t ∈ past, ∀ name h, t.after.keptAt k name = some h → now.keptAt k name = some h) ∧
      (∀ name other h, now.keptAt k name = some h → now.keptAt k other = some h → name = other) ∧
      (∀ t ∈ past, t.use.asksHandle → ∃ name h, t.use.name? = some name ∧ t.result = .ok h ∧
        now.keptAt k name = some h) ∧
      (∀ s ∈ past, ∀ t ∈ past, s.use.asksHandle → t.use.asksHandle →
        (s.result = t.result ↔ s.use.name? = t.use.name?)) ∧
      ∀ t ∈ past, ∀ name, t.use.name? = some name → ∀ i < t.before.collections.size,
        now.keptAt k name ≠ some (.handle (.collection i)) →
          t.after.collectionAt i = t.before.collectionAt i := by
  obtain ⟨p, caches, names, all⟩ := shares_run caches run
  have kept {name : String} {j : Nat} :
      now.keptAt k name = some (.handle (.collection j)) ↔ p.lookup name = some j := by
    rw [caches.keptAt]
    simp
  have apart {name other : String} {j : Nat} (this : p.lookup name = some j)
      (that : p.lookup other = some j) : name = other := Pool.lookup_inj caches.slots this that
  refine ⟨?_, fun t member => (all t member).drawn, fun t member name h is => ?_,
    fun name other h this that => ?_, fun t member asks => ?_,
    fun s first t second asks asks' => ?_, fun t member name named i there other => ?_⟩
  · rw [caches.requests, names]
  · obtain ⟨j, rfl, there⟩ := (all t member).kept name h is
    exact kept.mpr there
  · rw [caches.keptAt] at this
    obtain ⟨j, there, rfl⟩ := Option.map_eq_some_iff.mp this
    exact apart there (kept.mp that)
  · obtain ⟨name, j, named, given, there⟩ := (all t member).handed asks
    exact ⟨name, _, named, given, kept.mpr there⟩
  · obtain ⟨name, i, named, given, there⟩ := (all s first).handed asks
    obtain ⟨other, j, named', given', there'⟩ := (all t second).handed asks'
    rw [named, named', given, given']
    constructor
    · intro same
      cases same
      exact congrArg some (apart there there')
    · intro same
      cases same
      rw [there] at there'
      cases there'
      rfl
  · exact (all t member).others name named i there fun is => other (kept.mpr is)

/-- A model is attached to a connection that is not connected yet. -/
def Store.joining : Store :=
  { posts [] with
    connections := #[{ factory := .handle (.factory 0) }]
    factories := #[{ kind := .direct, journal := 0, stock := 0 }]
    databases := #[]
    documents := #[{ model := .model 1, fields := .dict [], isNew := .bool true }]
    journals := #[[]] }

theorem Store.ordinary_joining : joining.Ordinary where
  pristine _ _ := rfl
  numbered e member := by
    cases member with
    | head => exact Nat.one_pos
    | tail _ member => cases member
  bare _ _ := ⟨fun _ => rfl, rfl⟩

theorem Store.employs_joining : joining.Employs 0 (.model 1) "posts" where
  connection := rfl
  collection := rfl
  conventional := by
    constructor
    · exact ⟨_, rfl, rfl⟩
    · exact ⟨_, _, rfl, .inl ⟨_, rfl⟩⟩
    · exact ⟨_, rfl⟩
    · exact ⟨_, rfl⟩
    · exact ⟨_, _, rfl, by simp⟩
    · exact ⟨_, rfl⟩
    · rfl
    · exact ⟨_, _, rfl, .inl ⟨_, rfl⟩⟩

/-- An instance is saved, a query is made, and two collections are asked for. -/
def Request.mixed : List Request :=
  [.operation (.model 1) "posts" (.save 0),
    .elsewhere (Act.startQuery .bound .null (.cls (.model 1))), .collection "posts",
    .collection "authors"]

theorem requests_share_handles_joining :
    ∃ st past now, (Act.connect (dispatch [] 0) 0 (.str "mongodb://h/app") []).outcome .joining =
        (.ok (), st) ∧
      Course (Request.act (dispatch [] 0) 0) (Request.Fits (dispatch [] 0) 0 0 []) st past now ∧
      past.map Passage.use = Request.mixed ∧
      (now.databaseAt 0).requests = .list [.str "posts", .str "authors"] := by
  obtain ⟨st, connected, caches, setting, documents⟩ := Act.outcome_connect_first
    (d := dispatch [] 0) Store.ordinary_joining Nat.one_pos rfl rfl rfl (by decide)
    (show ConnectionString.databaseNameOf (.str "mongodb://h/app") = .ok "app" from rfl) []
  have employs : st.Employs 0 (.model 1) "posts" := Store.employs_joining.of_setting setting
  have caches : st.Caches 0 0 [] [] := caches
  have saves : (Operation.save 0).Fits (dispatch [] 0) st (.model 1) := by
    refine Operation.fits_save _ ?_ ?_ <;> rw [documents]
    · rfl
    · exact .dict [] fun _ none => absurd none List.not_mem_nil
  have queries (R : Store → Prop) (lasts : Lasts R) :
      Act.Keeps R (Act.startQuery .bound .null (.cls (.model 1))) :=
    (lasts.startQuery (.inl rfl) rfl .null).keeps
  obtain ⟨past, now, run, uses⟩ : ∃ past now, Course (Request.act (dispatch [] 0) 0)
      (Request.Fits (dispatch [] 0) 0 0 []) st past now ∧ past.map Passage.use = Request.mixed := by
    have run : Course (Request.act (dispatch [] 0) 0) (Request.Fits (dispatch [] 0) 0 0 []) st []
        st := .start
    have run := run.step (.operation (.model 1) "posts" (.save 0)) ⟨employs, saves⟩
    have run := run.step _ (Request.fits_elsewhere queries)
    have run := run.step (.collection "posts") (by exact trivial)
    have run := run.step (.collection "authors") (by exact trivial)
    exact ⟨_, _, run, rfl⟩
  obtain ⟨requests, drawn, -, -, handed, -⟩ := requests_share_handles caches run
  refine ⟨st, past, now, connected, run, uses, ?_⟩
  have asked (t : Passage Request) (member : t ∈ past) (name : String)
      (is : t.use = .collection name) : t.drawn? 0 = some name := by
    obtain ⟨_, _, _, ok, _⟩ := handed t member (by rw [is]; rfl)
    rw [drawn t member (by rw [ok]; rfl), is]
    rfl
  obtain ⟨a, past, rfl, saved, uses⟩ := List.map_eq_cons_iff.mp uses
  obtain ⟨b, past, rfl, made, uses⟩ := List.map_eq_cons_iff.mp uses
  obtain ⟨c, past, rfl, posts, uses⟩ := List.map_eq_cons_iff.mp uses
  obtain ⟨e, past, rfl, authors, uses⟩ := List.map_eq_cons_iff.mp uses
  obtain rfl := List.map_eq_nil_iff.mp uses
  have aside : b.drawn? 0 = none := by
    rw [Passage.drawn?, made]
    rfl
  rw [requests, List.filterMap_cons, List.filterMap_cons, List.filterMap_cons, List.filterMap_cons,
    aside, asked c (by simp) _ posts, asked e (by simp) _ authors]
  -- whether or not the save came so far, the name is the first
  cases came : a.drawn? 0 with
  | none => rfl
  | some name =>
    obtain ⟨named, -⟩ := Option.filter_eq_some_iff.mp came
    rw [saved] at named
    cases named
    rfl

end

end DocMapper
