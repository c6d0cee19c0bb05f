import DocMapper.Proofs.Handles
import DocMapper.Proofs.Saving

/-!
A connection that selects one database and then another.  Selecting leaves the handles that the
connection keeps as they are; a handle that it does not keep yet is made by the database that is
selected when it is first asked for.
-/

namespace DocMapper

theorem Entries.of_mem_put {es : Entries} {k v : Value} {e : Value × Value}
    (member : e ∈ put es k v) : e ∈ es ∨ e.2 = v := by
  induction es with
  | nil => exact .inr (by rw [List.mem_singleton.mp member])
  | cons f es ih =>
    rw [put] at member
    split at member <;> rcases List.mem_cons.mp member with rfl | member
    · exact .inr rfl
    · exact .inl (List.mem_cons_of_mem f member)
    · exact .inl List.mem_cons_self
    · exact (ih member).imp (List.mem_cons_of_mem f) id

namespace Store

def clientAt (st : Store) (c : Nat) : Client := st.clients.getD c default

/-- The handle that a connection keeps under a name; null counts as none. -/
def keptAt (st : Store) (k : Nat) (name : String) : Option Value :=
  ((st.connectionAt k).handles.entries?.bind fun es => es.get? (.str name)).filter Registry.isSet

/-- A database that is there. -/
def IsDatabase (st : Store) (v : Value) : Prop :=
  ∃ b, v = .handle (.database b) ∧ b < st.databases.size

/-- A client with the databases that were asked for. -/
structure Serving (st : Store) (c : Nat) : Prop where
  present : c < st.clients.size
  databases : ∃ es, (st.clientAt c).databases = .dict es ∧ ∀ e ∈ es, st.IsDatabase e.2

/-- A connection with a client, or with what makes one, which selects a database of it. -/
structure Roams (st : Store) (k : Nat) : Prop where
  pristine : st.registry.Pristine
  bare : st.Bare (.connection k)
  clients : ∀ c, st.Bare (.client c)
  databases : ∀ b, st.Bare (.database b)
  present : k < st.connections.size
  handles : ∃ es, (st.connectionAt k).handles = .dict es
  selected : (st.connectionAt k).database = .null ∨ st.IsDatabase (st.connectionAt k).database
  client : ((st.connectionAt k).client = .null ∧
      ∃ f, (st.connectionAt k).factory = .handle (.factory f)) ∨
    ∃ c, (st.connectionAt k).client = .handle (.client c) ∧ st.Serving c

variable {st after : Store} {k : Nat}

theorem Roams.of_setting (roams : st.Roams k) (setting : after.setting = st.setting)
    (present : k < after.connections.size)
    (handles : ∃ es, (after.connectionAt k).handles = .dict es)
    (selected : (after.connectionAt k).database = .null ∨
      after.IsDatabase (after.connectionAt k).database)
    (client : ((after.connectionAt k).client = .null ∧
        ∃ f, (after.connectionAt k).factory = .handle (.factory f)) ∨
      ∃ c, (after.connectionAt k).client = .handle (.client c) ∧ after.Serving c) :
    after.Roams k where
  pristine := by
    rw [show after.registry = st.registry from congrArg Setting.registry setting]
    exact roams.pristine
  bare := roams.bare.of_setting setting
  clients c := (roams.clients c).of_setting setting
  databases b := (roams.databases b).of_setting setting
  present := present
  handles := handles
  selected := selected
  client := client

theorem IsDatabase.mono {v : Value} (is : st.IsDatabase v)
    (more : st.databases.size ≤ after.databases.size) : after.IsDatabase v :=
  let ⟨b, is, there⟩ := is
  ⟨b, is, Nat.lt_of_lt_of_le there more⟩

theorem Serving.mono {c : Nat} (serving : st.Serving c) (clients : after.clients = st.clients)
    (more : st.databases.size ≤ after.databases.size) : after.Serving c := by
  obtain ⟨es, kept, all⟩ := serving.databases
  exact ⟨clients ▸ serving.present, es, by rw [clientAt, clients]; exact kept,
    fun e member => (all e member).mono more⟩

theorem Roams.of_aside (roams : st.Roams k) (es : Entries) (aside : after.aside = st.aside)
    (databases : st.databases.size ≤ after.databases.size)
    (connection : after.connectionAt k = { st.connectionAt k with handles := .dict es })
    (present : k < after.connections.size) : after.Roams k := by
  have clients : after.clients = st.clients := by
    change after.aside.clients = st.aside.clients
    rw [aside]
  refine roams.of_setting (setting_of_aside aside) present ⟨es, by rw [connection]⟩ ?_ ?_ <;>
    rw [connection]
  · exact roams.selected.imp id fun is => is.mono databases
  · exact roams.client.imp id fun ⟨c, is, serving⟩ => ⟨c, is, serving.mono clients databases⟩

theorem Roams.noted (roams : st.Roams k) (log : String) (level : Level)
    (message : Store → String) : (st.noted log level message).Roams k := by
  obtain ⟨es, handles⟩ := roams.handles
  refine roams.of_aside es (aside_noted ..) ?_ ?_ ?_
  · exact Nat.le_of_eq (congrArg Array.size (databases_noted ..).symm)
  · rw [connectionAt, connections_noted, ← handles, connectionAt]
  · rw [connections_noted]
    exact roams.present

theorem keptAt_congr (connections : after.connections = st.connections) :
    after.keptAt k = st.keptAt k := by
  funext name
  simp only [keptAt, connectionAt, connections]

end Store

namespace Act

variable {d : Dispatch} {st : Store} {k b t : Nat} {name : String}

/-- There is a shelf under every name that is asked for. -/
theorem outcome_shelfOf_any (t : Nat) (name : String) (st : Store) :
    ∃ s after, (shelfOf t (.str name)).outcome st = (.ok s, after) ∧ after.aside = st.aside ∧
      after.connections = st.connections ∧ after.databases = st.databases ∧
      after.collections = st.collections := by
  have key : (checkKey (.str name)).outcome st = (.ok (), st) := rfl
  rw [shelfOf, outcome_bind_ok key, outcome_bind_ok (outcome_stock t st)]
  split <;> exact ⟨_, _, rfl, rfl, rfl, rfl, rfl⟩

theorem outcome_newHandle_any (name : String) (there : b < st.databases.size) :
    ∃ result after, (newHandle b (.str name)).outcome st = (result, after) ∧
      after.aside = st.aside ∧ after.connections = st.connections ∧
      after.databases.size = st.databases.size ∧
      ((∃ e, result = .error e ∧ after.collections.size = st.collections.size) ∨
        result = .ok st.collections.size ∧ after.collections.size = st.collections.size + 1 ∧
          appended (st.databaseAt b).requests (.str name) = .ok (after.databaseAt b).requests ∧
          ∀ b', b' ≠ b → after.databaseAt b' = st.databaseAt b') := by
  rw [newHandle, outcome_bind_ok (outcome_database b st)]
  cases asked : appended (st.databaseAt b).requests (.str name) with
  | error e =>
    rw [outcome_bind_error (outcome_ofExcept ..)]
    exact ⟨_, _, rfl, rfl, rfl, rfl, .inl ⟨e, rfl, rfl⟩⟩
  | ok requests =>
    rw [outcome_bind_ok (outcome_ofExcept ..)]
    let asking : Store := { st with
      databases := st.databases.setIfInBounds b { st.databaseAt b with requests } }
    rw [outcome_bind_ok (show (setDatabase b _).outcome st = (.ok (), asking) from rfl)]
    have recorded : (asking.databaseAt b).requests = requests := by
      simp [Store.databaseAt, asking, Array.getD_eq_getD_getElem?, there]
    have others : ∀ b', b' ≠ b → asking.databaseAt b' = st.databaseAt b' := by
      intro b' other
      simp [Store.databaseAt, asking, Array.getD_eq_getD_getElem?, other.symm]
    split
    · rename_i t _
      obtain ⟨s, mid, done, aside, connections, databases, collections⟩ :=
        outcome_shelfOf_any t name asking
      rw [outcome_bind_ok done]
      refine ⟨_, _, rfl, aside, connections, ?_, .inr ⟨?_, ?_, ?_, ?_⟩⟩
      · simp [databases, asking]
      · exact congrArg (fun cs : Array Collection => Except.ok cs.size) collections
      · simp [collections, asking]
      · simp only [Store.databaseAt, databases] at recorded ⊢
        rw [recorded]
      · intro b' other
        simp only [Store.databaseAt, databases] at others ⊢
        exact others b' other
    · exact ⟨_, asking, rfl, rfl, rfl, by simp [asking], .inl ⟨_, rfl, rfl⟩⟩

/-- A name that nothing is kept under leads to a new handle, if it leads to one. -/
theorem outcome_handleOf_any (roams : st.Roams k) (name : String) :
    ∃ result after, (handleOf d k (.str name)).outcome st = (result, after) ∧ after.Roams k ∧
      after.setting = st.setting ∧
      ((∃ h, result = .ok h ∧ st.keptAt k name = some h ∧ after = st) ∨
        (∃ e, result = .error e ∧ after.keptAt k = st.keptAt k ∧
          after.collections.size = st.collections.size) ∨
        ∃ b, (st.connectionAt k).database = .handle (.database b) ∧ st.keptAt k name = none ∧
          result = .ok (.handle (.collection st.collections.size)) ∧
          after.collections.size = st.collections.size + 1 ∧
          appended (st.databaseAt b).requests (.str name) = .ok (after.databaseAt b).requests ∧
          (∀ b', b' ≠ b → after.databaseAt b' = st.databaseAt b') ∧
          ∀ other, after.keptAt k other =
            if other = name then some (.handle (.collection st.collections.size))
            else st.keptAt k other) := by
  have usual (b : Nat) := (roams.databases b).usual roams.pristine rfl
    (show Interface.inherited? "MockDatabase" "get_collection" = some (.known "MockDatabase", _)
      from rfl)
  obtain ⟨es, handles⟩ := roams.handles
  have kept : keptHandle (st.connectionAt k).handles (.str name) = .ok (st.keptAt k name) := by
    simp [keptHandle, Store.keptAt, handles, Value.entries?, Value.unhashable?]
  rw [handleOf, outcome_bind_ok (outcome_connection k st)]
  obtain none | ⟨b, selected, there⟩ := roams.selected
  · rw [none]
    simp only
    rw [outcome_bind_ok (outcome_noteConnection roams.bare ..)]
    refine ⟨_, _, outcome_throw .., roams.noted .., Store.setting_noted .., .inr (.inl ⟨_, rfl, ?_, ?_⟩)⟩
    · exact Store.keptAt_congr (Store.connections_noted ..)
    · rw [Store.collections_noted]
  · rw [selected]
    simp only
    rw [outcome_bind_ok (outcome_connection k st), kept, outcome_bind_ok (outcome_ofExcept ..)]
    cases held : st.keptAt k name with
    | some h => exact ⟨_, st, rfl, roams, rfl, .inl ⟨h, rfl, rfl, rfl⟩⟩
    | none =>
      simp only
      rw [outcome_bind, outcome_callOr_usual (usual b)]
      obtain ⟨result, mid, made, aside, connections, databases, went⟩ :=
        outcome_newHandle_any name there
      have same : mid.connectionAt k = st.connectionAt k := by
        rw [Store.connectionAt, connections, Store.connectionAt]
      have bare : mid.Bare (.connection k) := roams.bare.of_setting (Store.setting_of_aside aside)
      obtain ⟨e, rfl, collections⟩ | ⟨rfl, collections, asked, others⟩ := went
      · rw [outcome_bind_error made]
        refine ⟨_, mid, rfl, ?_, Store.setting_of_aside aside,
          .inr (.inl ⟨e, rfl, Store.keptAt_congr connections, collections⟩)⟩
        refine roams.of_aside es aside (Nat.le_of_eq databases.symm) ?_
          (connections ▸ roams.present)
        rw [same, ← handles]
      · simp only [outcome_bind_ok made, outcome_pure]
        -- the connection keeps what the database made
        let handle : Value := .handle (.collection st.collections.size)
        let keeping : Connection :=
          { st.connectionAt k with handles := .dict (Entries.put es (.str name) handle) }
        let keeps : Store := { mid with connections := mid.connections.setIfInBounds k keeping }
        have there : keeps.connectionAt k = keeping := by
          simp [Store.connectionAt, keeps, Array.getD_eq_getD_getElem?, connections, roams.present]
        have put : (setConnection k keeping).outcome mid = (.ok (), keeps) := rfl
        have bare : keeps.Bare (.connection k) := bare.of_setting rfl
        rw [outcome_bind_ok (outcome_connection k mid), same, handles]
        simp only [keepHandle]
        rw [outcome_bind_ok (outcome_ofExcept ..), outcome_bind_ok put,
          outcome_bind_ok (outcome_noteConnection bare ..)]
        have keptAt (other : String) : keeps.keptAt k other =
            if other = name then some handle else st.keptAt k other := by
          simp only [Store.keptAt, there, keeping, handles, Value.entries?, Option.bind_some,
            Entries.get?_put_text, eq_comm]
          split <;> rfl
        refine ⟨_, _, rfl, ?_, ?_, .inr (.inr ⟨b, rfl, trivial, rfl, ?_, ?_, ?_, ?_⟩)⟩
        · refine roams.of_aside (Entries.put es (.str name) handle) ?_ ?_ ?_ ?_
          · rw [Store.aside_noted]
            exact aside
          · simpa [keeps] using Nat.le_of_eq databases.symm
          · simp [Store.connectionAt, keeps, Array.getD_eq_getD_getElem?, connections,
              roams.present, keeping]
          · simpa [keeps, connections] using roams.present
        · rw [Store.setting_noted]
          exact Store.setting_of_aside aside
        · simpa using collections
        · simpa [Store.databaseAt] using asked
        · simpa [Store.databaseAt] using others
        · intro other
          rw [← keptAt]
          exact congrFun (Store.keptAt_congr (Store.connections_noted ..)) other

theorem outcome_client (c : Nat) (st : Store) :
    (client c).outcome st = (.ok (st.clientAt c), st) := by
  rw [client, bind_pure_comp, outcome_map]
  rfl

theorem outcome_factory (f : Nat) (st : Store) :
    (factory f).outcome st = (.ok (st.factories.getD f default), st) := by
  rw [factory, bind_pure_comp, outcome_map]
  rfl

theorem outcome_journal (j : Nat) (st : Store) :
    (journal j).outcome st = (.ok (st.journals.getD j []), st) := by
  rw [journal, bind_pure_comp, outcome_map]
  rfl

theorem outcome_setJournal (j : Nat) (vs : List Value) (st : Store) :
    (setJournal j vs).outcome st =
      (.ok (), { st with journals := st.journals.setIfInBounds j vs }) := rfl

theorem outcome_runFactory (f : Nat) (url : Value) (options : Entries) (st : Store) :
    ∃ result after, (runFactory f url options).outcome st = (result, after) ∧
      after.setting = st.setting ∧ after.connections = st.connections ∧
      after.databases = st.databases ∧ after.collections = st.collections ∧
      ((∃ e, result = .error e) ∨
        result = .ok (.handle (.client st.clients.size)) ∧ after.Serving st.clients.size) := by
  rw [runFactory, outcome_bind_ok (outcome_factory f st), outcome_bind_ok (outcome_journal _ st),
    outcome_bind_ok (outcome_setJournal ..)]
  split
  · exact ⟨_, _, rfl, rfl, rfl, rfl, rfl, .inl ⟨_, rfl⟩⟩
  · refine ⟨_, _, rfl, rfl, rfl, rfl, rfl, .inr ⟨rfl, ?_, [], ?_, by simp⟩⟩
    · simp
    · simp [Store.clientAt, Array.getD_eq_getD_getElem?]

/-- A client gives the database of a name, which stays the same. -/
theorem outcome_databaseOf {c : Nat} (serving : st.Serving c) (name : String) :
    ∃ v after, (databaseOf c (.str name)).outcome st = (.ok v, after) ∧ after.IsDatabase v ∧
      after.setting = st.setting ∧ after.connections = st.connections ∧
      after.collections = st.collections ∧ st.databases.size ≤ after.databases.size ∧
      after.Serving c := by
  obtain ⟨es, kept, all⟩ := serving.databases
  have known : (isIn (.str name) (st.clientAt c).databases).outcome st =
      (.ok (Entries.field? es name).isSome, st) := by
    rw [outcome_isIn, kept]
    exact congrArg (·, st) (isIn_text rfl name)
  rw [databaseOf, outcome_bind_ok (outcome_client c st), outcome_bind_ok known, kept]
  cases found : Entries.field? es name with
  | some v =>
    simp only [Value.entries?, Option.isSome_some]
    obtain ⟨e, member, rfl⟩ : ∃ e ∈ es, e.2 = v := by
      obtain ⟨e, member, same⟩ := Option.map_eq_some_iff.mp found
      exact ⟨e, List.mem_of_find?_eq_some member, same⟩
    refine ⟨e.2, st, ?_, all e member, rfl, rfl, rfl, Nat.le_refl _, serving⟩
    rw [show Entries.get? es (.str name) = some e.2 from found]
    rfl
  | none =>
    simp only [Value.entries?, Option.isSome_none]
    refine ⟨_, _, rfl, ⟨st.databases.size, rfl, by simp⟩, rfl, rfl, rfl, by simp, ?_, ?_⟩
    · simpa using serving.present
    · refine ⟨Entries.put es (.str name) (.handle (.database st.databases.size)), ?_,
        fun e member => ?_⟩
      · simp [Store.clientAt, Array.getD_eq_getD_getElem?, serving.present]
      · rcases Entries.of_mem_put member with member | made
        · exact (all e member).mono (by simp)
        · exact ⟨_, made, by simp⟩

/-- What a connection does once there is a client. -/
def select (d : Dispatch) (k c : Nat) (name : String) : Act Unit := do
  let database ← callOr d .never (.handle (.client c)) (.known "MockClient") "get_database"
    [.str name] [] (databaseOf c (.str name))
  setConnection k { (← connection k) with database }
  noteConnection k .info fun _ => s!"Connected to database '{name}'"

theorem outcome_select {c : Nat} (roams : st.Roams k)
    (client : (st.connectionAt k).client = .handle (.client c)) (serving : st.Serving c)
    (name : String) :
    ∃ after, (select d k c name).outcome st = (.ok (), after) ∧ after.Roams k ∧
      after.setting = st.setting ∧ after.keptAt k = st.keptAt k ∧
      after.collections = st.collections := by
  have usual := (roams.clients c).usual roams.pristine rfl
    (show Interface.inherited? "MockClient" "get_database" = some (.known "MockClient", _) from rfl)
  obtain ⟨v, mid, done, isDatabase, setting, connections, collections, more, serving⟩ :=
    outcome_databaseOf serving name
  have same : mid.connectionAt k = st.connectionAt k := by
    rw [Store.connectionAt, connections, Store.connectionAt]
  let selecting : Connection := { st.connectionAt k with database := v }
  let selected : Store := { mid with connections := mid.connections.setIfInBounds k selecting }
  have put : (setConnection k selecting).outcome mid = (.ok (), selected) := rfl
  have there : selected.connectionAt k = selecting := by
    simp [Store.connectionAt, selected, Array.getD_eq_getD_getElem?, connections, roams.present]
  have setting : selected.setting = st.setting := setting
  have bare : selected.Bare (.connection k) := roams.bare.of_setting setting
  have stays : selected.Roams k := by
    refine roams.of_setting setting (by simpa [selected, connections] using roams.present) ?_ ?_ ?_
      <;> rw [there]
    · exact roams.handles
    · exact .inr isDatabase
    · exact .inr ⟨c, client, serving.mono rfl (Nat.le_refl _)⟩
  rw [select, outcome_bind_ok ((outcome_callOr_usual usual).trans done),
    outcome_bind_ok (outcome_connection k mid), same, outcome_bind_ok put,
    outcome_noteConnection bare]
  refine ⟨_, rfl, stays.noted .., (Store.setting_noted ..).trans setting, ?_, ?_⟩
  · rw [Store.keptAt_congr (Store.connections_noted ..)]
    funext name
    rw [Store.keptAt, there, Store.keptAt]
  · rw [Store.collections_noted]
    exact collections

theorem outcome_select_noted {c : Nat} (roams : st.Roams k)
    (client : (st.connectionAt k).client = .handle (.client c)) (serving : st.Serving c)
    (name log : String) (level : Level) (message : Store → String) :
    ∃ after, (select d k c name).outcome (st.noted log level message) = (.ok (), after) ∧
      after.Roams k ∧ after.setting = st.setting ∧ after.keptAt k = st.keptAt k ∧
      after.collections = st.collections := by
  obtain ⟨after, done, stays, setting, kept, collections⟩ :=
    outcome_select (d := d) (roams.noted log level message)
      (by rw [Store.connectionAt, Store.connections_noted]; exact client)
      (serving.mono (Store.clients_noted ..) (Nat.le_of_eq (by simp))) name
  refine ⟨after, done, stays, setting.trans (Store.setting_noted ..), ?_, ?_⟩
  · rw [kept, Store.keptAt_congr (Store.connections_noted ..)]
  · rw [collections, Store.collections_noted]

/-- A connection that has a client only selects. -/
theorem outcome_connect_given {c : Nat} {url : Value}
    (named : ConnectionString.databaseNameOf url = .ok name)
    (client : (st.connectionAt k).client = .handle (.client c)) (options : Entries) :
    (connect d k url options).outcome st = (select d k c name).outcome st := by
  rw [connect, named, outcome_bind_ok (outcome_ofExcept ..),
    outcome_bind_ok (outcome_connection k st), client]
  rfl

/-- A connection selects a database, or fails; the handles that it keeps stay. -/
theorem outcome_connect_any (roams : st.Roams k) (url : Value) (options : Entries) :
    ∃ result after, (connect d k url options).outcome st = (result, after) ∧ after.Roams k ∧
      after.setting = st.setting ∧ after.keptAt k = st.keptAt k ∧
      after.collections.size = st.collections.size := by
  cases named : ConnectionString.databaseNameOf url with
  | error e =>
    rw [connect, named, outcome_bind_error (outcome_ofExcept ..)]
    exact ⟨_, _, rfl, roams, rfl, rfl, rfl⟩
  | ok database =>
    obtain ⟨none, f, factory⟩ | ⟨c, client, serving⟩ := roams.client
    · rw [connect, named, outcome_bind_ok (outcome_ofExcept ..),
        outcome_bind_ok (outcome_connection k st), none]
      simp only
      have making : (makeClient d k url options).outcome st =
          (runFactory f url options).outcome st := by
        rw [makeClient, outcome_bind_ok (outcome_connection k st), factory]
      obtain ⟨result, mid, ran, setting, connections, databases, collections, went⟩ :=
        outcome_runFactory f url options st
      have same : mid.connectionAt k = st.connectionAt k := by
        rw [Store.connectionAt, connections, Store.connectionAt]
      have selected {v : Value} : st.IsDatabase v → mid.IsDatabase v := fun is =>
        is.mono (Nat.le_of_eq (congrArg Array.size databases).symm)
      obtain ⟨e, rfl⟩ | ⟨rfl, serving⟩ := went
      · rw [outcome_bind_error (making.trans ran)]
        refine ⟨_, mid, rfl, ?_, setting, Store.keptAt_congr connections,
          congrArg Array.size collections⟩
        refine roams.of_setting setting (connections ▸ roams.present) ?_ ?_ ?_ <;> rw [same]
        · exact roams.handles
        · exact roams.selected.imp id selected
        · exact .inl ⟨none, f, factory⟩
      · -- the connection keeps the client, and then selects as if it had been given
        let keeping : Connection :=
          { st.connectionAt k with client := .handle (.client st.clients.size) }
        let kept : Store := { mid with connections := mid.connections.setIfInBounds k keeping }
        have there : kept.connectionAt k = keeping := by
          simp [Store.connectionAt, kept, Array.getD_eq_getD_getElem?, connections, roams.present]
        have put : (setConnection k keeping).outcome mid = (.ok (), kept) := rfl
        have setting : kept.setting = st.setting := setting
        have stays : kept.Roams k := by
          refine roams.of_setting setting (by simpa [kept, connections] using roams.present)
            ?_ ?_ ?_ <;> rw [there]
          · exact roams.handles
          · exact roams.selected.imp id selected
          · exact .inr ⟨_, rfl, serving.mono rfl (Nat.le_refl _)⟩
        rw [outcome_bind_ok (making.trans ran), outcome_bind_ok (outcome_connection k mid), same,
          outcome_bind_ok put, outcome_bind_ok (outcome_noteConnection stays.bare ..)]
        obtain ⟨after, done, selects, set, keptAt, size⟩ := outcome_select_noted (d := d) stays
          (by rw [there]) (serving.mono rfl (Nat.le_refl _)) database (kept.connectionAt k).log .info
          fun _ => s!"Created client for database '{database}'"
        refine ⟨_, after, done, selects, set.trans setting, ?_, ?_⟩
        · funext name
          rw [keptAt, Store.keptAt, there, Store.keptAt]
        · rw [size]
          exact congrArg Array.size collections
    · rw [outcome_connect_given named client]
      obtain ⟨after, done, stays, setting, kept, collections⟩ :=
        outcome_select (d := d) roams client serving database
      exact ⟨_, after, done, stays, setting, kept, congrArg Array.size collections⟩

end Act

end DocMapper
