import DocMapper.Proofs.Selecting
import DocMapper.Proofs.Touching

/-!
A connection without a client asks its factory for one, each time that it is to connect until the
factory gives one, and keeps that client from then on.  What it fails at leaves it as it was.
-/

namespace DocMapper

namespace Store

/-- A store but for connections and what a client is asked for, and for notes. -/
def unlinked (st : Store) : Store :=
  { st with connections := #[], clients := #[], databases := #[], notes := #[] }

theorem unlinked_noted (st : Store) (log : String) (level : Level) (message : Store → String) :
    (st.noted log level message).unlinked = st.unlinked := by
  unfold noted
  split <;> rfl

/-- A database that has its name and the data of its client. -/
structure OfClient (st : Store) (c : Nat) (name : String) (b : Nat) : Prop where
  present : b < st.databases.size
  named : (st.databaseAt b).name = .str name
  data : (st.databaseAt b).data = (st.clientAt c).data

/-- A database that a client keeps under a name. -/
structure Provides (st : Store) (c : Nat) (name : String) (b : Nat) : Prop
    extends st.OfClient c name b where
  kept : ∃ es, (st.clientAt c).databases = .dict es ∧
    Entries.get? es (.str name) = some (.handle (.database b))

/-- A client that keeps its databases under their names. -/
structure Naming (st : Store) (c : Nat) : Prop where
  present : c < st.clients.size
  databases : ∃ es, (st.clientAt c).databases = .dict es ∧
    ∀ e ∈ es, ∃ name b, e = (.str name, .handle (.database b)) ∧ st.OfClient c name b

/-- What a factory was asked, as its journal has it. -/
def consulted (st : Store) (f : Nat) : List Value :=
  st.journals.getD (st.factories.getD f default).journal []

/-- A factory is asked once more. -/
def consulting (st : Store) (f : Nat) (url : Value) (options : Entries) : Store :=
  { st with
    journals := st.journals.setIfInBounds (st.factories.getD f default).journal
      (st.consulted f ++ [.tuple [url, .dict options]]) }

/-- A factory made a client. -/
def furnished (st : Store) (f : Nat) : Store :=
  { st with
    clients := st.clients.push { data := .handle (.stock (st.factories.getD f default).stock) } }

/-- A factory made a client, and a connection keeps it. -/
def linked (st : Store) (k f : Nat) : Store :=
  { st.furnished f with
    connections := st.connections.setIfInBounds k
      { st.connectionAt k with client := .handle (.client st.clients.size) } }

variable {st after : Store} {c k f b : Nat} {name : String}

theorem Naming.serving (naming : st.Naming c) : st.Serving c := by
  obtain ⟨es, kept, all⟩ := naming.databases
  refine ⟨naming.present, es, kept, fun e member => ?_⟩
  obtain ⟨name, b, rfl, is⟩ := all e member
  exact ⟨b, rfl, is.present⟩

theorem OfClient.congr (is : st.OfClient c name b) (clients : after.clients = st.clients)
    (databases : after.databases = st.databases) : after.OfClient c name b := by
  refine ⟨databases ▸ is.present, ?_, ?_⟩
  · rw [databaseAt, databases]
    exact is.named
  · rw [databaseAt, databases, clientAt, clients]
    exact is.data

theorem Provides.congr (provides : st.Provides c name b) (clients : after.clients = st.clients)
    (databases : after.databases = st.databases) : after.Provides c name b := by
  obtain ⟨is, kept⟩ := provides
  exact ⟨is.congr clients databases, by rw [clientAt, clients]; exact kept⟩

theorem Naming.congr (naming : st.Naming c) (clients : after.clients = st.clients)
    (databases : after.databases = st.databases) : after.Naming c := by
  obtain ⟨es, kept, all⟩ := naming.databases
  refine ⟨clients ▸ naming.present, es, by rw [clientAt, clients]; exact kept, fun e member => ?_⟩
  obtain ⟨name, b, rfl, is⟩ := all e member
  exact ⟨name, b, rfl, is.congr clients databases⟩

end Store

namespace Act

variable {d : Dispatch} {st : Store} {c k f b : Nat} {name : String} {url : Value}
  {options : Entries}

theorem outcome_isIn_databases {es : Entries} (kept : (st.clientAt c).databases = .dict es)
    (name : String) :
    (isIn (.str name) (st.clientAt c).databases).outcome st =
      (.ok (Entries.field? es name).isSome, st) := by
  rw [outcome_isIn, kept]
  exact congrArg (·, st) (isIn_text rfl name)

/-- A client gives the database that it keeps. -/
theorem outcome_databaseOf_provided (provides : st.Provides c name b) :
    (databaseOf c (.str name)).outcome st = (.ok (.handle (.database b)), st) := by
  obtain ⟨es, kept, found⟩ := provides.kept
  rw [databaseOf, outcome_bind_ok (outcome_client c st),
    outcome_bind_ok (outcome_isIn_databases kept name), kept]
  simp only [Value.entries?]
  rw [show Entries.field? es name = some (.handle (.database b)) from found]
  simp only [Option.isSome_some, found]
  rfl

/-- A client gives the database of a name, and keeps it. -/
theorem outcome_databaseOf_naming (naming : st.Naming c) (name : String) :
    ∃ b after, (databaseOf c (.str name)).outcome st = (.ok (.handle (.database b)), after) ∧
      after.Provides c name b ∧ after.Naming c ∧ after.connections = st.connections ∧
      after.unlinked = st.unlinked := by
  obtain ⟨es, kept, all⟩ := naming.databases
  cases found : Entries.get? es (.str name) with
  | some v =>
    obtain ⟨e, place, rfl⟩ : ∃ e, es.find? (fun e => e.1.same (.str name)) = some e ∧ e.2 = v :=
      Option.map_eq_some_iff.mp found
    obtain ⟨other, b, rfl, is⟩ := all e (List.mem_of_find?_eq_some place)
    obtain rfl : other = name := by simpa using List.find?_some place
    have provides : st.Provides c other b := ⟨is, es, kept, found⟩
    exact ⟨b, st, outcome_databaseOf_provided provides, provides, naming, rfl, rfl⟩
  | none =>
    let made : Database := { name := .str name, data := (st.clientAt c).data }
    let grown := Entries.put es (.str name) (.handle (.database st.databases.size))
    let after : Store := { st with
      databases := st.databases.push made
      clients := st.clients.setIfInBounds c { st.clientAt c with databases := .dict grown } }
    have client : after.clientAt c = { st.clientAt c with databases := .dict grown } := by
      simp [Store.clientAt, after, Array.getD_eq_getD_getElem?, naming.present]
    have given : (databaseOf c (.str name)).outcome st =
        (.ok (.handle (.database st.databases.size)), after) := by
      rw [databaseOf, outcome_bind_ok (outcome_client c st),
        outcome_bind_ok (outcome_isIn_databases kept name), kept]
      simp only [Value.entries?]
      rw [show Entries.field? es name = none from found]
      simp only [Option.isSome_none]
      rfl
    have is : after.OfClient c name st.databases.size := by
      refine ⟨by simp [after], ?_, ?_⟩
      · simp [Store.databaseAt, after, Array.getD_eq_getD_getElem?, made]
      · rw [client]
        simp [Store.databaseAt, after, Array.getD_eq_getD_getElem?, made]
    refine ⟨_, after, given, ⟨is, grown, by rw [client], ?_⟩, ⟨?_, grown, by rw [client], ?_⟩,
      rfl, rfl⟩
    · exact (Entries.get?_put_text ..).trans (if_pos rfl)
    · simpa [after] using naming.present
    · intro e member
      have grows (other : String) (b : Nat) (old : st.OfClient c other b) :
          after.OfClient c other b := by
        have there : after.databaseAt b = st.databaseAt b := by
          simp [Store.databaseAt, after, Array.getD_eq_getD_getElem?, Array.getElem?_push,
            Nat.ne_of_lt old.present]
        refine ⟨by simpa [after] using Nat.lt_succ_of_lt old.present, ?_, ?_⟩
        · rw [there, old.named]
        · rw [there, old.data, client]
      rw [show grown = es ++ [_] from Entries.put_none found _, List.mem_append,
        List.mem_singleton] at member
      obtain member | rfl := member
      · obtain ⟨other, b, rfl, old⟩ := all e member
        exact ⟨other, b, rfl, grows other b old⟩
      · exact ⟨name, _, rfl, is⟩

/-- What is made of a connection that asks its factory. -/
theorem outcome_makeClient (factory : (st.connectionAt k).factory = .handle (.factory f))
    (url : Value) (options : Entries) :
    (makeClient d k url options).outcome st =
      if (st.factories.getD f default).kind = .failing then
        (.error (.refused "cannot reach server"), st.consulting f url options)
      else
        (.ok (.handle (.client st.clients.size)), (st.consulting f url options).furnished f) := by
  rw [makeClient, outcome_bind_ok (outcome_connection k st), factory]
  simp only
  rw [runFactory, outcome_bind_ok (outcome_factory f st), outcome_bind_ok (outcome_journal _ st),
    outcome_bind_ok (outcome_setJournal ..)]
  cases kind : (st.factories.getD f default).kind <;> rfl

theorem outcome_connect_unnamed {e : Fault}
    (unnamed : ConnectionString.databaseNameOf url = .error e) :
    (connect d k url options).outcome st = (.error e, st) := by
  rw [connect, unnamed, outcome_bind_error (outcome_ofExcept ..)]

/-- What selecting makes of the connection; the client stays as it names its databases. -/
theorem outcome_select_naming (roams : st.Roams k)
    (client : (st.connectionAt k).client = .handle (.client c)) (naming : st.Naming c)
    (name : String) :
    ∃ b after, (select d k c name).outcome st = (.ok (), after) ∧ after.Roams k ∧ after.Naming c ∧
      after.Provides c name b ∧
      after.connectionAt k = { st.connectionAt k with database := .handle (.database b) } ∧
      after.unlinked = st.unlinked := by
  have usual := (roams.clients c).usual roams.pristine rfl
    (show Interface.inherited? "MockClient" "get_database" = some (.known "MockClient", _) from rfl)
  obtain ⟨b, mid, done, provides, naming', connections, unlinked⟩ :=
    outcome_databaseOf_naming naming name
  have same : mid.connectionAt k = st.connectionAt k := by
    rw [Store.connectionAt, connections, Store.connectionAt]
  let selecting : Connection := { st.connectionAt k with database := .handle (.database b) }
  let selected : Store := { mid with connections := mid.connections.setIfInBounds k selecting }
  have put : (setConnection k selecting).outcome mid = (.ok (), selected) := rfl
  have there : selected.connectionAt k = selecting := by
    simp [Store.connectionAt, selected, Array.getD_eq_getD_getElem?, connections, roams.present]
  have bare : selected.Bare (.connection k) :=
    roams.bare.of_setting (congrArg Store.setting unlinked :)
  have ran : (select d k c name).outcome st = (.ok (), selected.noted
      (selected.connectionAt k).log .info fun _ => s!"Connected to database '{name}'") := by
    rw [select, outcome_bind_ok ((outcome_callOr_usual usual).trans done),
      outcome_bind_ok (outcome_connection k mid), same, outcome_bind_ok put,
      outcome_noteConnection bare]
  obtain ⟨after, selects, stays, -⟩ := outcome_select (d := d) roams client naming.serving name
  obtain rfl := congrArg Prod.snd (ran.symm.trans selects)
  refine ⟨b, _, ran, stays, naming'.congr ?_ ?_, provides.congr ?_ ?_, ?_, ?_⟩
  · rw [Store.clients_noted]
  · rw [Store.databases_noted]
  · rw [Store.clients_noted]
  · rw [Store.databases_noted]
  · rw [Store.connectionAt, Store.connections_noted]
    exact there
  · rw [Store.unlinked_noted]
    exact unlinked

variable (named : ConnectionString.databaseNameOf url = .ok name)
  (none : (st.connectionAt k).client = .null)
  (factory : (st.connectionAt k).factory = .handle (.factory f))
include named none factory

theorem outcome_connect_failing (kind : (st.factories.getD f default).kind = .failing)
    (options : Entries) :
    (connect d k url options).outcome st =
      (.error (.refused "cannot reach server"), st.consulting f url options) := by
  rw [connect, named, outcome_bind_ok (outcome_ofExcept ..),
    outcome_bind_ok (outcome_connection k st), none]
  have refused := (outcome_makeClient (d := d) factory url options).trans (if_pos kind)
  simp only
  rw [outcome_bind_error refused]

/-- With the client that was made, a connection selects as if it had been given it. -/
theorem outcome_connect_making (bare : st.Bare (.connection k)) (present : k < st.connections.size)
    (kind : (st.factories.getD f default).kind ≠ .failing) (options : Entries) :
    (connect d k url options).outcome st = (select d k st.clients.size name).outcome
      (((st.consulting f url options).linked k f).noted (st.connectionAt k).log .info
        fun _ => s!"Created client for database '{name}'") := by
  rw [connect, named, outcome_bind_ok (outcome_ofExcept ..),
    outcome_bind_ok (outcome_connection k st), none]
  have made := (outcome_makeClient (d := d) factory url options).trans (if_neg kind)
  have there : ((st.consulting f url options).linked k f).connectionAt k =
      { st.connectionAt k with client := .handle (.client st.clients.size) } := by
    simp only [Store.connectionAt, Store.linked, Store.consulting, Array.getD_eq_getD_getElem?,
      Array.getElem?_setIfInBounds_self_of_lt present, Option.getD_some]
  have bare : ((st.consulting f url options).linked k f).Bare (.connection k) := bare.of_setting rfl
  have same : ((st.consulting f url options).furnished f).connectionAt k = st.connectionAt k := rfl
  have put : (setConnection k { st.connectionAt k with
      client := .handle (.client st.clients.size) }).outcome
        ((st.consulting f url options).furnished f) =
      (.ok (), (st.consulting f url options).linked k f) := rfl
  simp only
  rw [outcome_bind_ok made, outcome_bind_ok (outcome_connection ..), same,
    outcome_bind_ok put, outcome_bind_ok (outcome_noteConnection bare ..), there]
  rfl

end Act

/-- How a factory is going to answer this time, and what a connection is to connect to. -/
structure Attempt where
  kind : FactoryKind
  url : Value
  options : Entries

/-- A factory answers differently from now on. -/
def Store.answering (st : Store) (f : Nat) (kind : FactoryKind) : Store :=
  { st with factories := st.factories.setIfInBounds f { st.factories.getD f default with kind } }

/-- The factory `f` is set to answer as it will, and the connection connects. -/
def Attempt.act (d : Dispatch) (k f : Nat) (a : Attempt) : Act Value := do
  modify fun st => st.answering f a.kind
  Act.connect d k a.url a.options
  return .null

/-- What the factory is asked in the course of an attempt, if anything. -/
def Passage.asks (k : Nat) (p : Passage Attempt) : Option Value :=
  match (p.before.connectionAt k).client, ConnectionString.databaseNameOf p.use.url with
  | .null, .ok _ => some (.tuple [p.use.url, .dict p.use.options])
  | _, _ => none

/-- How an attempt ends. -/
def Passage.verdict (k : Nat) (p : Passage Attempt) : Except Fault Value := do
  let _ ← ConnectionString.databaseNameOf p.use.url
  if (p.asks k).isSome ∧ p.use.kind = .failing then throw (.refused "cannot reach server")
  return .null

/-- A connection that its factory makes clients for. -/
structure Store.Links (st : Store) (k f : Nat) : Prop where
  roams : st.Roams k
  factory : (st.connectionAt k).factory = .handle (.factory f)
  present : f < st.factories.size
  journal : (st.factories.getD f default).journal < st.journals.size
  client : (st.connectionAt k).client = .null ∨
    ∃ c, (st.connectionAt k).client = .handle (.client c) ∧ st.Naming c

/-- What an attempt comes to. -/
structure Passage.Connects (k f : Nat) (p : Passage Attempt) : Prop where
  links : p.after.Links k f
  consults : p.after.consulted f = p.before.consulted f ++ (p.asks k).toList
  answers : p.result = p.verdict k
  client : (p.after.connectionAt k).client =
    if (p.asks k).isSome ∧ p.use.kind ≠ .failing then .handle (.client p.before.clients.size)
    else (p.before.connectionAt k).client
  selects : ∀ v, p.result = .ok v → ∃ name c b,
    ConnectionString.databaseNameOf p.use.url = .ok name ∧
    (p.after.connectionAt k).client = .handle (.client c) ∧
    (p.after.connectionAt k).database = .handle (.database b) ∧ p.after.Provides c name b
  fails : ∀ e, p.result = .error e →
    p.after = { p.before with factories := p.after.factories, journals := p.after.journals }

section

variable {d : Dispatch} {st now : Store} {k f : Nat} {past : List (Passage Attempt)} {a : Attempt}

theorem Store.factory_answering (present : f < st.factories.size) (kind : FactoryKind) :
    (st.answering f kind).factories.getD f default = { st.factories.getD f default with kind } := by
  simp [Store.answering, Array.getD_eq_getD_getElem?, present]

theorem Store.consulted_answering (present : f < st.factories.size) (kind : FactoryKind) :
    (st.answering f kind).consulted f = st.consulted f := by
  rw [Store.consulted, Store.factory_answering present]
  rfl

theorem Store.consulted_consulting (journal : (st.factories.getD f default).journal < st.journals.size)
    (url : Value) (options : Entries) :
    (st.consulting f url options).consulted f = st.consulted f ++ [.tuple [url, .dict options]] := by
  simp only [Store.consulted, Store.consulting]
  rw [Array.getD_eq_getD_getElem?, Array.getElem?_setIfInBounds_self_of_lt journal,
    Option.getD_some]

theorem Store.consulted_of_unlinked {after : Store} (unlinked : after.unlinked = st.unlinked) :
    after.consulted f = st.consulted f := by
  change after.unlinked.consulted f = st.unlinked.consulted f
  rw [unlinked]

theorem Store.Links.answering (links : st.Links k f) (kind : FactoryKind) :
    (st.answering f kind).Links k f := by
  obtain ⟨roams, factory, present, journal, client⟩ := links
  refine ⟨?_, factory, ?_, ?_, ?_⟩
  · refine roams.of_setting rfl roams.present roams.handles roams.selected ?_
    exact roams.client.imp id fun ⟨c, is, serving⟩ => ⟨c, is, serving.mono rfl (Nat.le_refl _)⟩
  · simpa [Store.answering] using present
  · rw [Store.factory_answering present]
    exact journal
  · exact client.imp id fun ⟨c, is, naming⟩ => ⟨c, is, naming.congr rfl rfl⟩

/-- What is asked of a factory changes nothing else. -/
theorem Store.Links.consulting (links : st.Links k f) (url : Value) (options : Entries) :
    (st.consulting f url options).Links k f := by
  obtain ⟨roams, factory, present, journal, client⟩ := links
  refine ⟨?_, factory, present, ?_, ?_⟩
  · refine roams.of_setting rfl roams.present roams.handles roams.selected ?_
    exact roams.client.imp id fun ⟨c, is, serving⟩ => ⟨c, is, serving.mono rfl (Nat.le_refl _)⟩
  · simpa [Store.consulting] using journal
  · exact client.imp id fun ⟨c, is, naming⟩ => ⟨c, is, naming.congr rfl rfl⟩

theorem Store.connectionAt_linked (present : k < st.connections.size) :
    (st.linked k f).connectionAt k =
      { st.connectionAt k with client := .handle (.client st.clients.size) } := by
  simp only [Store.connectionAt, Store.linked, Array.getD_eq_getD_getElem?]
  rw [Array.getElem?_setIfInBounds_self_of_lt (by exact present), Option.getD_some]

theorem Store.naming_linked : (st.linked k f).Naming st.clients.size := by
  refine ⟨by simp [Store.linked, Store.furnished], [], ?_, fun _ member => by cases member⟩
  simp [Store.linked, Store.furnished, Store.clientAt, Array.getD_eq_getD_getElem?]

/-- A connection links with the client that its factory made. -/
theorem Store.Links.linked (links : st.Links k f) : (st.linked k f).Links k f := by
  obtain ⟨roams, factory, present, journal, -⟩ := links
  have naming : (st.linked k f).Naming st.clients.size := Store.naming_linked
  have there := Store.connectionAt_linked (f := f) roams.present
  refine ⟨?_, ?_, present, journal, .inr ⟨_, by rw [there], naming⟩⟩
  · refine roams.of_setting rfl ?_ ?_ ?_ (.inr ⟨_, by rw [there], naming.serving⟩)
    · simpa [Store.linked] using roams.present
    · rw [there]
      exact roams.handles
    · rw [there]
      exact roams.selected.imp id fun is => is.mono (Nat.le_refl _)
  · rw [there]
    exact factory

theorem Store.Links.noted (links : st.Links k f) (log : String) (level : Level)
    (message : Store → String) : (st.noted log level message).Links k f := by
  obtain ⟨roams, factory, present, journal, client⟩ := links
  have connection : (st.noted log level message).connectionAt k = st.connectionAt k := by
    rw [Store.connectionAt, Store.connections_noted, Store.connectionAt]
  have unlinked := Store.unlinked_noted st log level message
  have factories : (st.noted log level message).factories = st.factories := by
    change (st.noted log level message).unlinked.factories = st.unlinked.factories
    rw [unlinked]
  have journals : (st.noted log level message).journals = st.journals := by
    change (st.noted log level message).unlinked.journals = st.unlinked.journals
    rw [unlinked]
  refine ⟨roams.noted .., by rw [connection]; exact factory, by rw [factories]; exact present,
    by rw [factories, journals]; exact journal, ?_⟩
  rw [connection]
  obtain client | ⟨c, is, naming⟩ := client
  · exact .inl client
  · exact .inr ⟨c, is, naming.congr (Store.clients_noted ..) (Store.databases_noted ..)⟩

/-- Selecting a database links the connection as before, and changes what it selects only. -/
theorem Act.outcome_select_links {c : Nat} (links : st.Links k f)
    (client : (st.connectionAt k).client = .handle (.client c)) (naming : st.Naming c)
    (name : String) :
    ∃ b after, (select d k c name).outcome st = (.ok (), after) ∧ after.Links k f ∧
      after.Provides c name b ∧
      after.connectionAt k = { st.connectionAt k with database := .handle (.database b) } ∧
      after.unlinked = st.unlinked := by
  obtain ⟨b, after, done, roams, naming, provides, connection, unlinked⟩ :=
    outcome_select_naming (d := d) links.roams client naming name
  have factories : after.factories = st.factories := by
    change after.unlinked.factories = st.unlinked.factories
    rw [unlinked]
  have journals : after.journals = st.journals := by
    change after.unlinked.journals = st.unlinked.journals
    rw [unlinked]
  refine ⟨b, after, done, ⟨roams, ?_, factories ▸ links.present, ?_, .inr ⟨c, ?_, naming⟩⟩,
    provides, connection, unlinked⟩
  · rw [connection]
    exact links.factory
  · rw [factories, journals]
    exact links.journal
  · rw [connection]
    exact client

theorem Attempt.outcome_act_ok {after : Store} (done : (Act.connect d k a.url a.options).outcome
    (st.answering f a.kind) = (.ok (), after)) :
    (a.act d k f).outcome st = (.ok .null, after) := by
  rw [Attempt.act, Act.outcome_bind_ok (Act.outcome_modify ..), Act.outcome_bind_ok done]
  rfl

theorem Attempt.outcome_act_error {after : Store} {e : Fault}
    (failed : (Act.connect d k a.url a.options).outcome (st.answering f a.kind) = (.error e, after)) :
    (a.act d k f).outcome st = (.error e, after) := by
  rw [Attempt.act, Act.outcome_bind_ok (Act.outcome_modify ..), Act.outcome_bind_error failed]

/-- What one attempt does. -/
theorem connects_act (links : st.Links k f) :
    Passage.Connects k f ⟨a, st, ((a.act d k f).outcome st).1, ((a.act d k f).outcome st).2⟩ := by
  have answering := links.answering a.kind
  have kind := congrArg Factory.kind (Store.factory_answering links.present a.kind)
  have consulted := Store.consulted_answering links.present a.kind
  cases named : ConnectionString.databaseNameOf a.url with
  | error e =>
    rw [Attempt.outcome_act_error (Act.outcome_connect_unnamed named)]
    have silent : Passage.asks k ⟨a, st, .error e, st.answering f a.kind⟩ = none := by
      simp [Passage.asks, named]
    refine ⟨answering, ?_, ?_, ?_, by simp, fun _ _ => rfl⟩
    · rw [silent, consulted]
      simp
    · simp [Passage.verdict, named, bind, Except.bind]
    · simp only [silent]
      rfl
  | ok name =>
    obtain none | ⟨c, client, naming⟩ := links.client
    · have asks (result : Except Fault Value) (after : Store) :
          Passage.asks k ⟨a, st, result, after⟩ = some (.tuple [a.url, .dict a.options]) := by
        simp [Passage.asks, named, none]
      have free : ((st.answering f a.kind).connectionAt k).client = .null := none
      by_cases failing : a.kind = .failing
      · rw [Attempt.outcome_act_error (Act.outcome_connect_failing named free answering.factory
          (kind.trans failing) a.options)]
        refine ⟨answering.consulting .., ?_, ?_, ?_, by simp, fun _ _ => rfl⟩
        · rw [asks, Store.consulted_consulting answering.journal, consulted]
          rfl
        · simp [Passage.verdict, named, asks, failing, bind, Except.bind, throw, throwThe,
            MonadExceptOf.throw]
        · simp only [asks, failing]
          rfl
      · have making := Act.outcome_connect_making (d := d) named free answering.factory
          answering.roams.bare answering.roams.present
          (fun fails => failing (kind.symm.trans fails)) a.options
        let made := ((st.answering f a.kind).consulting f a.url a.options).linked k f
        let message : Store → String := fun _ => s!"Created client for database '{name}'"
        have linked : (made.noted (st.connectionAt k).log .info message).Links k f :=
          (answering.consulting a.url a.options).linked.noted ..
        have there : (made.noted (st.connectionAt k).log .info message).connectionAt k =
            { st.connectionAt k with client := .handle (.client st.clients.size) } := by
          rw [Store.connectionAt, Store.connections_noted]
          exact Store.connectionAt_linked links.roams.present
        have naming : (made.noted (st.connectionAt k).log .info message).Naming st.clients.size :=
          (show made.Naming _ from Store.naming_linked).congr (Store.clients_noted ..)
            (Store.databases_noted ..)
        obtain ⟨b, after, done, stays, provides, connection, unlinked⟩ :=
          Act.outcome_select_links (d := d) linked (by rw [there]) naming name
        rw [Attempt.outcome_act_ok (making.trans done)]
        refine ⟨stays, ?_, ?_, ?_, fun _ _ => ?_, by simp⟩
        · rw [asks, Store.consulted_of_unlinked unlinked,
            Store.consulted_of_unlinked (Store.unlinked_noted ..)]
          exact (Store.consulted_consulting answering.journal ..).trans (by rw [consulted]; rfl)
        · simp [Passage.verdict, named, failing, bind, Except.bind, pure, Except.pure]
        · rw [connection, there, asks, if_pos ⟨rfl, failing⟩]
        · exact ⟨name, _, b, named, by rw [connection, there], by rw [connection], provides⟩
    · have given : ((st.answering f a.kind).connectionAt k).client = .handle (.client c) := client
      obtain ⟨b, after, done, stays, provides, connection, unlinked⟩ :=
        Act.outcome_select_links (d := d) answering given (naming.congr rfl rfl) name
      rw [Attempt.outcome_act_ok ((Act.outcome_connect_given named given a.options).trans done)]
      have silent : Passage.asks k ⟨a, st, .ok .null, after⟩ = none := by
        simp [Passage.asks, client]
      refine ⟨stays, ?_, ?_, ?_, fun _ _ => ?_, by simp⟩
      · rw [silent, Store.consulted_of_unlinked unlinked, consulted]
        simp
      · simp [Passage.verdict, named, silent, bind, Except.bind, pure, Except.pure]
      · rw [connection, silent, if_neg (by simp)]
        rfl
      · exact ⟨name, c, b, named, by rw [connection]; exact given, by rw [connection], provides⟩

/-- Attempts of a connection, one after another. -/
abbrev Attempts (d : Dispatch) (k f : Nat) :=
  Course (Attempt.act d k f) fun _ _ => True

theorem links_of_attempts (links : st.Links k f) (run : Attempts d k f st past now) :
    now.Links k f ∧ (∀ p ∈ past, p.Connects k f) ∧
      now.consulted f = st.consulted f ++ past.filterMap (Passage.asks k) := by
  induction run with
  | start => exact ⟨links, by simp, by simp⟩
  | @step past now before a fit ih =>
    obtain ⟨linked, all, consulted⟩ := ih
    have connects := connects_act (d := d) (a := a) linked
    refine ⟨connects.links, fun p member => ?_, ?_⟩
    · obtain member | rfl : p ∈ past ∨ p = _ := by simpa using member
      · exact all p member
      · exact connects
    · rw [List.filterMap_append, ← List.append_assoc, ← consulted]
      have last := connects.consults
      simp only [List.filterMap_cons, List.filterMap_nil]
      cases asks : Passage.asks k ⟨a, now, ((a.act d k f).outcome now).1,
        ((a.act d k f).outcome now).2⟩ <;> simpa [asks] using last

/-- A client stays. -/
theorem client_of_attempts {c : Nat} (links : st.Links k f) (run : Attempts d k f st past now)
    (client : (st.connectionAt k).client = .handle (.client c)) :
    (∀ q ∈ past, (q.after.connectionAt k).client = .handle (.client c)) ∧
      (now.connectionAt k).client = .handle (.client c) := by
  induction run with
  | start => exact ⟨by simp, client⟩
  | @step past now before a fit ih =>
    obtain ⟨all, held⟩ := ih
    have connects := connects_act (d := d) (a := a) (links_of_attempts links before).1
    have kept := connects.client
    rw [if_neg (by simp [Passage.asks, held])] at kept
    refine ⟨fun q member => ?_, kept.trans held⟩
    obtain member | rfl : q ∈ past ∨ q = _ := by simpa using member
    · exact all q member
    · exact kept.trans held

/-- The factory is asked, in the words of the attempt, by those attempts that name a database while
no client is held.  An attempt fails just if it names none or the factory fails it, and then leaves
everything as it was, but for what the factory wrote down.  The first client that the factory makes
stays, and an attempt that succeeds selects the database of its name, which the client would give
again. -/
theorem attempts_connect (roams : st.Roams k) (none : (st.connectionAt k).client = .null)
    (factory : (st.connectionAt k).factory = .handle (.factory f)) (present : f < st.factories.size)
    (journal : (st.factories.getD f default).journal < st.journals.size)
    (run : Attempts d k f st past now) :
    now.consulted f = st.consulted f ++ past.filterMap (Passage.asks k) ∧
    ∀ earlier p later, past = earlier ++ p :: later →
      p.after.consulted f = p.before.consulted f ++ (p.asks k).toList ∧
      p.result = p.verdict k ∧
      ((p.asks k).isSome → p.use.kind ≠ .failing → ∀ q ∈ p :: later,
        (q.after.connectionAt k).client = .handle (.client p.before.clients.size)) ∧
      (∀ v, p.result = .ok v → ∃ name c b,
        ConnectionString.databaseNameOf p.use.url = .ok name ∧
        (p.after.connectionAt k).client = .handle (.client c) ∧
        (p.after.connectionAt k).database = .handle (.database b) ∧
        (p.after.databaseAt b).name = .str name ∧
        (Act.databaseOf c (.str name)).outcome p.after = (.ok (.handle (.database b)), p.after)) ∧
      ∀ e, p.result = .error e →
        p.after = { p.before with factories := p.after.factories, journals := p.after.journals } := by
  have links : st.Links k f := ⟨roams, factory, present, journal, .inl none⟩
  obtain ⟨-, all, consulted⟩ := links_of_attempts links run
  refine ⟨consulted, fun earlier p later place => ?_⟩
  obtain ⟨-, -, went, rest⟩ := run.split place
  have connects := all p (by simp [place])
  refine ⟨connects.consults, connects.answers, fun asks made q member => ?_, fun v ok => ?_,
    connects.fails⟩
  · have client := connects.client
    rw [if_pos ⟨asks, made⟩] at client
    obtain rfl | member := List.mem_cons.mp member
    · exact client
    · exact (client_of_attempts connects.links rest client).1 q member
  · obtain ⟨name, c, b, named, client, database, provides⟩ := connects.selects v ok
    exact ⟨name, c, b, named, client, database, provides.named,
      Act.outcome_databaseOf_provided provides⟩

/-- A connection on a factory that nothing was asked of. -/
def Store.unserved : Store where
  noting := false
  connections := #[{ factory := .handle (.factory 0) }]
  factories := #[{ kind := .direct, journal := 0, stock := 0 }]
  stocks := #[[]]
  journals := #[[]]

theorem Store.bare_unserved (h : Handle) : unserved.Bare h := ⟨fun _ => rfl, rfl⟩

theorem Store.roams_unserved : unserved.Roams 0 where
  pristine _ _ := rfl
  bare := bare_unserved _
  clients _ := bare_unserved _
  databases _ := bare_unserved _
  present := Nat.one_pos
  handles := ⟨[], rfl⟩
  selected := .inl rfl
  client := .inl ⟨rfl, 0, rfl⟩

/-- The factory failed once. -/
def Store.refused : Store :=
  { unserved with
    factories := #[{ kind := .failing, journal := 0, stock := 0 }]
    journals := #[[.tuple [.str "mongodb://h/a", .dict []]]] }

/-- The factory made a client, whose database is selected. -/
def Store.served : Store :=
  { unserved with
    connections := #[{
      factory := .handle (.factory 0), client := .handle (.client 0)
      database := .handle (.database 0) }]
    factories := #[{ kind := .promised, journal := 0, stock := 0 }]
    clients := #[{
      data := .handle (.stock 0), databases := .dict [(.str "b", .handle (.database 0))] }]
    databases := #[{ name := .str "b", data := .handle (.stock 0) }]
    journals := #[[.tuple [.str "mongodb://h/a", .dict []], .tuple [.str "mongodb://h/b", .dict []]]] }

/-- The factory is asked for the first two attempts that name a database, since it fails one. -/
theorem attempts_connect_unserved :
    ∃ past, Attempts (dispatch [] 0) 0 0 .unserved past .served ∧
      past.map Passage.use = [⟨.direct, .str "mongodb://h", []⟩, ⟨.failing, .str "mongodb://h/a", []⟩,
        ⟨.promised, .str "mongodb://h/b", []⟩, ⟨.promised, .str "mongodb://h/b", []⟩] ∧
      past.filterMap (Passage.asks 0) = Store.served.consulted 0 ∧
      ∀ q ∈ past.drop 2, (q.after.connectionAt 0).client = .handle (.client 0) := by
  have unnamed : ConnectionString.databaseNameOf (.str "mongodb://h") =
    .error (.noDatabase "mongodb://h") := rfl
  have first : ConnectionString.databaseNameOf (.str "mongodb://h/a") = .ok "a" := rfl
  have second : ConnectionString.databaseNameOf (.str "mongodb://h/b") = .ok "b" := rfl
  have refused : ((⟨.failing, .str "mongodb://h/a", []⟩ : Attempt).act (dispatch [] 0) 0 0).outcome
      .unserved = (.error (.refused "cannot reach server"), .refused) :=
    Attempt.outcome_act_error ((Act.outcome_connect_failing (f := 0) first rfl rfl rfl []).trans rfl)
  have served : ((⟨.promised, .str "mongodb://h/b", []⟩ : Attempt).act (dispatch [] 0) 0 0).outcome
      .refused = (.ok .null, .served) :=
    Attempt.outcome_act_ok ((Act.outcome_connect_making (f := 0) second rfl rfl ⟨fun _ => rfl, rfl⟩
      Nat.one_pos (by decide) []).trans rfl)
  have again : ((⟨.promised, .str "mongodb://h/b", []⟩ : Attempt).act (dispatch [] 0) 0 0).outcome
      .served = (.ok .null, .served) :=
    Attempt.outcome_act_ok ((Act.outcome_connect_given second rfl []).trans rfl)
  have run : Attempts (dispatch [] 0) 0 0 .unserved [] .unserved := .start
  have unnamed : ((⟨.direct, .str "mongodb://h", []⟩ : Attempt).act (dispatch [] 0) 0 0).outcome
      .unserved = (.error (.noDatabase "mongodb://h"), .unserved) :=
    Attempt.outcome_act_error (Act.outcome_connect_unnamed unnamed)
  have run := run.next (by exact trivial) unnamed
  have run := run.next (by exact trivial) refused
  have run := run.next (by exact trivial) served
  have run := run.next (by exact trivial) again
  obtain ⟨consulted, each⟩ := attempts_connect Store.roams_unserved rfl rfl Nat.one_pos Nat.one_pos run
  obtain ⟨-, -, stays, -⟩ := each [_, _] _ [_] rfl
  exact ⟨_, run, rfl, consulted.symm, stays rfl (by decide)⟩

end

end DocMapper
