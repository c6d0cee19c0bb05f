import DocMapper.Proofs.Copying
import DocMapper.Proofs.Selecting
import DocMapper.Proofs.Touching
import Mathlib.Data.List.Nodup

/-!
The handles that a connection keeps.  They are a pool: each name that was asked for has a handle of
its own, in the order in which the names were first asked for, and the database was asked once for
each.  Objects that come leave the pool alone.
-/

namespace DocMapper

/-- Names with the slots of their handles, in the order in which they were asked for. -/
abbrev Pool := List (String × Nat)

namespace Pool

def names (p : Pool) : List String := p.map Prod.fst

/-- The handles as a connection keeps them. -/
def entries (p : Pool) : Entries := p.map fun e => (.str e.1, .handle (.collection e.2))

/-- A name is asked for: it has a handle, or is given one that no other name has. -/
inductive Gives (p : Pool) (name : String) (j : Nat) : Pool → Prop
  | kept (there : p.lookup name = some j) : p.Gives name j p
  | added (free : p.lookup name = none) : p.Gives name j (p ++ [(name, j)])

variable {p q : Pool} {name other : String} {i j : Nat}

theorem get?_entries (p : Pool) (name : String) :
    Entries.get? p.entries (.str name) = (p.lookup name).map fun j => .handle (.collection j) := by
  induction p with
  | nil => rfl
  | cons e p ih =>
    obtain ⟨key, i⟩ := e
    rw [List.lookup_cons]
    by_cases same : name = key
    · subst same
      simp [entries, Entries.get?]
    · have other : (key == name) = false := by simpa using Ne.symm same
      have other' : (name == key) = false := by simpa using same
      rw [other', ← ih]
      simp [entries, Entries.get?, other]

theorem put_entries (free : p.lookup name = none) (j : Nat) :
    Entries.put p.entries (.str name) (.handle (.collection j)) =
      entries (p ++ [(name, j)]) := by
  have none : Entries.field? p.entries name = Option.none := by
    rw [Entries.field?, get?_entries, free]
    rfl
  rw [Entries.put_none none]
  simp [entries]

theorem lookup_eq_none : p.lookup name = none ↔ name ∉ p.names := by
  rw [List.lookup_eq_none_iff, names, List.mem_map]
  constructor
  · rintro free ⟨e, there, same⟩
    exact absurd (free e there) (by simp [same])
  · intro absent e there
    exact bne_iff_ne.mpr fun same => absent ⟨e, there, same.symm⟩

theorem lookup_append_of_some (there : p.lookup name = some j) (q : Pool) :
    (p ++ q).lookup name = some j := by
  rw [List.lookup_append, there]
  rfl

/-- As slots are different, so are the names that have them. -/
theorem lookup_inj (slots : (p.map Prod.snd).Nodup) (this : p.lookup name = some j)
    (that : p.lookup other = some j) : name = other := by
  have member {name : String} (there : p.lookup name = some j) : (name, j) ∈ p := by
    obtain ⟨before, behind, rfl, -⟩ := List.lookup_eq_some_iff.mp there
    simp
  exact congrArg Prod.fst (List.inj_on_of_nodup_map slots (member this) (member that) rfl)

namespace Gives

theorem lookup (gives : p.Gives name j q) : q.lookup name = some j := by
  cases gives with
  | kept there => exact there
  | added free => simp [List.lookup_append, free]

/-- Names keep the handles that they have. -/
theorem keeps (gives : p.Gives name j q) (there : p.lookup other = some i) :
    q.lookup other = some i := by
  cases gives with
  | kept => exact there
  | added => exact lookup_append_of_some there _

theorem names (gives : p.Gives name j q) :
    q.names = if name ∈ p.names then p.names else p.names ++ [name] := by
  cases gives with
  | kept there =>
    have known : name ∈ p.names := by
      by_contra absent
      rw [lookup_eq_none.mpr absent] at there
      cases there
    rw [if_pos known]
  | added free =>
    rw [if_neg (lookup_eq_none.mp free)]
    simp [Pool.names]

end Gives

end Pool

/-- A handle of what the library keeps itself. -/
def Handle.isOwn : Handle → Bool
  | query .. | queryOptions _ | pipeline .. | document .. | cursor .. | source _ | connection _
  | client _ | database _ | collection _ => true
  | _ => false

namespace Store

/-- Nothing was set on classes of the library, nor on anything that it keeps. -/
structure Ordinary (st : Store) : Prop where
  pristine : st.registry.Pristine
  numbered : st.registry.Numbered
  bare : ∀ h, h.isOwn → st.Bare h

theorem Ordinary.of_setting {st after : Store} (ordinary : st.Ordinary)
    (setting : after.setting = st.setting) : after.Ordinary := by
  have registry : after.registry = st.registry := congrArg Setting.registry setting
  exact ⟨registry ▸ ordinary.pristine, registry ▸ ordinary.numbered,
    fun h own => (ordinary.bare h own).of_setting setting⟩

/-- Counterparts of what the library keeps are made for such things only, on which nothing was
set. -/
structure Likening (st : Store) (cs : Counterparts) (now : Store) : Prop where
  extras : now.extras = st.extras
  refined : ∀ h, h.isOwn → now.refined.lookup h = none
  alike : ∀ p ∈ cs, ∀ k, p.2 = .handle k → k.isOwn → ∃ h, p.1 = .handle h ∧ h.isOwn

variable {st mid after : Store} {cs : Counterparts} {h k : Handle}

theorem isOwn_of_duplicate (duplicate : st.duplicate h = some (k, after)) (own : k.isOwn) :
    h.isOwn := by
  cases h <;>
    simp only [Store.duplicate, Option.some.injEq, Prod.mk.injEq, reduceCtorEq] at duplicate
  all_goals
    obtain ⟨rfl, -⟩ := duplicate
    first | rfl | cases own

namespace Likening

theorem step {g l : Holder} (c : Likening st cs mid) (extras : after.extras = mid.extras)
    (refined : ∀ h, h.isOwn → after.refined.lookup h = none)
    (same : ∀ k, l = .handle k → k.isOwn → ∃ h, g = .handle h ∧ h.isOwn) :
    Likening st ((g, l) :: cs) after where
  extras := extras.trans c.extras
  refined := refined
  alike p member k is own := by
    obtain rfl | member := List.mem_cons.mp member
    · exact same k is own
    · exact c.alike p member k is own

theorem accompany (c : Likening st cs mid) (h : Holder) :
    Likening st (Store.accompany (cs, mid) h).1 (Store.accompany (cs, mid) h).2 := by
  unfold Store.accompany
  dsimp only
  split
  · split
    · exact c.step rfl c.refined fun _ _ _ => ⟨_, rfl, rfl⟩
    · rename_i duplicate
      obtain ⟨-, extras, refined, -⟩ := duplicate_doubles duplicate
      exact c.step extras (refined ▸ c.refined) fun _ _ _ => ⟨_, rfl, rfl⟩
    · exact c
  · rename_i g _
    split
    · rename_i l σ duplicate
      obtain ⟨-, extras, refined, -⟩ := duplicate_doubles duplicate
      have own : l.isOwn → g.isOwn := isOwn_of_duplicate duplicate
      have before : ∀ h, h.isOwn → σ.refined.lookup h = none := refined ▸ c.refined
      have kept : (σ.refineLike g l).extras = σ.extras := by
        unfold refineLike
        split <;> rfl
      refine c.step (kept.trans extras) (fun h is => ?_) ?_
      · unfold refineLike
        split
        · rename_i found
          -- what is refined is nothing of the library, and neither is its counterpart
          have other : h ≠ l := by
            rintro rfl
            rw [before g (own is)] at found
            cases found
          rw [List.lookup_cons, beq_eq_false_iff_ne.mpr other]
          exact before h is
        · exact before h is
      · rintro _ ⟨⟩ is
        exact ⟨g, rfl, own is⟩
    · exact c
  · exact c.step rfl c.refined fun _ same => by cases same
  · exact c

theorem foldl_accompany (c : Likening st cs mid) (hs : List Holder) :
    Likening st (hs.foldl Store.accompany (cs, mid)).1 (hs.foldl Store.accompany (cs, mid)).2 := by
  induction hs generalizing cs mid with
  | nil => exact c
  | cons h hs ih => exact ih (c.accompany h)

theorem foldl_adapt (c : Likening st cs mid) (ds : Counterparts) :
    Likening st cs (ds.foldl (adapt cs) mid) := by
  induction ds generalizing mid with
  | nil => exact c
  | cons p ds ih =>
    refine ih ?_
    obtain ⟨g, l⟩ := p
    cases l with
    | handle k =>
      have extras : (mid.mapParts (renamed cs) k).extras = mid.extras := by cases k <;> rfl
      have refined : (mid.mapParts (renamed cs) k).refined = mid.refined := by cases k <;> rfl
      exact ⟨extras.trans c.extras, fun h own => refined ▸ c.refined h own, c.alike⟩
    | _ => exact c

theorem spread (c : Likening st cs mid) (bare : ∀ h, h.isOwn → st.Bare h) (own : h.isOwn) :
    (Store.spread cs mid).Bare h := by
  refine ⟨fun name => ?_, c.refined h own⟩
  have none : (mid.extras.filterMap fun e =>
      (cs.lookup e.1.1).map fun h => ((h, e.1.2), renamed cs e.2)).lookup (.handle h, name) =
      none := by
    rw [List.lookup_eq_none_iff]
    intro p there
    obtain ⟨e, old, copied⟩ := List.mem_filterMap.mp there
    obtain ⟨l, found, rfl⟩ := Option.map_eq_some_iff.mp copied
    obtain ⟨before, behind, split, -⟩ := List.lookup_eq_some_iff.mp found
    refine bne_iff_ne.mpr fun same => ?_
    simp only [Prod.mk.injEq] at same
    obtain ⟨g, is, ownToo⟩ := c.alike (e.1.1, l) (split ▸ by simp) h same.1.symm own
    -- nothing was set on what it is the counterpart of
    have free := List.lookup_eq_none_iff.mp ((bare g ownToo).extras e.1.2) e (c.extras ▸ old)
    exact bne_iff_ne.mp free (Prod.ext (Eq.symm is) rfl)
  rw [Store.spread, List.lookup_append, none, c.extras]
  exact (bare h own).extras name

end Likening

theorem bare_cloned (ordinary : st.Ordinary) (v : Value) (own : h.isOwn) :
    (st.cloned v).2.Bare h := by
  unfold cloned
  split
  · exact ordinary.bare h own
  · have none : Likening st [] st :=
      ⟨rfl, fun h own => (ordinary.bare h own).refined,
        fun p member => absurd member List.not_mem_nil⟩
    exact ((none.foldl_accompany (st.reachable v)).foldl_adapt _).spread ordinary.bare own

/-- What the handles of a connection depend on. -/
def footing (st : Store) : Setting × Array Connection × Array Database × Array Collection :=
  (st.setting, st.connections, st.databases, st.collections)

@[simp] theorem footing_noted (st : Store) (log : String) (level : Level)
    (message : Store → String) : (st.noted log level message).footing = st.footing := by
  unfold noted
  split <;> rfl

/-- From one store to another, objects may have come; classes, connections and databases are what
they were. -/
structure Accrues (st after : Store) : Prop where
  declarations : after.registry.declarations = st.registry.declarations
  own : after.registry.own = st.registry.own
  configs : after.registry.configs = st.registry.configs
  connections : st.connections.toList <+: after.connections.toList
  databases : st.databases.toList <+: after.databases.toList
  collections : st.collections.toList <+: after.collections.toList
  ordinary : st.Ordinary → after.Ordinary

namespace Accrues

theorem refl (st : Store) : st.Accrues st :=
  ⟨rfl, rfl, rfl, List.prefix_refl _, List.prefix_refl _, List.prefix_refl _, id⟩

theorem of_footing (same : after.footing = st.footing) : st.Accrues after := by
  simp only [footing, Prod.mk.injEq] at same
  obtain ⟨setting, connections, databases, collections⟩ := same
  have registry : after.registry = st.registry := congrArg Setting.registry setting
  exact ⟨by rw [registry], by rw [registry], by rw [registry], connections ▸ List.prefix_refl _,
    databases ▸ List.prefix_refl _, collections ▸ List.prefix_refl _,
    fun ordinary => ordinary.of_setting setting⟩

theorem cloned (ordinary : st.Ordinary) (v : Value) : st.Accrues (st.cloned v).2 := by
  have grows := (st.cloned_doubles v).grows ordinary.numbered
  refine ⟨grows.declarations, grows.own, grows.configs, grows.connections, grows.databases,
    grows.collections, fun ordinary => ⟨?_, ?_, fun h => bare_cloned ordinary v⟩⟩
  · intro c name
    rw [grows.own]
    exact ordinary.pristine c name
  · intro e member
    exact Nat.lt_of_lt_of_le (ordinary.numbered e (grows.configs ▸ member)) grows.serials

end Accrues

end Store

/-- A model that does what models do by themselves; its instances may need some fields, and it may
wrap documents under a key. -/
structure Registry.Conventional (r : Registry) (c : ClassRef) : Prop where
  maker : ∃ m, r.maker? c = some m ∧ m.owner = "Model"
  hydrate : ∃ owner m, r.member? c "hydrate" = some (owner, m) ∧
    ((∃ f, m = .ofClass f) ∨ ∃ key, m = .hydrating key)
  find : ∃ f, r.member? c "find" = some (.root, .ofClass f)
  handsOut : ∃ f, r.member? c "get_collection" = some (.root, .ofClass f)
  builder : ∃ owner name, r.member? c "QueryBuilder" = some (owner, .value (.cls (.known name))) ∧
    name ∈ ["ModelQuery", "TracingQuery"]
  json : ∃ f, r.member? c "to_json" = some (.root, .method f)
  placed : r.member? c "collection" = some (.root, .property)
  valid : ∃ owner m, r.member? c "validate" = some (owner, m) ∧
    ((∃ f, m = .method f) ∨ ∃ names, m = .requiring names)

namespace Store

/-- A model that is attached to a connection, with a collection. -/
structure Employs (st : Store) (k : Nat) (c : ClassRef) (name : String) : Prop where
  conventional : st.registry.Conventional c
  connection : st.registry.connection c = .ok (.handle (.connection k))
  collection : st.registry.collection (.cls c) = .ok (.str name)

/-- A connection that selected a database keeps a pool of handles.  Each is another one, and is
there; the database was asked for these names, after what it was asked for before. -/
structure Caches (st : Store) (k b : Nat) (before : List Value) (p : Pool) : Prop where
  ordinary : st.Ordinary
  connected : k < st.connections.size
  present : b < st.databases.size
  selected : (st.connectionAt k).database = .handle (.database b)
  handles : (st.connectionAt k).handles = .dict p.entries
  data : ∃ t, (st.databaseAt b).data = .handle (.stock t)
  requests : (st.databaseAt b).requests = .list (before ++ p.names.map Value.str)
  names : p.names.Nodup
  slots : (p.map Prod.snd).Nodup
  there : ∀ e ∈ p, e.2 < st.collections.size

variable {st after : Store} {k b : Nat} {c : ClassRef} {name : String} {before : List Value}
  {p : Pool}

theorem Employs.accrues (employs : st.Employs k c name) (accrues : st.Accrues after) :
    after.Employs k c name := by
  have ancestors : after.registry.ancestors = st.registry.ancestors :=
    funext (Registry.ancestors_of_declarations accrues.declarations)
  have member (other : String) : after.registry.member? c other = st.registry.member? c other := by
    simp only [Registry.member?, ancestors, Registry.ownMember?, accrues.own]
  have maker : after.registry.maker? c = st.registry.maker? c := by
    simp only [Registry.maker?, ancestors]
  obtain ⟨⟨made, hydrate, find, handsOut, builder, json, placed, valid⟩, connection, collection⟩ :=
    employs
  refine ⟨?_, ?_, ?_⟩
  · constructor
    case maker => exact maker ▸ made
    all_goals rw [member]; assumption
  · rw [← connection]
    simp only [Registry.connection, ancestors, Registry.config?, accrues.configs]
  · rw [← collection]
    simp only [Registry.collection, Registry.config?, accrues.configs]

theorem Employs.of_setting (employs : st.Employs k c name) (setting : after.setting = st.setting) :
    after.Employs k c name := by
  have registry : after.registry = st.registry := congrArg Setting.registry setting
  exact ⟨registry ▸ employs.conventional, registry ▸ employs.connection,
    registry ▸ employs.collection⟩

theorem Caches.keptAt (caches : st.Caches k b before p) (name : String) :
    st.keptAt k name = (p.lookup name).map fun j => .handle (.collection j) := by
  simp only [Store.keptAt, caches.handles, Value.entries?, Option.bind_some, Pool.get?_entries]
  cases p.lookup name <;> rfl

theorem Caches.accrues (caches : st.Caches k b before p) (accrues : st.Accrues after) :
    after.Caches k b before p := by
  have connection : after.connectionAt k = st.connectionAt k :=
    getD_prefix_eq accrues.connections caches.connected _
  have database : after.databaseAt b = st.databaseAt b :=
    getD_prefix_eq accrues.databases caches.present _
  exact ⟨accrues.ordinary caches.ordinary,
    Nat.lt_of_lt_of_le caches.connected accrues.connections.length_le,
    Nat.lt_of_lt_of_le caches.present accrues.databases.length_le, connection ▸ caches.selected,
    connection ▸ caches.handles, database ▸ caches.data, database ▸ caches.requests, caches.names,
    caches.slots,
    fun e member => Nat.lt_of_lt_of_le (caches.there e member) accrues.collections.length_le⟩

/-- The database made a handle under a name that was not asked for, and the connection keeps it. -/
theorem Caches.add {made : Collection} (caches : st.Caches k b before p)
    (free : p.lookup name = none) (setting : after.setting = st.setting)
    (connections : after.connections = st.connections.setIfInBounds k { st.connectionAt k with
      handles := .dict (Pool.entries (p ++ [(name, st.collections.size)])) })
    (databases : after.databases =
      (st.asking b (before ++ p.names.map Value.str ++ [.str name])).databases)
    (collections : after.collections = st.collections.push made) :
    after.Caches k b before (p ++ [(name, st.collections.size)]) := by
  have connection : after.connectionAt k = { st.connectionAt k with
      handles := .dict (Pool.entries (p ++ [(name, st.collections.size)])) } := by
    simp [connectionAt, Array.getD_eq_getD_getElem?, connections, caches.connected]
  have database : after.databaseAt b = { st.databaseAt b with
      requests := .list (before ++ p.names.map Value.str ++ [.str name]) } := by
    simp [databaseAt, databases, asking, Array.getD_eq_getD_getElem?, caches.present]
  have absent := Pool.lookup_eq_none.mp free
  constructor
  case ordinary => exact caches.ordinary.of_setting setting
  case connected => simpa [connections] using caches.connected
  case present => simpa [databases, asking] using caches.present
  case selected => exact connection ▸ caches.selected
  case handles => rw [connection]
  case data => exact database ▸ caches.data
  case requests => simp [database, Pool.names]
  case names =>
    rw [Pool.names, List.map_append]
    refine List.nodup_append.mpr ⟨caches.names, by simp, fun a there b last => ?_⟩
    rw [List.mem_singleton.mp last]
    rintro rfl
    exact absent there
  case slots =>
    rw [List.map_append]
    refine List.nodup_append.mpr ⟨caches.slots, by simp, fun i member _ last => ?_⟩
    obtain ⟨e, there, rfl⟩ := List.mem_map.mp member
    rw [List.mem_singleton.mp last]
    exact Nat.ne_of_lt (caches.there e there)
  case there =>
    intro e member
    rw [collections, Array.size_push]
    obtain member | last := List.mem_append.mp member
    · exact Nat.lt_succ_of_lt (caches.there e member)
    · rw [List.mem_singleton.mp last]
      exact Nat.lt_succ_self _

theorem Employs.configured (employs : st.Employs k c name) (ordinary : st.Ordinary) :
    st.Configured c k name where
  pristine := ordinary.pristine
  connection := employs.connection
  collection := employs.collection
  handsOut := by
    obtain ⟨f, found⟩ := employs.conventional.handsOut
    simp [usual, extraOf?, Store.member?, found]
  bare := ordinary.bare _ rfl
  fresh _ _ := ordinary.bare _ rfl

end Store

namespace Act

variable {d : Dispatch} {st : Store} {k b t : Nat} {c : ClassRef} {name : String}
  {before vs : List Value} {p : Pool}

/-- A database makes a new handle, and remembers the name. -/
theorem outcome_newHandle_stocked
    (data : (st.databaseAt b).data = .handle (.stock t))
    (requests : (st.databaseAt b).requests = .list vs) (name : String) :
    ∃ made after, (newHandle b (.str name)).outcome st = (.ok st.collections.size, after) ∧
      after.aside = st.aside ∧ after.connections = st.connections ∧
      after.databases = (st.asking b (vs ++ [.str name])).databases ∧
      after.collections = st.collections.push made := by
  have asked : (setDatabase b { st.databaseAt b with
      requests := .list (vs ++ [.str name]) }).outcome st =
        (.ok (), st.asking b (vs ++ [.str name])) := rfl
  obtain ⟨s, after, placed, aside, connections, databases, collections⟩ :=
    outcome_shelfOf_any t name (st.asking b (vs ++ [.str name]))
  refine ⟨{ name := .str name, shelf := s },
    { after with collections := after.collections.push { name := .str name, shelf := s } },
    ?_, aside, connections, databases, ?_⟩
  · rw [newHandle, outcome_bind_ok (outcome_database b st), requests]
    simp only [appended]
    rw [outcome_bind_ok (outcome_ofExcept ..), outcome_bind_ok asked, data]
    simp only
    rw [outcome_bind_ok placed]
    exact congrArg (fun cs : Array Collection => (Except.ok cs.size, _)) collections
  · simp [collections, Store.asking]

/-- A connection gives the handle of a name, which is a new one if the name was not asked for. -/
theorem outcome_handleOf_caches (caches : st.Caches k b before p) (name : String) :
    ∃ j q after, (handleOf d k (.str name)).outcome st = (.ok (.handle (.collection j)), after) ∧
      p.Gives name j q ∧ after.Caches k b before q ∧ after.setting = st.setting ∧
      st.collections.toList <+: after.collections.toList := by
  have usual := (caches.ordinary.bare (.database b) rfl).usual caches.ordinary.pristine rfl
    (show Interface.inherited? "MockDatabase" "get_collection" = some (.known "MockDatabase", _)
      from rfl)
  have kept : keptHandle (st.connectionAt k).handles (.str name) =
      .ok ((p.lookup name).map fun j => .handle (.collection j)) := by
    simp only [keptHandle, caches.handles, Value.entries?, Value.unhashable?, Pool.get?_entries]
    cases p.lookup name <;> rfl
  rw [handleOf, outcome_bind_ok (outcome_connection k st), caches.selected]
  simp only
  rw [outcome_bind_ok (outcome_connection k st), kept, outcome_bind_ok (outcome_ofExcept ..)]
  cases held : p.lookup name with
  | some j => exact ⟨j, p, st, rfl, .kept held, caches, rfl, List.prefix_refl _⟩
  | none =>
    simp only [Option.map_none]
    rw [outcome_bind, outcome_callOr_usual usual]
    obtain ⟨t, data⟩ := caches.data
    obtain ⟨made, mid, done, aside, connections, databases, collections⟩ :=
      outcome_newHandle_stocked data caches.requests name
    have same : mid.connectionAt k = st.connectionAt k := by
      rw [Store.connectionAt, connections, Store.connectionAt]
    have setting := Store.setting_of_aside aside
    simp only [outcome_bind_ok done, outcome_pure]
    -- the connection keeps what the database made
    let keeping : Connection := { st.connectionAt k with
      handles := .dict (Pool.entries (p ++ [(name, st.collections.size)])) }
    let keeps : Store := { mid with connections := mid.connections.setIfInBounds k keeping }
    have put : (setConnection k keeping).outcome mid = (.ok (), keeps) := rfl
    have bare : keeps.Bare (.connection k) := (caches.ordinary.bare _ rfl).of_setting setting
    rw [outcome_bind_ok (outcome_connection k mid), same, caches.handles]
    simp only [keepHandle, Pool.put_entries held]
    rw [outcome_bind_ok (outcome_ofExcept ..), outcome_bind_ok put,
      outcome_bind_ok (outcome_noteConnection bare ..)]
    have more : keeps.Caches k b before (p ++ [(name, st.collections.size)]) :=
      caches.add held setting (by rw [← connections]) databases collections
    refine ⟨_, _, _, rfl, .added held, more.accrues (.of_footing (Store.footing_noted ..)), ?_, ?_⟩
    · exact (Store.setting_noted ..).trans setting
    · rw [Store.collections_noted]
      simp [keeps, collections]

end Act

end DocMapper
