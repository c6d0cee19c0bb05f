import DocMapper.Proofs.Normalizing
import DocMapper.Proofs.Selecting
import DocMapper.Proofs.Trading

/-!
What leaves the stored documents alone.  A handle is found or made for a collection, calls are
recorded and documents are copied; whatever fails on the way to storing one has stored nothing.
-/

namespace DocMapper

/-- What is read of every element stays as long as it does where an element is replaced. -/
theorem map_setIfInBounds_of_same {α β : Type} {f : α → β} {xs : Array α} {i : Nat} {x y : α}
    (same : f x = f (xs.getD i y)) : (xs.setIfInBounds i x).map f = xs.map f := by
  apply Array.ext
  · simp
  · intro n _ there
    rw [Array.getElem_map, Array.getElem_map, Array.getElem_setIfInBounds (by simpa using there)]
    split
    · rename_i eq
      subst eq
      rw [same]
      simp [Array.getD_eq_getD_getElem?, show i < xs.size by simpa using there]
    · rfl

namespace Value

variable {v : Value} {es : Entries}

/-- No copy of anything else is a text. -/
theorem redone_eq_str {css : List Store.Counterparts} {s : String} :
    v.redone css = .str s ↔ v = .str s := by
  constructor
  · intro same
    induction css generalizing v with
    | nil => exact same
    | cons cs css ih =>
      have renamed : Store.renamed cs v = .str s := ih same
      unfold Store.renamed rebuild at renamed
      cases v <;> simp only at renamed
      case str => exact renamed
      case handle h =>
        generalize cs.lookup (.handle h) = k at renamed
        rcases k with - | (_ | _) <;> cases renamed
      case object i shape => cases shape <;> cases renamed
      all_goals cases renamed
  · rintro rfl
    exact redone_plain (.str s) css

theorem field?_redone {css : List Store.Counterparts} {name : String} (free : es.field? name = none) :
    Entries.field? (Entries.mapBoth (redone css) es) name = none := by
  simp only [Entries.field?, Entries.get?, Option.map_eq_none_iff, List.find?_eq_none] at free ⊢
  intro e member same
  obtain ⟨f, there, rfl⟩ := List.mem_map.mp member
  rw [same_str_right, redone_eq_str] at same
  exact free f there ((same_str_right _ _).mpr same)

end Value

namespace Store

/-- Every stored document stands where it stood.  Shelves may have come, with nothing on those that
stand under a name. -/
structure Preserves (st after : Store) : Prop where
  shelves : st.shelves.toList <+: after.shelves.toList
  stocked : st.stocks.size ≤ after.stocks.size
  housed : ∀ t < st.stocks.size, ∀ e ∈ after.stockAt t, ∀ s, e.2 = .handle (.shelf s) →
    s < after.shelves.size
  shown : ∀ t < st.stocks.size, ∀ name,
    ((after.stored t).field? name).getD (.list []) = ((st.stored t).field? name).getD (.list [])
  handles : (st.collections.map Collection.shelf).toList <+:
    (after.collections.map Collection.shelf).toList
  databases : (st.databases.map Database.data).toList <+: (after.databases.map Database.data).toList

/-- Every shelf that stands under a name is there. -/
def Housed (st : Store) : Prop :=
  ∀ t < st.stocks.size, ∀ e ∈ st.stockAt t, ∀ s, e.2 = .handle (.shelf s) → s < st.shelves.size

/-- The store with a new shelf for what stands under a name. -/
def shelved (st : Store) (t : Nat) (name : String) : Store :=
  { st with
    shelves := st.shelves.push (((st.stockAt t).field? name).getD (.list []))
    stocks := st.stocks.setIfInBounds t
      (Entries.put (st.stockAt t) (.str name) (.handle (.shelf st.shelves.size))) }

section

variable {st : Store} {k s t : Nat} {name : String} {v : Value} {es : Entries}

theorem shelves_shelved : st.shelves.toList <+: (st.shelved t name).shelves.toList := by
  simp [shelved]

theorem size_shelved : (st.shelved t name).shelves.size = st.shelves.size + 1 := by
  simp [shelved]

theorem shelfAt_shelved_last : (st.shelved t name).shelfAt st.shelves.size =
    ((st.stockAt t).field? name).getD (.list []) := by
  simp [shelved, shelfAt, Array.getD_eq_getD_getElem?]

theorem stockAt_shelved (there : t < st.stocks.size) : (st.shelved t name).stockAt t =
    Entries.put (st.stockAt t) (.str name) (.handle (.shelf st.shelves.size)) := by
  simp [shelved, stockAt, Array.getD_eq_getD_getElem?, there]

theorem stockAt_shelved_of_ne (differs : k ≠ t) :
    (st.shelved t name).stockAt k = st.stockAt k := by
  simp [shelved, stockAt, Array.getD_eq_getD_getElem?, Ne.symm differs]

theorem onShelf_bare (bare : ∀ s, v ≠ .handle (.shelf s)) : st.onShelf v = v := by
  unfold onShelf
  split
  · exact absurd rfl (bare _)
  · rfl

/-- What stood on shelves still does. -/
theorem map_onShelf_shelved (t : Nat) (name : String)
    (housed : ∀ e ∈ es, ∀ s, e.2 = .handle (.shelf s) → s < st.shelves.size) (key : String) :
    (es.field? key).map (st.shelved t name).onShelf = (es.field? key).map st.onShelf := by
  refine Option.map_congr fun v found => ?_
  obtain ⟨e, first, rfl⟩ := Option.map_eq_some_iff.mp found
  unfold onShelf
  split
  · rename_i s same
    exact getD_prefix_eq shelves_shelved (housed e (List.mem_of_find?_eq_some first) s same) _
  · rfl

end

namespace Preserves

variable {st mid after : Store} {t : Nat} {name : String}

theorem refl (housed : st.Housed) : st.Preserves st :=
  ⟨List.prefix_refl _, Nat.le_refl _, housed, fun _ _ _ => rfl, List.prefix_refl _,
    List.prefix_refl _⟩

theorem field?_stored (st : Store) (t : Nat) (name : String) :
    (st.stored t).field? name = ((st.stockAt t).field? name).map st.onShelf := by
  rw [stored_eq, Entries.field?_map]

/-- More may come of everything. -/
theorem extend (h : st.Preserves mid) (shelves : mid.shelves.toList <+: after.shelves.toList)
    (stocks : mid.stocks.toList <+: after.stocks.toList)
    (handles : (mid.collections.map Collection.shelf).toList <+:
      (after.collections.map Collection.shelf).toList)
    (databases : (mid.databases.map Database.data).toList <+:
      (after.databases.map Database.data).toList) : st.Preserves after := by
  have stock (t : Nat) (there : t < st.stocks.size) : after.stockAt t = mid.stockAt t :=
    getD_prefix_eq stocks (Nat.lt_of_lt_of_le there h.stocked) _
  have size : mid.shelves.size ≤ after.shelves.size := shelves.length_le
  refine ⟨h.shelves.trans shelves, Nat.le_trans h.stocked stocks.length_le, ?_, ?_,
    h.handles.trans handles, h.databases.trans databases⟩
  · intro t there e member s same
    rw [stock t there] at member
    exact Nat.lt_of_lt_of_le (h.housed t there e member s same) size
  · intro t there name
    rw [← h.shown t there name, stored_eq, stored_eq, stock t there]
    congr 2
    apply List.map_congr_left
    intro e member
    unfold onShelf
    split
    · rename_i s same
      rw [shelfAt, getD_prefix_eq shelves (h.housed t there e member s same), shelfAt]
    · rfl

theorem of_grows (h : st.Preserves mid) (grows : mid.Grows after) : st.Preserves after := by
  refine h.extend grows.shelves grows.stocks ?_ ?_
  · simpa using grows.collections.map _
  · simpa using grows.databases.map _

theorem of_ground (h : st.Preserves mid) (ground : after.ground = mid.ground) :
    st.Preserves after := by
  simp only [Store.ground, Ground.mk.injEq] at ground
  obtain ⟨-, -, sameDatabases, sameCollections, sameShelves, sameStocks⟩ := ground
  refine h.extend ?_ ?_ ?_ ?_
  · exact sameShelves ▸ List.prefix_refl _
  · exact sameStocks ▸ List.prefix_refl _
  · exact sameCollections ▸ List.prefix_refl _
  · exact sameDatabases ▸ List.prefix_refl _

/-- A name under which nothing stood is given a shelf with nothing on it; what stood there, if it was
no shelf, is put on one. -/
theorem place (h : st.Preserves mid) (bare : ∀ s, (mid.stockAt t).field? name ≠
      some (.handle (.shelf s))) : st.Preserves (mid.shelved t name) := by
  refine ⟨h.shelves.trans shelves_shelved, ?_, fun k there e member s same => ?_,
    fun k there key => ?_, h.handles, h.databases⟩
  · simpa [Store.shelved] using h.stocked
  · rw [size_shelved]
    by_cases differs : k = t
    · subst differs
      rw [stockAt_shelved (Nat.lt_of_lt_of_le there h.stocked)] at member
      obtain old | new := Entries.of_mem_put member
      · exact Nat.lt_succ_of_lt (h.housed k there e old s same)
      · rw [new] at same
        cases same
        exact Nat.lt_succ_self _
    · rw [stockAt_shelved_of_ne differs] at member
      exact Nat.lt_succ_of_lt (h.housed k there e member s same)
  · rw [← h.shown k there key, field?_stored, field?_stored]
    have kept := map_onShelf_shelved t name (h.housed k there)
    by_cases differs : k = t
    · subst differs
      rw [stockAt_shelved (Nat.lt_of_lt_of_le there h.stocked), Entries.field?,
        Entries.get?_put_text, ← Entries.field?]
      split
      · rename_i same
        subst same
        rw [Option.map_some, onShelf, shelfAt_shelved_last, Option.getD_some]
        cases found : (mid.stockAt k).field? name with
        | none => rfl
        | some v => rw [Option.map_some, onShelf_bare fun s same => bare s (same ▸ found)]
      · rw [kept]
    · rw [stockAt_shelved_of_ne differs, kept]

end Preserves

/-- A connection that is not connected, or else to a database; what it keeps are handles. -/
structure Grants (st : Store) (k : Nat) : Prop where
  selected : (st.connectionAt k).database = .null ∨ ∃ b,
    (st.connectionAt k).database = .handle (.database b) ∧
      st.usual (.handle (.database b)) (.known "MockDatabase") "get_collection"
  kept : ∀ es, (st.connectionAt k).handles.entries? = some es → ∀ e ∈ es, Registry.isSet e.2 →
    ∃ j, e.2 = .handle (.collection j)

theorem Grants.handle {st : Store} {k : Nat} {name v : Value} (h : st.Grants k)
    (found : Act.keptHandle (st.connectionAt k).handles name = .ok (some v)) :
    ∃ j, v = .handle (.collection j) := by
  unfold Act.keptHandle at found
  split at found
  · cases found
  · cases found
  · rename_i es entries _
    obtain ⟨there, set⟩ := Option.filter_eq_some_iff.mp (Except.ok.inj found)
    obtain ⟨e, first, rfl⟩ := Option.map_eq_some_iff.mp there
    exact h.kept es entries e (List.mem_of_find?_eq_some first) set

/-- A function that refuses whatever it is asked was put in the place of one of an object's. -/
structure Refuses (st : Store) (h : Handle) (name : String) : Prop where
  put : ∃ i message, st.extraOf? (.handle h) name = some (.object i (.refusing message))
  free : ∀ c, st.member? (.handle h) name ≠ some (c, .property)

theorem Refuses.not_usual {st : Store} {h : Handle} {name : String} {owner : ClassRef}
    (refuses : st.Refuses h name) : ¬st.usual (.handle h) owner name := by
  obtain ⟨i, message, put⟩ := refuses.put
  simp [Store.usual, put]

/-- An instance that is saved as instances of models are: nothing was put in the place of what saves
it, neither on the instance, nor on its class, the connection, its database or handles, except that
handles may refuse to store. -/
structure Saves (st : Store) (c : ClassRef) (i : Nat) : Prop where
  numbered : st.registry.Numbered
  json : st.usual (.handle (.document c i)) .root "to_json"
  own : st.usual (.handle (.document c i)) .root "collection"
  handsOut : st.usual (.cls (st.classOf (.handle (.document c i)))) .root "get_collection"
  connection : ∀ v, st.registry.connection (st.classOf (.handle (.document c i))) = .ok v →
    ∃ k, v = .handle (.connection k) ∧ st.usual v (.known "Connection") "collection" ∧ st.Grants k
  collection : ∀ v, st.registry.collection (.cls (st.classOf (.handle (.document c i)))) = .ok v →
    ∃ name, v = .str name
  inserts : ∀ j, st.usual (.handle (.collection j)) (.known "MockCollection") "insert_one" ∨
    st.Refuses (.collection j) "insert_one"
  updates : ∀ j, st.usual (.handle (.collection j)) (.known "MockCollection") "update_one" ∨
    st.Refuses (.collection j) "update_one"

end Store

namespace Act

open Store

variable {d : Dispatch} {st mid : Store} {c : ClassRef} {i j k t b : Nat} {name : String}

theorem outcome_shelfOf_preserves (h : st.Preserves mid) (t : Nat) (name : String) :
    ∃ s after, (shelfOf t (.str name)).outcome mid = (.ok s, after) ∧ after.aside = mid.aside ∧
      after.connections = mid.connections ∧ st.Preserves after := by
  have key : (checkKey (.str name)).outcome mid = (.ok (), mid) := rfl
  rw [shelfOf, outcome_bind_ok key, outcome_bind_ok (outcome_stock t mid)]
  split
  · exact ⟨_, _, rfl, rfl, rfl, h⟩
  · refine ⟨_, _, rfl, rfl, rfl, h.extend ?_ ?_ ?_ ?_⟩ <;> simp
  · rename_i bare _
    exact ⟨_, _, rfl, rfl, rfl, h.place fun s there => bare s there⟩

theorem outcome_newHandle_preserves (h : st.Preserves mid) (b : Nat) (name : String) :
    ∃ r after, (newHandle b (.str name)).outcome mid = (r, after) ∧ after.aside = mid.aside ∧
      after.connections = mid.connections ∧ st.Preserves after := by
  rw [newHandle, outcome_bind_ok (outcome_database b mid)]
  cases appended (mid.databaseAt b).requests (.str name) with
  | error e =>
    rw [outcome_bind_error (outcome_ofExcept ..)]
    exact ⟨_, _, rfl, rfl, rfl, h⟩
  | ok requests =>
    rw [outcome_bind_ok (outcome_ofExcept ..)]
    let asking : Store := { mid with
      databases := mid.databases.setIfInBounds b { mid.databaseAt b with requests } }
    have still : st.Preserves asking := by
      have same : asking.databases.map Database.data = mid.databases.map Database.data :=
        map_setIfInBounds_of_same (y := default) rfl
      refine h.extend (List.prefix_refl _) (List.prefix_refl _) (List.prefix_refl _) ?_
      exact same ▸ List.prefix_refl _
    rw [outcome_bind_ok (show (setDatabase b _).outcome mid = (.ok (), asking) from rfl)]
    split
    · rename_i t _
      obtain ⟨s, after, done, aside, connections, placed⟩ := outcome_shelfOf_preserves still t name
      rw [outcome_bind_ok done]
      refine ⟨_, _, rfl, aside, connections, placed.extend ?_ ?_ ?_ ?_⟩ <;> simp
    · exact ⟨_, asking, rfl, rfl, rfl, still⟩

theorem outcome_call_refused {h : Handle} {st : Store} (refuses : st.Refuses h name) (names : Names)
    (n : Nat) (waiting : Waiting) (args : List Value) (named : Entries) :
    ∃ e, ((dispatch names n).call waiting (.handle h) name args named).outcome st =
      (.error e, st) := by
  cases n with
  | zero => exact ⟨_, rfl⟩
  | succ n =>
    obtain ⟨i, message, put⟩ := refuses.put
    have read : ((dispatch names (n + 1)).read (.handle h) name).outcome st =
        (.ok (.object i (.refusing message)), st) := by
      change (readAttribute (dispatch names n) (.handle h) name).outcome st = _
      rw [readAttribute, outcome_bind_ok (outcome_get st), put]
      swap
      · exact nofun
      split
      · rename_i c _ property
        exact absurd property (refuses.free _)
      · rename_i same _
        cases same
        rfl
      · contradiction
    exact ⟨_, outcome_bind_ok read⟩

/-- What is noted changes nothing but notes, whether it can be noted or not. -/
theorem outcome_noteOf_any (self : Value) (level : Level) (message : Store → String) (st : Store) :
    ∃ r after, (noteOf self level message).outcome st = (r, after) ∧ after.aside = st.aside ∧
      after.ground = st.ground := by
  rw [noteOf, outcome_bind_ok (outcome_get st)]
  split
  · exact ⟨_, _, outcome_noteIn .., aside_noted .., ground_noted ..⟩
  · exact ⟨_, _, rfl, rfl, rfl⟩
  · exact ⟨_, _, outcome_noteIn .., aside_noted .., ground_noted ..⟩
  · exact ⟨_, _, rfl, rfl, rfl⟩

/-- A connection hands out a handle, or fails; nothing is stored on the way. -/
theorem outcome_handleOf_preserves (h : st.Preserves mid) (grants : mid.Grants k) (name : String) :
    ∃ r after, (handleOf d k (.str name)).outcome mid = (r, after) ∧ after.aside = mid.aside ∧
      st.Preserves after ∧ ∀ v, r = .ok v → ∃ j, v = .handle (.collection j) := by
  rw [handleOf, outcome_bind_ok (outcome_connection k mid)]
  obtain none | ⟨b, selected, usual⟩ := grants.selected
  · rw [none]
    simp only
    obtain ⟨r, after, done, aside, ground⟩ := outcome_noteOf_any (.handle (.connection k)) .warning
      (fun st => s!"Collection '{st.plainText (.str name)}' requested before connect()") mid
    rw [noteConnection]
    cases r with
    | error e => exact ⟨_, _, outcome_bind_error done, aside, h.of_ground ground, by simp⟩
    | ok => exact ⟨_, _, outcome_bind_ok done, aside, h.of_ground ground, by simp⟩
  rw [selected]
  simp only
  rw [outcome_bind_ok (outcome_connection k mid)]
  cases found : keptHandle (mid.connectionAt k).handles (.str name) with
  | error e =>
    rw [outcome_bind_error (outcome_ofExcept ..)]
    exact ⟨_, _, rfl, rfl, h, by simp⟩
  | ok found' =>
    rw [outcome_bind_ok (outcome_ofExcept ..)]
    cases found' with
    | some v =>
      refine ⟨_, _, rfl, rfl, h, ?_⟩
      rintro _ ⟨⟩
      exact grants.handle found
    | none =>
      simp only
      rw [outcome_bind, outcome_callOr_usual usual]
      obtain ⟨r, made, asked, aside, connections, preserves⟩ :=
        outcome_newHandle_preserves h b name
      cases r with
      | error e =>
        rw [outcome_bind_error asked]
        exact ⟨_, _, rfl, aside, preserves, by simp⟩
      | ok j =>
        simp only [outcome_bind_ok asked, outcome_pure]
        rw [outcome_bind_ok (outcome_connection k made)]
        cases keepHandle (made.connectionAt k).handles (.str name) (.handle (.collection j)) with
        | error e =>
          rw [outcome_bind_error (outcome_ofExcept ..)]
          exact ⟨_, _, rfl, aside, preserves, by simp⟩
        | ok handles =>
          rw [outcome_bind_ok (outcome_ofExcept ..)]
          let kept : Store := { made with
            connections := made.connections.setIfInBounds k { made.connectionAt k with handles } }
          have put : (setConnection k { made.connectionAt k with handles }).outcome made =
            (.ok (), kept) := rfl
          have still : st.Preserves kept := preserves.extend (List.prefix_refl _)
            (List.prefix_refl _) (List.prefix_refl _) (List.prefix_refl _)
          rw [outcome_bind_ok put]
          obtain ⟨r, after, done, quiet, ground⟩ := outcome_noteOf_any (.handle (.connection k))
            .debug (fun st => s!"Cached collection handle for '{st.plainText (.str name)}'") kept
          rw [noteConnection]
          have aside : after.aside = mid.aside := quiet.trans aside
          cases r with
          | error e =>
            exact ⟨_, _, outcome_bind_error done, aside, still.of_ground ground, by simp⟩
          | ok =>
            refine ⟨_, _, outcome_bind_ok done, aside, still.of_ground ground, ?_⟩
            rintro _ ⟨⟩
            exact ⟨j, rfl⟩

theorem outcome_instanceCollection_preserves (h : st.Preserves mid) (saves : mid.Saves c i) :
    ∃ r after, (instanceCollection d (.handle (.document c i))).outcome mid = (r, after) ∧
      after.aside = mid.aside ∧ st.Preserves after ∧
      ∀ v, r = .ok v → ∃ j, v = .handle (.collection j) := by
  have registry : (registry).outcome mid = (.ok mid.registry, mid) := rfl
  rw [instanceCollection, outcome_bind_ok (outcome_get mid), if_pos saves.own,
    outcome_bind_ok (outcome_get mid), collectionFor, outcome_callOr_usual saves.handsOut,
    modelCollection]
  generalize hcls : mid.classOf (.handle (.document c i)) = cls
  cases found : mid.registry.connection cls with
  | error e =>
    have refused : (classConnection cls).outcome mid = (.error e,
        ((note .warning .registry fun st =>
          s!"Connection lookup failed for {st.label (.cls cls)}: none configured on it or its bases").outcome
            mid).2) := by
      rw [classConnection, outcome_bind_ok registry, found]
      rfl
    rw [outcome_bind_error refused]
    simp only [note, outcome_noteIn]
    exact ⟨_, _, rfl, aside_noted .., h.of_ground (ground_noted ..), by simp⟩
  | ok v =>
    have given : (classConnection cls).outcome mid = (.ok v, mid) := by
      rw [classConnection, outcome_bind_ok registry, found]
      rfl
    obtain ⟨k, rfl, usual, grants⟩ := saves.connection v (hcls ▸ found)
    rw [outcome_bind_ok given]
    simp only
    rw [outcome_bind_ok (outcome_get mid), if_pos usual, outcome_bind_ok registry]
    cases named : mid.registry.collection (.cls cls) with
    | error e =>
      rw [outcome_bind_error (outcome_ofExcept ..)]
      exact ⟨_, _, rfl, rfl, h, by simp⟩
    | ok v =>
      obtain ⟨name, rfl⟩ := saves.collection v (hcls ▸ named)
      rw [outcome_bind_ok (outcome_ofExcept ..)]
      exact outcome_handleOf_preserves h grants name

section

variable {es : Entries} {key : Value}

theorem outcome_recordCall_preserves (h : st.Preserves mid) (j : Nat) (method : String)
    (args : List Value) : ∃ r after, (recordCall j method args).outcome mid = (r, after) ∧
      after.aside = mid.aside ∧ st.Preserves after := by
  rw [recordCall, outcome_bind_ok (outcome_collection j mid)]
  cases appended (mid.collectionAt j).calls (.tuple (.str method :: args)) with
  | error e =>
    rw [outcome_bind_error (outcome_ofExcept ..)]
    exact ⟨_, _, rfl, rfl, h⟩
  | ok calls =>
    rw [outcome_bind_ok (outcome_ofExcept ..), changeCollection,
      outcome_bind_ok (outcome_collection j mid)]
    let called : Store := { mid with
      collections := mid.collections.setIfInBounds j { mid.collectionAt j with calls } }
    have same : called.collections.map Collection.shelf = mid.collections.map Collection.shelf :=
      map_setIfInBounds_of_same (y := default) rfl
    refine ⟨.ok (), called, rfl, rfl, h.extend (List.prefix_refl _) (List.prefix_refl _) ?_
      (List.prefix_refl _)⟩
    exact same ▸ List.prefix_refl _

/-- A document is inserted, or nothing is stored. -/
theorem outcome_insertOne_any (h : st.Preserves mid) (numbered : mid.registry.Numbered) (j : Nat)
    (es : Entries) : ∃ r after, (insertOne j (.dict es)).outcome mid = (r, after) ∧
      mid.documents.toList <+: after.documents.toList ∧
      ((∃ e, r = .error e ∧ st.Preserves after) ∨
        ∃ key, r = .ok key ∧ (es.field? "_id" = none → key ≠ .null)) := by
  obtain ⟨r, called, recorded, aside, preserves⟩ :=
    outcome_recordCall_preserves h j "insert_one" [.dict es]
  have documents : called.documents = mid.documents := documents_of_aside aside
  have registry : called.registry = mid.registry :=
    congrArg Setting.registry (setting_of_aside aside)
  rw [insertOne]
  cases r with
  | error e =>
    exact ⟨_, _, outcome_bind_error recorded, documents ▸ List.prefix_refl _,
      .inl ⟨e, rfl, preserves⟩⟩
  | ok =>
    rw [outcome_bind_ok recorded]
    obtain ⟨e, refused, -⟩ | ⟨u, after, made, copied, -, -⟩ := outcome_copy_cases (.dict es) called
    · rw [outcome_bind_error refused]
      exact ⟨_, _, rfl, documents ▸ List.prefix_refl _, .inl ⟨e, rfl, preserves⟩⟩
    · obtain ⟨grows, documented, -⟩ :=
        outcome_copy_dict _ (registry ▸ numbered : called.registry.Numbered) made
      obtain ⟨css, rfl⟩ := copied
      have free (none : es.field? "_id" = none) :
          Entries.field? (Entries.mapBoth (Value.redone css) es) "_id" = Option.none :=
        Value.field?_redone none
      rw [outcome_bind_ok made, Value.redone_dict]
      generalize (Entries.mapBoth (Value.redone css) es : Entries) = fs at free
      dsimp only [Value.entries?]
      -- an id is generated whether the document needs one or not
      let issued : Store := { after with generated := after.generated + 1 }
      rw [outcome_bind_ok (show Act.outcome (modifyGet _) after =
        (.ok (generatedId (after.generated + 1)), issued) from rfl)]
      have still : st.Preserves issued := (preserves.of_grows grows).of_ground rfl
      have longer : mid.documents.toList <+: issued.documents.toList := documents ▸ documented
      rw [outcome_bind_ok (outcome_collection j issued), outcome_bind_ok (outcome_shelf _ issued)]
      generalize (if fs.has (.str "_id") then fs
        else fs ++ [(.str "_id", generatedId (after.generated + 1))] : Entries) = stored
      cases appended (issued.shelfAt (issued.collectionAt j).shelf) (.dict stored) with
      | error e =>
        rw [outcome_bind_error (outcome_ofExcept ..)]
        exact ⟨_, _, rfl, longer, .inl ⟨e, rfl, still⟩⟩
      | ok ds =>
        rw [outcome_bind_ok (outcome_ofExcept ..)]
        refine ⟨.ok _, _, rfl, longer, .inr ⟨_, rfl, fun none => ?_⟩⟩
        rw [free none]
        simp [generatedId]

/-- A document that is given entries takes them all. -/
theorem updated_entries (walk : Value → Value) (document : Value) {changes : Entries}
    (shown : walk (.dict changes) = .dict changes) {v : Value} {fault : Option Fault}
    (done : updated walk document (.dict [(.str "$set", .dict changes)]) = .ok (v, fault)) :
    fault = none := by
  have set : changesIn (.dict [(.str "$set", .dict changes)]) = .ok (.dict changes) := rfl
  cases document
  case dict | mapping =>
    rw [updated, set] at done
    obtain ⟨w, same, done⟩ := Except.of_bind_eq_ok done
    cases same
    rw [shown] at done
    cases done
    rfl
  all_goals cases done

/-- An update that fails stores nothing. -/
theorem outcome_updateOne_any (h : st.Preserves mid) (j : Nat) (filter : Value)
    (changes : Entries) : ∃ r after,
      (updateOne j filter (.dict [(.str "$set", .dict changes)])).outcome mid = (r, after) ∧
        after.aside = mid.aside ∧ ∀ e, r = .error e → st.Preserves after := by
  obtain ⟨r, called, recorded, aside, preserves⟩ := outcome_recordCall_preserves h j "update_one"
    [filter, .dict [(.str "$set", .dict changes)]]
  rw [updateOne]
  cases r with
  | error e => exact ⟨_, _, outcome_bind_error recorded, aside, fun _ _ => preserves⟩
  | ok =>
    rw [outcome_bind_ok recorded, outcome_bind_ok (outcome_collection j called),
      outcome_bind_ok (outcome_shelf _ called)]
    have items : (itemsOf (called.shelfAt (called.collectionAt j).shelf)).outcome called =
        ((called.walked (called.shelfAt (called.collectionAt j).shelf)).items, called) := by
      rw [itemsOf, outcome_bind_ok (outcome_get called), outcome_ofExcept]
    cases listed : (called.walked (called.shelfAt (called.collectionAt j).shelf)).items with
    | error e =>
      rw [outcome_bind_error (items.trans (by rw [listed]))]
      exact ⟨_, _, rfl, aside, fun _ _ => preserves⟩
    | ok ds =>
      rw [outcome_bind_ok (items.trans (by rw [listed])), outcome_bind_ok (outcome_get called)]
      dsimp only
      cases ds.zipIdx.findM? fun x =>
          Criteria.holds (called.comparable x.1) (called.comparable filter) with
      | error e =>
        rw [outcome_bind_error (outcome_ofExcept ..)]
        exact ⟨_, _, rfl, aside, fun _ _ => preserves⟩
      | ok found =>
        rw [outcome_bind_ok (outcome_ofExcept ..)]
        cases found with
        | none => exact ⟨_, _, rfl, aside, by simp⟩
        | some x =>
          obtain ⟨document, place⟩ := x
          dsimp only
          cases done : updated called.walkedTwice document
              (.dict [(.str "$set", .dict changes)]) with
          | error e =>
            rw [outcome_bind_error (outcome_ofExcept ..)]
            exact ⟨_, _, rfl, aside, fun _ _ => preserves⟩
          | ok new =>
            obtain ⟨v, fault⟩ := new
            obtain rfl := updated_entries _ document rfl done
            exact ⟨.ok true, _, rfl, aside, by simp⟩

end

end Act

end DocMapper
