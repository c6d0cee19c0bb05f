import DocMapper.Proofs.Seats

/-!
What a connection changes of what it owns.  It asks its database for a handle when a name is first
asked for; a handle records the calls, and puts other documents on its shelf.
-/

namespace DocMapper

namespace Entries

variable {es : Entries} {name : String} {v w : Value}

theorem put_none (none : es.field? name = none) (v : Value) :
    put es (.str name) v = es ++ [(.str name, v)] := by
  induction es with
  | nil => rfl
  | cons e es ih =>
    cases same : e.1.same (.str name) with
    | true => simp [field?, get?, same] at none
    | false =>
      have rest : field? es name = Option.none := by simpa [field?, get?, same] using none
      rw [put, same, if_neg Bool.false_ne_true, ih rest]
      rfl

theorem field?_map (f : Value → Value) (es : Entries) (name : String) :
    field? (es.map fun e => (e.1, f e.2)) name = (es.field? name).map f := by
  simp [field?, get?, List.find?_map, Function.comp_def]

/-- Entries of which one value is replaced that no other entry has. -/
theorem put_of_once (once : (es.map Prod.snd).Nodup) (here : es.field? name = some v)
    {f g : Value → Value} (others : ∀ u, u ≠ v → g u = f u) :
    (es.map fun e => (e.1, g e.2)) = put (es.map fun e => (e.1, f e.2)) (.str name) (g v) := by
  induction es with
  | nil => cases here
  | cons e es ih =>
    rw [List.map_cons, List.nodup_cons] at once
    rw [List.map_cons, List.map_cons, put]
    cases same : e.1.same (.str name) with
    | true =>
      obtain rfl : e.2 = v := by simpa [field?, get?, same] using here
      rw [if_pos rfl]
      congr 1
      apply List.map_congr_left
      intro e' member
      rw [others]
      exact fun eq => once.1 (eq ▸ List.mem_map_of_mem member)
    | false =>
      have rest : field? es name = some v := by simpa [field?, get?, same] using here
      obtain ⟨e', there, value⟩ := Option.map_eq_some_iff.mp rest
      rw [if_neg Bool.false_ne_true, ← ih once.2 rest, others]
      exact fun eq => once.1 (eq ▸ value ▸ List.mem_map_of_mem (List.mem_of_find?_eq_some there))

theorem field?_touched (data : Entries) (name : String) :
    (data.touched name).field? name = some ((data.field? name).getD (.list [])) := by
  rw [touched]
  split
  · rename_i some
    obtain ⟨v, found⟩ := Option.isSome_iff_exists.mp some
    rw [found]
    rfl
  · rename_i none
    rw [Option.not_isSome_iff_eq_none.mp none, field?, get?_put_text, if_pos rfl]
    rfl

end Entries

namespace Store

/-- From one store to the next, a connection changed nothing but what it owns. -/
structure Within (st : Store) (p : Seat) (after : Store) : Prop where
  aside : after.aside = st.aside
  sits : after.Sits p
  spares : st.Spares p after

theorem Within.trans {st mid after : Store} {p : Seat} (h : st.Within p mid)
    (k : mid.Within p after) : st.Within p after :=
  ⟨k.aside.trans h.aside, k.sits, h.spares.trans k.spares⟩

/-- The database of a connection was asked for a handle. -/
def asking (st : Store) (b : Nat) (vs : List Value) : Store :=
  { st with
    databases := st.databases.setIfInBounds b { st.databaseAt b with requests := .list vs } }

/-- An empty shelf was put under a name. -/
def placing (st : Store) (t : Nat) (name : String) : Store :=
  { st with
    shelves := st.shelves.push (.list [])
    stocks := st.stocks.setIfInBounds t
      (Entries.put (st.stockAt t) (.str name) (.handle (.shelf st.shelves.size))) }

/-- A new handle was made for a shelf, and a connection keeps it. -/
def handing (st : Store) (k : Nat) (name : String) (s : Nat) (es : Entries) : Store :=
  { st with
    collections := st.collections.push { name := .str name, shelf := s }
    connections := st.connections.setIfInBounds k { st.connectionAt k with
      handles :=
        .dict (Entries.put es (.str name) (.handle (.collection st.collections.size))) } }

variable {st : Store} {p : Seat} {name : String} {j s : Nat} {ds vs : List Value}

namespace Sits

theorem within_of_ground {after : Store} (sits : st.Sits p) (aside : after.aside = st.aside)
    (ground : after.ground = st.ground) : st.Within p after :=
  ⟨aside, sits.of_ground ground, .of_ground ground⟩

theorem noted (sits : st.Sits p) (log : String) (level : Level) (message : Store → String) :
    st.Within p (st.noted log level message) :=
  sits.within_of_ground (aside_noted ..) (ground_noted ..)

theorem database_known (sits : st.Sits p) : p.database < st.databases.size := by
  apply Nat.lt_of_not_le
  intro beyond
  have data := sits.data
  rw [databaseAt, Array.getD_eq_getD_getElem?, Array.getElem?_eq_none beyond] at data
  cases data

theorem asking (sits : st.Sits p) (vs : List Value) : st.Within p (st.asking p.database vs) := by
  have here : (st.asking p.database vs).databaseAt p.database =
      { st.databaseAt p.database with requests := .list vs } := by
    simp [Store.asking, databaseAt, Array.getD_eq_getD_getElem?, sits.database_known]
  refine ⟨rfl, ?_, Moves.spares ?_⟩
  · exact ⟨sits.selected, sits.models, sits.room, by rw [here]; exact sits.data,
      ⟨vs, by rw [here]⟩, sits.stocked, sits.shelved, sits.once, sits.handles⟩
  · constructor
    case databases =>
      intro b other
      simp [Store.asking, databaseAt, Array.getD_eq_getD_getElem?, Ne.symm other]
    case owned => exact fun s owns => .inl owns
    all_goals first | exact Nat.le_refl _ | intros; rfl

theorem placing (sits : st.Sits p) (none : (st.stockAt p.stock).field? name = none) :
    st.Within p (st.placing p.stock name) ∧
      ((st.placing p.stock name).stockAt p.stock).field? name =
        some (.handle (.shelf st.shelves.size)) ∧
      (st.placing p.stock name).shelfAt st.shelves.size = .list [] ∧
      (st.placing p.stock name).stored p.stock = (st.stored p.stock).touched name := by
  let new : Value := .handle (.shelf st.shelves.size)
  have stock : (st.placing p.stock name).stockAt p.stock =
      st.stockAt p.stock ++ [(.str name, new)] := by
    rw [← Entries.put_none none]
    simp [Store.placing, stockAt, Array.getD_eq_getD_getElem?, sits.stocked, new]
  have last : (st.placing p.stock name).shelfAt st.shelves.size = .list [] := by
    simp [Store.placing, shelfAt, Array.getD_eq_getD_getElem?]
  have before {s : Nat} (present : s < st.shelves.size) :
      (st.placing p.stock name).shelfAt s = st.shelfAt s := by
    simp [Store.placing, shelfAt, Array.getD_eq_getD_getElem?, Array.getElem?_push,
      Nat.ne_of_lt present]
  have size : (st.placing p.stock name).shelves.size = st.shelves.size + 1 := by
    simp [Store.placing]
  have absent : new ∉ (st.stockAt p.stock).map Prod.snd := by
    intro member
    obtain ⟨e, there, same⟩ := List.mem_map.mp member
    exact Nat.lt_irrefl _ (sits.owned ⟨e, there, same⟩)
  have found (other : String) : ((st.placing p.stock name).stockAt p.stock).field? other =
      if name = other then some new else (st.stockAt p.stock).field? other := by
    rw [stock, ← Entries.put_none none, Entries.field?, Entries.get?_put_text]
    rfl
  refine ⟨⟨rfl, ?_, Moves.spares ?_⟩, ?_, last, ?_⟩
  · constructor
    case shelved =>
      intro e member
      rw [stock] at member
      rcases List.mem_append.mp member with member | member
      · obtain ⟨other, s, ds, same, present, holds, docs⟩ := sits.shelved e member
        exact ⟨other, s, ds, same, size ▸ Nat.lt_succ_of_lt present, (before present).trans holds,
          docs⟩
      · rw [List.mem_singleton.mp member]
        exact ⟨name, _, [], rfl, size ▸ Nat.lt_succ_self _, last, by simp⟩
    case once =>
      rw [stock, List.map_append, List.nodup_append]
      exact ⟨sits.once, by simp, by simpa using fun u hu => ne_of_mem_of_not_mem hu absent⟩
    case handles =>
      obtain ⟨es, handles, reach⟩ := sits.handles
      refine ⟨es, handles, fun other v kept set => ?_⟩
      obtain ⟨j, same, present, calls, shelf⟩ := reach other v kept set
      refine ⟨j, same, present, calls, ?_⟩
      rw [found, if_neg]
      · exact shelf
      · rintro rfl
        rw [none] at shelf
        cases shelf
    case stocked => simpa [Store.placing] using sits.stocked
    case selected => exact sits.selected
    case models => exact sits.models
    case room => exact sits.room
    case data => exact sits.data
    case requests => exact sits.requests
  · constructor
    case stocks =>
      intro t other
      simp [Store.placing, stockAt, Array.getD_eq_getD_getElem?, Ne.symm other]
    case owned =>
      rintro s ⟨e, member, same⟩
      rw [stock] at member
      rcases List.mem_append.mp member with member | member
      · exact .inl ⟨e, member, same⟩
      · rw [List.mem_singleton.mp member] at same
        cases same
        exact .inr (Nat.le_refl _)
    case shelves => exact fun s present _ => before present
    case stocked => simp [Store.placing]
    case moreShelves => exact size ▸ Nat.le_succ _
    all_goals first | exact Nat.le_refl _ | intros; rfl
  · rw [found, if_pos rfl]
  · have nothing : (st.stored p.stock).field? name = Option.none := by
      rw [stored_eq, Entries.field?_map, none]
      rfl
    rw [Entries.touched, nothing, Entries.put_none nothing, stored_eq, stored_eq, stock,
      List.map_append, if_neg (by simp)]
    congr 1
    · apply List.map_congr_left
      intro e member
      obtain ⟨other, s, ds, rfl, present, -⟩ := sits.shelved e member
      rw [onShelf, onShelf, before present]
    · rw [List.map_singleton, onShelf, last]

theorem handing (sits : st.Sits p) {es : Entries}
    (handles : (st.connectionAt p.connection).handles = .dict es)
    (found : (st.stockAt p.stock).field? name = some (.handle (.shelf s))) :
    st.Within p (st.handing p.connection name s es) ∧
      (st.handing p.connection name s es).collectionAt st.collections.size =
        { name := .str name, shelf := s } ∧
      (st.handing p.connection name s es).connectionAt p.connection =
        { st.connectionAt p.connection with
          handles :=
            .dict (Entries.put es (.str name) (.handle (.collection st.collections.size))) } := by
  have known := connection_known sits.selected
  have last : (st.handing p.connection name s es).collectionAt st.collections.size =
      { name := .str name, shelf := s } := by
    simp [Store.handing, collectionAt, Array.getD_eq_getD_getElem?]
  have before {j : Nat} (present : j < st.collections.size) :
      (st.handing p.connection name s es).collectionAt j = st.collectionAt j := by
    simp [Store.handing, collectionAt, Array.getD_eq_getD_getElem?, Array.getElem?_push,
      Nat.ne_of_lt present]
  have size : (st.handing p.connection name s es).collections.size = st.collections.size + 1 := by
    simp [Store.handing]
  have connection : (st.handing p.connection name s es).connectionAt p.connection =
      { st.connectionAt p.connection with
        handles :=
          .dict (Entries.put es (.str name) (.handle (.collection st.collections.size))) } := by
    simp [Store.handing, connectionAt, Array.getD_eq_getD_getElem?, known]
  refine ⟨⟨rfl, ?_, Moves.spares ?_⟩, last, connection⟩
  · constructor
    case handles =>
      refine ⟨_, by rw [connection], fun other v kept set => ?_⟩
      rw [Entries.field?, Entries.get?_put_text] at kept
      split at kept
      · rename_i same
        cases kept
        exact ⟨_, rfl, size ▸ Nat.lt_succ_self _, ⟨[], by rw [last]⟩, by rw [last]; exact same ▸ found⟩
      · obtain ⟨es', handles', reach⟩ := sits.handles
        cases handles.symm.trans handles'
        obtain ⟨j, same, present, calls, shelf⟩ := reach other v kept set
        exact ⟨j, same, size ▸ Nat.lt_succ_of_lt present, by rw [before present]; exact calls,
          by rw [before present]; exact shelf⟩
    case selected => rw [connection]; exact sits.selected
    case models => rw [connection]; exact sits.models
    case room => exact sits.room
    case data => exact sits.data
    case requests => exact sits.requests
    case stocked => exact sits.stocked
    case shelved => exact sits.shelved
    case once => exact sits.once
  · constructor
    case connections =>
      intro k other
      simp [Store.handing, connectionAt, Array.getD_eq_getD_getElem?, Ne.symm other]
    case collections => exact fun j present _ => before present
    case owned => exact fun s owns => .inl owns
    case moreCollections => exact size ▸ Nat.le_succ _
    all_goals first | exact Nat.le_refl _ | intros; rfl

theorem called (sits : st.Sits p) (owns : st.Owns p (st.collectionAt j).shelf) (vs : List Value) :
    st.Within p (st.called j (.list vs)) := by
  have other {i : Nat} (differs : i ≠ j) :
      (st.called j (.list vs)).collectionAt i = st.collectionAt i := by
    simp [Store.called, collectionAt, Array.getD_eq_getD_getElem?, Ne.symm differs]
  have size : (st.called j (.list vs)).collections.size = st.collections.size := by
    simp [Store.called]
  refine ⟨rfl, ?_, Moves.spares ?_⟩
  · obtain ⟨es, handles, reach⟩ := sits.handles
    refine ⟨sits.selected, sits.models, sits.room, sits.data, sits.requests, sits.stocked,
      sits.shelved, sits.once, es, handles, fun name v kept set => ?_⟩
    obtain ⟨i, same, present, calls, shelf⟩ := reach name v kept set
    refine ⟨i, same, size ▸ present, ?_⟩
    by_cases this : i = j
    · subst this
      rw [collectionAt_called present]
      exact ⟨⟨vs, rfl⟩, shelf⟩
    · rw [other this]
      exact ⟨calls, shelf⟩
  · constructor
    case collections =>
      intro i _ notOwned
      exact other fun same => notOwned (same ▸ owns)
    case owned => exact fun s owns => .inl owns
    case moreCollections => exact Nat.le_of_eq size.symm
    all_goals first | exact Nat.le_refl _ | intros; rfl

theorem shelving (sits : st.Sits p)
    (found : (st.stockAt p.stock).field? name = some (.handle (.shelf s)))
    (docs : ∀ x ∈ ds, x.Simple ∧ ∃ es, x = .dict es) :
    st.Within p (st.shelving s ds) ∧
      (st.shelving s ds).stored p.stock = (st.stored p.stock).put (.str name) (.list ds) := by
  have owns : st.Owns p s := .of_field? found
  have here : (st.shelving s ds).shelfAt s = .list ds := by
    simp [Store.shelving, shelfAt, Array.getD_eq_getD_getElem?, sits.owned owns]
  have other {i : Nat} (differs : i ≠ s) : (st.shelving s ds).shelfAt i = st.shelfAt i := by
    simp [Store.shelving, shelfAt, Array.getD_eq_getD_getElem?, Ne.symm differs]
  have size : (st.shelving s ds).shelves.size = st.shelves.size := by simp [Store.shelving]
  refine ⟨⟨rfl, ?_, Moves.spares ?_⟩, ?_⟩
  · refine ⟨sits.selected, sits.models, sits.room, sits.data, sits.requests, sits.stocked,
      fun e member => ?_, sits.once, sits.handles⟩
    obtain ⟨key, i, old, same, present, holds, were⟩ := sits.shelved e member
    by_cases this : i = s
    · exact ⟨key, i, ds, same, size ▸ present, this ▸ here, docs⟩
    · exact ⟨key, i, old, same, size ▸ present, (other this).trans holds, were⟩
  · constructor
    case shelves =>
      intro i _ notOwned
      exact other fun same => notOwned (same ▸ owns)
    case owned => exact fun s owns => .inl owns
    case moreShelves => exact Nat.le_of_eq size.symm
    all_goals first | exact Nat.le_refl _ | intros; rfl
  · rw [stored_eq, stored_eq]
    have shown := Entries.put_of_once sits.once found (f := st.onShelf)
      (g := (st.shelving s ds).onShelf) fun u differs => ?_
    · exact shown.trans (congrArg _ here)
    · unfold onShelf
      split
      · exact other fun same => differs (same ▸ rfl)
      · rfl

end Sits

/-- A connection was asked for the handle of a name, and gave one of the documents that stand there. -/
structure Touches (st : Store) (p : Seat) (name : String) (j : Nat) (ds : List Value)
    (after : Store) : Prop extends Within st p after where
  keeps : after.Keeps p.connection name j ds
  shelf : (after.stockAt p.stock).field? name =
    some (.handle (.shelf (after.collectionAt j).shelf))
  stored : after.stored p.stock = (st.stored p.stock).touched name
  docs : ∀ x ∈ ds, x.Simple ∧ ∃ es, x = .dict es

/-- What stands under the name that was asked for. -/
theorem Touches.here {after : Store} (h : st.Touches p name j ds after) :
    (after.stored p.stock).field? name = some (.list ds) := by
  rw [stored_eq, Entries.field?_map, h.shelf, Option.map_some, onShelf, h.keeps.stored]

/-- The handle that was given is called, and maybe puts other documents on its shelf. -/
theorem Touches.writing {after : Store} (h : st.Touches p name j ds after) (vs : List Value) :
    (after.Within p (after.called j (.list vs)) ∧
      (after.called j (.list vs)).stored p.stock = (st.stored p.stock).touched name) ∧
    ∀ new : List Value, (∀ x ∈ new, x.Simple ∧ ∃ es, x = .dict es) →
      after.Within p
        ((after.called j (.list vs)).shelving (after.collectionAt j).shelf new) ∧
      ((after.called j (.list vs)).shelving (after.collectionAt j).shelf new).stored p.stock =
        ((st.stored p.stock).touched name).put (.str name) (.list new) := by
  have called := h.sits.called (.of_field? h.shelf) vs
  refine ⟨⟨called, h.stored⟩, fun new docs => ?_⟩
  have shelf : ((after.called j (.list vs)).stockAt p.stock).field? name = _ := h.shelf
  obtain ⟨shelving, stored⟩ := called.sits.shelving shelf docs
  exact ⟨called.trans shelving, by rw [stored, ← h.stored]; rfl⟩

/-- A handle that a connection keeps is one of the documents under its name. -/
theorem Sits.touches (sits : st.Sits p) {mid : Store} (within : mid.Within p st)
    (stored : st.stored p.stock = (mid.stored p.stock).touched name) {es : Entries}
    (handles : (st.connectionAt p.connection).handles = .dict es)
    (kept : es.field? name = some (.handle (.collection j))) :
    ∃ ds, mid.Touches p name j ds st := by
  obtain ⟨es', handles', reach⟩ := sits.handles
  cases handles.symm.trans handles'
  obtain ⟨i, same, present, calls, shelf⟩ := reach name _ kept rfl
  cases same
  obtain ⟨s, ds, same, there, holds, docs⟩ := sits.field? shelf
  cases same
  exact ⟨ds, within, ⟨⟨_, sits.selected⟩, ⟨_, handles, kept⟩, present, calls, there, holds⟩, shelf,
    stored, docs⟩

end Store

namespace Act

variable {d : Dispatch} {st : Store} {p : Seat}

theorem outcome_shelfOf_seat (sits : st.Sits p) (name : String) :
    ∃ s after, (shelfOf p.stock (.str name)).outcome st = (.ok s, after) ∧ st.Within p after ∧
      after.connections = st.connections ∧
      (after.stockAt p.stock).field? name = some (.handle (.shelf s)) ∧
      after.stored p.stock = (st.stored p.stock).touched name := by
  have key : (checkKey (.str name)).outcome st = (.ok (), st) := rfl
  cases found : (st.stockAt p.stock).field? name with
  | some v =>
    obtain ⟨s, ds, rfl, -⟩ := sits.field? found
    have stored : (st.stored p.stock).touched name = st.stored p.stock := by
      rw [Entries.touched, Store.stored_eq, Entries.field?_map, found]
      rfl
    refine ⟨s, st, ?_, sits.within_of_ground rfl rfl, rfl, found, stored.symm⟩
    rw [shelfOf, outcome_bind_ok key, outcome_bind_ok (outcome_stock ..),
      show Entries.get? (st.stocks.getD p.stock []) (.str name) = _ from found]
    rfl
  | none =>
    obtain ⟨within, shelf, -, stored⟩ := sits.placing found
    refine ⟨_, _, ?_, within, rfl, shelf, stored⟩
    rw [shelfOf, outcome_bind_ok key, outcome_bind_ok (outcome_stock ..),
      show Entries.get? (st.stocks.getD p.stock []) (.str name) = _ from found]
    rfl

/-- The database of a connection makes a handle of the documents that stand under a name. -/
theorem outcome_newHandle_seat (sits : st.Sits p) (name : String) :
    ∃ s mid, (newHandle p.database (.str name)).outcome st = (.ok mid.collections.size,
        { mid with collections := mid.collections.push { name := .str name, shelf := s } }) ∧
      st.Within p mid ∧ mid.connectionAt p.connection = st.connectionAt p.connection ∧
      (mid.stockAt p.stock).field? name = some (.handle (.shelf s)) ∧
      mid.stored p.stock = (st.stored p.stock).touched name := by
  obtain ⟨vs, requests⟩ := sits.requests
  have asked : appended (st.databaseAt p.database).requests (.str name) =
      .ok (.list (vs ++ [.str name])) := by
    rw [requests]
    rfl
  have asking := sits.asking (vs ++ [.str name])
  have put : (setDatabase p.database { st.databaseAt p.database with
      requests := .list (vs ++ [.str name]) }).outcome st =
        (.ok (), st.asking p.database (vs ++ [.str name])) := rfl
  obtain ⟨s, mid, shelved, within, connections, shelf, stored⟩ :=
    outcome_shelfOf_seat asking.sits name
  refine ⟨s, mid, ?_, asking.trans within, ?_, shelf, stored⟩
  · rw [newHandle, outcome_bind_ok (outcome_database ..), asked,
      outcome_bind_ok (outcome_ofExcept ..), outcome_bind_ok put, sits.data]
    simp only
    rw [outcome_bind_ok shelved]
    rfl
  · exact congrArg (fun cs : Array Connection => cs.getD p.connection default) connections

/-- A connection that has no handle under a name makes one, and keeps it. -/
theorem outcome_handleOf_new (o : st.Orderly) (sits : st.Sits p) {name : String} {es : Entries}
    (handles : (st.connectionAt p.connection).handles = .dict es)
    (unknown : (es.field? name).filter Registry.isSet = none) (d : Dispatch) :
    ∃ j ds after, (handleOf d p.connection (.str name)).outcome st =
        (.ok (.handle (.collection j)), after) ∧ st.Touches p name j ds after := by
  have none : keptHandle (st.connectionAt p.connection).handles (.str name) = .ok none := by
    rw [handles, keptHandle]
    exact congrArg Except.ok unknown
  have usual := (o.bare (.database p.database)).usual o.pristine rfl
    (show Interface.inherited? "MockDatabase" "get_collection" = some (.known "MockDatabase", _)
      from rfl)
  obtain ⟨s, mid, made, within, connection, shelf, stored⟩ := outcome_newHandle_seat sits name
  obtain ⟨handing, -, keeping⟩ := within.sits.handing (connection ▸ handles) shelf
  have bare : (mid.handing p.connection name s es).Bare (.connection p.connection) :=
    (o.bare _).of_setting (Store.setting_of_aside (handing.aside.trans within.aside))
  let handle : Value := .handle (.collection mid.collections.size)
  have put : (setConnection p.connection { mid.connectionAt p.connection with
      handles := .dict (Entries.put es (.str name) handle) }).outcome
      { mid with collections := mid.collections.push { name := .str name, shelf := s } } =
        (.ok (), mid.handing p.connection name s es) := rfl
  have read : (Act.connection p.connection).outcome
      { mid with collections := mid.collections.push { name := .str name, shelf := s } } =
        (.ok (mid.connectionAt p.connection),
          { mid with collections := mid.collections.push { name := .str name, shelf := s } }) :=
    outcome_connection ..
  have done : ∃ log level message, (handleOf d p.connection (.str name)).outcome st =
      (.ok handle, (mid.handing p.connection name s es).noted log level message) := by
    rw [handleOf, outcome_bind_ok (outcome_connection ..), sits.selected]
    simp only
    rw [outcome_bind_ok (outcome_connection ..), none, outcome_bind_ok (outcome_ofExcept ..)]
    simp only
    rw [outcome_bind, outcome_callOr_usual usual]
    simp only [outcome_bind_ok made, outcome_pure]
    rw [outcome_bind_ok read, connection, handles]
    simp only [keepHandle]
    rw [outcome_bind_ok (outcome_ofExcept ..), ← connection, outcome_bind_ok put,
      outcome_bind_ok (outcome_noteConnection bare ..)]
    exact ⟨_, _, _, rfl⟩
  obtain ⟨log, level, message, done⟩ := done
  have noted := handing.sits.noted log level message
  have there : (((mid.handing p.connection name s es).noted log level message).connectionAt
      p.connection).handles = .dict (Entries.put es (.str name) handle) := by
    rw [(Store.at_of_ground (Store.ground_noted ..)).1, keeping]
  have same : ((mid.handing p.connection name s es).noted log level message).stored p.stock =
      (st.stored p.stock).touched name :=
    (Store.stored_of_ground (Store.ground_noted ..) _).trans stored
  obtain ⟨ds, touches⟩ := noted.sits.touches ((within.trans handing).trans noted) same there
    (Entries.get?_put_self _ _ (by simp))
  exact ⟨_, ds, _, done, touches⟩

/-- A connection gives a handle of the documents that stand under a name. -/
theorem outcome_handleOf_seat (o : st.Orderly) (sits : st.Sits p) (name : String) (d : Dispatch) :
    ∃ j ds after, (handleOf d p.connection (.str name)).outcome st =
        (.ok (.handle (.collection j)), after) ∧ st.Touches p name j ds after := by
  obtain ⟨es, handles, reach⟩ := sits.handles
  cases kept : (Entries.field? es name).filter Registry.isSet with
  | some v =>
    obtain ⟨there, set⟩ := Option.filter_eq_some_iff.mp kept
    obtain ⟨j, rfl, -, -, shelf⟩ := reach name v there set
    have stored : (st.stored p.stock).touched name = st.stored p.stock := by
      rw [Entries.touched, Store.stored_eq, Entries.field?_map, shelf]
      rfl
    obtain ⟨ds, touches⟩ := sits.touches (sits.within_of_ground rfl rfl) stored.symm handles there
    exact ⟨j, ds, st, outcome_handleOf_kept touches.keeps, touches⟩
  | none => exact outcome_handleOf_new o sits handles kept d

end Act

end DocMapper
