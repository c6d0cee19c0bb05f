import DocMapper.Proofs.Attaching

/-!
Where the models of a connection keep their documents: the database that the connection selects, its
data, and the handles that the connection keeps.  Whatever is done through one connection stays within
what it owns, so that another that owns nothing of it sees nothing of that.
-/

namespace DocMapper

/-- A connection with the namespace of its models, the database that it selects, and its data. -/
structure Seat where
  connection : Nat
  space : Nat
  database : Nat
  stock : Nat

/-- Documents under names, where there are some, if only none, under this name. -/
def Entries.touched (data : Entries) (name : String) : Entries :=
  if (data.field? name).isSome then data else data.put (.str name) (.list [])

namespace Store

def stockAt (st : Store) (t : Nat) : Entries := st.stocks.getD t []

/-- The documents that stand under each name of some data. -/
def stored (st : Store) (t : Nat) : Entries :=
  (st.current (.handle (.stock t))).entries?.getD []

/-- What a handle of documents leads to. -/
def onShelf (st : Store) : Value → Value
  | .handle (.shelf s) => st.shelfAt s
  | v => v

/-- A name with a shelf of documents of plain data. -/
def Shelves (st : Store) (e : Value × Value) : Prop :=
  ∃ name s ds, e = (.str name, .handle (.shelf s)) ∧ s < st.shelves.size ∧
    st.shelfAt s = .list ds ∧ ∀ x ∈ ds, x.Simple ∧ ∃ es, x = .dict es

/-- A handle on the documents that stand under a name. -/
def Reaches (st : Store) (t : Nat) (name : String) (v : Value) : Prop :=
  ∃ j, v = .handle (.collection j) ∧ j < st.collections.size ∧
    (∃ vs, (st.collectionAt j).calls = .list vs) ∧
    (st.stockAt t).field? name = some (.handle (.shelf (st.collectionAt j).shelf))

/-- A connection that selects its database; what it keeps are handles on the data of that. -/
structure Sits (st : Store) (p : Seat) : Prop where
  selected : (st.connectionAt p.connection).database = .handle (.database p.database)
  models : (st.connectionAt p.connection).models = .handle (.space p.space)
  room : p.space < st.spaces.size
  data : (st.databaseAt p.database).data = .handle (.stock p.stock)
  requests : ∃ vs, (st.databaseAt p.database).requests = .list vs
  stocked : p.stock < st.stocks.size
  shelved : ∀ e ∈ st.stockAt p.stock, st.Shelves e
  once : ((st.stockAt p.stock).map Prod.snd).Nodup
  handles : ∃ es, (st.connectionAt p.connection).handles = .dict es ∧
    ∀ name v, Entries.field? es name = some v → Registry.isSet v → st.Reaches p.stock name v

/-- A shelf of the data of a connection. -/
def Owns (st : Store) (p : Seat) (s : Nat) : Prop :=
  ∃ e ∈ st.stockAt p.stock, e.2 = .handle (.shelf s)

/-- Two connections that have nothing in common. -/
structure Separate (st : Store) (p q : Seat) : Prop where
  connection : p.connection ≠ q.connection
  space : p.space ≠ q.space
  database : p.database ≠ q.database
  stock : p.stock ≠ q.stock
  shelves : ∀ s, st.Owns p s → ¬ st.Owns q s

/-- From one store to the next, only what a connection owns was changed, and what is new. -/
structure Moves (st : Store) (p : Seat) (after : Store) : Prop where
  connections : ∀ k, k ≠ p.connection → after.connectionAt k = st.connectionAt k
  spaces : after.spaces = st.spaces
  databases : ∀ b, b ≠ p.database → after.databaseAt b = st.databaseAt b
  stocks : ∀ t, t ≠ p.stock → after.stockAt t = st.stockAt t
  shelves : ∀ s, s < st.shelves.size → ¬ st.Owns p s → after.shelfAt s = st.shelfAt s
  collections : ∀ j, j < st.collections.size → ¬ st.Owns p (st.collectionAt j).shelf →
    after.collectionAt j = st.collectionAt j
  owned : ∀ s, after.Owns p s → st.Owns p s ∨ st.shelves.size ≤ s
  stocked : after.stocks.size = st.stocks.size
  moreShelves : st.shelves.size ≤ after.shelves.size
  moreCollections : st.collections.size ≤ after.collections.size

/-- What was done through a connection left every other alone that has nothing in common with it. -/
def Spares (st : Store) (p : Seat) (after : Store) : Prop :=
  ∀ q, st.Separate p q → st.Sits q →
    after.Separate p q ∧ after.Sits q ∧ after.stored q.stock = st.stored q.stock

variable {st mid after : Store} {p q : Seat} {name : String} {ds : List Value} {j s t : Nat}

theorem stored_eq (st : Store) (t : Nat) :
    st.stored t = (st.stockAt t).map fun e => (e.1, st.onShelf e.2) := by
  change (st.stockAt t).map _ = _
  apply List.map_congr_left
  intro e _
  unfold onShelf
  split <;> simp_all [shelfAt]

/-- What connections lead to is read off the ground alone. -/
theorem at_of_ground (same : after.ground = st.ground) :
    after.connectionAt = st.connectionAt ∧ after.databaseAt = st.databaseAt ∧
      after.collectionAt = st.collectionAt ∧ after.shelfAt = st.shelfAt ∧
      after.stockAt = st.stockAt := by
  simp only [ground, Ground.mk.injEq] at same
  obtain ⟨connections, spaces, databases, collections, shelves, stocks⟩ := same
  refine ⟨?_, ?_, ?_, ?_, ?_⟩ <;> funext i
  · rw [connectionAt, connections, connectionAt]
  · rw [databaseAt, databases, databaseAt]
  · rw [collectionAt, collections, collectionAt]
  · rw [shelfAt, shelves, shelfAt]
  · rw [stockAt, stocks, stockAt]

theorem stored_of_ground (same : after.ground = st.ground) (t : Nat) :
    after.stored t = st.stored t := by
  obtain ⟨-, -, -, shelves, stocks⟩ := at_of_ground same
  rw [stored_eq, stored_eq, stocks]
  apply List.map_congr_left
  intro e _
  unfold onShelf
  split <;> simp [shelves]

theorem Owns.of_field? (found : (st.stockAt p.stock).field? name = some (.handle (.shelf s))) :
    st.Owns p s := by
  obtain ⟨e, there, same⟩ := Option.map_eq_some_iff.mp found
  exact ⟨e, List.mem_of_find?_eq_some there, same⟩

namespace Sits

theorem of_ground (sits : st.Sits p) (same : after.ground = st.ground) : after.Sits p := by
  obtain ⟨connections, databases, collections, shelves, stocks⟩ := at_of_ground same
  simp only [ground, Ground.mk.injEq] at same
  have size : after.shelves.size = st.shelves.size := congrArg Array.size same.2.2.2.2.1
  have number : after.collections.size = st.collections.size := congrArg Array.size same.2.2.2.1
  constructor
  case handles =>
    obtain ⟨es, handles, reach⟩ := sits.handles
    refine ⟨es, connections ▸ handles, fun name v kept set => ?_⟩
    simpa only [Reaches, collections, stocks, number] using reach name v kept set
  case shelved =>
    intro e member
    simpa only [Shelves, shelves, size] using sits.shelved e (stocks ▸ member)
  all_goals simp only [connections, databases, stocks, same]
  · exact sits.selected
  · exact sits.models
  · exact sits.room
  · exact sits.data
  · exact sits.requests
  · exact sits.stocked
  · exact sits.once

/-- Namespaces may show other models. -/
theorem of_spaces (sits : st.Sits p) (same : after.ground = { st.ground with spaces := after.spaces })
    (size : after.spaces.size = st.spaces.size) : after.Sits p := by
  let mid : Store := { after with spaces := st.spaces }
  have ground : mid.ground = st.ground := by
    change ({ after.ground with spaces := st.spaces } : Ground) = st.ground
    rw [same]
    rfl
  have sits := sits.of_ground ground
  exact ⟨sits.selected, sits.models, size ▸ sits.room, sits.data, sits.requests, sits.stocked,
    sits.shelved, sits.once, sits.handles⟩

/-- Its shelves are there. -/
theorem owned (sits : st.Sits p) (owns : st.Owns p s) : s < st.shelves.size := by
  obtain ⟨e, member, same⟩ := owns
  obtain ⟨name, s', ds, rfl, present, -⟩ := sits.shelved e member
  cases same
  exact present

/-- What stands under a name are documents. -/
theorem field? (sits : st.Sits p) {v : Value} (found : (st.stockAt p.stock).field? name = some v) :
    ∃ s ds, v = .handle (.shelf s) ∧ s < st.shelves.size ∧ st.shelfAt s = .list ds ∧
      ∀ x ∈ ds, x.Simple ∧ ∃ es, x = .dict es := by
  obtain ⟨e, there, rfl⟩ := Option.map_eq_some_iff.mp found
  obtain ⟨-, s, ds, rfl, present, shelf, docs⟩ := sits.shelved e (List.mem_of_find?_eq_some there)
  exact ⟨s, ds, rfl, present, shelf, docs⟩

end Sits

namespace Separate

theorem symm (separate : st.Separate p q) : st.Separate q p :=
  ⟨separate.connection.symm, separate.space.symm, separate.database.symm, separate.stock.symm,
    fun s theirs mine => separate.shelves s mine theirs⟩

theorem of_stocks (separate : st.Separate p q) (same : after.stockAt = st.stockAt) :
    after.Separate p q := by
  refine ⟨separate.connection, separate.space, separate.database, separate.stock, ?_⟩
  simpa only [Owns, same] using separate.shelves

end Separate

/-- Whatever is changed of what a connection owns is changed of nothing that another owns. -/
theorem Moves.spares (moves : st.Moves p after) : st.Spares p after := by
  intro q separate sits
  have stock : after.stockAt q.stock = st.stockAt q.stock := moves.stocks _ separate.stock.symm
  have connection := moves.connections _ separate.connection.symm
  have database := moves.databases _ separate.database.symm
  have other (s : Nat) (owns : st.Owns q s) : ¬ st.Owns p s := fun mine =>
    separate.shelves s mine owns
  have shelf (s : Nat) (owns : st.Owns q s) : after.shelfAt s = st.shelfAt s :=
    moves.shelves s (sits.owned owns) (other s owns)
  refine ⟨⟨separate.connection, separate.space, separate.database, separate.stock, ?_⟩, ?_, ?_⟩
  · intro s mine owns
    have owns : st.Owns q s := by simpa only [Owns, stock] using owns
    rcases moves.owned s mine with mine | new
    · exact separate.shelves s mine owns
    · exact Nat.not_lt.mpr new (sits.owned owns)
  · constructor
    case handles =>
      obtain ⟨es, handles, reach⟩ := sits.handles
      refine ⟨es, connection ▸ handles, fun name v kept set => ?_⟩
      obtain ⟨j, same, present, calls, found⟩ := reach name v kept set
      have collection := moves.collections j present (other _ (.of_field? found))
      refine ⟨j, same, Nat.lt_of_lt_of_le present moves.moreCollections, ?_, ?_⟩
      · rw [collection]
        exact calls
      · rw [collection, stock]
        exact found
    case shelved =>
      intro e member
      rw [stock] at member
      obtain ⟨name, s, ds, same, present, holds, docs⟩ := sits.shelved e member
      have owns : st.Owns q s := ⟨e, member, same ▸ rfl⟩
      exact ⟨name, s, ds, same, Nat.lt_of_lt_of_le present moves.moreShelves,
        (shelf s owns).trans holds, docs⟩
    case selected => exact connection ▸ sits.selected
    case models => exact connection ▸ sits.models
    case room => exact moves.spaces ▸ sits.room
    case data => exact database ▸ sits.data
    case requests => exact database ▸ sits.requests
    case stocked => exact moves.stocked ▸ sits.stocked
    case once => exact stock ▸ sits.once
  · rw [stored_eq, stored_eq, stock]
    apply List.map_congr_left
    intro e member
    obtain ⟨name, s, ds, rfl, -⟩ := sits.shelved e member
    have owns : st.Owns q s := ⟨_, member, rfl⟩
    rw [onShelf, onShelf, shelf s owns]

namespace Spares

theorem of_ground (same : after.ground = st.ground) : st.Spares p after := by
  intro q separate sits
  obtain ⟨-, -, -, -, stocks⟩ := at_of_ground same
  exact ⟨separate.of_stocks stocks, sits.of_ground same, stored_of_ground same _⟩

theorem trans (h : st.Spares p mid) (k : mid.Spares p after) : st.Spares p after := by
  intro q separate sits
  obtain ⟨separate, sits, stored⟩ := h q separate sits
  obtain ⟨separate, sits, stored'⟩ := k q separate sits
  exact ⟨separate, sits, stored'.trans stored⟩

end Spares

end Store

end DocMapper
