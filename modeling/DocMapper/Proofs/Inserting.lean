import DocMapper.Proofs.Preparing

/-!
A new instance of plain data that is inserted.  One document is added, and the instance takes its
id; everything that is touched is said.
-/

namespace DocMapper

/-- Entries with an id: their own, or else the one that is given. -/
def Entries.keyed (es : Entries) (key : Value) : Entries :=
  if es.has (.str "_id") then es else es ++ [(.str "_id", key)]

/-- A mapping with an id: its own, or else the one that is given. -/
def Value.keyed (v key : Value) : Value :=
  match v with
  | .dict es => .dict (Entries.keyed es key)
  | .mapping es => .mapping (Entries.keyed es key)
  | v => v

namespace Entries

variable {es : Entries} {key v : Value}

theorem keyed_some (here : es.field? "_id" = some v) (key : Value) : es.keyed key = es := by
  rw [keyed, has_eq_isSome, here]
  rfl

theorem keyed_none (free : es.field? "_id" = none) (key : Value) :
    es.keyed key = es ++ [(.str "_id", key)] := by
  rw [keyed, has_eq_isSome, free]
  rfl

theorem entries?_keyed {u : Value} (entries : u.entries? = some es) (key : Value) :
    (u.keyed key).entries? = some (es.keyed key) := by
  cases u <;> cases entries <;> rfl

theorem value_keyed_some {u : Value} (entries : u.entries? = some es) (here : es.field? "_id" = some v)
    (key : Value) : u.keyed key = u := by
  cases u <;> cases entries <;> simp only [Value.keyed, keyed_some here]

theorem field?_keyed (es : Entries) (key : Value) :
    (es.keyed key).field? "_id" = some ((es.field? "_id").getD key) :=
  field?_withId es key

theorem has_eq_of_keys {fs : Entries} (same : keys es = keys fs) (k : Value) :
    es.has k = fs.has k := by
  have read (es : Entries) : es.has k = (keys es).any fun l => l.same k := by
    rw [has, keys, List.any_map]
    rfl
  rw [read, read, same]

theorem keys_keyed {fs : Entries} (same : keys es = keys fs) (key : Value) :
    keys (es.keyed key) = keys (fs.keyed key) := by
  rw [keyed, keyed, has_eq_of_keys same]
  split
  · exact same
  · simpa [keys] using same

end Entries

namespace Store

/-- A document was inserted for an instance, by a call of a handle. -/
def inserting (st : Store) (i j : Nat) (calls ds : List Value) (stored fields : Entries) : Store :=
  { (st.called j (.list calls)).shelving (st.collectionAt j).shelf (ds ++ [.dict stored]) with
    generated := st.generated + 1
    documents := st.documents.setIfInBounds i
      { st.documentAt i with fields := .dict fields, isNew := .bool false } }

variable {st : Store} {k i j : Nat} {name : String} {ds : List Value}

theorem Keeps.inserting (h : st.Keeps k name j ds) (i : Nat) (calls : List Value)
    (stored fields : Entries) :
    (st.inserting i j calls ds stored fields).Keeps k name j (ds ++ [.dict stored]) := by
  have called := (h.called calls).shelving (ds ++ [.dict stored])
  rw [collectionAt_called h.present] at called
  exact ⟨called.selected, called.kept, called.present, called.calls, called.shelved, called.stored⟩

theorem documentAt_inserting (present : i < st.documents.size) (j : Nat) (calls ds : List Value)
    (stored fields : Entries) :
    (st.inserting i j calls ds stored fields).documentAt i =
      { st.documentAt i with fields := .dict fields, isNew := .bool false } := by
  simp [Store.inserting, documentAt, Array.getD_eq_getD_getElem?, present]

end Store

namespace Act

variable {d : Dispatch} {st : Store} {k i j : Nat} {name : String} {ds : List Value}
variable {es fs : Entries} {key : Value}

/-- An id that is stored as it is stays. -/
theorem outcome_prepare_id {after : Store}
    (done : (prepare d (.dict fs)).outcome st = (.ok (.dict es), after))
    (settled : ((fs.field? "_id").getD key).Settled) : es.field? "_id" = fs.field? "_id" := by
  obtain ⟨-, free, stays⟩ := outcome_prepare done
  cases there : fs.field? "_id" with
  | some v =>
    rw [there] at settled
    exact stays _ v there settled
  | none => exact free _ there

/-- Fields that take an id are stored with it. -/
theorem outcome_prepare_keyed {after : Store} (settled : es.field? "_id" = none → key.Settled)
    (done : (prepare d (.dict fs)).outcome st = (.ok (.dict es), after)) :
    (prepare d (.dict (fs.keyed key))).outcome st = (.ok (.dict (es.keyed key)), after) := by
  have same := Entries.has_eq_of_keys (outcome_prepare done).1 (.str "_id")
  rw [Entries.keyed, Entries.keyed, same]
  split
  case isTrue => exact done
  case isFalse free =>
    rw [← same, Entries.has_eq_isSome, Bool.not_eq_true, Option.isSome_eq_false_iff,
      Option.isNone_iff_eq_none] at free
    exact outcome_prepare_append (settled free) done

theorem outcome_withKey_entries {v : Value} (entries : v.entries? = some fs)
    (filled : fs.field? "_id" = none → key ≠ .null) (st : Store) :
    (withKey v key).outcome st = (.ok (v.keyed key), st) := by
  have asked : (isIn (.str "_id") v).outcome st = (.ok (fs.field? "_id").isSome, st) := by
    rw [outcome_isIn]
    have shown : (st.walked v).entries? = some fs := by
      cases v <;> cases entries <;> rfl
    exact congrArg (·, st) (isIn_text shown "_id")
  unfold withKey
  rw [outcome_bind_ok asked]
  cases here : fs.field? "_id" with
  | some u =>
    cases v <;> cases entries <;> simp only [Value.keyed, Entries.keyed_some here] <;> rfl
  | none =>
    cases v <;> cases entries <;> simp only [Value.keyed, Entries.keyed_none here]
    all_goals
      cases key
      case null => exact absurd rfl (filled here)
      all_goals rfl

theorem outcome_withKey_dict (filled : fs.field? "_id" = none → key ≠ .null) (st : Store) :
    (withKey (.dict fs) key).outcome st = (.ok (.dict (fs.keyed key)), st) :=
  outcome_withKey_entries rfl filled st

theorem outcome_insertOne_plain (h : st.Keeps k name j ds) (plain : (Value.dict es).Plain) :
    ∃ vs, let key := (es.field? "_id").getD (generatedId (st.generated + 1))
      (insertOne j (.dict es)).outcome st = (.ok key,
        { (st.called j (.list vs)).shelving (st.collectionAt j).shelf
            (ds ++ [.dict (es.keyed key)]) with generated := st.generated + 1 }) := by
  obtain ⟨vs, recorded⟩ := outcome_recordCall h "insert_one" [.dict es]
  have called := h.called vs
  let issued : Store := { st.called j (.list vs) with generated := st.generated + 1 }
  have stored : issued.shelfAt (issued.collectionAt j).shelf = .list ds := called.stored
  have shelf : (issued.collectionAt j).shelf = (st.collectionAt j).shelf := by
    change ((st.called j (.list vs)).collectionAt j).shelf = _
    rw [Store.collectionAt_called h.present]
  refine ⟨vs, ?_⟩
  rw [insertOne, outcome_bind_ok recorded, outcome_bind_ok (outcome_copy plain _)]
  simp only [Value.entries?]
  rw [outcome_bind_ok (show Act.outcome (modifyGet _) _ =
      (.ok (generatedId (st.generated + 1)), issued) from rfl),
    outcome_bind_ok (outcome_collection j issued), outcome_bind_ok (outcome_shelf _ issued),
    stored, appended, outcome_bind_ok (outcome_ofExcept ..), shelf]
  cases here : es.field? "_id" with
  | some v =>
    rw [Entries.keyed_some here, Entries.has_eq_isSome, here]
    rfl
  | none =>
    rw [Option.getD_none, Entries.keyed_none here, Entries.has_eq_isSome, here]
    rfl

/-- An instance of plain data is inserted as it is stored, and both hold the same id. -/
theorem outcome_saveNew_plain (keeps : st.Keeps k name j ds) (bare : st.Bare (.collection j))
    (pristine : st.registry.Pristine) (plain : (Value.dict es).Plain)
    (fields : (st.documentAt i).fields = .dict fs)
    (key_eq : (es.field? "_id").getD (generatedId (st.generated + 1)) = key)
    (filled : fs.field? "_id" = none → key ≠ .null) :
    ∃ vs message, (saveNew d i (.handle (.collection j)) (.dict es)).outcome st =
      (.ok (), (st.inserting i j vs ds (es.keyed key) (fs.keyed key)).noted Part.model.log .info
        message) := by
  obtain ⟨vs, inserted⟩ := outcome_insertOne_plain keeps plain
  rw [key_eq] at inserted
  refine ⟨vs, ?_⟩
  let placed : Store := { (st.called j (.list vs)).shelving (st.collectionAt j).shelf
    (ds ++ [.dict (es.keyed key)]) with generated := st.generated + 1 }
  have document : placed.documentAt i = st.documentAt i := rfl
  have put : (setDocument i
      { st.documentAt i with fields := .dict (fs.keyed key), isNew := .bool false }).outcome placed =
        (.ok (), st.inserting i j vs ds (es.keyed key) (fs.keyed key)) := rfl
  rw [saveNew, outcome_bind_ok ((outcome_insertThrough bare pristine _).trans inserted),
    outcome_bind_ok (outcome_document i placed), document, fields,
    outcome_bind_ok (outcome_withKey_dict filled placed), outcome_bind_ok put]
  simp only [Value.entries?, noteSaved, note, outcome_noteIn]
  exact ⟨_, rfl⟩

end Act

end DocMapper
