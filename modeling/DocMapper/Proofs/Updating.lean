import DocMapper.Proofs.Inserting

/-!
Plain documents that are updated by an id.  The first document that the id selects takes the changes,
if there is one, and nothing else happens.
-/

namespace DocMapper

/-- What an update of a stored document changes. -/
def Entries.withoutKey (es : Entries) : Entries := es.filter fun e => !e.1.equal (.str "_id")

/-- Documents of which the first that an id selects takes changes. -/
def revised (ds : List Value) (id : Value) (changes : Entries) : Except Fault (List Value) := do
  match ← ds.zipIdx.findM? fun x => Criteria.holds x.1 (.dict [(.str "_id", id)]) with
  | none => return ds
  | some (x, place) => return ds.set place (.dict (Entries.merge (x.entries?.getD []) changes))

namespace Entries

variable {es : Entries} {key : Value}

theorem simple_keyed (simple : (Value.dict es).Simple) (id : key.Simple) :
    (Value.dict (es.keyed key)).Simple := by
  rw [Value.Simple.dict_iff] at simple ⊢
  intro e member
  rw [keyed] at member
  split at member
  · exact simple e member
  · rcases List.mem_append.mp member with member | member
    · exact simple e member
    · rw [List.mem_singleton.mp member]
      exact ⟨.str _, id⟩

theorem simple_withoutKey (simple : (Value.dict es).Simple) :
    (Value.dict es.withoutKey).Simple := by
  rw [Value.Simple.dict_iff] at simple ⊢
  exact fun e member => simple e (List.mem_filter.mp member).1

end Entries

theorem findM?_congr {α : Type} {f g : α → Except Fault Bool} {xs : List α}
    (same : ∀ x ∈ xs, f x = g x) : xs.findM? f = xs.findM? g := by
  induction xs with
  | nil => rfl
  | cons x xs ih =>
    simp only [List.findM?, same x List.mem_cons_self,
      ih fun y member => same y (List.mem_cons_of_mem x member)]

theorem mem_of_findM?_eq_ok {α : Type} {f : α → Except Fault Bool} {xs : List α} {x : α}
    (found : xs.findM? f = .ok (some x)) : x ∈ xs := by
  induction xs with
  | nil => cases found
  | cons y xs ih =>
    rw [List.findM?] at found
    cases here : f y with
    | error e =>
      rw [here] at found
      cases found
    | ok b =>
      rw [here] at found
      cases b with
      | true =>
        cases found
        exact List.mem_cons_self
      | false => exact List.mem_cons_of_mem y (ih found)

/-- Documents stay documents when one of them is revised. -/
theorem revised_simple {ds new : List Value} {id : Value} {changes : Entries}
    (docs : ∀ x ∈ ds, x.Simple ∧ ∃ es, x = .dict es) (simple : (Value.dict changes).Simple)
    (done : revised ds id changes = .ok new) : ∀ x ∈ new, x.Simple ∧ ∃ es, x = .dict es := by
  obtain ⟨found, selected, done⟩ := Except.of_bind_eq_ok done
  cases found with
  | none =>
    cases done
    exact docs
  | some e =>
    cases done
    intro x member
    rcases List.mem_or_eq_of_mem_set member with member | rfl
    · exact docs x member
    · have there := List.fst_mem_of_mem_zipIdx (mem_of_findM?_eq_ok selected)
      obtain ⟨old, es, same⟩ := docs e.1 there
      rw [same] at old ⊢
      exact ⟨Entries.simple_merge old simple, _, rfl⟩

namespace Store

theorem shelving_self {st : Store} {s : Nat} {ds : List Value} (here : st.shelfAt s = .list ds) :
    st.shelving s ds = st := by
  have same : st.shelves.setIfInBounds s (.list ds) = st.shelves := by
    apply Array.ext
    · simp
    · intro i _ present
      rw [Array.getElem_setIfInBounds present]
      split
      · rename_i eq
        subst eq
        rw [← here, shelfAt, Array.getD_eq_getD_getElem?, Array.getElem?_eq_getElem present]
        rfl
      · rfl
  rw [shelving, same]

end Store

namespace Act

variable {d : Dispatch} {st : Store} {k i j : Nat} {name : String} {ds : List Value}
variable {es fs changes : Entries} {id : Value}

theorem outcome_updateOne_plain (h : st.Keeps k name j ds)
    (docs : ∀ x ∈ ds, x.Plain ∧ ∃ es, x = .dict es) (plain : id.Plain) (changes : Entries) :
    ∃ vs b, (updateOne j (.dict [(.str "_id", id)]) (.dict [(.str "$set", .dict changes)])).outcome
        st = match revised ds id changes with
          | .error e => (.error e, st.called j (.list vs))
          | .ok new => (.ok b, (st.called j (.list vs)).shelving (st.collectionAt j).shelf new) := by
  obtain ⟨vs, recorded⟩ := outcome_recordCall h "update_one"
    [.dict [(.str "_id", id)], .dict [(.str "$set", .dict changes)]]
  have called := h.called vs
  generalize hmid : st.called j (.list vs) = mid at recorded called
  have shelf : (mid.collectionAt j).shelf = (st.collectionAt j).shelf := by
    rw [← hmid, Store.collectionAt_called h.present]
  have filter : mid.comparable (.dict [(.str "_id", id)]) = .dict [(.str "_id", id)] :=
    mid.comparable_plain (.dict _ (by simpa using .str "_id") (by simpa using plain))
  have found : ds.zipIdx.findM? (fun x => Criteria.holds (mid.comparable x.1)
      (mid.comparable (.dict [(.str "_id", id)]))) =
        ds.zipIdx.findM? fun x => Criteria.holds x.1 (.dict [(.str "_id", id)]) :=
    findM?_congr fun x member => by
      rw [filter, mid.comparable_plain (docs x.1 (List.fst_mem_of_mem_zipIdx member)).1]
  refine ⟨vs, ?_⟩
  rw [updateOne, outcome_bind_ok recorded, outcome_bind_ok (outcome_collection ..),
    outcome_bind_ok (outcome_shelf ..), called.stored, outcome_bind_ok (outcome_itemsOf_list ..),
    outcome_bind_ok (outcome_get _)]
  simp only [hmid]
  rw [found, revised, shelf]
  cases selected : ds.zipIdx.findM? fun x => Criteria.holds x.1 (.dict [(.str "_id", id)]) with
  | error e => exact ⟨false, outcome_bind_error (outcome_ofExcept ..)⟩
  | ok found =>
    rw [outcome_bind_ok (outcome_ofExcept ..)]
    cases found with
    | none =>
      refine ⟨false, ?_⟩
      rw [outcome_pure]
      exact congrArg _ (Store.shelving_self (shelf ▸ called.stored)).symm
    | some x =>
      obtain ⟨x, place⟩ := x
      have member := List.fst_mem_of_mem_zipIdx (mem_of_findM?_eq_ok selected)
      obtain ⟨-, es, rfl⟩ := docs x member
      exact ⟨true, rfl⟩

section

variable (fields : (st.documentAt i).fields = .dict fs)
include fields

/-- An instance without an id is updated nowhere. -/
theorem outcome_saveStored_unkeyed (none : fs.field? "_id" = none) (es : Entries) :
    (saveStored d i (.handle (.collection j)) (.dict es)).outcome st =
      (.error (.noKey (.str "_id")), st) := by
  have asked : updateReadFirst d (.handle (.collection j)) =
      pure (updateThrough d (.handle (.collection j))) := rfl
  have entry : fieldOf (.dict fs) "_id" = .error (.noKey (.str "_id")) := by
    simp [fieldOf, Value.entries?, none]
  rw [saveStored, show changesOf (.dict es) = .ok es.withoutKey from rfl,
    outcome_bind_ok (outcome_ofExcept ..), outcome_bind_ok (outcome_document ..), asked, pure_bind,
    fields, entry]
  exact outcome_bind_error (outcome_ofExcept ..)

/-- The document that the id of an instance selects takes what the instance is stored as. -/
theorem outcome_saveStored_plain (keeps : st.Keeps k name j ds) (bare : st.Bare (.collection j))
    (pristine : st.registry.Pristine) (docs : ∀ x ∈ ds, x.Plain ∧ ∃ es, x = .dict es)
    (here : fs.field? "_id" = some id) (plain : id.Plain) (es : Entries) :
    ∃ vs message, (saveStored d i (.handle (.collection j)) (.dict es)).outcome st =
      match revised ds id es.withoutKey with
      | .error e => (.error e, st.called j (.list vs))
      | .ok new => (.ok (), ((st.called j (.list vs)).shelving (st.collectionAt j).shelf new).noted
          Part.model.log .info message) := by
  obtain ⟨vs, b, updated⟩ := outcome_updateOne_plain keeps docs plain es.withoutKey
  have usual := bare.usual pristine rfl
    (show Interface.inherited? "MockCollection" "update_one" = some (.known "MockCollection", _)
      from rfl)
  have asked : updateReadFirst d (.handle (.collection j)) =
      pure (updateThrough d (.handle (.collection j))) := rfl
  have entry : fieldOf (.dict fs) "_id" = .ok id := by
    simp [fieldOf, Value.entries?, here]
  refine ⟨vs, ?_⟩
  rw [saveStored, show changesOf (.dict es) = .ok es.withoutKey from rfl,
    outcome_bind_ok (outcome_ofExcept ..), outcome_bind_ok (outcome_document ..), asked, pure_bind,
    fields, entry, outcome_bind_ok (outcome_ofExcept ..), updateThrough]
  rw [outcome_bind, outcome_bind, outcome_callOr_usual usual]
  cases done : revised ds id es.withoutKey with
  | error e =>
    rw [done] at updated
    rw [outcome_bind_error updated]
    exact ⟨fun _ => "", rfl⟩
  | ok new =>
    rw [done] at updated
    rw [outcome_bind_ok updated]
    simp only [noteSaved, note, outcome_pure, outcome_noteIn]
    exact ⟨_, rfl⟩

end

end Act

end DocMapper
