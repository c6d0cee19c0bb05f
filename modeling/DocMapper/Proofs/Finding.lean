import DocMapper.Proofs.Handles
import DocMapper.Proofs.Windows

/-!
What a handle of a collection answers.  It records the call, and gives copies of the documents that
satisfy the criteria, as both are seen in the store; plain data is its own copy, and seen as it is.
-/

namespace DocMapper

namespace Store

theorem comparable_plain (st : Store) {v : Value} (h : v.Plain) : st.comparable v = v := by
  apply Value.rebuild_plain
  · intro u hu
    cases hu <;> rfl
  · exact h

/-- From one store to another, whatever can be looked into shows what it showed. -/
def Alike (st after : Store) : Prop := ∀ h, after.contents h = st.contents h

theorem Alike.opened {st after : Store} (alike : st.Alike after) : after.opened = st.opened := by
  have contents : after.contents = st.contents := funext alike
  funext n
  induction n with
  | zero => rfl
  | succ n ih =>
    funext seen v
    simp only [Store.opened, contents, ih]

theorem Alike.comparable {st after : Store} (alike : st.Alike after)
    (population : after.population = st.population) : after.comparable = st.comparable := by
  funext v
  rw [Store.comparable, Store.comparable, population, alike.opened]

/-- The documents that satisfy criteria, all of it as it is seen in a store. -/
def selects (st : Store) (criteria : Value) (ds : List Value) : Except Fault (List Value) :=
  (Criteria.selectBy Prod.fst (st.comparable criteria)
    (ds.map fun x => (st.comparable x, x))).map (List.map Prod.snd)

/-- Criteria see plain documents as they are. -/
theorem selects_plain (st : Store) {criteria : Value} {ds : List Value} (plain : criteria.Plain)
    (docs : ∀ x ∈ ds, x.Plain) : st.selects criteria ds = Criteria.select criteria ds := by
  have seen : ds.map (fun x => (st.comparable x, x)) = ds.map fun x => (x, x) := by
    apply List.map_congr_left
    intro x hx
    rw [st.comparable_plain (docs x hx)]
  rw [selects, seen, st.comparable_plain plain, Criteria.selectBy_map]
  change Except.map _ (Except.map _ (Criteria.selectBy id criteria ds)) =
    Criteria.selectBy id criteria ds
  cases Criteria.selectBy id criteria ds with
  | error e => rfl
  | ok xs => simp [Except.map, Function.comp_def]

def called (st : Store) (j : Nat) (calls : Value) : Store :=
  { st with collections := st.collections.setIfInBounds j { st.collectionAt j with calls } }

@[simp] theorem aside_called (st : Store) (j : Nat) (calls : Value) :
    (st.called j calls).aside = st.aside := rfl

theorem Alike.of_beyond {st after : Store} (same : after.beyond = st.beyond) : st.Alike after := by
  intro h
  have contents : after.beyond.contents h = st.beyond.contents h := by rw [same]
  cases h <;> exact contents

theorem selects_noted (st : Store) (log : String) (level : Level) (message : Store → String) :
    (st.noted log level message).selects = st.selects := by
  have alike : st.Alike (st.noted log level message) := .of_beyond (st.beyond_noted ..)
  have comparable := alike.comparable (by unfold noted; split <;> rfl)
  funext criteria ds
  rw [selects, comparable, selects]

theorem selects_subset {st : Store} {criteria : Value} {ds xs : List Value}
    (selected : st.selects criteria ds = .ok xs) : xs ⊆ ds := by
  rw [selects] at selected
  cases done : Criteria.selectBy Prod.fst (st.comparable criteria)
      (ds.map fun x => (st.comparable x, x)) with
  | error e =>
    rw [done] at selected
    cases selected
  | ok ps =>
    rw [done] at selected
    rw [Criteria.selectBy_eq_filter (Criteria.decided_of_selectBy done)] at done
    cases done
    cases selected
    intro x hx
    obtain ⟨p, hp, rfl⟩ := List.mem_map.mp hx
    obtain ⟨y, hy, rfl⟩ := List.mem_map.mp (List.mem_filter.mp hp).1
    exact hy

theorem alike_called (st : Store) (j : Nat) (calls : Value) : st.Alike (st.called j calls) := by
  intro h
  cases h <;> rfl

theorem comparable_called (st : Store) (j : Nat) (calls : Value) :
    (st.called j calls).comparable = st.comparable :=
  (st.alike_called j calls).comparable (by simp [population, called])

theorem selects_called (st : Store) (j : Nat) (calls : Value) :
    (st.called j calls).selects = st.selects := by
  funext criteria ds
  rw [selects, comparable_called, selects]

theorem beyond_called {st after : Store} (same : after.beyond = st.beyond) (j : Nat) (calls : Value) :
    (after.called j calls).beyond = (st.called j calls).beyond := by
  change after.beyond.called j calls = st.beyond.called j calls
  rw [same]

variable {st : Store} {k j : Nat} {name : String} {ds : List Value}

theorem collectionAt_called (present : j < st.collections.size) (calls : Value) :
    (st.called j calls).collectionAt j = { st.collectionAt j with calls } := by
  simp [called, collectionAt, Array.getD_eq_getD_getElem?, present]

theorem Keeps.called (h : st.Keeps k name j ds) (vs : List Value) :
    (st.called j (.list vs)).Keeps k name j ds := by
  have here := collectionAt_called h.present (.list vs)
  refine ⟨h.selected, h.kept, ?_, ⟨vs, by rw [here]⟩, ?_, ?_⟩
  · simpa [Store.called] using h.present
  · rw [here]
    exact h.shelved
  · rw [here]
    exact h.stored

end Store

namespace Act

variable {d : Dispatch} {st : Store} {k j : Nat} {name : String} {ds : List Value}

theorem outcome_copy {v : Value} (h : v.Plain) (st : Store) : (copy v).outcome st = (.ok v, st) := by
  rw [copy, outcome_bind_ok (outcome_get st), st.uncopyable?_plain h]
  simp only [st.cloned_plain h]
  rfl

theorem outcome_copies (h : ∀ v ∈ ds, v.Plain) (st : Store) :
    (copies ds).outcome st = (.ok ds, st) := by
  induction ds with
  | nil => rfl
  | cons v ds ih =>
    have rest : (ds.mapM copy).outcome st = (.ok ds, st) :=
      ih fun u hu => h u (List.mem_cons_of_mem v hu)
    rw [copies, List.mapM_cons, outcome_bind_ok (outcome_copy (h v List.mem_cons_self) st),
      outcome_bind_ok rest]
    rfl

theorem outcome_recordCall (h : st.Keeps k name j ds) (method : String) (args : List Value) :
    ∃ vs, (recordCall j method args).outcome st = (.ok (), st.called j (.list vs)) := by
  obtain ⟨vs, calls⟩ := h.calls
  refine ⟨vs ++ [.tuple (.str method :: args)], ?_⟩
  rw [recordCall, outcome_bind_ok (outcome_collection j st), calls]
  simp only [appended]
  rw [outcome_bind_ok (outcome_ofExcept ..), changeCollection,
    outcome_bind_ok (outcome_collection j st)]
  rfl

theorem outcome_itemsOf_list (xs : List Value) (st : Store) :
    (itemsOf (.list xs)).outcome st = (.ok xs, st) := rfl

theorem outcome_matching (h : st.Keeps k name j ds) (criteria : Value) :
    (matching j criteria).outcome st = (st.selects criteria ds, st) := by
  rw [matching, outcome_bind_ok (outcome_collection j st), outcome_bind_ok (outcome_shelf _ st),
    h.stored, outcome_bind_ok (outcome_itemsOf_list ds st), outcome_bind_ok (outcome_get st)]
  simp only
  rw [outcome_bind, outcome_ofExcept, Store.selects]
  cases Criteria.selectBy Prod.fst (st.comparable criteria)
    (ds.map fun x => (st.comparable x, x)) <;> rfl

section

variable (h : st.Keeps k name j ds) {criteria : Value} {e : Fault}
variable (failed : st.selects criteria ds = .error e)
include h failed

/-- Criteria that fail on a document fail once the call is recorded. -/
theorem outcome_find_failed (args : Entries) :
    ∃ vs, (find j criteria args).outcome st = (.error e, st.called j (.list vs)) := by
  obtain ⟨vs, recorded⟩ := outcome_recordCall h "find" [criteria, .dict args]
  refine ⟨vs, ?_⟩
  rw [find, outcome_bind_ok recorded]
  exact outcome_bind_error ((outcome_matching (h.called vs) criteria).trans
    (by rw [Store.selects_called, failed]))

theorem outcome_countDocuments_failed (args : Entries) :
    ∃ vs, (countDocuments j criteria args).outcome st = (.error e, st.called j (.list vs)) := by
  obtain ⟨vs, recorded⟩ := outcome_recordCall h "count_documents" [criteria, .dict args]
  refine ⟨vs, ?_⟩
  rw [countDocuments, outcome_bind_ok recorded]
  exact outcome_bind_error ((outcome_matching (h.called vs) criteria).trans
    (by rw [Store.selects_called, failed]))

end

section

variable (h : st.Keeps k name j ds) {criteria : Value} {xs cut : List Value} {args : Entries}
variable (selected : st.selects criteria ds = .ok xs) (asked : window args xs = .ok cut)
include h selected asked

/-- A search copies the documents in its window. -/
theorem outcome_find :
    ∃ vs, (find j criteria args).outcome st = (sourceOf cut).outcome (st.called j (.list vs)) := by
  obtain ⟨vs, recorded⟩ := outcome_recordCall h "find" [criteria, .dict args]
  refine ⟨vs, ?_⟩
  have matched := outcome_matching (h.called vs) criteria
  rw [Store.selects_called, selected] at matched
  rw [find, outcome_bind_ok recorded, outcome_bind_ok matched, asked,
    outcome_bind_ok (outcome_ofExcept ..)]

theorem outcome_countDocuments :
    ∃ vs, (countDocuments j criteria args).outcome st =
      (.ok cut.length, st.called j (.list vs)) := by
  obtain ⟨vs, recorded⟩ := outcome_recordCall h "count_documents" [criteria, .dict args]
  refine ⟨vs, ?_⟩
  have matched := outcome_matching (h.called vs) criteria
  rw [Store.selects_called, selected] at matched
  rw [countDocuments, outcome_bind_ok recorded, outcome_bind_ok matched, asked,
    outcome_bind_ok (outcome_ofExcept ..)]
  rfl

end

end Act

end DocMapper
