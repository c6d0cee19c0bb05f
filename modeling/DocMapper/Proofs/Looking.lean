import DocMapper.Proofs.Conditions
import DocMapper.Proofs.Recalling

/-!
Looking an instance up by an id.  The id is asked for as the condition on one field: one that looks
like operators is read as these, and any other finds the first document whose id equals it.
-/

namespace DocMapper

namespace Value

/-- The id of a document. -/
def ownId (x : Value) : Value := ((x.entries?.getD []).field? "_id").getD .null

/-- A value that is no condition in the place of one: it asks for what equals it. -/
def IsLiteral (v : Value) : Prop :=
  ∀ e es, v = .dict (e :: es) → Criteria.operatorKeys (e :: es) = .ok false

/-- A value that is read as these operators in the place of a condition. -/
def IsCondition (v : Value) (es : Entries) : Prop :=
  v = .dict es ∧ es ≠ [] ∧ Criteria.operatorKeys es = .ok true

end Value

namespace Criteria

variable {x key : Value} {es : Entries}

/-- A document under criteria for one field meets them as its field does. -/
theorem holds_field (name : String) (free : name ≠ "$and" ∧ name ≠ "$or") (x v : Value) :
    holds x (.dict [(.str name, v)]) = holdsAt x (.str name) v := by
  rw [holds_dict, holdsEach_cons, meets_field free.1 free.2, holdsEach_nil, both_ok_true]

theorem fieldOf_id (identified : ∃ es u, x.entries? = some es ∧ es.field? "_id" = some u) :
    fieldOf x (.str "_id") = .ok (x.ownId, true) := by
  obtain ⟨es, u, entries, field⟩ := identified
  have has : es.has (.str "_id") = true := by rw [Entries.has_eq_isSome, field]; rfl
  rw [fieldOf, entries, Value.ownId, entries]
  simp only [has]
  rfl

section

variable (identified : ∃ es u, x.entries? = some es ∧ es.field? "_id" = some u)
include identified

theorem holds_literal (literal : key.IsLiteral) :
    holds x (.dict [(.str "_id", key)]) = .ok (x.ownId.equal key) := by
  rw [holds_field "_id" (by simp), holdsAt, fieldOf_id identified]
  cases key
  case dict es =>
    cases es with
    | nil => rfl
    | cons e es =>
      change (operatorKeys (e :: es) >>= fun _ => _) = _
      rw [literal e es rfl]
      rfl
  all_goals rfl

theorem holds_condition (condition : key.IsCondition es) :
    holds x (.dict [(.str "_id", key)]) = testAll x.ownId true es := by
  obtain ⟨rfl, some, keys⟩ := condition
  rw [holds_field "_id" (by simp)]
  exact holdsAt_operators (fieldOf_id identified) some (isOperatorName_of_operatorKeys keys)

end

theorem select_literal {ds : List Value}
    (docs : ∀ x ∈ ds, ∃ es u, x.entries? = some es ∧ es.field? "_id" = some u)
    (literal : key.IsLiteral) :
    select (.dict [(.str "_id", key)]) ds = .ok (ds.filter fun x => x.ownId.equal key) := by
  have each : ∀ x ∈ ds, holds x (.dict [(.str "_id", key)]) = .ok (x.ownId.equal key) :=
    fun x hx => holds_literal (docs x hx) literal
  have selected : select (.dict [(.str "_id", key)]) ds = .ok (chosen (.dict [(.str "_id", key)]) ds) :=
    selectBy_eq_filter fun x hx => ⟨_, each x hx⟩
  rw [selected, chosen]
  congr 1
  apply List.filter_congr
  intro x hx
  rw [each x hx]
  rfl

end Criteria

open Act

section

variable {d : Dispatch} {st : Store} {c : ClassRef} {k : Nat} {name : String} {ds : List Value}
variable {id : Value} (configured : st.Configured c k name) (models : st.Models c)
variable (fresh : st.Fresh) (connected : st.Connected k name ds)
include configured models fresh connected

theorem outcome_findById_failed {key : Value} {e : Fault} (plain : key.Plain)
    (spelled : searchKey id = key) (docs : ∀ x ∈ ds, x.Plain ∧ x.entries?.isSome)
    (failed : Criteria.select (.dict [(.str "_id", key)]) ds = .error e) :
    ∃ after, (findById d c id).outcome st = (.error e, after) ∧ after.documents = st.documents := by
  have runs : (asking st c key).Runs c k name st.queries.size (.byId c key) ds :=
    runs_asking configured fresh models connected (fun x hx => (docs x hx).2) key
  have criteria : (Value.dict [(.str "_id", key)]).Plain :=
    .dict _ (by simpa using .str "_id") (by simpa using plain)
  obtain ⟨args, asked, executed⟩ := outcome_execute_plain runs.poses criteria d
  obtain ⟨j, mid, handle, hands⟩ := outcome_handleOf (d := d) runs.configured runs.connected
  have failed : mid.selects (.dict [(.str "_id", key)]) ds = .error e :=
    (mid.selects_plain criteria fun x hx => (docs x hx).1).trans failed
  obtain ⟨vs, after, searched, -, beyond⟩ :=
    outcome_searching_failed runs hands failed (asked.merge_limit (.int 1)) d
  refine ⟨after, ?_, ?_⟩
  · have usual := runs.bare.usual runs.configured.pristine rfl
      (show Interface.inherited? "ModelQuery" "execute" = some (.known "ModelQuery", _) from rfl)
    have execution := (executed [(.str "limit", .int 1)]).trans
      ((outcome_bind_ok handle).trans searched)
    have nothing : (first d (.handle (.query .bound st.queries.size))).outcome (asking st c key) =
        (.error e, after) :=
      outcome_bind_error ((outcome_callOr_usual usual).trans execution)
    rw [outcome_findById_eq models plain spelled (fresh.queries _ (Nat.le_refl _))
      configured.pristine]
    exact outcome_bind_error nothing
  · change after.beyond.documents = _
    rw [beyond]
    change mid.aside.documents = _
    rw [hands.aside]
    rfl

end

def numberedPosts : List Value := [1, 2].map fun n => .dict [(.str "_id", .int n)]

end DocMapper
