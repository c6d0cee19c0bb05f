import DocMapper.Method
import DocMapper.Proofs.Desk

/-!
Calls that go through a dispatch: the member is read, bound to its receiver and applied.
-/

namespace DocMapper

variable {st : Store} {v : Value} {owner : ClassRef} {name : String} {m : Method}

theorem Registry.own_of_member {r : Registry} {c : ClassRef} {x : Member}
    (h : r.member? c name = some (owner, x)) : r.ownMember? owner name = some x := by
  obtain ⟨d, -, hd⟩ := List.exists_of_findSome?_eq_some h
  cases hx : r.ownMember? d name with
  | none =>
    rw [hx] at hd
    cases hd
  | some y =>
    rw [hx] at hd
    cases hd
    exact hx

namespace Store

theorem extraOf?_of_usual (h : st.usual v owner name) : st.extraOf? v name = none := by
  rw [usual, Bool.and_eq_true] at h
  exact Option.isNone_iff_eq_none.mp h.1

theorem member?_of_usual (object : ∀ c, v ≠ .cls c) (h : st.usual v owner name)
    (own : st.registry.ownMember? owner name = some (.method m)) :
    st.member? v name = some (owner, .method m) := by
  have member : st.member? v name = st.registry.member? (st.classOf v) name := by
    cases v
    case cls c => exact absurd rfl (object c)
    all_goals rfl
  rw [usual, Bool.and_eq_true] at h
  have found : ∃ x, st.member? v name = some (owner, x) := by
    rcases hm : st.member? v name with _ | ⟨c, x⟩ <;> rw [hm] at h
    · exact absurd h.2 (by simp)
    · refine ⟨x, ?_⟩
      cases x <;> first | exact absurd h.2 Bool.false_ne_true | rw [of_decide_eq_true h.2]
  obtain ⟨x, hx⟩ := found
  have same := own
  rw [Registry.own_of_member (member ▸ hx)] at same
  rw [hx, Option.some.inj same]

end Store

namespace Act

variable {names : Names} {n : Nat} {waiting : Waiting} {args : List Value} {named : Entries}
variable {a : Arguments}

/-- A method is read as a function that is bound to its receiver. -/
theorem outcome_read_method (object : ∀ c, v ≠ .cls c) (h : st.usual v owner name)
    (own : st.registry.ownMember? owner name = some (.method m))
    (place : (readPlace? v name).outcome st = (.ok none, st)) :
    ((dispatch names (n + 1)).read v name).outcome st =
      (.ok (.object (some st.identities) (.bound v (.handle (.routine owner name)))),
        st.identified) := by
  have member := Store.member?_of_usual object h own
  change (readAttribute (dispatch names n) v name).outcome st = _
  have inherited : (readInherited v name).outcome st =
      (.ok (.object (some st.identities) (.bound v (.handle (.routine owner name)))),
        st.identified) := by
    rw [readInherited, outcome_bind_ok (outcome_get st), member]
    exact outcome_made _ st
  unfold readAttribute
  split
  · exact absurd rfl (object _)
  · rw [outcome_bind_ok (outcome_get st), member, Store.extraOf?_of_usual h,
      outcome_bind_ok place]
    exact inherited

/-- A call of a method makes a bound function first, and then looks at the arguments. -/
theorem outcome_call_carried (object : ∀ c, v ≠ .cls c) (h : st.usual v owner name)
    (own : st.registry.ownMember? owner name = some (.method m))
    (place : (readPlace? v name).outcome st = (.ok none, st)) :
    ((dispatch names (n + 1)).call waiting v name args named).outcome st =
      (carryOut (dispatch names n) waiting (.handle (.routine owner name)) m (v :: args) named
        (performMethod (dispatch names n) m)).outcome st.identified := by
  rw [Dispatch.call, outcome_bind_ok (outcome_read_method object h own place)]
  change (applyRoutine (dispatch names n) waiting owner name (v :: args) named).outcome _ = _
  have registry : (registry).outcome st.identified = (.ok st.registry, st.identified) := rfl
  rw [applyRoutine, outcome_bind_ok registry, own]

/-- A method does what the library does under its name. -/
theorem outcome_call_method (object : ∀ c, v ≠ .cls c) (h : st.usual v owner name)
    (own : st.registry.ownMember? owner name = some (.method m))
    (place : (readPlace? v name).outcome st = (.ok none, st))
    (bind : m.bind (v :: args) named = .ok a)
    (fits : m.waits = true ∧ waiting = .always ∨ m.waits = false ∧ waiting = .never) :
    ((dispatch names (n + 1)).call waiting v name args named).outcome st =
      (performMethod (dispatch names n) m a).outcome st.identified := by
  rw [outcome_call_carried object h own place, carryOut, bind,
    outcome_bind_ok (outcome_ofExcept ..)]
  rcases fits with ⟨waits, rfl⟩ | ⟨waits, rfl⟩ <;> rw [waits]

end Act

end DocMapper
