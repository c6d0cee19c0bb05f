import DocMapper.Proofs.Surfacing

/-!
Objects that are stored as their dumps.  The dump by aliases is what counts, whatever it is stored
as and however that fails, except for faults of type: one that surfaces while the dump is stored is
hidden, and the object is stored as its dump by names.  No other fault is ever hidden.
-/

namespace DocMapper

namespace Act

/-- Storing to a greater depth does the same, unless the lesser one was not enough. -/
theorem prepareTo_outlasts_of_le {n m : Nat} (d : Dispatch) (v : Value) (more : n ≤ m) :
    Outlasts (prepareTo d m v) (prepareTo d n v) := by
  induction more with
  | refl => exact .refl _
  | @step m _ ih =>
    intro st
    obtain shallow | same := ih st
    · exact .inl shallow
    · obtain shallow | again := prepareTo_outlasts d m v st
      · exact .inl (same ▸ shallow)
      · exact .inr (again.trans same)

end Act

namespace Dispatch

open Act

variable {d : Dispatch} {t s : Task} {outer inner : List Descent}

theorem Descends.split (descends : d.Descends t (outer ++ inner) s) :
    ∃ r, d.Descends t outer r ∧ d.Descends r inner s := by
  induction outer generalizing t with
  | nil => exact ⟨t, .nil t, descends⟩
  | cons l outer ih =>
    cases descends with
    | cons first rest =>
      obtain ⟨r, before, after⟩ := ih rest
      exact ⟨r, .cons first before, after⟩

section

variable {n : Nat} {u x : Value} {st begun mid last : Store} {e : Fault}

/-- Storing an object ends as storing its dump by aliases does, unless a fault of type surfaces. -/
theorem Dumps.settled (dumps : d.Dumps u st true begun)
    (gives : (asked d u "model_dump" byAliases).outcome begun = (.ok x, mid))
    (free : ∀ e last, e.kind.isType → ¬d.Surfaces ⟨n, x, mid⟩ e last) :
    Task.outcome d ⟨n + 1, u, st⟩ = (prepareTo d n x).outcome mid := by
  rcases ended : (prepareTo d n x).outcome mid with ⟨r, last⟩
  refine dumps.kept ((outcome_bind_ok gives).trans ended) fun e same type => ?_
  exact free e last type (outcome_eq_error_iff.mp (same ▸ ended))

/-- A fault of type that surfaces is hidden: the object is stored as its dump by names. -/
theorem Dumps.hidden (dumps : d.Dumps u st true begun)
    (gives : (asked d u "model_dump" byAliases).outcome begun = (.ok x, mid)) (type : e.kind.isType)
    (surfaces : d.Surfaces ⟨n, x, mid⟩ e last) :
    Task.outcome d ⟨n + 1, u, st⟩ = (storeNamed d n u).outcome (last.givenUp e) := by
  have failed : (prepareTo d n x).outcome mid = (.error e, last) :=
    outcome_eq_error_iff.mpr surfaces
  have up : d.GivesUp n u st (last.givenUp e) :=
    .intro dumps ((outcome_bind_ok gives).trans failed) type
  exact up.outcome

theorem Dumps.refused (dumps : d.Dumps u st true begun)
    (failed : (asked d u "model_dump" byAliases).outcome begun = (.error e, last)) :
    Task.outcome d ⟨n + 1, u, st⟩ =
      if e.kind.isType then (storeNamed d n u).outcome (last.givenUp e) else (.error e, last) := by
  have tried : (attempt d n u).outcome begun = (.error e, last) := outcome_bind_error failed
  rw [outcome_task_dumps dumps, tried]

end

/-- The innermost object around that was asked for its dump by aliases hides a fault of type. -/
theorem Descends.hidden {e : Fault} {last : Store}
    (descends : d.Descends t (outer ++ .aliases :: inner) s)
    (failed : s.outcome d = (.error e, last)) (type : e.kind.isType) (clear : .aliases ∉ inner) :
    ∃ n u st, d.Descends t outer ⟨n + 1, u, st⟩ ∧
      Task.outcome d ⟨n + 1, u, st⟩ = (storeNamed d n u).outcome (last.givenUp e) := by
  obtain ⟨r, before, rest⟩ := descends.split
  cases rest with
  | cons first rest =>
    have surfaced := rest.fails failed fun _ => clear
    cases first with
    | @aliases n u x st begun mid dumps gives =>
      exact ⟨n, u, st, before, dumps.hidden gives type (outcome_eq_error_iff.mp surfaced)⟩

end Dispatch

open Act Dispatch in
/-- An object that offers a dump is stored as its dump by aliases would be, wherever it is met while
a value is stored, unless a fault of type surfaces from that.  It is then stored as its dump by
names, as it is if it refuses to be dumped by aliases by a fault of type.  What it fails by fails
the whole, except for a fault of type inside of dumps by aliases: the innermost object around that
is being stored as such a dump hides it, and is stored as its dump by names. -/
theorem stored_by_aliases_unless_type {d : Dispatch} {st now begun : Store} {v u : Value}
    {way : List Descent} {n : Nat} (nested : d.Descends ⟨deepest, v, st⟩ way ⟨n + 1, u, now⟩)
    (dumps : d.Dumps u now true begun) :
    let whole := (prepare d v).outcome st
    let stored := Task.outcome d ⟨n + 1, u, now⟩
    (∀ x mid, (asked d u "model_dump" byAliases).outcome begun = (.ok x, mid) →
      Outlasts (prepare d x) (prepareTo d n x) ∧
        ((∀ e last, e.kind.isType → ¬d.Surfaces ⟨n, x, mid⟩ e last) →
          stored = (prepareTo d n x).outcome mid) ∧
        ∀ e last, e.kind.isType → d.Surfaces ⟨n, x, mid⟩ e last →
          stored = (storeNamed d n u).outcome (last.givenUp e)) ∧
    (∀ e last, (asked d u "model_dump" byAliases).outcome begun = (.error e, last) →
      stored = if e.kind.isType then (storeNamed d n u).outcome (last.givenUp e)
        else (.error e, last)) ∧
    (∀ e last, stored = (.error e, last) → (e.kind.isType → .aliases ∉ way) →
      whole = (.error e, last)) ∧
    (∀ e last outer inner, stored = (.error e, last) → e.kind.isType →
      way = outer ++ .aliases :: inner → .aliases ∉ inner →
        ∃ m o σ, d.Descends ⟨deepest, v, st⟩ outer ⟨m + 1, o, σ⟩ ∧
          Task.outcome d ⟨m + 1, o, σ⟩ = (storeNamed d m o).outcome (last.givenUp e)) ∧
    ∀ r after, whole = (.ok r, after) → (∀ l ∈ way, l.stays) →
      ∃ w last, stored = (.ok w, last) ∧ r.at? (way.filterMap Descent.place?) = some w := by
  intro whole stored
  refine ⟨fun x mid gives => ⟨?_, dumps.settled gives, fun e last => dumps.hidden gives⟩,
    fun e last => dumps.refused, fun e last => nested.fails,
    fun e last outer inner failed type split clear => ?_, fun r after done stays => ?_⟩
  · exact prepareTo_outlasts_of_le d x (Nat.le_of_succ_le nested.depth_le)
  · subst split
    exact nested.hidden failed type clear
  · exact nested.stays stays done

/-- An object that is dumped in two ways. -/
def twofold (i : Nat) : Value := .handle (.record .specimen (.known "BothDump") i)

/-- An object that cannot be converted. -/
def inconvertible (i : Nat) : Value := .handle (.record .specimen (.known "Raiser") i)

/-- Two objects that are dumped in two ways, the second one inside of the first.  The second cannot
be stored in either way. -/
def Store.twofold (identities : Nat) : Store where
  noting := false
  identities
  records := #[
    [(.str "x", .list [DocMapper.twofold 1]), (.str "y", .str "plain")],
    [(.str "x", inconvertible 2), (.str "y", inconvertible 3)],
    [(.str "kind", .str "TypeError"), (.str "msg", .str "by aliases")],
    [(.str "kind", .str "TypeError"), (.str "msg", .str "by names")]]

open Act Dispatch in
/-- The fault of the inner object is hidden by the outer one, which is stored as plain text. -/
theorem stored_by_aliases_unless_type_twofold :
    let d := dispatch [] 4
    let whole : Task := ⟨deepest, .list [.int 1, twofold 0], .twofold 0⟩
    d.Descends whole [.place 1, .aliases, .place 0] ⟨999, twofold 1, .twofold 2⟩ ∧
      d.Dumps (twofold 1) (.twofold 2) true (.twofold 3) ∧
      d.Surfaces ⟨998, inconvertible 2, .twofold 4⟩ (.raised .type "by aliases") (.twofold 6) ∧
      Task.outcome d ⟨999, twofold 1, .twofold 2⟩ =
        (.error (.raised .type "by names"), .twofold 9) ∧
      (∃ m o σ, d.Descends whole [.place 1] ⟨m + 1, o, σ⟩ ∧
        Task.outcome d ⟨m + 1, o, σ⟩ = (storeNamed d m o).outcome (.twofold 9)) ∧
      (storeNamed d 999 (twofold 0)).outcome (.twofold 9) = (.ok (.str "plain"), .twofold 10) := by
  intro d whole
  have outer : d.Dumps (twofold 0) (.twofold 0) true (.twofold 1) := ⟨rfl, rfl, rfl⟩
  have dumps : d.Dumps (twofold 1) (.twofold 2) true (.twofold 3) := ⟨rfl, rfl, rfl⟩
  have undumped (i k : Nat) : d.Dumps (inconvertible i) (.twofold k) false (.twofold k) :=
    ⟨rfl, rfl, rfl⟩
  have one : (Value.storedItems (convertTo d 999) [.int 1]).outcome (.twofold 0) =
      (.ok [.int 1], .twofold 0) := rfl
  have none : (Value.storedItems (convertTo d 998) []).outcome (.twofold 2) =
      (.ok [], .twofold 2) := rfl
  have second : d.Enters whole (.place 1) ⟨1000, twofold 0, .twofold 0⟩ := .place rfl one
  have dump : d.Enters ⟨1000, twofold 0, .twofold 0⟩ .aliases
      ⟨999, .list [twofold 1], .twofold 2⟩ := .aliases outer rfl
  have first : d.Enters ⟨999, .list [twofold 1], .twofold 2⟩ (.place 0)
      ⟨999, twofold 1, .twofold 2⟩ := .place rfl none
  have nested : d.Descends whole [.place 1, .aliases, .place 0] ⟨999, twofold 1, .twofold 2⟩ :=
    .cons second (.cons dump (.cons first (.nil _)))
  have third : d.Converts (inconvertible 2) (.twofold 4) (.twofold 5) := .intro (undumped 2 4) rfl
  have fourth : d.Converts (inconvertible 3) (.twofold 7) (.twofold 8) := .intro (undumped 3 7) rfl
  have surfaces : d.Surfaces ⟨998, inconvertible 2, .twofold 4⟩ (.raised .type "by aliases")
      (.twofold 6) := .of_raises (.json third rfl rfl)
  have raises : d.Raises ⟨998, inconvertible 3, .twofold 7⟩ (.raised .type "by names")
      (.twofold 9) := .json fourth rfl rfl
  obtain ⟨dumped, -, -, hides, -⟩ := stored_by_aliases_unless_type nested dumps
  obtain ⟨-, -, hidden⟩ := dumped (inconvertible 2) (.twofold 4) rfl
  have failed : Task.outcome d ⟨999, twofold 1, .twofold 2⟩ =
      (.error (.raised .type "by names"), .twofold 9) :=
    (hidden _ _ rfl surfaces).trans ((outcome_bind_ok rfl).trans raises.outcome)
  exact ⟨nested, dumps, surfaces, failed,
    hides _ _ [.place 1] [.place 0] failed rfl rfl (by simp), outcome_bind_ok rfl⟩

end DocMapper
