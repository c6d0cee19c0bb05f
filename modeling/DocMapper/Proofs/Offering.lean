import DocMapper.Proofs.Normalizing
import DocMapper.Proofs.Twinning

/-!
What instances and builders are stored as.  One that converts as those of the library do is stored as
its fields are, twice over, or as a copy of its criteria or of its stages is.  A depth that is enough
for a value is enough for all that is stored on the way, and more of it changes nothing.
-/

namespace DocMapper

theorem Store.toJson_query (st : Store) (i : Nat) :
    (st.query i).toJson = (st.queries.getD i default).toJson := by
  unfold Store.query
  dsimp only
  split <;> rfl

theorem Store.usual_unique {st : Store} {v : Value} {c d : ClassRef} {name : String}
    (here : st.usual v c name) (there : st.usual v d name) : c = d := by
  simp only [usual, Bool.and_eq_true] at here there
  obtain ⟨-, here⟩ := here
  obtain ⟨-, there⟩ := there
  split at here <;> simp_all

namespace Act

section

variable {st : Store} {h : Handle} {owner : ClassRef} {m : Method} {d : Dispatch} {names : Names}
variable {n i : Nat} {store : Value → Act Value}

theorem outcome_offersCall_dump (converts : st.convertsAs h owner) (kept : h.shelf?.isSome) :
    (offersCall d (.handle h) "model_dump").outcome st = (.ok false, st) := by
  simp only [Store.convertsAs, Bool.and_eq_true, Option.isNone_iff_eq_none] at converts
  obtain ⟨⟨⟨extra, member⟩, -⟩, -⟩ := converts
  have offers : st.offers (.handle h) "model_dump" = false := by
    cases h <;> first | (cases kept; done) | simp [Store.offers, extra, member]
  have offered : (offered? d (.handle h) "model_dump").outcome st = (.ok none, st) := by
    rw [offered?, outcome_bind_ok (outcome_get st), offers]
    rfl
  rw [offersCall, outcome_bind_ok offered]
  rfl

section

variable (converts : st.convertsAs h owner)
  (found : Interface.member? owner "to_json" = some (.method m))
include converts found

theorem usual_of_converts : st.usual (.handle h) owner "to_json" ∧
    st.registry.ownMember? owner "to_json" = some (.method m) := by
  simp only [Store.convertsAs, Bool.and_eq_true, Option.isNone_iff_eq_none] at converts
  obtain ⟨⟨-, usual⟩, unset⟩ := converts
  exact ⟨usual, by rw [Registry.ownMember?, unset, Option.none_or, found]⟩

variable (place : (readPlace? (.handle h) "to_json").outcome st = (.ok none, st))
include place

theorem outcome_offersCall_json :
    (offersCall (dispatch names (n + 1)) (.handle h) "to_json").outcome st =
      (.ok true, st.identified) := by
  obtain ⟨usual, own⟩ := usual_of_converts converts found
  have member := Store.member?_of_usual (by simp) usual own
  have offers : st.offers (.handle h) "to_json" = true := by simp [Store.offers, member]
  have offered : (offered? (dispatch names (n + 1)) (.handle h) "to_json").outcome st =
      (.ok (some (.object (some st.identities) (.bound (.handle h)
        (.handle (.routine owner "to_json"))))), st.identified) := by
    rw [offered?, outcome_bind_ok (outcome_get st), if_pos offers, outcome_tryCatch,
      outcome_bind_ok (outcome_read_method (by simp) usual own place)]
    rfl
  rw [offersCall, outcome_bind_ok offered]
  rfl

theorem outcome_storeObject_json (kept : h.shelf?.isSome) :
    (storeObject (dispatch names (n + 1)) store (.handle h)).outcome st =
      (storeJson (dispatch names (n + 1)) store (.handle h)).outcome st.identified := by
  unfold storeObject
  rw [outcome_bind_ok (outcome_offersCall_dump converts kept), if_neg Bool.false_ne_true,
    outcome_bind_ok (outcome_offersCall_json converts found place), if_pos rfl]

end

theorem outcome_storeObject_document {c : ClassRef} (converts : st.converts (.document c i)) :
    (storeObject (dispatch names (n + 1)) store (.handle (.document c i))).outcome st =
      (do store (← store (st.documents.getD i default).fields) : Act Value).outcome
        st.identified := by
  obtain ⟨usual, -⟩ := usual_of_converts (h := .document c i) converts rfl
  have here : st.identified.usual (.handle (.document c i)) .root "to_json" := usual
  rw [outcome_storeObject_json converts rfl rfl rfl, storeJson, outcome_bind_ok (outcome_get _),
    if_pos here]
  exact outcome_bind_ok (outcome_document i st.identified)

/-- A builder is stored as what the library's function gives under the name of its conversion. -/
theorem outcome_storeObject_builder {a : Arguments} {json : Value}
    (converts : st.convertsAs h owner) (kept : h.shelf?.isSome) (other : owner ≠ .root)
    (found : Interface.member? owner "to_json" = some (.method m))
    (place : ∀ now, (readPlace? (.handle h) "to_json").outcome now = (.ok none, now))
    (bind : m.bind [.handle h] [] = .ok a) (never : m.waits = false)
    (gives : (performMethod (dispatch names n) m a).outcome st.identified.identified =
      (copy json).outcome st.identified.identified) :
    (storeObject (dispatch names (n + 1)) store (.handle h)).outcome st =
      (do store (← copy json) : Act Value).outcome st.identified.identified := by
  obtain ⟨usual, own⟩ := usual_of_converts converts found
  have foreign : ¬st.identified.usual (.handle h) .root "to_json" := fun root =>
    other (Store.usual_unique usual root)
  have here : st.identified.usual (.handle h) owner "to_json" := usual
  have called : ((dispatch names (n + 1)).call .never (.handle h) "to_json" [] []).outcome
      st.identified = (copy json).outcome st.identified.identified :=
    (outcome_call_method (by simp) here own (place _) bind (.inr ⟨never, rfl⟩)).trans gives
  rw [outcome_storeObject_json converts found (place st) kept]
  unfold storeJson
  rw [outcome_bind_ok (outcome_get _), if_neg foreign, converted, outcome_bind, outcome_bind, called]

theorem outcome_storeObject_query {k : QueryKind} (converts : st.converts (.query k i)) :
    (storeObject (dispatch names (n + 1)) store (.handle (.query k i))).outcome st =
      (do store (← copy (st.queries.getD i default).toJson) : Act Value).outcome
        st.identified.identified := by
  refine outcome_storeObject_builder converts rfl (by decide) rfl (fun _ => rfl) rfl rfl ?_
  change (ownCriteria (dispatch names n) (.handle (.query k i))).outcome _ = _
  have read (now : Store) : (query i).outcome now = (.ok (now.query i), now) := rfl
  rw [ownCriteria, outcome_bind_ok (read _), Store.toJson_query]
  rfl

theorem outcome_storeObject_pipeline {c : ClassRef} (converts : st.converts (.pipeline c i)) :
    (storeObject (dispatch names (n + 1)) store (.handle (.pipeline c i))).outcome st =
      (do store (← copy (st.pipelines.getD i default).toJson) : Act Value).outcome
        st.identified.identified :=
  outcome_storeObject_builder converts rfl (by decide) rfl (fun _ => rfl) rfl rfl rfl

variable {x : Value} {c : ClassRef} {k : QueryKind} {l : Nat}

theorem outcome_convertTo_document (converts : st.converts (.document c i))
    (holds : st.within? (.document c i) = some x) :
    (convertTo (dispatch names (n + 1)) l (.handle (.document c i))).outcome st =
      (do prepareTo (dispatch names (n + 1)) l (← prepareTo (dispatch names (n + 1)) l x)
        : Act Value).outcome st.identified := by
  obtain ⟨y, there, rfl⟩ := Option.map_eq_some_iff.mp holds
  rw [outcome_convertTo_object rfl, outcome_storeObject_document converts,
    Array.getD_eq_getD_getElem?, there, Option.getD_some]

theorem outcome_convertTo_query (converts : st.converts (.query k i))
    (holds : st.within? (.query k i) = some x) :
    (convertTo (dispatch names (n + 1)) l (.handle (.query k i))).outcome st =
      (do prepareTo (dispatch names (n + 1)) l (← copy x) : Act Value).outcome
        st.identified.identified := by
  obtain ⟨q, there, rfl⟩ := Option.map_eq_some_iff.mp holds
  rw [outcome_convertTo_object rfl, outcome_storeObject_query converts,
    Array.getD_eq_getD_getElem?, there, Option.getD_some]

theorem outcome_convertTo_pipeline (converts : st.converts (.pipeline c i))
    (holds : st.within? (.pipeline c i) = some x) :
    (convertTo (dispatch names (n + 1)) l (.handle (.pipeline c i))).outcome st =
      (do prepareTo (dispatch names (n + 1)) l (← copy x) : Act Value).outcome
        st.identified.identified := by
  obtain ⟨q, there, rfl⟩ := Option.map_eq_some_iff.mp holds
  rw [outcome_convertTo_object rfl, outcome_storeObject_pipeline converts,
    Array.getD_eq_getD_getElem?, there, Option.getD_some]

end

/-- An action does what another one does, unless the other one was not deep enough. -/
def Outlasts (y x : Act α) : Prop :=
  ∀ st, (∃ e after, x.outcome st = (.error e, after) ∧ e.kind = .recursion) ∨
    y.outcome st = x.outcome st

namespace Outlasts

variable {x y : Act α} {f g : α → Act β}

theorem refl (x : Act α) : Outlasts x x := fun _ => .inr rfl

theorem bind (first : Outlasts y x) (later : ∀ a, Outlasts (g a) (f a)) :
    Outlasts (y >>= g) (x >>= f) := by
  intro st
  obtain ⟨e, after, shallow, kind⟩ | same := first st
  · exact .inl ⟨e, after, outcome_bind_error shallow, kind⟩
  · rcases hx : x.outcome st with ⟨e | a, after⟩ <;> rw [hx] at same
    · exact .inr ((outcome_bind_error same).trans (outcome_bind_error hx).symm)
    · rw [outcome_bind_ok hx, outcome_bind_ok same]
      exact later a after

/-- Whoever handles faults must not handle those that come of depth. -/
theorem tryCatch {k l : Fault → Act α} (first : Outlasts y x) (later : ∀ e, Outlasts (l e) (k e))
    (passed : ∀ e, e.kind = .recursion → k e = throw e) :
    Outlasts (tryCatch y l) (tryCatch x k) := by
  intro st
  simp only [outcome_tryCatch]
  obtain ⟨e, after, shallow, kind⟩ | same := first st
  · refine .inl ⟨e, after, ?_, kind⟩
    rw [shallow]
    exact congrArg (fun x : Act α => x.outcome after) (passed e kind)
  · rw [same]
    rcases x.outcome st with ⟨e | a, after⟩
    · exact later e after
    · exact .inr rfl

theorem stored {convert deeper : Value → Act Value} (objects : ∀ u, Outlasts (deeper u) (convert u))
    (v : Value) : Outlasts (v.stored deeper) (v.stored convert) := by
  induction v using Value.inner_induct with
  | step v ih =>
    by_cases object : v.isObject
    · rw [Value.stored_object _ object, Value.stored_object _ object]
      exact objects v
    · have items {xs : List Value} (each : ∀ x ∈ xs, Outlasts (x.stored deeper) (x.stored convert)) :
          Outlasts (Value.storedItems deeper xs) (Value.storedItems convert xs) := by
        induction xs with
        | nil => exact .refl _
        | cons x xs ih =>
          obtain ⟨here, rest⟩ := List.forall_mem_cons.mp each
          exact here.bind fun _ => (ih rest).bind fun _ => .refl _
      rw [Value.stored_data _ object, Value.stored_data _ object, map_eq_pure_bind, map_eq_pure_bind]
      exact (items ih).bind fun _ => .refl _

theorem storeObject {d : Dispatch} {store deeper : Value → Act Value}
    (stores : ∀ v, Outlasts (deeper v) (store v)) (u : Value) :
    Outlasts (storeObject d deeper u) (storeObject d store u) := by
  have converts (v : Value) (name : String) (named : Entries) :
      Outlasts (converted d deeper v name named) (converted d store v name named) :=
    (refl _).bind stores
  have dump : Outlasts (storeDump d deeper u) (storeDump d store u) := by
    refine tryCatch (converts _ _ _) (fun e => ?_) fun e kind => ?_
    · split
      · exact (refl _).bind fun _ => converts _ _ _
      · exact refl _
    · have other : e.kind.isType = false := by rw [kind]; rfl
      simp only [other, Bool.false_eq_true, if_false]
  have json : Outlasts (storeJson d deeper u) (storeJson d store u) := by
    refine (refl _).bind fun now => ?_
    split
    · split
      · exact (refl _).bind fun x => (stores x.fields).bind stores
      · exact converts _ _ _
    · exact converts _ _ _
  have current : Outlasts (do deeper ((← get).current u)) (do store ((← get).current u)) :=
    (refl _).bind fun now => stores _
  unfold Act.storeObject
  refine (refl _).bind fun dumps => ?_
  split
  · exact dump
  · refine (refl _).bind fun jsons => ?_
    split
    · exact json
    · split <;> first | exact current | exact refl _

end Outlasts

theorem prepareTo_outlasts (d : Dispatch) (n : Nat) (v : Value) :
    Outlasts (prepareTo d (n + 1) v) (prepareTo d n v) := by
  induction n generalizing v with
  | zero => exact fun st => .inl ⟨tooDeep, st, rfl, rfl⟩
  | succ n ih =>
    rw [prepareTo_succ, prepareTo_succ]
    refine .stored (fun u => (Outlasts.refl _).bind fun data => ?_) v
    cases data with
    | some es => exact (Outlasts.refl _).bind ih
    | none => exact Outlasts.storeObject ih u

/-- What was stored within a depth is stored within every greater depth. -/
theorem outcome_prepareTo_of_le {d : Dispatch} {n m : Nat} {st after : Store} {v r : Value}
    (more : n ≤ m) (done : (prepareTo d n v).outcome st = (.ok r, after)) :
    (prepareTo d m v).outcome st = (.ok r, after) := by
  induction more with
  | refl => exact done
  | @step m _ ih =>
    obtain ⟨e, after, shallow, -⟩ | same := prepareTo_outlasts d m v st
    · rw [ih] at shallow
      cases shallow
    · exact same.trans ih

end Act

end DocMapper
