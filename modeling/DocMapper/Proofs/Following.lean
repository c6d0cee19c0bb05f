import DocMapper.Proofs.Offering
import DocMapper.Proofs.Spelling

/-!
Values that come to plain data are stored as that.  Taking structs out and copying leave alone what
a value comes to, and so does storing it, an object at a time.
-/

namespace DocMapper

theorem Store.standIn?_struct {st : Store} {u w : Value} {es : Entries}
    (stands : st.standIn? u = some w) (data : st.struct? u = some es) : w = .dict es := by
  obtain ⟨h, rfl, converts, holds⟩ := standIn?_eq_some.mp stands
  cases h
  case record k c i =>
    cases k
    case struct =>
      obtain ⟨fields, there, rfl⟩ := Option.map_eq_some_iff.mp holds
      cases data
      rw [Array.getD_eq_getD_getElem?, there, Option.getD_some]
    all_goals cases converts
  all_goals first | cases converts | cases data

namespace Act

open Value

variable {st after : Store} {n m : Nat} {v u r w : Value} {convert f : Value → Act Value}
variable {xs ys ws : List Value} {es as : Entries} {Q : Store → Value → Value → Prop}

theorem cloned_of_copy (done : (copy v).outcome st = (.ok w, after)) : st.cloned v = (w, after) := by
  rw [copy, outcome_bind_ok (outcome_get st)] at done
  split at done
  · cases done
  · cases done
    rfl

theorem storedItems_eq_mapM : storedItems convert xs = xs.mapM fun x => x.stored convert := by
  induction xs with
  | nil => rfl
  | cons x xs ih => rw [storedItems, ih, List.mapM_cons]

theorem takenOutItems_eq_mapM : takenOutItems convert xs = xs.mapM fun x => x.takenOut convert := by
  induction xs with
  | nil => rfl
  | cons x xs ih => rw [takenOutItems, ih, List.mapM_cons]

/-- What an action makes of a value that comes to plain data, wherever it does. -/
def Follows (Q : Store → Value → Value → Prop) (n : Nat) (f : Value → Act Value) (v : Value) : Prop :=
  ∀ {st r w after}, st.Tidy → st.spell n v = some r → r.Plain →
    (f v).outcome st = (.ok w, after) → st.Furthers after ∧ Q after w r

theorem outcome_mapM (stable : ∀ {st after : Store} {w r}, st.Furthers after → Q st w r → Q after w r)
    (each : ∀ x ∈ xs, Follows Q n f x) (tidy : st.Tidy)
    (spelled : List.Forall₂ (fun x y => st.spell n x = some y) xs ys) (plain : ∀ y ∈ ys, y.Plain)
    (done : (xs.mapM f).outcome st = (.ok ws, after)) :
    st.Furthers after ∧ List.Forall₂ (Q after) ws ys := by
  induction xs generalizing st ys ws with
  | nil =>
    cases spelled
    cases done
    exact ⟨.refl tidy, .nil⟩
  | cons x xs ih =>
    obtain ⟨y, ys, here, there, rfl⟩ := List.forall₂_cons_left_iff.mp spelled
    obtain ⟨first, rest⟩ := List.forall_mem_cons.mp each
    obtain ⟨plain, others⟩ := List.forall_mem_cons.mp plain
    rw [List.mapM_cons] at done
    obtain ⟨w, mid, begun, done⟩ := outcome_bind_eq_ok done
    obtain ⟨ws, last, ended, done⟩ := outcome_bind_eq_ok done
    cases done
    obtain ⟨furthers, holds⟩ := first tidy here plain begun
    obtain ⟨more, follow⟩ := ih rest furthers.tidy (there.imp fun _ _ => furthers.spell) others ended
    exact ⟨furthers.trans more, .cons (stable more holds) follow⟩

/-- Plain data is left as it is, and what comes to plain data still comes to it. -/
structure Faithful (f : Value → Act Value) : Prop where
  plain : ∀ {v st w after}, v.Plain → (f v).outcome st = (.ok w, after) → w = v ∧ after = st
  follows : ∀ n v, Follows (fun st w r => st.spell n w = some r) n f v

theorem faithful_copy : Faithful copy where
  plain plain done := by
    rw [outcome_copy plain] at done
    cases done
    exact ⟨rfl, rfl⟩
  follows n v := fun tidy spelled plain done => by
    obtain ⟨furthers, comes⟩ := Store.cloned_spell tidy v
    rw [cloned_of_copy done] at furthers comes
    exact ⟨furthers, comes n _ spelled plain⟩

section

variable (faithful : Faithful convert)
include faithful

theorem Faithful.takenOut_plain (plain : v.Plain)
    (done : (v.takenOut convert).outcome st = (.ok w, after)) : w = v ∧ after = st := by
  refine Value.takenOut.induct
    (fun v => ∀ {st w after}, v.Plain → (v.takenOut convert).outcome st = (.ok w, after) →
      w = v ∧ after = st)
    (fun es => ∀ {st ws after}, (∀ e ∈ es, e.1.Plain) → (∀ e ∈ es, e.2.Plain) →
      (takenOutEntries convert es).outcome st = (.ok ws, after) → ws = es ∧ after = st)
    (fun xs => ∀ {st ws after}, (∀ x ∈ xs, x.Plain) →
      (takenOutItems convert xs).outcome st = (.ok ws, after) → ws = xs ∧ after = st)
    ?list ?tuple ?dict ?other ?nil ?cons ?none ?entry v plain done
  case list | tuple =>
    intro xs ih st w after plain done
    obtain ⟨ws, mid, items, done⟩ := outcome_bind_eq_ok done
    cases done
    obtain ⟨rfl, rfl⟩ := ih (plain_inner plain) items
    exact ⟨rfl, rfl⟩
  case dict =>
    intro es ih st w after plain done
    obtain ⟨ws, mid, entries, done⟩ := outcome_bind_eq_ok done
    cases done
    cases plain with
    | dict _ keys values =>
      obtain ⟨rfl, rfl⟩ := ih keys values entries
      exact ⟨rfl, rfl⟩
  case other =>
    intro v list tuple dict st w after plain done
    unfold Value.takenOut at done
    split at done
    · exact (list _ rfl).elim
    · exact (tuple _ rfl).elim
    · exact (dict _ rfl).elim
    · exact faithful.plain plain done
  case nil | none =>
    intros
    rename_i done
    cases done
    exact ⟨rfl, rfl⟩
  case cons =>
    intro x xs here later st ws after plain done
    obtain ⟨first, rest⟩ := List.forall_mem_cons.mp plain
    obtain ⟨y, mid, item, done⟩ := outcome_bind_eq_ok done
    obtain ⟨zs, last, items, done⟩ := outcome_bind_eq_ok done
    cases done
    obtain ⟨rfl, rfl⟩ := here first item
    obtain ⟨rfl, rfl⟩ := later rest items
    exact ⟨rfl, rfl⟩
  case entry =>
    intro k v es key here later st ws after keys values done
    obtain ⟨plainKey, others⟩ := List.forall_mem_cons.mp keys
    obtain ⟨plain, rest⟩ := List.forall_mem_cons.mp values
    obtain ⟨k', mid, first, done⟩ := outcome_bind_eq_ok done
    obtain ⟨v', next, second, done⟩ := outcome_bind_eq_ok done
    obtain ⟨zs, last, entries, done⟩ := outcome_bind_eq_ok done
    cases done
    obtain ⟨rfl, rfl⟩ := key plainKey first
    obtain ⟨rfl, rfl⟩ := here plain second
    obtain ⟨rfl, rfl⟩ := later others rest entries
    exact ⟨rfl, rfl⟩

/-- Plain keys stay, so that a dictionary is taken out as the list of its values is. -/
theorem Faithful.takenOutEntries (keys : ∀ e ∈ es, e.1.Plain)
    (done : (takenOutEntries convert es).outcome st = (.ok as, after)) :
    ∃ ws, (takenOutItems convert (es.map Prod.snd)).outcome st = (.ok ws, after) ∧
      as = (es.map Prod.fst).zip ws := by
  induction es generalizing st as with
  | nil =>
    cases done
    exact ⟨[], rfl, rfl⟩
  | cons e es ih =>
    obtain ⟨plain, keys⟩ := List.forall_mem_cons.mp keys
    rw [Value.takenOutEntries] at done
    obtain ⟨k, mid, key, done⟩ := outcome_bind_eq_ok done
    obtain ⟨w, next, value, done⟩ := outcome_bind_eq_ok done
    obtain ⟨zs, last, entries, done⟩ := outcome_bind_eq_ok done
    cases done
    obtain ⟨rfl, rfl⟩ := faithful.takenOut_plain plain key
    obtain ⟨ws, items, rfl⟩ := ih keys entries
    refine ⟨w :: ws, ?_, rfl⟩
    rw [List.map_cons, takenOutItems, outcome_bind_ok value, outcome_bind_ok items]
    rfl

theorem Faithful.takenOut : Faithful fun v => v.takenOut convert where
  plain := faithful.takenOut_plain
  follows n v := by
    induction v using inner_induct with
    | step v ih =>
      intro st r w after tidy spelled plain done
      cases n with
      | zero => cases spelled
      | succ n =>
        have taken {ws : List Value} {mid : Store} (data : ¬v.isObject)
            (items : (takenOutItems convert v.inner).outcome st = (.ok ws, mid)) : st.Furthers mid ∧
              ∃ ys, List.Forall₂ (fun w y => mid.spell (n + 1) w = some y) ws ys ∧
                v.refilled ys = r ∧ ys.length = v.inner.length := by
          obtain ⟨ys, each, rfl⟩ := (stored_data_eq_some data).mp spelled
          have size := each.length_eq.symm
          have parts := plain_inner plain
          rw [inner_refilled data size] at parts
          rw [takenOutItems_eq_mapM] at items
          obtain ⟨furthers, follow⟩ := outcome_mapM (Q := fun st w r => st.spell (n + 1) w = some r)
            (fun more => more.spell) ih tidy each parts items
          exact ⟨furthers, ys, follow, rfl, size⟩
        cases v
        case list xs | tuple xs =>
          obtain ⟨ws, mid, items, done⟩ := outcome_bind_eq_ok done
          cases done
          obtain ⟨furthers, ys, follow, same, -⟩ := taken Bool.false_ne_true items
          exact ⟨furthers, (stored_data_eq_some (by simp [isObject])).mpr ⟨ys, follow, same⟩⟩
        case dict es =>
          obtain ⟨as, mid, entries, done⟩ := outcome_bind_eq_ok done
          cases done
          obtain ⟨ys, each, rfl⟩ := (stored_data_eq_some (v := .dict es) Bool.false_ne_true).mp spelled
          have keys := plain_keys each.length_eq.symm plain
          obtain ⟨ws, items, rfl⟩ := faithful.takenOutEntries keys entries
          obtain ⟨furthers, zs, follow, same, size⟩ := taken Bool.false_ne_true items
          have length : ws.length = es.length := by
            rw [follow.length_eq, size, Value.inner, List.length_map]
          refine ⟨furthers, (stored_data_eq_some (by simp [isObject])).mpr ⟨zs, ?_, ?_⟩⟩
          · rwa [Value.inner, List.map_snd_zip (by simp [length])]
          · rwa [refilled, List.map_fst_zip (by simp [length])]
        all_goals exact faithful.follows _ _ tidy spelled plain done

end

/-- A struct comes to what the dictionary of its fields comes to. -/
theorem faithful_asEntries (k : Nat) : Faithful (asEntries k) := by
  induction k with
  | zero =>
    refine ⟨fun _ done => ?_, fun _ _ => ?_⟩
    · cases done
    · intro _ _ _ _ _ _ _ done
      cases done
  | succ k ih =>
    refine Faithful.takenOut ⟨fun {u st w after} plain done => ?_, fun n u => ?_⟩
    · have data : st.struct? u = none := by cases plain <;> rfl
      rw [outcome_bind_ok (outcome_structFields? u st), data] at done
      exact faithful_copy.plain plain done
    · intro st r w after tidy spelled plain done
      rw [outcome_bind_ok (outcome_structFields? u st)] at done
      cases data : st.struct? u with
      | none =>
        rw [data] at done
        exact faithful_copy.follows n u tidy spelled plain done
      | some es =>
        rw [data] at done
        cases n with
        | zero => cases spelled
        | succ n =>
          have object : u.isObject := by cases u <;> first | rfl | cases data
          rw [Store.spell_object object] at spelled
          obtain ⟨d, stands, comes⟩ := Option.bind_eq_some_iff.mp spelled
          obtain rfl := Store.standIn?_struct stands data
          obtain ⟨furthers, still⟩ := ih.takenOut.follows n (.dict es) tidy comes plain done
          exact ⟨furthers, Store.spell_more still⟩

section

variable {names : Names} {k : Nat}

/-- An object that comes to plain data is converted to that, if only what it is converted to is
stored as the plain data that it comes to. -/
theorem follows_convertTo
    (stores : ∀ m v, Follows (fun _ w r => w = r) m (prepareTo (dispatch names (k + 1)) n) v)
    (object : v.isObject) :
    Follows (fun _ w r => w = r) m (convertTo (dispatch names (k + 1)) n) v := by
  intro st r w after tidy spelled plain done
  cases m with
  | zero => cases spelled
  | succ m =>
    rw [Store.spell_object object] at spelled
    obtain ⟨u, stands, comes⟩ := Option.bind_eq_some_iff.mp spelled
    obtain ⟨h, rfl, converts, holds⟩ := Store.standIn?_eq_some.mp stands
    have once := Store.furthers_identified tidy
    have twice := once.trans (Store.furthers_identified once.tidy)
    -- what is stored is a copy, or something else that still comes to the same
    have copied {σ mid : Store} {x : Value} {l : Nat} (begun : st.Furthers σ)
        (made : σ.Furthers mid ∧ mid.spell l x = some r)
        (done : (prepareTo (dispatch names (k + 1)) n x).outcome mid = (.ok w, after)) :
        st.Furthers after ∧ w = r := by
      obtain ⟨more, still⟩ := made
      obtain ⟨last, same⟩ := stores l x more.tidy still plain done
      exact ⟨(begun.trans more).trans last, same⟩
    cases h
    case document c i =>
      rw [outcome_convertTo_document converts holds] at done
      obtain ⟨w, mid, first, done⟩ := outcome_bind_eq_ok done
      obtain ⟨furthers, rfl⟩ := stores m _ once.tidy (once.spell comes) plain first
      cases n with
      | zero => cases first
      | succ n =>
        rw [outcome_prepareTo_normal ((Store.normal_spell comes).imp fun _ none => none.elim)] at done
        cases done
        exact ⟨once.trans furthers, rfl⟩
    case query c i =>
      rw [outcome_convertTo_query converts holds] at done
      obtain ⟨x, mid, made, done⟩ := outcome_bind_eq_ok done
      exact copied twice (faithful_copy.follows m _ twice.tidy (twice.spell comes) plain made) done
    case pipeline c i =>
      rw [outcome_convertTo_pipeline converts holds] at done
      obtain ⟨x, mid, made, done⟩ := outcome_bind_eq_ok done
      exact copied twice (faithful_copy.follows m _ twice.tidy (twice.spell comes) plain made) done
    case record c _ i =>
      cases c
      case struct =>
        rw [outcome_convertTo_struct rfl] at done
        obtain ⟨x, mid, made, done⟩ := outcome_bind_eq_ok done
        have spelled := (Store.spell_object rfl).trans spelled
        exact copied (.refl tidy) ((faithful_asEntries deepest).follows _ _ tidy spelled plain made)
          done
      all_goals cases converts
    all_goals cases converts

/-- What comes to plain data is stored as that. -/
theorem follows_prepareTo (n m : Nat) (v : Value) :
    Follows (fun _ w r => w = r) m (prepareTo (dispatch names (k + 1)) n) v := by
  induction n generalizing m v with
  | zero =>
    intro _ _ _ _ _ _ _ done
    cases done
  | succ n deeper =>
    rw [Follows, prepareTo_succ]
    induction v using inner_induct with
    | step v ih =>
      intro st r w after tidy spelled plain done
      by_cases object : v.isObject
      · rw [stored_object _ object] at done
        exact follows_convertTo deeper object tidy spelled plain done
      · cases m with
        | zero => cases spelled
        | succ m =>
          obtain ⟨ys, each, rfl⟩ := (stored_data_eq_some object).mp spelled
          have parts := plain_inner plain
          rw [inner_refilled object each.length_eq.symm] at parts
          obtain ⟨ws, items, rfl, -⟩ := outcome_stored_data object done
          rw [storedItems_eq_mapM] at items
          obtain ⟨furthers, follow⟩ := outcome_mapM (Q := fun _ w r => w = r) (fun _ => id) ih tidy
            each parts items
          rw [List.forall₂_eq_eq_eq] at follow
          exact ⟨furthers, congrArg _ follow⟩

end

end Act

end DocMapper
