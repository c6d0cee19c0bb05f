import DocMapper.Proofs.Following

/-!
Stored forms, place by place.  A stored form is normal and is stored as itself; an instance or a
builder that converts as those of the library do is stored as its fields, its criteria or its stages
would be in its place, wherever that is.
-/

namespace DocMapper

/-- Every object in a value would be left as it is. -/
def Dispatch.Spares (d : Dispatch) (st : Store) (v : Value) : Prop :=
  ∀ p u, v.at? p = some u → u.isObject → d.Passes u st st st

theorem Value.Normal.spared {d : Dispatch} {st : Store} {v : Value} {Leaf : Value → Prop}
    (normal : v.Normal Leaf) (spares : d.Spares st v) : v.Normal fun u => d.Passes u st st st := by
  intro p u at_p
  have stands := normal p u at_p
  cases u <;> first | exact stands | exact spares p _ at_p rfl

theorem Value.Normal.spares {v : Value} (normal : v.Normal fun _ => False) (d : Dispatch)
    (st : Store) : d.Spares st v :=
  fun p u at_p object => ((normal p u at_p).leaf object).elim

namespace Act

/-- An object that holds `x` is stored as `w`: an instance as what its fields are stored as is, which
is that itself unless something left in it is converted by then; a builder as a copy of what it holds
is, and a struct as what it is taken out as. -/
def StoredWithin (d : Dispatch) (h : Handle) (x w : Value) (st after : Store) : Prop :=
  match h with
  | .document .. => ∃ u mid, (prepare d x).outcome st.identified = (.ok u, mid) ∧
      (prepare d u).outcome mid = (.ok w, after) ∧ (d.Spares mid u → w = u ∧ after = mid)
  | .query .. | .pipeline .. => ∃ u mid, (copy x).outcome st.identified.identified = (.ok u, mid) ∧
      (prepare d u).outcome mid = (.ok w, after)
  | h => ∃ u mid, (asEntries deepest (.handle h)).outcome st = (.ok u, mid) ∧
      (prepare d u).outcome mid = (.ok w, after)

section

variable {d : Dispatch} {st now after : Store} {v r w : Value} {n : Nat}

theorem prepare_of_prepareTo (below : n ≤ deepest)
    (done : (prepareTo d n v).outcome st = (.ok r, after)) :
    (prepare d v).outcome st = (.ok r, after) :=
  outcome_prepareTo_of_le below done

theorem outcome_prepare_spared (done : (prepare d v).outcome st = (.ok r, after))
    (spares : d.Spares now r) : (prepare d r).outcome now = (.ok r, now) :=
  outcome_prepareTo_normal ((normal_prepare done).1.spared spares)

variable {names : Names} {k : Nat} {h : Handle} {x : Value}

theorem storedWithin_of_convertTo (converts : st.converts h) (holds : st.within? h = some x)
    (below : n + 1 ≤ deepest)
    (done : (convertTo (dispatch names (k + 1)) (n + 1) (.handle h)).outcome st = (.ok w, after)) :
    StoredWithin (dispatch names (k + 1)) h x w st after := by
  cases h
  case document c i =>
    rw [outcome_convertTo_document converts holds] at done
    obtain ⟨u, mid, first, done⟩ := outcome_bind_eq_ok done
    have begun := prepare_of_prepareTo below first
    have again := prepare_of_prepareTo below done
    refine ⟨u, mid, begun, again, fun spares => ?_⟩
    rw [outcome_prepare_spared begun spares] at again
    cases again
    exact ⟨rfl, rfl⟩
  case query k i =>
    rw [outcome_convertTo_query converts holds] at done
    obtain ⟨u, mid, made, done⟩ := outcome_bind_eq_ok done
    exact ⟨u, mid, made, prepare_of_prepareTo below done⟩
  case pipeline c i =>
    rw [outcome_convertTo_pipeline converts holds] at done
    obtain ⟨u, mid, made, done⟩ := outcome_bind_eq_ok done
    exact ⟨u, mid, made, prepare_of_prepareTo below done⟩
  case record c _ i =>
    cases c
    case struct =>
      rw [outcome_convertTo_struct rfl] at done
      obtain ⟨u, mid, made, done⟩ := outcome_bind_eq_ok done
      exact ⟨u, mid, made, prepare_of_prepareTo below done⟩
    all_goals cases converts
  all_goals cases converts

end

end Act

/-- A stored form is normal, and it is stored as itself for as long as what was left in it is left.
In every place stands what is stored there once all that stands before it is, which for an object that
converts as those of the library do is what is stored of what it holds.  What comes to plain data is
stored as that. -/
theorem stored_in_place {names : Names} {k : Nat} {st after : Store} {v r : Value}
    (done : (Act.prepare (dispatch names (k + 1)) v).outcome st = (.ok r, after)) :
    let d := dispatch names (k + 1)
    r.Normal (d.Left st) ∧
      (∀ now, d.Spares now r → (Act.prepare d r).outcome now = (.ok r, now)) ∧
      (∀ p u, v.at? p = some u → ∃ ws mid w last,
        (Act.prepare d (.list (v.before p))).outcome st = (.ok (.list ws), mid) ∧
          (Act.prepare d u).outcome mid = (.ok w, last) ∧ r.at? p = some w ∧
            ∀ h x, u = .handle h → mid.converts h → mid.within? h = some x →
              Act.StoredWithin d h x w mid last) ∧
      ∀ n s, st.Tidy → st.spell n v = some s → s.Plain → r = s := by
  intro d
  refine ⟨(Act.normal_prepare done).1, fun now => Act.outcome_prepare_spared done,
    fun p u at_p => ?_, fun n s tidy spelled plain =>
      (Act.follows_prepareTo Act.deepest n v tidy spelled plain done).2⟩
  obtain ⟨ws, mid, w, last, before, here, at_w⟩ := Act.outcome_stored_at done at_p
  refine ⟨ws, mid, w, last, Act.outcome_bind_ok before, here, at_w, ?_⟩
  rintro h x rfl converts holds
  exact Act.storedWithin_of_convertTo converts holds (by decide) here

/-- A post with its author, and a query. -/
def Store.authored : Store :=
  { Store.posts [] with
    queries := #[{
      kind := .unbound, criteria := [(.str "size", .handle (.record .struct (.known "Size") 0))]
      options := .empty, model := .null }]
    documents := #[
      { model := .model 1, isNew := .bool true, fields := .dict [(.str "text", .str "on maps"),
        (.str "author", .handle (.document (.model 1) 1))] },
      { model := .model 1, isNew := .bool true, fields := .dict [(.str "tags", .set [.int 1])] }]
    records := #[[(.str "pages", .int 3)]] }

/-- The post and the query, in a list and in a mapping. -/
def authoredPosts : Value :=
  .dict [(.str "posts", .list [.handle (.document (.model 1) 0)]),
    (.str "asked", .mapping [(.str "by", .handle (.query .unbound 0))])]

def preparedPost : Value :=
  .dict [(.str "text", .str "on maps"), (.str "author", .dict [(.str "tags", .list [.int 1])])]

def preparedPosts : Value :=
  .dict [(.str "posts", .list [preparedPost]),
    (.str "asked", .dict [(.str "by", .dict [(.str "size", .dict [(.str "pages", .int 3)])])])]

theorem stored_in_place_authored : ∃ after,
    (Act.prepare (dispatch [] 2) authoredPosts).outcome .authored = (.ok preparedPosts, after) ∧
      (Act.prepare (dispatch [] 2) preparedPosts).outcome after = (.ok preparedPosts, after) ∧
      Store.authored.spell 4 authoredPosts = some preparedPosts ∧ ∃ last,
        Act.StoredWithin (dispatch [] 2) (.document (.model 1) 0)
          (Store.authored.documents.getD 0 default).fields preparedPost .authored last := by
  have spelled : Store.authored.spell 4 authoredPosts = some preparedPosts := rfl
  have one {key : String} {v : Value} (plain : v.Plain) : (Value.dict [(.str key, v)]).Plain :=
    Value.plain_dict.mpr (List.forall_mem_singleton.mpr ⟨.str key, plain⟩)
  have post : preparedPost.Plain := Value.plain_dict.mpr (by
    simpa using ⟨⟨.str _, .str _⟩, .str _, one (.list _ (List.forall_mem_singleton.mpr (.int 1)))⟩)
  have plain : preparedPosts.Plain := Value.plain_dict.mpr (by
    simpa using ⟨⟨.str _, .list _ (List.forall_mem_singleton.mpr post)⟩, .str _,
      one (one (one (.int 3)))⟩)
  have stored : ((Act.prepare (dispatch [] 2) authoredPosts).outcome .authored).1.isOk := by
    decide +kernel
  rcases done : (Act.prepare (dispatch [] 2) authoredPosts).outcome .authored with ⟨_ | r, after⟩
  · rw [done] at stored
    cases stored
  obtain ⟨-, again, places, comes⟩ := stored_in_place done
  obtain rfl := comes 4 preparedPosts ⟨fun _ _ _ => rfl, fun _ _ => rfl⟩ spelled plain
  obtain ⟨ws, mid, w, last, before, -, at_w, within⟩ := places [0, 0] _ rfl
  cases before
  cases at_w
  have spares := (Store.normal_spell spelled).spares (dispatch [] 2) after
  exact ⟨after, rfl, again after spares, spelled, last, within _ _ rfl rfl rfl⟩

/-- A post, whose class converts its instances as a query is converted. -/
def Store.overridden : Store :=
  { Store.posts [] with
    registry := { (Store.posts []).registry with
      own := [((.model 1, "to_json"), .value (.object (some 0)
        (.bound (.handle (.query .unbound 0)) (.handle (.routine Act.queryClass "to_json")))))] }
    queries := #[{
      kind := .unbound, criteria := [(.str "kind", .str "post")], options := .empty, model := .null }]
    documents := #[{ model := .model 1, isNew := .bool true, fields := .dict [(.str "a", .int 1)] }] }

/-- An instance is not stored as its fields are in its place where its class sees to that. -/
theorem not_stored_as_fields : ¬∀ (st : Store) (c : ClassRef) (i : Nat) (x r s : Value),
    st.within? (.document c i) = some x →
      ((Act.prepare (dispatch [] 2) (.list [.handle (.document c i)])).outcome st).1 = .ok r →
        ((Act.prepare (dispatch [] 2) (.list [x])).outcome st).1 = .ok s → r = s := by
  intro all
  have same := all .overridden (.model 1) 0 (.dict [(.str "a", .int 1)])
    (.list [.dict [(.str "kind", .str "post")]]) (.list [.dict [(.str "a", .int 1)]]) rfl rfl rfl
  simp at same

end DocMapper
