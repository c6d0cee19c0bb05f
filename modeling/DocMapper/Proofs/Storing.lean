import DocMapper.Proofs.Copying

/-!
What insertions and updates do to the documents of a collection.  An insertion adds a copy at the
end; an update changes the first document whose id equals the one it is asked for, or none.
-/

namespace DocMapper

theorem Value.same_str_left (s : String) (v : Value) :
    (Value.str s).same v = true ↔ v = .str s := by
  cases v
  case str t => simpa using eq_comm
  all_goals simp [Value.same, Value.sameNan, Value.equal]

theorem Value.same_str_right (s : String) (v : Value) :
    v.same (.str s) = true ↔ v = .str s := by
  cases v <;> simp [Value.same, Value.sameNan, Value.equal, Value.sameNumber, Value.whole?,
    Value.point?, Value.members?, Value.entries?]

namespace Entries

def Texts (es : Entries) : Prop := ∀ e ∈ es, ∃ s, e.1 = .str s

variable {es fs : Entries}

theorem Texts.tail {e : Value × Value} (h : Texts (e :: es)) : es.Texts :=
  fun f hf => h f (List.mem_cons_of_mem e hf)

theorem texts_put (h : es.Texts) (s : String) (v : Value) :
    Texts (put es (.str s) v) := by
  intro e he
  have key : e.1 ∈ keys (put es (.str s) v) := List.mem_map_of_mem he
  rw [keys_put] at key
  have old : e.1 ∈ keys es → ∃ t, e.1 = .str t := by
    intro old
    obtain ⟨f, hf, same⟩ := List.mem_map.mp old
    exact same ▸ h f hf
  split at key
  · exact old key
  · cases List.mem_append.mp key with
    | inl there => exact old there
    | inr new => exact ⟨s, List.mem_singleton.mp new⟩

theorem texts_merge (h : es.Texts) (texts : fs.Texts) : Texts (merge es fs) := by
  induction fs generalizing es with
  | nil => exact h
  | cons f fs ih =>
    obtain ⟨k, v⟩ := f
    obtain ⟨s, rfl⟩ := texts (k, v) List.mem_cons_self
    exact ih (texts_put h s v) texts.tail

theorem texts_filter (h : es.Texts) (p : Value × Value → Bool) :
    Texts (List.filter p es) := fun e he => h e (List.mem_filter.mp he).1

theorem field?_cons (s name : String) (v : Value) (es : Entries) :
    field? ((.str s, v) :: es) name = if s = name then some v else field? es name := by
  by_cases same : s = name <;> simp [field?, get?, same]

/-- What stands under a text after another was put, whatever the other keys are. -/
theorem get?_put_text (es : Entries) (s t : String) (v : Value) :
    get? (put es (.str s) v) (.str t) = if s = t then some v else get? es (.str t) := by
  induction es with
  | nil => by_cases same : s = t <;> simp [put, get?, same]
  | cons e es ih =>
    obtain ⟨k, w⟩ := e
    by_cases here : k.same (.str s)
    · obtain rfl := (Value.same_str_right s k).mp here
      by_cases same : s = t <;> simp [put, get?, same]
    · rw [put, if_neg here]
      by_cases found : k.same (.str t)
      · obtain rfl := (Value.same_str_right t k).mp found
        have other : s ≠ t := fun same => here (same ▸ found)
        simp [get?, other]
      · simpa [get?, found] using ih

theorem field?_eq_none (once : (keys ((.str s, v) :: es)).Nodup) (texts : es.Texts) :
    field? es s = none := by
  simp only [field?, get?, Option.map_eq_none_iff, List.find?_eq_none]
  intro e he same
  obtain ⟨t, ht⟩ := texts e he
  rw [ht, Value.same_str, beq_iff_eq] at same
  have there : .str s ∈ keys es := same ▸ ht ▸ List.mem_map_of_mem he
  exact (List.nodup_cons.mp once).1 there

/-- What is merged in comes first. -/
theorem field?_merge (h : es.Texts) (texts : fs.Texts) (once : (keys fs).Nodup) (name : String) :
    field? (merge es fs) name = (field? fs name).or (field? es name) := by
  induction fs generalizing es with
  | nil => rfl
  | cons f fs ih =>
    obtain ⟨k, v⟩ := f
    obtain ⟨s, rfl⟩ := texts (k, v) List.mem_cons_self
    have rest := ih (texts_put h s v) texts.tail (List.nodup_cons.mp once).2
    have here : field? (put es (.str s) v) name =
        if s = name then some v else field? es name := get?_put_str es s name v h
    rw [here] at rest
    rw [field?_cons]
    refine rest.trans ?_
    by_cases same : s = name
    · subst same
      simp [field?_eq_none once texts.tail]
    · simp [same]

theorem field?_mapBoth {f : Value → Value} (plain : ∀ s, f (.str s) = .str s) (h : es.Texts)
    (name : String) : field? (mapBoth f es) name = (field? es name).map f := by
  induction es with
  | nil => rfl
  | cons e es ih =>
    obtain ⟨k, v⟩ := e
    obtain ⟨s, rfl⟩ := h (k, v) List.mem_cons_self
    change field? ((f (.str s), f v) :: mapBoth f es) name = _
    rw [plain, field?_cons, field?_cons, ih h.tail]
    split <;> rfl

theorem texts_mapBoth {f : Value → Value} (plain : ∀ s, f (.str s) = .str s) (h : es.Texts) :
    Texts (mapBoth f es) := by
  intro e he
  obtain ⟨e, hf, rfl⟩ := List.mem_map.mp he
  obtain ⟨s, hs⟩ := h e hf
  exact ⟨s, by rw [hs, plain]⟩

theorem has_eq_isSome (es : Entries) (name : String) :
    es.has (.str name) = (field? es name).isSome := by
  rw [Bool.eq_iff_iff, has, field?, get?, Option.isSome_map, List.find?_isSome, List.any_eq_true]

theorem field?_withId (es : Entries) (fresh : Value) :
    field? (if es.has (.str "_id") then es else es ++ [(.str "_id", fresh)]) "_id" =
      some ((field? es "_id").getD fresh) := by
  rw [has_eq_isSome]
  cases here : field? es "_id" with
  | some v => simpa using here
  | none => simp [field?_append, here, field?_cons]

/-- A document with what an instance holds now put into it; its id stays. -/
def Revised (old now new : Entries) : Prop :=
  ∀ name, field? new name =
    if name = "_id" then field? old name else (field? now name).or (field? old name)

/-- The changes that are made of an instance revise a document. -/
theorem revised_merge (h : es.Texts) (texts : fs.Texts) (once : (keys fs).Nodup) :
    es.Revised fs (merge es (List.filter (fun e => !e.1.equal (.str "_id")) fs)) := by
  intro name
  have sub : (keys (List.filter (fun e => !e.1.equal (.str "_id")) fs)).Nodup :=
    once.sublist (List.filter_sublist.map _)
  rw [field?_merge h (texts_filter texts _) sub]
  have changes : field? (List.filter (fun e => !e.1.equal (.str "_id")) fs) name =
      if name = "_id" then none else field? fs name := by
    clear sub
    induction fs with
    | nil => simp [field?, get?]
    | cons f fs ih =>
      obtain ⟨k, v⟩ := f
      obtain ⟨s, rfl⟩ := texts (k, v) List.mem_cons_self
      have rest := ih texts.tail (List.nodup_cons.mp once).2
      by_cases id : s = "_id"
      · subst id
        rw [List.filter_cons_of_neg (by simp), rest, field?_cons]
        by_cases same : name = "_id" <;> simp [same, eq_comm]
      · rw [List.filter_cons_of_pos (by simp [id]), field?_cons, field?_cons, rest]
        by_cases same : name = "_id"
        · simp [same, id]
        · simp [same]
  rw [changes]
  split <;> simp

end Entries

theorem findM?_concat {α : Type} {f : α → Except Fault Bool} {xs : List α} {x : α} {b : Bool}
    (none : ∀ y ∈ xs, f y = .ok false) (last : f x = .ok b) :
    (xs ++ [x]).findM? f = .ok (if b then some x else Option.none) := by
  induction xs with
  | nil =>
    rw [List.nil_append, List.findM?, last]
    cases b <;> rfl
  | cons y xs ih =>
    rw [List.cons_append, List.findM?, none y List.mem_cons_self]
    exact ih fun z hz => none z (List.mem_cons_of_mem y hz)

/-- A document is found by its id if that equals the one that is asked for. -/
theorem Criteria.holds_id {v id : Value} {es : Entries} (entries : v.entries? = some es)
    (simple : ∀ fs, id ≠ .dict fs) :
    holds v (.dict [(.str "_id", id)]) = .ok (((es.field? "_id").getD .null).equal id) := by
  have field : fieldOf v (.str "_id") =
      .ok ((es.field? "_id").getD .null, es.has (.str "_id")) := by
    rw [fieldOf, entries]
    rfl
  have at_ : holdsAt v (.str "_id") id = .ok (((es.field? "_id").getD .null).equal id) := by
    rw [holdsAt, field]
    cases id
    case dict fs => exact absurd rfl (simple fs)
    all_goals rfl
  rw [holds, holdsEach, at_]
  · cases ((es.field? "_id").getD .null).equal id <;> rfl
  all_goals
    intros
    simp_all

namespace Store

theorem comparable_dict (st : Store) (es : Entries) :
    st.comparable (.dict es) = .dict (Entries.mapBoth st.comparable es) := by
  have keys : ∀ v, st.comparable v = Value.rebuild _ id true v := fun _ => rfl
  rw [keys, Value.rebuild]
  simp only [Value.rebuildEntries_eq_map, if_true]
  rfl

def shelving (st : Store) (s : Nat) (ds : List Value) : Store :=
  { st with shelves := st.shelves.setIfInBounds s (.list ds) }

variable {st : Store} {k j : Nat} {name : String} {ds : List Value}

theorem Keeps.shelving (h : st.Keeps k name j ds) (es : List Value) :
    (st.shelving (st.collectionAt j).shelf es).Keeps k name j es := by
  refine ⟨h.selected, h.kept, h.present, h.calls, ?_, ?_⟩
  · simpa [Store.shelving, collectionAt] using h.shelved
  · change (st.shelving (st.collectionAt j).shelf es).shelfAt (st.collectionAt j).shelf = _
    simp [Store.shelving, shelfAt, Array.getD_eq_getD_getElem?, h.shelved]

end Store

/-- A stored document is none that has this id, as comparisons see both. -/
def Store.Apart (st : Store) (id x : Value) : Prop :=
  ∃ es u, (st.comparable x).entries? = some es ∧ es.field? "_id" = some u ∧
    u.equal (st.comparable id) = false

namespace Act

variable {st after : Store} {c : ClassRef} {k i j : Nat} {name : String} {ds : List Value}
variable {es now : Entries} {key id : Value}

/-- Which document an update by an id changes. -/
theorem outcome_firstWith (texts : es.Texts) (here : es.field? "_id" = some key)
    (simple : ∀ fs, st.comparable id ≠ .dict fs) (apart : ∀ x ∈ ds, st.Apart id x) :
    (ds ++ [Value.dict es]).zipIdx.findM? (fun x =>
        Criteria.holds (st.comparable x.1) (st.comparable (.dict [(.str "_id", id)]))) =
      .ok (if (st.comparable key).equal (st.comparable id) then some (.dict es, ds.length)
        else none) := by
  have plain (s : String) : st.comparable (.str s) = .str s := st.comparable_plain (.str s)
  have filter : st.comparable (.dict [(.str "_id", id)]) =
      .dict [(.str "_id", st.comparable id)] := by
    rw [Store.comparable_dict, Entries.mapBoth, List.map_singleton, plain]
  rw [filter, List.zipIdx_append, List.zipIdx_singleton, Nat.zero_add]
  refine findM?_concat (fun x hx => ?_) ?_
  · obtain ⟨fs, u, entries, field, other⟩ := apart x.1 (List.fst_mem_of_mem_zipIdx hx)
    rw [Criteria.holds_id entries simple, field, Option.getD_some, other]
  · have entries : (st.comparable (.dict es)).entries? =
        some (Entries.mapBoth st.comparable es) := by
      rw [Store.comparable_dict]
      rfl
    rw [Criteria.holds_id entries simple, Entries.field?_mapBoth plain texts, here]
    rfl

/-- An update by an id revises the last document if that has the id, and otherwise nothing. -/
theorem outcome_updateOne (h : st.Keeps k name j (ds ++ [.dict es])) (texts : es.Texts)
    (here : es.field? "_id" = some key) (simple : ∀ fs, st.comparable id ≠ .dict fs)
    (apart : ∀ x ∈ ds, st.Apart id x) (changes : Entries) :
    ∃ after, (updateOne j (.dict [(.str "_id", id)])
        (.dict [(.str "$set", .dict changes)])).outcome st =
          (.ok ((st.comparable key).equal (st.comparable id)), after) ∧
      after.aside = st.aside ∧ after.collections.size = st.collections.size ∧
      after.Keeps k name j (ds ++ [.dict (if (st.comparable key).equal (st.comparable id) then
        Entries.merge es changes else es)]) := by
  obtain ⟨vs, recorded⟩ := outcome_recordCall h "update_one"
    [.dict [(.str "_id", id)], .dict [(.str "$set", .dict changes)]]
  have called := h.called vs
  have found := outcome_firstWith texts here simple apart
  rw [updateOne, outcome_bind_ok recorded, outcome_bind_ok (outcome_collection j _),
    outcome_bind_ok (outcome_shelf _ _), called.stored,
    outcome_bind_ok (outcome_itemsOf_list _ _), outcome_bind_ok (outcome_get _)]
  simp only [Store.comparable_called]
  rw [found, outcome_bind_ok (outcome_ofExcept ..)]
  have size : (st.called j (.list vs)).collections.size = st.collections.size := by
    simp [Store.called]
  cases (st.comparable key).equal (st.comparable id) with
  | false => exact ⟨_, rfl, st.aside_called j (.list vs), size, called⟩
  | true =>
    refine ⟨_, rfl, st.aside_called j (.list vs), size, ?_⟩
    -- the document that was found is the last one
    have last : (ds ++ [Value.dict es]).set ds.length (.dict (Entries.merge es changes)) =
        ds ++ [.dict (Entries.merge es changes)] := by simp
    rw [if_pos rfl, ← last]
    exact called.shelving _

theorem outcome_copy_dict (st : Store) (numbered : st.registry.Numbered) {v : Value}
    (copied : (copy (.dict es)).outcome st = (.ok v, after)) :
    st.Grows after ∧ st.documents.toList <+: after.documents.toList ∧
      ∃ f : Value → Value, (∀ u, u.Plain → f u = u) ∧ v = .dict (Entries.mapBoth f es) := by
  rw [copy, outcome_bind_ok (outcome_get st)] at copied
  split at copied
  · cases copied
  · have same : (Except.ok (st.cloned (.dict es)).1, (st.cloned (.dict es)).2) = (.ok v, after) :=
      copied
    cases same
    have doubles := st.cloned_doubles (.dict es)
    exact ⟨doubles.grows numbered, doubles.documents, st.cloned_dict es⟩

/-- An insertion adds a document at the end, under the id that it has or else a generated one. -/
theorem outcome_insertOne (h : st.Keeps k name j ds) (bare : st.Bare (.collection j))
    (ready : st.Ready c k name i) (texts : es.Texts)
    (done : (insertOne j (.dict es)).outcome st = (.ok key, after)) :
    ∃ stored : Entries, after.Keeps k name j (ds ++ [.dict stored]) ∧ after.Bare (.collection j) ∧
      after.Ready c k name i ∧ after.documentAt i = st.documentAt i ∧ stored.Texts ∧
      stored.field? "_id" = some key ∧ (∀ v, es.field? "_id" = some v → v.Plain → key = v) ∧
      (es.field? "_id" = none → ∃ n, key = generatedId n) := by
  obtain ⟨vs, recorded⟩ := outcome_recordCall h "insert_one" [.dict es]
  have called := h.called vs
  have ready : (st.called j (.list vs)).Ready c k name i :=
    ready.of_aside rfl (by simp [Store.called])
  rw [insertOne, outcome_bind_ok recorded] at done
  obtain ⟨v, mid, copied, done⟩ := outcome_bind_eq_ok done
  obtain ⟨grows, documents, f, intact, rfl⟩ := outcome_copy_dict _ ready.numbered copied
  have kept := grows.keeps called
  have document : mid.documentAt i = st.documentAt i := getD_prefix_eq documents ready.present _
  have ready : mid.Ready c k name i :=
    grows.ready ready (Store.connection_known called.selected.choose_spec) (document ▸ ready.model)
  dsimp only [Value.entries?] at done
  rw [outcome_bind_ok (outcome_modifyGet ..)] at done
  -- an id is generated whether the document needs one or not
  let issued : Store := { mid with generated := mid.generated + 1 }
  have kept : issued.Keeps k name j ds :=
    ⟨kept.selected, kept.kept, kept.present, kept.calls, kept.shelved, kept.stored⟩
  have ready : issued.Ready c k name i :=
    ready.of_setting rfl (Nat.le_refl _) ready.present ready.model
  rw [outcome_bind_ok (outcome_collection j issued), outcome_bind_ok (outcome_shelf _ issued),
    kept.stored, appended, outcome_bind_ok (outcome_ofExcept ..)] at done
  cases done
  have plain (s : String) : f (.str s) = .str s := intact _ (.str s)
  have field := Entries.field?_mapBoth plain texts "_id"
  refine ⟨_, kept.shelving _, ?_, ready.of_aside rfl (Nat.le_refl _), document, ?_,
    Entries.field?_withId _ _, ?_, ?_⟩
  · exact (grows.bare (.collection j) (.inl called.present) (bare.of_setting rfl)).of_setting rfl
  · have copied := Entries.texts_mapBoth plain texts
    split
    · exact copied
    · intro e he
      cases List.mem_append.mp he with
      | inl old => exact copied e old
      | inr new => exact ⟨"_id", by rw [List.mem_singleton.mp new]⟩
  · intro v here simple
    rw [field, here]
    exact intact v simple
  · intro none
    rw [field, none]
    exact ⟨mid.generated + 1, rfl⟩

end Act

end DocMapper
