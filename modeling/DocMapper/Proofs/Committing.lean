import DocMapper.Proofs.Preserving

/-!
Saves that do everything or nothing.  Whatever fails before a document is stored leaves the instance
and every stored document as they were, and once a document is stored nothing fails.
-/

namespace DocMapper

/-- How an object is asked to convert itself. -/
def Act.conversions : List (String × Entries) :=
  [("model_dump", [(.str "by_alias", .bool true)]), ("model_dump", []), ("to_json", [])]

/-- Objects that convert themselves, if they do, to others like these, and keep what is so. -/
structure Dispatch.Respects (d : Dispatch) (R : Store → Prop) (W : Value → Prop) : Prop where
  reads : ∀ u, W u → ∀ asked ∈ Act.conversions, Act.Keeps R (d.read u asked.1)
  calls : ∀ u, W u → ∀ asked ∈ Act.conversions,
    Act.Brings R (Value.Within W) (d.call .never u asked.1 [] asked.2)
  notes : ∀ message, Act.Keeps R (Act.note .debug .storedForm message)
  structs : ∀ u, W u → ∀ st, R st → (st.struct? u).isSome →
    R ((Act.asEntries Act.deepest u).outcome st).2 ∧
      ∀ w, ((Act.asEntries Act.deepest u).outcome st).1 = .ok w → w.Within W
  instances : ∀ c j, W (.handle (.document c j)) → ∀ st, R st → (st.documentAt j).fields.Within W
  shared : ∀ u, W u → ∀ st, R st → (st.current u).Within W

namespace Act

open Value

section

variable {d : Dispatch} {R : Store → Prop} {W : Value → Prop} {store : Value → Act Value} {u : Value}

variable (respects : d.Respects R W)
include respects

theorem Brings.storeObject_of (is : W u) (object : u.isObject)
    (stores : ∀ v : Value, v.Within W → Brings R (Normal W) (store v)) :
    Brings R (Normal W) (Act.storeObject d store u) := by
  have converted (name : String) (named : Entries) (known : (name, named) ∈ conversions) :
      Brings R (Normal W) (Act.converted d store u name named) :=
    (respects.calls u is _ known).bind stores
  unfold Act.storeObject
  refine .bind (P := fun _ => True)
    (Keeps.offersCall_of (respects.reads u is _ (.head _))).brings fun dumps _ => ?_
  split
  · refine .tryCatch (converted _ _ (.head _)) fun e => ?_
    split
    · exact .bind (P := fun _ => True) (respects.notes _).brings fun _ _ =>
        converted _ _ (.tail _ (.head _))
    · exact .throw e
  refine .bind (P := fun _ => True)
    (Keeps.offersCall_of (respects.reads u is _ (.tail _ (.tail _ (.head _))))).brings
      fun converts _ => ?_
  split
  · refine .bind (P := fun _ => True) (Keeps.brings fun _ here => here) fun now _ => ?_
    split
    · split
      · rename_i c j _
        intro st here
        rw [outcome_bind_ok (outcome_document j st)]
        exact Brings.bind (stores _ (respects.instances c j is st here))
          (fun w normal => stores w normal.within) st here
      · exact converted _ _ (.tail _ (.tail _ (.head _)))
    · exact converted _ _ (.tail _ (.tail _ (.head _)))
  · have current : Brings R (Normal W) (do store ((← get).current u)) := by
      intro st here
      rw [outcome_bind_ok (outcome_get st)]
      exact stores _ (respects.shared u is st here) st here
    split
    · exact current
    · exact current
    · exact current
    · exact .pure (normal_object object is)

theorem Brings.prepareTo_of (n : Nat) (v : Value) (within : v.Within W) :
    Brings R (Normal W) (Act.prepareTo d n v) := by
  induction n generalizing v with
  | zero => exact .throw _
  | succ n ih =>
    rw [prepareTo_succ]
    refine .stored_within (fun u is object st here => ?_) v within
    cases data : st.struct? u with
    | none =>
      rw [outcome_convertTo_object data]
      exact Brings.storeObject_of respects is object ih st here
    | some es =>
      rw [outcome_convertTo_struct data]
      obtain ⟨kept, are⟩ := respects.structs u is st here (by rw [data]; rfl)
      rcases done : (asEntries deepest u).outcome st with ⟨e | w, after⟩ <;> rw [done] at kept are
      · rw [outcome_bind_error done]
        exact ⟨kept, nofun⟩
      · rw [outcome_bind_ok done]
        exact ih w (are w rfl) after kept

end

end Act

/-- An instance once it is stored: it is not new, and if it was, it has an id. -/
structure Document.Saved (x y : Document) : Prop where
  model : y.model = x.model
  old : y.isNew.truthy = false
  fields : ∃ key, key ≠ .null ∧
    y.fields = if x.isNew.truthy then x.fields.keyed key else x.fields

/-- An instance and every stored document are as they were. -/
structure Store.Intact (st : Store) (i : Nat) (after : Store) : Prop where
  document : after.documentAt i = st.documentAt i
  present : st.documents.size ≤ after.documents.size
  preserves : st.Preserves after

namespace Act

open Store

section

variable {d : Dispatch} {names : Names} {n : Nat} {st mid after : Store} {i j : Nat}
variable {es fs : Entries} {key plain v : Value}

/-- A mapping is stored as a dictionary, without an id if it had none. -/
theorem outcome_prepare_entries (entries : v.entries? = some fs)
    (done : (prepare d v).outcome st = (.ok plain, after)) :
    ∃ es : Entries, plain = .dict es ∧ (fs.field? "_id" = none → es.field? "_id" = none) := by
  have same : prepare d v = prepare d (.dict fs) := by
    cases v <;> cases entries <;> rfl
  rw [same] at done
  obtain ⟨convert, stored⟩ := prepare_dict d
  have whole := done
  rw [stored] at done
  obtain ⟨es, mid, -, last⟩ := outcome_bind_eq_ok done
  cases last
  exact ⟨es, rfl, (outcome_prepare whole).2.1 "_id"⟩

/-- An instance is inserted and takes its id, or nothing is stored. -/
theorem outcome_saveNew_any (h : st.Intact i mid) (present : i < st.documents.size)
    (numbered : mid.registry.Numbered)
    (stores : mid.usual (.handle (.collection j)) (.known "MockCollection") "insert_one" ∨
      mid.Refuses (.collection j) "insert_one")
    (entries : (st.documentAt i).fields.entries? = some fs) (isNew : (st.documentAt i).isNew.truthy)
    (free : fs.field? "_id" = none → es.field? "_id" = none) :
    ∃ r after,
      (saveNew (dispatch names n) i (.handle (.collection j)) (.dict es)).outcome mid = (r, after) ∧
      ((∃ e, r = .error e ∧ st.Intact i after) ∨
        r = .ok () ∧ (st.documentAt i).Saved (after.documentAt i)) := by
  obtain usual | refuses := stores
  case inr =>
    obtain ⟨e, refused⟩ :=
      outcome_call_refused refuses names n .always [.dict es] ([] : List (Value × Value))
    have through : (insertThrough (dispatch names n) (.handle (.collection j)) (.dict es)).outcome
        mid = (.error e, mid) := by
      rw [insertThrough, outcome_bind_ok (outcome_get mid), if_neg refuses.not_usual]
      exact outcome_bind_error refused
    rw [saveNew]
    exact ⟨_, _, outcome_bind_error through, .inl ⟨e, rfl, h⟩⟩
  obtain ⟨r, inserted, done, documents, went⟩ := outcome_insertOne_any h.preserves numbered j es
  have there : i < mid.documents.size := Nat.lt_of_lt_of_le present h.present
  have document : inserted.documentAt i = st.documentAt i :=
    (getD_prefix_eq documents there _).trans h.document
  have more : st.documents.size ≤ inserted.documents.size :=
    Nat.le_trans h.present documents.length_le
  have through : (insertThrough (dispatch names n) (.handle (.collection j)) (.dict es)).outcome
      mid = (r, inserted) := by
    rw [insertThrough, outcome_bind_ok (outcome_get mid), if_pos usual, done]
  rw [saveNew]
  obtain ⟨e, rfl, preserves⟩ | ⟨key, rfl, filled⟩ := went
  · exact ⟨_, _, outcome_bind_error through, .inl ⟨e, rfl, document, more, preserves⟩⟩
  · have filled (none : fs.field? "_id" = none) : key ≠ .null := filled (free none)
    rw [outcome_bind_ok through, outcome_bind_ok (outcome_document i inserted), document,
      outcome_bind_ok (outcome_withKey_entries entries filled inserted)]
    let made : Document :=
      { st.documentAt i with fields := (st.documentAt i).fields.keyed key, isNew := .bool false }
    let kept : Store := { inserted with documents := inserted.documents.setIfInBounds i made }
    rw [outcome_bind_ok (show (setDocument i made).outcome inserted = (.ok (), kept) from rfl)]
    have at_i : kept.documentAt i = made := by
      simp [kept, Store.documentAt, Array.getD_eq_getD_getElem?, Nat.lt_of_lt_of_le present more]
    simp only [Entries.entries?_keyed entries, noteSaved, note, outcome_noteIn]
    refine ⟨_, _, rfl, .inr ⟨rfl, ?_⟩⟩
    rw [documentAt_noted, at_i]
    refine ⟨rfl, rfl, ?_⟩
    simp only [if_pos isNew]
    cases here : fs.field? "_id" with
    | none => exact ⟨key, filled here, rfl⟩
    | some v =>
      refine ⟨.bool true, by simp, ?_⟩
      change (st.documentAt i).fields.keyed key = _
      rw [Entries.value_keyed_some entries here, Entries.value_keyed_some entries here]

/-- An instance is updated and stays what it is, or nothing is stored. -/
theorem outcome_saveStored_any (h : st.Intact i mid)
    (stores : mid.usual (.handle (.collection j)) (.known "MockCollection") "update_one" ∨
      mid.Refuses (.collection j) "update_one")
    (old : ¬(st.documentAt i).isNew.truthy) :
    ∃ r after, (saveStored (dispatch names n) i (.handle (.collection j)) (.dict es)).outcome mid =
        (r, after) ∧
      ((∃ e, r = .error e ∧ st.Intact i after) ∨
        r = .ok () ∧ (st.documentAt i).Saved (after.documentAt i)) := by
  have asked : updateReadFirst (dispatch names n) (.handle (.collection j)) =
      pure (updateThrough (dispatch names n) (.handle (.collection j))) := rfl
  rw [saveStored, show changesOf (.dict es) = .ok es.withoutKey from rfl,
    outcome_bind_ok (outcome_ofExcept ..), outcome_bind_ok (outcome_document i mid), asked,
    pure_bind]
  cases fieldOf (mid.documentAt i).fields "_id" with
  | error e =>
    rw [outcome_bind_error (outcome_ofExcept ..)]
    exact ⟨_, _, rfl, .inl ⟨e, rfl, h⟩⟩
  | ok id =>
    obtain ⟨r, after, updated, aside, failed⟩ :=
      outcome_updateOne_any h.preserves j (.dict [(.str "_id", id)]) es.withoutKey
    have documents : after.documents = mid.documents := documents_of_aside aside
    have document : after.documentAt i = st.documentAt i := by
      rw [Store.documentAt, documents]
      exact h.document
    rw [outcome_bind_ok (outcome_ofExcept ..), updateThrough]
    obtain usual | refuses := stores
    case inr =>
      obtain ⟨e, refused⟩ := outcome_call_refused refuses names n .always
        [.dict [(.str "_id", id)], .dict [(.str "$set", .dict es.withoutKey)]]
        ([] : List (Value × Value))
      have through : (callOr (dispatch names n) .always (.handle (.collection j))
          (.known "MockCollection") "update_one"
          [.dict [(.str "_id", id)], .dict [(.str "$set", .dict es.withoutKey)]] []
          (do return .bool (← updateOne j (.dict [(.str "_id", id)])
            (.dict [(.str "$set", .dict es.withoutKey)])))).outcome mid = (.error e, mid) := by
        rw [callOr, outcome_bind_ok (outcome_get mid), if_neg refuses.not_usual, refused]
      exact ⟨_, _, outcome_bind_error (outcome_bind_error through), .inl ⟨e, rfl, h⟩⟩
    rw [outcome_bind, outcome_bind, outcome_callOr_usual usual]
    cases r with
    | error e =>
      rw [outcome_bind_error updated]
      exact ⟨_, _, rfl, .inl ⟨e, rfl, document, documents ▸ h.present, failed e rfl⟩⟩
    | ok b =>
      rw [outcome_bind_ok updated]
      simp only [noteSaved, note, outcome_pure, outcome_noteIn]
      refine ⟨_, _, rfl, .inr ⟨rfl, ?_⟩⟩
      rw [documentAt_noted, document]
      exact ⟨rfl, by simpa using old, .bool true, by simp, by rw [if_neg old]⟩

end

end Act

section

open Act

variable {names : Names} {n : Nat} {R : Store → Prop} {W : Value → Prop} {st : Store} {i : Nat}
variable {fs : Entries}

/-- A store but for what is beyond it. -/
theorem Store.eq_of_beyond {σ : Store} (same : σ.beyond = st.beyond) :
    σ = { st with
      cursors := σ.cursors, sources := σ.sources, promises := σ.promises, streams := σ.streams
      notes := σ.notes, identities := σ.identities } := by
  cases σ
  cases st
  simp_all [Store.beyond]

/-- An object that raises whenever it is to convert itself. -/
def raiser : Handle := .record .specimen (.known "Raiser") 0

/-- A new post with an object in it that cannot be stored. -/
def Store.raising : Store := { posts [] with
  records := #[[(.str "kind", .str "ValueError"), (.str "msg", .str "no")]]
  documents := #[{
    model := .model 1
    fields := .dict [(.str "title", .str "old"), (.str "r", .handle raiser)]
    isNew := .bool true }] }

theorem Store.housed_raising : raising.Housed := by
  intro t there e member s same
  obtain rfl : t = 0 := Nat.lt_one_iff.mp there
  rw [List.mem_singleton.mp member] at same
  cases same
  exact Nat.one_pos

theorem Store.saves_raising {σ : Store} (same : σ.beyond = raising.beyond) :
    σ.Saves (.model 1) 0 := by
  rw [eq_of_beyond same]
  refine ⟨?_, rfl, rfl, rfl, ?_, ?_, fun _ => .inl rfl, fun _ => .inl rfl⟩
  · intro e member
    rw [List.mem_singleton.mp member]
    exact Nat.one_pos
  · rintro _ ⟨⟩
    refine ⟨0, rfl, rfl, .inr ⟨0, rfl, rfl⟩, ?_⟩
    rintro _ ⟨⟩
    exact nofun
  · rintro _ ⟨⟩
    exact ⟨_, rfl⟩

theorem respects_raiser :
    (dispatch [] 4).Respects (fun σ => σ.beyond = Store.raising.beyond) (· = .handle raiser) where
  reads u is asked known σ here := by
    subst is
    rw [Store.eq_of_beyond here]
    simp only [conversions, List.mem_cons, List.not_mem_nil, or_false] at known
    rcases known with rfl | rfl | rfl <;> rfl
  calls u is asked known σ here := by
    subst is
    rw [Store.eq_of_beyond here]
    simp only [conversions, List.mem_cons, List.not_mem_nil, or_false] at known
    rcases known with rfl | rfl | rfl <;> exact ⟨rfl, fun _ done => (by cases done)⟩
  notes message σ here := by
    simp only [note, outcome_noteIn, Store.beyond_noted]
    exact here
  structs u is := by
    subst is
    intro σ here data
    cases data
  instances c j is := by cases is
  shared u is σ here := by
    subst is
    exact Value.within_object rfl rfl

/-- A new post with an object in it that starts the post anew when it is converted, before another
one raises. -/
def Store.restarting : Store := { raising with
  records := raising.records.push [(.str "x", .int 1)]
  documents := #[{
    model := .model 1
    fields := .dict [(.str "title", .str "old"),
      (.str "o", .handle (.record .specimen (.known "ToJson") 1)), (.str "r", .handle raiser)]
    isNew := .bool true }]
  extras := [((.handle (.record .specimen (.known "ToJson") 1), "to_json"),
    .object none (.bound (.handle (.document (.model 1) 0)) (.handle (.routine .root "__init__"))))] }

end

end DocMapper
