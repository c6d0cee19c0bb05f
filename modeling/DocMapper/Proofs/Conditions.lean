import DocMapper.Proofs.Storing

/-!
Conditions one after another.  Criteria hold if every entry is met, and an operator document if every
operator is; both are conjunctions in which a later part is asked for only if the earlier ones hold.
-/

namespace DocMapper

namespace Entries

/-- Entries without the first under a key. -/
def without (es : Entries) (k : Value) : Entries :=
  es.eraseP fun e => e.1.same k

/-- Entries around the first under a key, if there is any. -/
theorem around (es : Entries) (k : Value) :
    (get? es k = none ∧ es.without k = es ∧ ∀ v, es.put k v = es ++ [(k, v)]) ∨
      ∃ fs l w gs, es = fs ++ (l, w) :: gs ∧ l.same k ∧ get? es k = some w ∧
        es.without k = fs ++ gs ∧ ∀ v, es.put k v = fs ++ (l, v) :: gs := by
  induction es with
  | nil => exact .inl ⟨rfl, rfl, fun _ => rfl⟩
  | cons e es ih =>
    obtain ⟨l, w⟩ := e
    by_cases here : l.same k
    · exact .inr ⟨[], l, w, es, rfl, here, by simp [get?, here], by simp [without, here],
        fun v => by simp [put, here]⟩
    have later : get? ((l, w) :: es) k = get? es k := by simp [get?, here]
    have rest : without ((l, w) :: es) k = (l, w) :: without es k := by simp [without, here]
    have puts (v : Value) : put ((l, w) :: es) k v = (l, w) :: put es k v := by simp [put, here]
    obtain ⟨absent, same, after⟩ | ⟨fs, m, u, gs, rfl, found, under, erased, replaced⟩ := ih
    · exact .inl ⟨later.trans absent, by rw [rest, same], fun v => by rw [puts, after]; rfl⟩
    · exact .inr ⟨(l, w) :: fs, m, u, gs, rfl, found, later.trans under, by rw [rest, erased]; rfl,
        fun v => by rw [puts, replaced]; rfl⟩

/-- What is put under a key leaves the other entries alone. -/
theorem without_put (es : Entries) {k : Value} (v : Value) (same : k.same k) :
    (es.put k v).without k = es.without k := by
  induction es with
  | nil => simp [put, without, same]
  | cons e es ih =>
    obtain ⟨l, w⟩ := e
    by_cases here : l.same k
    · simp [put, without, here]
    · simpa [put, without, here] using ih

/-- The keys after something was put are those that were there, and at most the one it is under. -/
theorem all_put {p : Value → Bool} {es : Entries} {k : Value} (v : Value)
    (old : es.all fun e => p e.1) (new : p k) : (es.put k v).all fun e => p e.1 := by
  obtain ⟨-, -, put⟩ | ⟨fs, l, w, gs, rfl, -, -, -, put⟩ := es.around k
  · rw [put, List.all_append, old]
    simpa using new
  · rw [put]
    simpa using old

theorem put_ne_nil (es : Entries) (k v : Value) : es.put k v ≠ [] := by
  obtain ⟨-, -, put⟩ | ⟨fs, l, w, gs, -, -, -, -, put⟩ := es.around k <;> simp [put]

section

variable {f : Value → Value} {es : Entries} {k : Value}

theorem get?_mapBoth (keys : ∀ e ∈ es, f e.1 = e.1) (k : Value) :
    get? (mapBoth f es) k = (get? es k).map f := by
  induction es with
  | nil => rfl
  | cons e es ih =>
    obtain ⟨here, later⟩ := List.forall_mem_cons.mp keys
    have ih := ih later
    simp only [get?, mapBoth, List.map_cons, List.find?_cons, here] at ih ⊢
    split
    · rfl
    · exact ih

theorem mapBoth_put (keys : ∀ e ∈ es, f e.1 = e.1) (key : f k = k) (v : Value) :
    mapBoth f (es.put k v) = (mapBoth f es).put k (f v) := by
  induction es with
  | nil => simp [mapBoth, put, key]
  | cons e es ih =>
    obtain ⟨here, later⟩ := List.forall_mem_cons.mp keys
    have ih := ih later
    simp only [mapBoth, put, List.map_cons, here] at ih ⊢
    split
    · simp [here]
    · simpa [here] using ih

theorem mapBoth_without (keys : ∀ e ∈ es, f e.1 = e.1) (k : Value) :
    mapBoth f (es.without k) = (mapBoth f es).without k := by
  induction es with
  | nil => rfl
  | cons e es ih =>
    obtain ⟨here, later⟩ := List.forall_mem_cons.mp keys
    have ih := ih later
    simp only [mapBoth, without, List.map_cons, List.eraseP_cons, here] at ih ⊢
    cases e.1.same k with
    | true => rfl
    | false => simpa [here] using ih

end

end Entries

namespace Criteria

/-- Both of two tests, the second only if the first is passed. -/
def both (x y : Except Fault Bool) : Except Fault Bool := do
  if ← x then y else return false

@[simp] theorem both_true (y : Except Fault Bool) : both (.ok true) y = y := rfl

@[simp] theorem both_false (y : Except Fault Bool) : both (.ok false) y = .ok false := rfl

@[simp] theorem both_error (e : Fault) (y : Except Fault Bool) : both (.error e) y = .error e := rfl

@[simp] theorem both_ok_true (x : Except Fault Bool) : both x (.ok true) = x := by
  rcases x with e | b
  · rfl
  · cases b <;> rfl

theorem both_assoc (x y z : Except Fault Bool) : both (both x y) z = both x (both y z) := by
  rcases x with e | b
  · rfl
  · cases b <;> rfl

theorem both_ok (a b : Bool) : both (.ok a) (.ok b) = .ok (a && b) := by
  cases a <;> rfl

/-- A test in the middle may be narrowed by a condition that is decided. -/
theorem both_narrowed {x y y' z : Except Fault Bool} {r t : Bool}
    (narrower : ∀ b, y = .ok b → y' = .ok (b && t)) (h : both x (both y z) = .ok r) :
    both x (both y' z) = .ok (r && t) := by
  rcases x with e | a
  · cases h
  cases a with
  | false =>
    cases h
    rfl
  | true =>
    rw [both_true] at h ⊢
    rcases y with e | b
    · cases h
    rw [narrower b rfl]
    cases b with
    | false =>
      cases h
      rfl
    | true =>
      rw [both_true] at h
      rw [h, both_ok, Bool.true_and, Bool.and_comm]

/-- What one entry of criteria asks of a document. -/
def meets (doc key expected : Value) : Except Fault Bool :=
  match key, expected with
  | .str "$and", .list xs => holdsAll doc xs
  | .str "$and", .tuple xs => holdsAll doc xs
  | .str "$and", v => oddBranches v true
  | .str "$or", .list xs => holdsAny doc xs
  | .str "$or", .tuple xs => holdsAny doc xs
  | .str "$or", v => oddBranches v false
  | k, v => holdsAt doc k v

theorem meets_field {f : String} (and_ : f ≠ "$and") (or_ : f ≠ "$or") (doc v : Value) :
    meets doc (.str f) v = holdsAt doc (.str f) v := by
  unfold meets
  split <;> simp_all

@[simp] theorem holdsEach_nil (doc : Value) : holdsEach doc [] = .ok true := by
  simp [holdsEach]

theorem holdsEach_cons (doc k v : Value) (es : Entries) :
    holdsEach doc ((k, v) :: es) = both (meets doc k v) (holdsEach doc es) := by
  rw [holdsEach.eq_def]
  split <;> simp_all [both, meets]

theorem holdsEach_append (doc : Value) (es fs : Entries) :
    holdsEach doc (es ++ fs) = both (holdsEach doc es) (holdsEach doc fs) := by
  induction es with
  | nil => simp
  | cons e es ih =>
    obtain ⟨k, v⟩ := e
    rw [List.cons_append, holdsEach_cons, ih, ← both_assoc, ← holdsEach_cons]

theorem testAll_cons (actual : Value) (held : Bool) (e : Value × Value) (es : Entries) :
    testAll actual held (e :: es) =
      both (testAll actual held [e]) (testAll actual held es) := by
  obtain ⟨k, v⟩ := e
  cases k
  case str s =>
    simp only [testAll]
    cases Operator.ofKey? s with
    | none => rfl
    | some op => exact congrArg (both · _) (both_ok_true _).symm
  all_goals rfl

theorem testAll_append (actual : Value) (held : Bool) (es fs : Entries) :
    testAll actual held (es ++ fs) =
      both (testAll actual held es) (testAll actual held fs) := by
  induction es with
  | nil => rfl
  | cons e es ih =>
    rw [List.cons_append, testAll_cons, ih, ← both_assoc, ← testAll_cons]

@[simp] theorem testAll_one (actual : Value) (held : Bool) (op : Operator) (v : Value) :
    testAll actual held [(.str op.key, v)] = test op actual held v := by
  simp only [testAll, Operator.ofKey?_key]
  exact both_ok_true _

theorem holds_dict (doc : Value) (es : Entries) : holds doc (.dict es) = holdsEach doc es := by
  simp [holds]

theorem operatorKeys_eq_true {es : Entries} (h : es.all fun e => e.1.isOperatorName) :
    operatorKeys es = .ok true := by
  induction es with
  | nil => rfl
  | cons e es ih =>
    obtain ⟨k, v⟩ := e
    obtain ⟨here, later⟩ := Bool.and_eq_true_iff.mp h
    cases k
    case str s =>
      simp only [Value.isOperatorName] at here
      rw [operatorKeys, here, if_pos rfl, ih later]
    all_goals cases here

theorem isOperatorName_of_operatorKeys {es : Entries} (h : operatorKeys es = .ok true) :
    es.all fun e => e.1.isOperatorName := by
  induction es with
  | nil => rfl
  | cons e es ih =>
    obtain ⟨k, v⟩ := e
    cases k
    case str s =>
      rw [operatorKeys] at h
      split at h
      next here => exact Bool.and_eq_true_iff.mpr ⟨here, ih h⟩
      next => cases h
    all_goals cases h

/-- An operator document asks for all of its operators. -/
theorem holdsAt_operators {doc k actual : Value} {held : Bool} {es : Entries}
    (at_ : fieldOf doc k = .ok (actual, held)) (some : es ≠ [])
    (h : es.all fun e => e.1.isOperatorName) :
    holdsAt doc k (.dict es) = testAll actual held es := by
  cases es with
  | nil => exact absurd rfl some
  | cons e es =>
    rw [holdsAt, at_]
    have keys : operatorKeys (e :: es) = .ok true := operatorKeys_eq_true h
    simp [keys, bind, Except.bind]

/-- What is no operator document is asked for by equality, unless asking fails. -/
theorem holdsAt_equal {doc k actual v : Value} {held b : Bool}
    (at_ : fieldOf doc k = .ok (actual, held)) (literal : v.isOperatorDocument = false)
    (h : holdsAt doc k v = .ok b) : b = actual.equal v := by
  rw [holdsAt, at_] at h
  cases v
  case dict es =>
    cases es with
    | nil => exact (Except.ok.inj h).symm
    | cons e es =>
      obtain ⟨_, here, h⟩ := Except.of_bind_eq_ok h
      cases here
      obtain ⟨all, keys, h⟩ := Except.of_bind_eq_ok h
      cases all with
      | false => exact (Except.ok.inj h).symm
      | true =>
        have operators : (Value.dict (e :: es)).isOperatorDocument :=
          isOperatorName_of_operatorKeys keys
        simp [operators] at literal
  all_goals exact (Except.ok.inj h).symm

end Criteria

/-- Whether a dictionary is an operator document is told from its keys. -/
theorem Value.isOperatorDocument_dict (es : Entries) : (Value.dict es).isOperatorDocument =
    (!es.keys.isEmpty && es.keys.all Value.isOperatorName) := by
  cases es with
  | nil => rfl
  | cons e es =>
    rw [Entries.keys, List.all_map]
    rfl

namespace Store

/-- Whether a document satisfies criteria, both as they are seen in a store. -/
def holds (st : Store) (doc criteria : Value) : Except Fault Bool :=
  Criteria.holds (st.comparable doc) (st.comparable criteria)

theorem holds_dict (st : Store) (doc : Value) (es : Entries) :
    st.holds doc (.dict es) =
      Criteria.holdsEach (st.comparable doc) (Entries.mapBoth st.comparable es) := by
  rw [holds, comparable_dict, Criteria.holds_dict]

/-- Keys that are seen as they are. -/
def Shows (st : Store) (es : Entries) : Prop := ∀ e ∈ es, st.comparable e.1 = e.1

theorem Shows.keys {st : Store} {es : Entries} (h : st.Shows es) :
    Entries.keys (Entries.mapBoth st.comparable es) = Entries.keys es := by
  rw [Entries.mapBoth, Entries.keys, List.map_map]
  exact List.map_congr_left h

theorem comparable_str (st : Store) (s : String) : st.comparable (.str s) = .str s :=
  st.comparable_plain (.str s)

theorem Shows.field?_comparable {st : Store} {es : Entries} (h : st.Shows es) (name : String) :
    Entries.field? (Entries.mapBoth st.comparable es) name =
      (es.field? name).map st.comparable :=
  Entries.get?_mapBoth h (.str name)

end Store

end DocMapper
