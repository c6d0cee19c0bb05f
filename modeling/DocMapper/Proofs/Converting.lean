import DocMapper.Proofs.Storing

/-!
Instances that hold no objects.  Their stored form is read off the fields, and nothing else happens
when they are converted.
-/

namespace DocMapper

namespace Value

/-- Data in which there is nothing to convert. -/
inductive Data : Value → Prop
  | null : Data .null
  | bool (b) : Data (.bool b)
  | int (n) : Data (.int n)
  | float (t) : Data (.float t)
  | nan (i) : Data (.nan i)
  | str (s) : Data (.str s)
  | bytes (bs) : Data (.bytes bs)
  | objectId (hex) : Data (.objectId hex)
  | dateTime (iso) : Data (.dateTime iso)
  | frozenSet (xs) : Data (.frozenSet xs)
  | list (xs) : (∀ x ∈ xs, Data x) → Data (.list xs)
  | tuple (xs) : (∀ x ∈ xs, Data x) → Data (.tuple xs)
  | set (xs) : (∀ x ∈ xs, Data x) → Data (.set xs)
  | dict (es) : (∀ e ∈ es, Data e.2) → Data (.dict es)
  | mapping (es) : (∀ e ∈ es, Data e.2) → Data (.mapping es)

/-- The stored form of data. -/
def flat (v : Value) : Value := v.stored (m := Id) pure

section

variable {m : Type → Type} [Monad m] [LawfulMonad m] {convert : Value → m Value}

theorem storedItems_flat {xs : List Value} (h : ∀ x ∈ xs, x.stored convert = pure x.flat) :
    storedItems convert xs = pure (xs.map flat) := by
  induction xs with
  | nil => rfl
  | cons x xs ih =>
    have rest := ih fun y hy => h y (List.mem_cons_of_mem x hy)
    simp [storedItems, h x List.mem_cons_self, rest]

theorem storedEntries_flat {es : Entries} (h : ∀ e ∈ es, e.2.stored convert = pure e.2.flat) :
    storedEntries convert es = pure (es.map fun e => (e.1, e.2.flat)) := by
  induction es with
  | nil => rfl
  | cons e es ih =>
    have rest := ih fun f hf => h f (List.mem_cons_of_mem e hf)
    simp [storedEntries, h e List.mem_cons_self, rest]

end

theorem flat_items (xs : List Value) : storedItems (m := Id) pure xs = xs.map flat :=
  storedItems_flat fun _ _ => rfl

theorem flat_entries (es : Entries) :
    storedEntries (m := Id) pure es = es.map fun e => (e.1, e.2.flat) :=
  storedEntries_flat fun _ _ => rfl

@[simp] theorem flat_list (xs : List Value) : flat (.list xs) = .list (xs.map flat) :=
  congrArg Value.list (flat_items xs)

@[simp] theorem flat_tuple (xs : List Value) : flat (.tuple xs) = .tuple (xs.map flat) :=
  congrArg Value.tuple (flat_items xs)

@[simp] theorem flat_set (xs : List Value) : flat (.set xs) = .list (xs.map flat) :=
  congrArg Value.list (flat_items xs)

@[simp] theorem flat_dict (es : Entries) :
    flat (.dict es) = .dict (es.map fun e => (e.1, e.2.flat)) :=
  congrArg Value.dict (flat_entries es)

@[simp] theorem flat_mapping (es : Entries) :
    flat (.mapping es) = .dict (es.map fun e => (e.1, e.2.flat)) :=
  congrArg Value.dict (flat_entries es)

theorem Data.stored {m : Type → Type} [Monad m] [LawfulMonad m] {convert : Value → m Value}
    {v : Value} (h : v.Data) : v.stored convert = pure v.flat := by
  induction h with
  | list xs _ ih => simp [Value.stored, storedItems_flat ih]
  | tuple xs _ ih => simp [Value.stored, storedItems_flat ih]
  | set xs _ ih => simp [Value.stored, storedItems_flat ih]
  | dict es _ ih => simp [Value.stored, storedEntries_flat ih]
  | mapping es _ ih => simp [Value.stored, storedEntries_flat ih]
  | _ => rfl

end Value

/-- Data that is its own copy, and in which there is nothing to convert. -/
structure Value.Simple (v : Value) : Prop where
  plain : v.Plain
  data : v.Data

namespace Value.Simple

variable {v : Value} {es fs : Entries}

theorem dict_iff : (Value.dict es).Simple ↔ ∀ e ∈ es, e.1.Plain ∧ e.2.Simple := by
  constructor
  · rintro ⟨plain, data⟩ e member
    cases plain with
    | dict _ keys values =>
      cases data with
      | dict _ data => exact ⟨keys e member, values e member, data e member⟩
  · intro each
    exact ⟨.dict _ (fun e member => (each e member).1) fun e member => (each e member).2.plain,
      .dict _ fun e member => (each e member).2.data⟩

theorem list {xs : List Value} (each : ∀ x ∈ xs, x.Simple) : (Value.list xs).Simple :=
  ⟨.list _ fun x member => (each x member).plain, .list _ fun x member => (each x member).data⟩

theorem tuple {xs : List Value} (each : ∀ x ∈ xs, x.Simple) : (Value.tuple xs).Simple :=
  ⟨.tuple _ fun x member => (each x member).plain, .tuple _ fun x member => (each x member).data⟩

/-- What data is stored as is data again. -/
theorem flat (simple : v.Simple) : v.flat.Simple := by
  obtain ⟨plain, data⟩ := simple
  induction data with
  | list xs _ ih =>
    cases plain with
    | list _ plain =>
      rw [flat_list]
      exact .list (List.forall_mem_map.mpr fun x member => ih x member (plain x member))
  | tuple xs _ ih =>
    cases plain with
    | tuple _ plain =>
      rw [flat_tuple]
      exact .tuple (List.forall_mem_map.mpr fun x member => ih x member (plain x member))
  | set xs _ ih =>
    cases plain with
    | set _ plain =>
      rw [flat_set]
      exact .list (List.forall_mem_map.mpr fun x member => ih x member (plain x member))
  | dict es _ ih =>
    cases plain with
    | dict _ keys values =>
      rw [flat_dict, dict_iff, List.forall_mem_map]
      exact fun e member => ⟨keys e member, ih e member (values e member)⟩
  | mapping es _ ih =>
    cases plain with
    | mapping _ keys values =>
      rw [flat_mapping, dict_iff, List.forall_mem_map]
      exact fun e member => ⟨keys e member, ih e member (values e member)⟩
  | _ => exact ⟨plain, by constructor⟩

end Value.Simple

namespace Entries

variable {es fs : Entries} {k v : Value}

theorem simple_put (simple : (Value.dict es).Simple) (plain : k.Plain) (value : v.Simple) :
    (Value.dict (put es k v)).Simple := by
  rw [Value.Simple.dict_iff] at simple ⊢
  induction es with
  | nil => simpa [put] using ⟨plain, value⟩
  | cons e es ih =>
    rw [List.forall_mem_cons] at simple
    rw [put]
    split
    · rw [List.forall_mem_cons]
      exact ⟨⟨simple.1.1, value⟩, simple.2⟩
    · rw [List.forall_mem_cons]
      exact ⟨simple.1, ih simple.2⟩

theorem simple_merge (simple : (Value.dict es).Simple) (more : (Value.dict fs).Simple) :
    (Value.dict (merge es fs)).Simple := by
  induction fs generalizing es with
  | nil => exact simple
  | cons f fs ih =>
    rw [Value.Simple.dict_iff, List.forall_mem_cons] at more
    exact ih (simple_put simple more.1.1 more.1.2) (Value.Simple.dict_iff.mpr more.2)

end Entries

/-- An instance is valid and gives the document that it is stored as; nothing is stored on the way. -/
structure Store.Converts (d : Dispatch) (c : ClassRef) (i : Nat) (st : Store) (es : Entries)
    (after : Store) : Prop where
  outcome : (do
    Act.validate d (.handle (.document c i))
    Act.documentJson d (.handle (.document c i))).outcome st = (.ok (.dict es), after)
  grows : st.Grows after
  same : after.documentAt i = st.documentAt i
  texts : es.Texts
  once : (Entries.keys es).Nodup

namespace Act

variable {d : Dispatch} {st : Store} {c owner : ClassRef} {i : Nat} {m f : Method} {v : Value}

theorem outcome_prepare_data (data : v.Data) (d : Dispatch) (st : Store) :
    (prepare d v).outcome st = (.ok v.flat, st) := by
  have same : prepare d v = pure v.flat := data.stored
  rw [same, outcome_pure]

theorem member?_document (bare : st.Bare (.document c i)) (name : String) :
    st.member? (.handle (.document c i)) name = st.registry.member? c name := by
  change st.registry.member? (st.classOf (.handle (.document c i))) name = _
  rw [bare.classOf]
  rfl

theorem outcome_validate (bare : st.Bare (.document c i))
    (valid : st.registry.member? c "validate" = some (owner, .method m)) :
    (validate d (.handle (.document c i))).outcome st = (.ok (), st) := by
  rw [validate, outcome_bind_ok (outcome_get st), member?_document bare, bare.extraOf?, valid]
  rfl

theorem outcome_documentJson (bare : st.Bare (.document c i))
    (json : st.registry.member? c "to_json" = some (.root, .method f)) :
    (documentJson d (.handle (.document c i))).outcome st =
      (prepare d (st.documentAt i).fields).outcome st := by
  have usual : st.usual (.handle (.document c i)) .root "to_json" := by
    simp [Store.usual, bare.extraOf?, member?_document bare, json]
  rw [documentJson, outcome_callOr_usual usual, outcome_bind_ok (outcome_document i st)]

end Act

/-- An instance of data, of a class that validates and converts it as models do, is converted without
any effect. -/
theorem Store.converts_data {d : Dispatch} {c owner : ClassRef} {i : Nat} {st : Store} {es : Entries}
    {m f : Method} (bare : st.Bare (.document c i))
    (validate : st.registry.member? c "validate" = some (owner, .method m))
    (json : st.registry.member? c "to_json" = some (.root, .method f))
    (fields : (st.documentAt i).fields = .dict es) (data : (Value.dict es).Data)
    (texts : es.Texts) (once : (Entries.keys es).Nodup) :
    st.Converts d c i (es.map fun e => (e.1, e.2.flat)) st := by
  refine ⟨?_, .refl st, rfl, ?_, ?_⟩
  · rw [Act.outcome_bind_ok (Act.outcome_validate bare validate), Act.outcome_documentJson bare json,
      fields, Act.outcome_prepare_data data, Value.flat_dict]
  · intro e he
    obtain ⟨e, there, rfl⟩ := List.mem_map.mp he
    exact texts e there
  · simpa [Entries.keys, Function.comp_def] using once

end DocMapper
