import DocMapper.Proofs.Delivery
import DocMapper.Proofs.Members

/-!
Stored documents as instances of a model.  As long as a class makes and wraps its instances as
models do, each document becomes a new instance over its fields, which counts as stored.
-/

namespace DocMapper

def Document.wrapping (c : ClassRef) (x : Value) : Document :=
  { model := c, fields := .dict (x.entries?.getD []), isNew := .bool false }

namespace Store

def created (st : Store) (x : Document) : Store := { st with documents := st.documents.push x }

/-- From one store to another, documents were wrapped, each by a new instance. -/
structure Wraps (c : ClassRef) (st : Store) (xs vs : List Value) (after : Store) : Prop where
  documents : after.documents = st.documents ++ (xs.map (Document.wrapping c)).toArray
  instances : vs = (List.range' st.documents.size xs.length).map fun i => .handle (.document c i)

/-- A class whose instances are made and wrapped as those of models are. -/
structure MakesModels (st : Store) (c : ClassRef) : Prop where
  maker : ∃ m, st.registry.maker? c = some m ∧ m.owner = "Model"
  hydrate : ∃ owner m, st.registry.member? c "hydrate" = some (owner, .ofClass m)

end Store

/-- Documents were wrapped, and nothing else was done. -/
def Effect.wraps (c : ClassRef) : Effect := fun st xs vs after =>
  st.Wraps c xs vs after ∧ after.beyond = { st.beyond with documents := after.documents }

theorem Effect.adds_wraps (c : ClassRef) : (wraps c).Adds where
  none {st after} h := by
    have documents : after.documents = st.documents := by
      change after.beyond.documents = st.beyond.documents
      rw [h]
    refine ⟨⟨by simp [documents], rfl⟩, ?_⟩
    rw [h, documents]
    rfl
  append {st mid after xs ys vs ws} h k := by
    obtain ⟨first, beyond⟩ := h
    obtain ⟨second, beyond'⟩ := k
    have size : mid.documents.size = st.documents.size + xs.length := by
      rw [first.documents]
      simp
    refine ⟨⟨?_, ?_⟩, ?_⟩
    · rw [second.documents, first.documents]
      simp
    · rw [first.instances, second.instances, size, List.length_append, ← List.map_append,
        List.range'_append_1]
    · rw [beyond', beyond]
  length h := by
    rw [h.1.instances]
    simp

namespace Act

variable {d : Dispatch} {st : Store} {c : ClassRef} {x : Value} {es : Entries}

theorem outcome_createDocument (entries : x.entries? = some es) :
    (createDocument c x).outcome st = (.ok (.handle (.document c st.documents.size)),
      st.created { model := c, fields := .dict es, isNew := .bool true }) := by
  have walk : x.truthy = !es.isEmpty ∧ (entriesOf x).outcome st = (.ok es, st) := by
    cases x <;> cases entries <;> exact ⟨rfl, rfl⟩
  rw [createDocument, walk.1]
  cases es with
  | nil => rfl
  | cons e es =>
    simp only [List.isEmpty_cons, Bool.not_false, if_true]
    rw [outcome_bind_ok walk.2]
    rfl

theorem outcome_markStored (st : Store) (x : Document) :
    (markStored (.handle (.document c st.documents.size))).outcome (st.created x) =
      (.ok (), st.created { x with isNew := .bool false }) := by
  have here : (st.created x).documentAt st.documents.size = x := by
    simp [Store.created, Store.documentAt, Array.getD_eq_getD_getElem?]
  have last : ∀ y : Document, (st.documents.push x).setIfInBounds st.documents.size y =
      st.documents.push y := by
    intro y
    apply Array.ext <;> grind
  rw [markStored, outcome_bind_ok (outcome_document ..), here, setDocument, outcome_modify]
  simp only [Store.created, last]

theorem outcome_instantiate (h : st.MakesModels c) (entries : x.entries? = some es) :
    (instantiate d c x).outcome st = (.ok (.handle (.document c st.documents.size)),
      st.created { model := c, fields := .dict es, isNew := .bool true }) := by
  obtain ⟨m, maker, owner⟩ := h.maker
  have registry : (registry).outcome st = (.ok st.registry, st) := rfl
  rw [instantiate, outcome_bind_ok registry, maker]
  simp only [owner, if_true]
  exact outcome_createDocument entries

theorem outcome_hydrate (h : st.MakesModels c) (entries : x.entries? = some es) :
    (hydrate d c x).outcome st =
      (.ok (.handle (.document c st.documents.size)), st.created (.wrapping c x)) := by
  rw [hydrate, outcome_bind_ok (outcome_instantiate h entries),
    outcome_bind_ok (outcome_markStored ..), Document.wrapping, entries]
  rfl

/-- The function that wraps documents is the one of models, for this class. -/
theorem outcome_hydration (h : st.MakesModels c) :
    ∃ owner m, st.registry.ownMember? owner "hydrate" = some (.ofClass m) ∧
      (hydration d (.cls c)).outcome st =
        (.ok (.object none (.bound (.cls c) (.handle (.routine owner "hydrate")))), st) := by
  obtain ⟨owner, m, found⟩ := h.hydrate
  have member : st.member? (.cls c) "hydrate" = some (owner, .ofClass m) := found
  refine ⟨owner, m, Registry.own_of_member found, ?_⟩
  rw [hydration, outcome_bind_ok (outcome_get st), member]
  rfl

theorem outcome_applyHydration (h : st.MakesModels c) {owner : ClassRef} {m : Method}
    (own : st.registry.ownMember? owner "hydrate" = some (.ofClass m))
    (entries : x.entries? = some es) :
    (applyHydration d (.object none (.bound (.cls c) (.handle (.routine owner "hydrate")))) x).outcome
        st = (.ok (.handle (.document c st.documents.size)), st.created (.wrapping c x)) := by
  have registry : (registry).outcome st = (.ok st.registry, st) := rfl
  rw [applyHydration, hydrateAs, outcome_bind_ok registry, own]
  exact outcome_hydrate h entries

end Act

theorem Effect.wraps_created (st : Store) (c : ClassRef) (x : Value) :
    wraps c st [x] [.handle (.document c st.documents.size)] (st.created (.wrapping c x)) := by
  refine ⟨⟨?_, by simp⟩, rfl⟩
  simp [Store.created]

end DocMapper
