import DocMapper.Proofs.Sourcing
import DocMapper.Proofs.Storing

/-!
What a lookup accepts.  It joins by equal fields or by a pipeline, never by both; what is accepted
says which keys the stage has, and in which order.
-/

namespace DocMapper

namespace Grammar

/-- What either way to join asks for: a collection to read, and a name for what is found. -/
structure Aim (st : Store) (spec : Value) (es : Entries) (name model : Value) (title : String)
    (mid : Store) : Prop where
  mapping : spec.entries? = some es
  source : ∃ v, es.field? "from" = some v ∧ Source st v name model mid
  target : es.field? "as" = some (.str title)
  titled : title ≠ ""

/-- The variables of a lookup, if it is given any. -/
inductive Bindings (es : Entries) : Entries → Prop
  | none (absent : es.field? "let" = .none) : Bindings es []
  | given {v : Value} {ls : Entries} (given : es.field? "let" = some v)
      (mapping : v.entries? = some ls) : Bindings es [(.str "let", .dict ls)]

/-- The two ways to join, and what the stage is made of in either. -/
inductive Way (d : Dispatch) (c : ClassRef) (es : Entries) (name model : Value) (title : String)
    (st : Store) : Entries → Store → Prop
  | fields {here there : Value} (near : es.field? "localField" = some here)
      (far : es.field? "foreignField" = some there) :
      Way d c es name model title st [(.str "from", name), (.str "localField", here),
        (.str "foreignField", there), (.str "as", .str title)] st
  | pipeline {bs : Entries} {inner stages : Value} {after : Store}
      (apart : es.field? "localField" = none) (given : es.field? "pipeline" = some inner)
      (bindings : Bindings es bs) (nested : Nested d c model st inner stages after) :
      Way d c es name model title st ([(.str "from", name)] ++ bs ++
        [(.str "pipeline", stages), (.str "as", .str title)]) after

/-- What a lookup may be given, and what its stage is made of. -/
def Lookup (d : Dispatch) (c : ClassRef) (st : Store) (spec : Value) (body : Entries)
    (after : Store) : Prop :=
  ∃ es name model title mid, Aim st spec es name model title mid ∧
    Way d c es name model title mid body after

end Grammar

namespace Act

/-- The end of a lookup by a pipeline, which may have variables. -/
def pipelineJoin (d : Dispatch) (self inner name model : Value) (title : String)
    (bindings : Entries) : Act Value := do
  let stages ← nestedStages d self "lookup() pipeline" model inner
  return Stage.ofOperator "$lookup" (.dict ([(.str "from", name)] ++ bindings ++
    [(.str "pipeline", stages), (.str "as", .str title)]))

/-- The part of a lookup that differs between the ways to join. -/
def joinedStage (d : Dispatch) (self : Value) (es : Entries) (source name : Value)
    (title : String) : Act Value := do
  let stage (body : Entries) := Stage.ofOperator "$lookup" (.dict body)
  match es.field? "localField" with
  | some here =>
    let some there := es.field? "foreignField" | throw .lookupWithoutForeign
    return stage [(.str "from", name), (.str "localField", here), (.str "foreignField", there),
      (.str "as", .str title)]
  | none =>
    let some inner := es.field? "pipeline" | throw .lookupWithoutForm
    let model ← sourceModel source
    match es.field? "let" with
    | some v => do
      let ls ← ofExcept (Argument.mapping "lookup() 'let'" v)
      pipelineJoin d self inner name model title [(.str "let", .dict ls)]
    | none => pipelineJoin d self inner name model title []

theorem lookupStage_eq (d : Dispatch) (self spec : Value) :
    lookupStage d self spec = (do
      let es ← ofExcept (Argument.mapping "lookup() spec" spec)
      let some source := es.field? "from" | throw .lookupWithoutFrom
      let some title := (es.field? "as").bind Value.name? | throw .lookupWithoutAs
      let name ← resolveCollection d source "lookup()"
      joinedStage d self es source name title) := rfl

end Act

namespace Grammar

variable {d : Dispatch} {names : Names} {n : Nat} {st mid after : Store} {c : ClassRef} {i : Nat}
variable {p : Pipeline} {spec source name model s : Value} {es bs body : Entries} {title : String}

theorem outcome_pipelineJoin_eq_ok (h : st.Stages c i p) {inner : Value} :
    (Act.pipelineJoin d (.handle (.pipeline c i)) inner name model title bs).outcome st =
        (.ok s, after) ↔
      ∃ stages, Nested d c model st inner stages after ∧
        s = Stage.ofOperator "$lookup" (.dict ([(.str "from", name)] ++ bs ++
          [(.str "pipeline", stages), (.str "as", .str title)])) := by
  rw [Act.pipelineJoin]
  constructor
  · intro made
    obtain ⟨stages, last, nested, made⟩ := Act.outcome_bind_eq_ok made
    cases made
    rw [Act.outcome_nestedStages h] at nested
    exact ⟨stages, (outcome_nestedFor_eq_ok _).mp nested, rfl⟩
  · rintro ⟨stages, nested, rfl⟩
    rw [← outcome_nestedFor_eq_ok "lookup() pipeline", ← Act.outcome_nestedStages h]
      at nested
    exact Act.outcome_bind_ok nested

theorem outcome_joinedStage_eq_ok (h : mid.Stages c i p)
    (sourced : Source st source name model mid) :
    (Act.joinedStage d (.handle (.pipeline c i)) es source name title).outcome mid =
        (.ok s, after) ↔
      ∃ body, s = Stage.ofOperator "$lookup" (.dict body) ∧
        Way d c es name model title mid body after := by
  unfold Act.joinedStage
  constructor
  · intro made
    cases near : es.field? "localField" with
    | some here =>
      rw [near] at made
      cases far : es.field? "foreignField" with
      | none =>
        rw [far] at made
        cases made
      | some there =>
        rw [far] at made
        cases made
        exact ⟨_, rfl, .fields near far⟩
    | none =>
      rw [near] at made
      cases given : es.field? "pipeline" with
      | none =>
        rw [given] at made
        cases made
      | some inner =>
        rw [given] at made
        simp only at made
        rw [Act.outcome_bind_ok sourced.bound] at made
        obtain ⟨bs, bindings, made⟩ : ∃ bs, Bindings es bs ∧
            (Act.pipelineJoin d (.handle (.pipeline c i)) inner name model title bs).outcome mid =
              (.ok s, after) := by
          cases bound : es.field? "let" with
          | none =>
            rw [bound] at made
            exact ⟨[], .none bound, made⟩
          | some v =>
            rw [bound] at made
            cases mapping : v.entries? with
            | none =>
              simp only [Argument.mapping, mapping] at made
              cases made
            | some ls =>
              simp only [Argument.mapping_eq_ok.mpr mapping] at made
              exact ⟨_, .given bound mapping, made⟩
        obtain ⟨stages, nested, rfl⟩ := (outcome_pipelineJoin_eq_ok h).mp made
        exact ⟨_, rfl, .pipeline near given bindings nested⟩
  · rintro ⟨body, rfl, way⟩
    cases way with
    | fields near far =>
      simp only [near, far]
      rfl
    | pipeline apart given bindings nested =>
      simp only [apart, given]
      rw [Act.outcome_bind_ok sourced.bound]
      cases bindings with
      | none absent =>
        rw [absent]
        exact (outcome_pipelineJoin_eq_ok h).mpr ⟨_, nested, rfl⟩
      | given bound mapping =>
        rw [bound]
        simp only [Argument.mapping_eq_ok.mpr mapping]
        exact (outcome_pipelineJoin_eq_ok h).mpr ⟨_, nested, rfl⟩

/-- What is accepted by a lookup, and the stage that is made of it. -/
theorem outcome_lookupStage_eq_ok (h : st.Stages c i p) :
    (Act.lookupStage (dispatch names (n + 1)) (.handle (.pipeline c i)) spec).outcome st =
        (.ok s, after) ↔
      ∃ body, s = Stage.ofOperator "$lookup" (.dict body) ∧
        Lookup (dispatch names (n + 1)) c st spec body after := by
  rw [Act.lookupStage_eq]
  constructor
  · intro made
    cases mapping : spec.entries? with
    | none =>
      simp only [Argument.mapping, mapping] at made
      cases made
    | some es =>
    rw [Argument.mapping_eq_ok.mpr mapping, Act.outcome_bind_ok (Act.outcome_ofExcept ..)] at made
    cases given : es.field? "from" with
    | none =>
      rw [given] at made
      cases made
    | some source =>
    rw [given] at made
    cases target : (es.field? "as").bind Value.name? with
    | none =>
      rw [target] at made
      cases made
    | some title =>
    rw [target] at made
    obtain ⟨u, found, named⟩ := Option.bind_eq_some_iff.mp target
    obtain ⟨rfl, titled⟩ := Value.name?_eq_some.mp named
    obtain ⟨name, mid, resolved, made⟩ := Act.outcome_bind_eq_ok made
    obtain ⟨model, sourced⟩ := outcome_resolveCollection_eq_ok.mp resolved
    obtain ⟨body, rfl, way⟩ :=
      (outcome_joinedStage_eq_ok (sourced.retains.stages h) sourced).mp made
    exact ⟨body, rfl, es, name, model, title, mid, ⟨mapping, ⟨source, given, sourced⟩, found, titled⟩,
      way⟩
  · rintro ⟨body, rfl, es, name, model, title, mid, aim, way⟩
    obtain ⟨source, given, sourced⟩ := aim.source
    have target : (es.field? "as").bind Value.name? = some title := by
      rw [aim.target]
      exact Value.name?_eq_some.mpr ⟨rfl, aim.titled⟩
    rw [Argument.mapping_eq_ok.mpr aim.mapping, Act.outcome_bind_ok (Act.outcome_ofExcept ..)]
    simp only [given, target]
    rw [Act.outcome_bind_ok (sourced.resolves names n _)]
    exact (outcome_joinedStage_eq_ok (sourced.retains.stages h) sourced).mpr ⟨body, rfl, way⟩

theorem Lookup.keyed (lookup : Lookup d c st spec body after) : body.Texts := by
  obtain ⟨es, name, model, title, mid, -, way⟩ := lookup
  cases way with
  | fields => simp [Entries.Texts]
  | pipeline _ _ bindings => cases bindings <;> simp [Entries.Texts]

/-- What a collection is called, and what the documents found are put under, are texts. -/
theorem Lookup.texts (lookup : Lookup d c st spec body after) (texts : st.registry.Texts)
    (known : ∀ es, spec.entries? = some es → ∀ v, es.field? "from" = some v →
      (∃ s, v = .str s) ∨ ∃ k : ClassRef, v = .cls k ∧ k.isModel) :
    ∃ s t, s ≠ "" ∧ t ≠ "" ∧ body.field? "from" = some (.str s) ∧
      body.field? "as" = some (.str t) := by
  obtain ⟨es, name, model, title, mid, aim, way⟩ := lookup
  obtain ⟨v, given, sourced⟩ := aim.source
  obtain ⟨s, rfl, named⟩ := sourced.text texts (known es aim.mapping v given)
  refine ⟨s, title, named, aim.titled, ?_⟩
  cases way with
  | fields => exact ⟨rfl, rfl⟩
  | pipeline _ _ bindings => cases bindings <;> exact ⟨rfl, rfl⟩

end Grammar

theorem Value.Copied.dict {es : Entries} {u : Value} (copied : (Value.dict es).Copied u) :
    ∃ cs, es.Copied cs ∧ u = .dict cs := by
  obtain ⟨css, rfl⟩ := copied
  exact ⟨_, ⟨css, rfl⟩, redone_dict css es⟩

theorem Value.Copied.operator {operator : String} {body u : Value}
    (copied : (Stage.ofOperator operator body).Copied u) :
    ∃ stored, body.Copied stored ∧ u = Stage.ofOperator operator stored := by
  obtain ⟨css, rfl⟩ := copied
  refine ⟨_, ⟨css, rfl⟩, ?_⟩
  rw [Stage.ofOperator, redone_dict, Entries.mapBoth, List.map_singleton,
    redone_plain (.str operator)]
  rfl

namespace Entries.Copied

variable {es cs : Entries} (copied : es.Copied cs) (texts : es.Texts)
include copied texts

theorem keys_eq : keys cs = keys es := by
  obtain ⟨css, rfl⟩ := copied
  rw [keys, mapBoth, List.map_map, keys]
  refine List.map_congr_left fun e there => ?_
  obtain ⟨s, text⟩ := texts e there
  exact (congrArg (Value.redone css) text).trans
    ((Value.redone_plain (.str s) css).trans text.symm)

theorem field?_text {name s : String} (found : es.field? name = some (.str s)) :
    cs.field? name = some (.str s) := by
  obtain ⟨css, rfl⟩ := copied
  rw [field?_mapBoth (fun t => Value.redone_plain (.str t) css) texts, found]
  exact congrArg some (Value.redone_plain (.str s) css)

end Entries.Copied

/-- The first of the three pipelines is there, and nothing was done to what is still to come. -/
def Store.Trayed (st : Store) : Prop :=
  st.Stages Act.pipelineClass 0 (trays.pipelines.getD 0 default) ∧ st.Clear

theorem Store.trayed_trays : trays.Trayed := ⟨(joins_trays rfl rfl rfl 3).stages, clear_trays⟩

theorem Store.host_trayed : Act.Host Trayed Act.pipelineClass 0 :=
  ⟨fun _ here => ⟨_, here.1⟩, fun _ _ here kept => ⟨kept.stages here.1, kept.clear here.2⟩⟩

theorem Value.guest_first (n : Nat) (deep : 2 < n) :
    Act.Guest (dispatch [] n) Store.Trayed Act.pipelineClass first :=
  Store.Settled.guest (m := 1) (fun _ here => ⟨here.2, settled_first ..⟩)
    (fun _ _ here gains => ⟨gains.stages here.1, Store.Allows.clear gains here.2⟩) (.inl rfl) deep

/-- A lookup of posts through the first of them. -/
def Value.joinFirst : Value :=
  .dict [(.str "from", .str "posts"), (.str "pipeline", .first), (.str "as", .str "latest")]

/-- A pipeline, and a cursor whose documents were not waited for. -/
def Store.waiting : Store where
  pipelines := #[{ cls := Act.pipelineClass, stages := [], model := .null }]
  cursors := #[{ kind := .aggregate, source := .handle (.promise 0) }]
  sources := #[{ pending := [] }]
  promises := #[{ promised := .source 0 }]

/-- A cursor in the place of a field. -/
def Value.joinCursor : Value :=
  .dict [(.str "from", .str "x"), (.str "localField", .handle (.cursor .aggregate 0)),
    (.str "foreignField", .str "b"), (.str "as", .str "c")]

end DocMapper
