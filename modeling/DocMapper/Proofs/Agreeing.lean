import DocMapper.Proofs.Sheltering

/-!
The same stage made twice.  Nothing that a call makes its stage of depends on the stages that a
pipeline has, so the stage comes out the same wherever it is made and on whatever pipeline, as long
as what is asked for its parts comes out the same.
-/

namespace DocMapper

namespace Store

/-- Queries and pipelines may have come, and of the pipelines that there were those of `X` may have
changed; nothing else was done that builders could tell. -/
structure Allows (st : Store) (X : Nat → Prop) (after : Store) : Prop where
  setting : after.setting = st.setting
  queries : st.queries.toList <+: after.queries.toList
  grown : st.pipelines.size ≤ after.pipelines.size
  pipelines : ∀ i < st.pipelines.size, ¬X i → after.pipelines[i]? = st.pipelines[i]?

/-- Nothing was done to the builders that there were. -/
abbrev Gains (st after : Store) : Prop := st.Allows (fun _ => False) after

variable {st mid after : Store} {X : Nat → Prop} {c : ClassRef} {k : QueryKind} {i : Nat}
variable {p : Pipeline} {q : Query}

namespace Allows

theorem refl (st : Store) : st.Allows X st :=
  ⟨rfl, List.prefix_refl _, Nat.le_refl _, fun _ _ _ => rfl⟩

theorem trans (g : st.Allows X mid) (h : mid.Gains after) : st.Allows X after where
  setting := h.setting.trans g.setting
  queries := g.queries.trans h.queries
  grown := Nat.le_trans g.grown h.grown
  pipelines i there spared :=
    (h.pipelines i (Nat.lt_of_lt_of_le there g.grown) id).trans (g.pipelines i there spared)

theorem registry (g : st.Allows X after) : after.registry = st.registry :=
  congrArg Setting.registry g.setting

theorem stages (g : st.Allows X after) (spared : ¬X i) (h : st.Stages c i p) :
    after.Stages c i p :=
  h.of_setting g.setting ((g.pipelines i h.built spared).trans h.pipeline) h.instead

theorem builds (g : st.Allows X after) (h : st.Builds k i q) : after.Builds k i q := by
  have there : st.Built (.query k i) := (Array.getElem?_eq_some_iff.mp h.query).1
  exact h.of_setting g.setting ((getElem?_prefix_eq g.queries there).trans h.query) h.held h.instead

theorem clear (g : st.Allows X after) (h : st.Clear) : after.Clear := by
  refine ⟨⟨g.registry ▸ h.pristine, fun k i hi => ?_⟩, fun c i hi => ?_⟩
  · exact (h.bare k i (Nat.le_trans g.queries.length_le hi)).of_setting g.setting
  · exact (h.coming c i (Nat.le_trans g.grown hi)).of_setting g.setting

/-- What is done to one pipeline alone may be done if it is one of these, or came later. -/
theorem within (g : st.Allows X mid) (h : mid.Allows (· = i) after)
    (later : X i ∨ st.pipelines.size ≤ i) : st.Allows X after where
  setting := h.setting.trans g.setting
  queries := g.queries.trans h.queries
  grown := Nat.le_trans g.grown h.grown
  pipelines j there spared := by
    have other : j ≠ i := by
      rintro rfl
      exact later.elim spared (Nat.not_le.mpr there)
    have still : j < mid.pipelines.size := Nat.lt_of_lt_of_le there g.grown
    exact (h.pipelines j still other).trans (g.pipelines j there spared)

theorem restaged (same : after.beyond = (st.restaged i p).beyond) : st.Allows (· = i) after := by
  have queries : after.queries = st.queries := by
    change after.beyond.queries = (st.restaged i p).beyond.queries
    rw [same]
  have pipelines : after.pipelines = st.pipelines.setIfInBounds i p := by
    change after.beyond.pipelines = (st.restaged i p).beyond.pipelines
    rw [same]
  refine ⟨(setting_of_beyond same).trans rfl, queries ▸ List.prefix_refl _, ?_, ?_⟩
  · exact Nat.le_of_eq (by rw [pipelines, Array.size_setIfInBounds])
  · intro j _ other
    rw [pipelines, Array.getElem?_setIfInBounds_ne (Ne.symm other)]

end Allows

namespace Gains

theorem refl (st : Store) : st.Gains st := Allows.refl st

theorem identified (st : Store) : st.Gains st.identified :=
  ⟨rfl, List.prefix_refl _, Nat.le_refl _, fun _ _ _ => rfl⟩

theorem stages (g : st.Gains after) (h : st.Stages c i p) : after.Stages c i p :=
  Allows.stages g id h

theorem wider (g : st.Gains after) : st.Allows X after := (Allows.refl st).trans g

end Gains

end Store

namespace Act

/-- Two actions end alike: both fail, or both give the same. -/
inductive Alike (st st' : Store) (fits : α → Prop) :
    Except Fault α × Store → Except Fault α × Store → Prop
  | failed {e e' : Fault} {after after' : Store} (left : st.Gains after)
      (right : st'.Gains after') : Alike st st' fits (.error e, after) (.error e', after')
  | gave {a : α} {after after' : Store} (fit : fits a) (left : st.Gains after)
      (right : st'.Gains after') : Alike st st' fits (.ok a, after) (.ok a, after')

theorem Alike.from {st st' mid mid' : Store} {fits : α → Prop} {p q : Except Fault α × Store}
    (h : Alike mid mid' fits p q) (left : st.Gains mid) (right : st'.Gains mid') :
    Alike st st' fits p q := by
  cases h with
  | failed g g' => exact .failed (left.trans g) (right.trans g')
  | gave fit g g' => exact .gave fit (left.trans g) (right.trans g')

/-- Two actions end alike wherever the one follows one store and the other another one. -/
def Agree (X : Nat → Prop) (σ τ : Store) (fits : α → Prop) (x y : Act α) : Prop :=
  ∀ st st', σ.Allows X st → τ.Allows X st' → Alike st st' fits (x.outcome st) (y.outcome st')

namespace Agree

variable {X : Nat → Prop} {σ τ σ' τ' : Store} {fits : α → Prop} {sound : β → Prop} {x y : Act α}
variable {f g : α → Act β}

theorem pure {a : α} (fit : fits a) : Agree X σ τ fits (pure a) (pure a) :=
  fun st st' _ _ => .gave fit (.refl st) (.refl st')

theorem throw (e e' : Fault) : Agree X σ τ fits (throw e : Act α) (throw e') :=
  fun st st' _ _ => .failed (.refl st) (.refl st')

theorem bind (first : Agree X σ τ fits x y) (later : ∀ a, fits a → Agree X σ τ sound (f a) (g a)) :
    Agree X σ τ sound (x >>= f) (y >>= g) := by
  intro st st' left right
  have ended := first st st' left right
  generalize hx : x.outcome st = p at ended
  generalize hy : y.outcome st' = q at ended
  cases ended with
  | failed more more' =>
    rw [outcome_bind_error hx, outcome_bind_error hy]
    exact .failed more more'
  | gave fit more more' =>
    rw [outcome_bind_ok hx, outcome_bind_ok hy]
    exact (later _ fit _ _ (left.trans more) (right.trans more')).from more more'

theorem ofExcept {r : Except Fault α}
    (later : ∀ a, r = .ok a → Agree X σ τ sound (f a) (g a)) :
    Agree X σ τ sound (ofExcept r >>= f) (ofExcept r >>= g) := by
  cases r with
  | error e => exact .throw e e
  | ok a => exact later a rfl

theorem mono (h : Agree X σ τ fits x y) (left : σ.Allows X σ') (right : τ.Allows X τ') :
    Agree (fun _ => False) σ' τ' fits x y :=
  fun st st' more more' => h st st' (left.trans more) (right.trans more')

theorem congr {x' y' : Act α} (h : Agree X σ τ fits x y)
    (left : ∀ st, σ.Allows X st → x'.outcome st = x.outcome st)
    (right : ∀ st, τ.Allows X st → y'.outcome st = y.outcome st) : Agree X σ τ fits x' y' := by
  intro st st' more more'
  rw [left st more, right st' more']
  exact h st st' more more'

/-- What only reads, and reads the same. -/
theorem still {r : Except Fault α} (left : ∀ st, σ.Allows X st → x.outcome st = (r, st))
    (right : ∀ st, τ.Allows X st → y.outcome st = (r, st)) (fit : ∀ a, r = .ok a → fits a) :
    Agree X σ τ fits x y := by
  intro st st' more more'
  rw [left st more, right st' more']
  cases r with
  | error e => exact .failed (.refl st) (.refl st')
  | ok a => exact .gave (fit a rfl) (.refl st) (.refl st')

theorem reads {a : α} (left : ∀ st, σ.Allows X st → x.outcome st = (.ok a, st))
    (right : ∀ st, τ.Allows X st → y.outcome st = (.ok a, st)) : Agree X σ τ (· = a) x y :=
  still left right fun _ same => (Except.ok.inj same).symm

theorem copy {v : Value} (plain : v.Plain) : Agree X σ τ Value.Plain (copy v) (copy v) :=
  congr (.pure plain) (fun st _ => outcome_copy plain st) fun st _ => outcome_copy plain st

end Agree

/-- On whose behalf a stage is made: a pipeline of a class, bound to a model. -/
structure Behalf where
  dispatch : Dispatch
  cls : ClassRef
  model : Value

end Act

/-- A document of data. -/
structure Value.Staged (v : Value) : Prop where
  plain : v.Plain
  mapping : v.isMapping

section

open Act

variable (β : Store) (X : Nat → Prop)

/-- Values that come to the same stages when they are given as nested pipelines. -/
def Store.Nests (a b : Behalf) (v w : Value) : Prop :=
  ∀ context, Act.Agree X β β Value.Plain (nestedFor a.dispatch a.cls context a.model v)
    (nestedFor b.dispatch b.cls context b.model w)

/-- A value that comes to the same collection wherever it is asked for one. -/
def Store.Resolves (a b : Behalf) (v : Value) : Prop :=
  ∀ context, Act.Agree X β β Value.Plain (resolveCollection a.dispatch v context)
    (resolveCollection b.dispatch v context)

/-- Entries that say the same of a stage that reads another collection; that is what nested
pipelines are bound to. -/
structure Entries.Agree (a b : Behalf) (key : String) (names : List String) (es fs : Entries) :
    Prop where
  source : fs.field? key = es.field? key
  resolves : ∀ v, es.field? key = some v → β.Resolves X a b v
  data : ∀ name ∈ names, fs.field? name = es.field? name ∧
    ∀ v, es.field? name = some v → v.Plain
  nests : Option.Rel
    (fun v w => ∀ model, β.Nests X { a with model } { b with model } v w)
    (es.field? "pipeline") (fs.field? "pipeline")

namespace StageCall

/-- The stage of a call that asks for nothing. -/
def made? : StageCall → Option (Except Fault Value)
  | push v => some (Stage.raw v)
  | addFields v => some (Stage.addFields v)
  | count v => some (Stage.count v)
  | group v => some (Stage.group v)
  | limit v => some (Stage.limit v)
  | skip v => some (Stage.skip v)
  | project v => some (Stage.project v)
  | sort v => some (Stage.sort v)
  | unwind v index preserve => some (Stage.unwind v index preserve)
  | replaceRoot v => some (Stage.replaceRoot v)
  | _ => none

theorem isMapping_of_made {call : StageCall} {s : Value} (made : call.made? = some (.ok s)) :
    s.isMapping := by
  cases call <;> simp only [made?, Option.some.injEq, reduceCtorEq] at made
  case count => unfold Stage.count at made; split at made <;> cases made; rfl
  case unwind =>
    unfold Stage.unwind at made
    split at made
    · cases made; rfl
    · split at made
      · split at made <;> cases made; rfl
      · cases made
  case replaceRoot =>
    unfold Stage.replaceRoot at made
    split at made
    · cases made
    · cases made; rfl
    · split at made <;> cases made; rfl
  all_goals
    obtain ⟨es, -, done⟩ := Except.of_bind_eq_ok made
  case group => split at done <;> cases done; rfl
  all_goals cases done; rfl

/-- Calls with the same data, that ask for what comes out the same. -/
inductive Agree (a b : Behalf) : StageCall → StageCall → Prop
  | made {call r} (own : call.made? = some r) (staged : ∀ s, r = .ok s → s.Staged) :
      Agree a b call call
  | match {v w} (same : Act.Agree X β β Value.Staged (matchStage a.dispatch v)
      (matchStage b.dispatch w)) : Agree a b (.match v) (.match w)
  | lookup {v w es fs} (left : v.entries? = some es) (right : w.entries? = some fs)
      (target : fs.field? "as" = es.field? "as")
      (same : es.Agree β X a b "from" ["localField", "foreignField", "let"] fs) :
      Agree a b (.lookup v) (.lookup w)
  | facet {v w es fs} (left : v.entries? = some es) (right : w.entries? = some fs)
      (same : List.Forall₂ (fun e f => e.1 = f.1 ∧ β.Nests X a b e.2 f.2) es fs) :
      Agree a b (.facet v) (.facet w)
  | unionWith {v w es fs} (left : v.entries? = some es) (right : w.entries? = some fs)
      (same : es.Agree β X a b "coll" [] fs) : Agree a b (.unionWith v) (.unionWith w)
  | pipeline {k j q} (spared : ¬X j) (stages : β.Stages k j q) (plain : ∀ s ∈ q.stages, s.Plain)
      (resolves : β.Resolves X a b q.model) :
      Agree a b (.unionWith (.handle (.pipeline k j))) (.unionWith (.handle (.pipeline k j)))
  | collection {v} (other : ¬isPipeline v) (entries : v.entries? = none)
      (resolves : β.Resolves X a b v) : Agree a b (.unionWith v) (.unionWith v)
  | noLookup {v w} (left : v.entries? = none) (right : w.entries? = none) :
      Agree a b (.lookup v) (.lookup w)
  | noFacet {v w} (left : v.entries? = none) (right : w.entries? = none) :
      Agree a b (.facet v) (.facet w)

end StageCall

end

namespace Act

/-- A pipeline of a class that is bound to a model. -/
structure Behalf.Is (a : Behalf) (st : Store) (i : Nat) (p : Pipeline) : Prop where
  stages : st.Stages a.cls i p
  bound : p.model = a.model

theorem ofExcept_ok (a : α) : ofExcept (.ok a) = (pure a : Act α) := rfl

theorem staged {operator : String} {body : Value} (plain : body.Plain) :
    (Stage.ofOperator operator body).Staged where
  plain := Value.plain_dict.mpr fun e he => by
    rw [List.mem_singleton.mp he]
    exact ⟨.str operator, plain⟩
  mapping := rfl

variable {β σ τ : Store} {X : Nat → Prop} {a b : Behalf} {i j l : Nat} {p q r : Pipeline}
variable {c : ClassRef} {v w : Value} {es fs : Entries} {call dall : StageCall}

/-- A pipeline that is given stands for its stages. -/
theorem outcome_stagesOf {d : Dispatch} {st : Store} (h : st.Stages c i p)
    (plain : ∀ s ∈ p.stages, s.Plain) :
    (stagesOf d (.handle (.pipeline c i))).outcome st = (.ok (.list p.stages), st) := by
  obtain ⟨usual, -⟩ := h.usual "to_json" _ rfl
  have json : p.toJson = .list p.stages := by rw [Pipeline.toJson, h.instead, Option.getD_none]
  rw [stagesOf, outcome_callOr_usual usual, ownStages, outcome_bind_ok (outcome_pipelineAt h), json,
    outcome_copy (.list _ plain)]

section

variable (left : β.Allows X σ) (right : β.Allows X τ)
include left right

theorem agree_sourceModel (v : Value) :
    Agree (fun _ => False) σ τ (fun _ => True) (sourceModel v) (sourceModel v) := by
  have same (ρ : Store) (g : β.Allows X ρ) (st : Store) (more : ρ.Gains st) :
      (sourceModel v).outcome st = (.ok (if β.registry.gives v then v else .null), st) := by
    rw [outcome_sourceModel, (g.trans more).registry]
  exact .still (same σ left) (same τ right) fun _ _ => trivial

theorem agree_unionPipeline (spared : ¬X l) (stages : β.Stages c l r)
    (plain : ∀ s ∈ r.stages, s.Plain) (resolves : β.Resolves X a b r.model) (v w : Value) :
    Agree (fun _ => False) σ τ Value.Staged (unionStage a.dispatch v (.handle (.pipeline c l)))
      (unionStage b.dispatch w (.handle (.pipeline c l))) := by
  have there {ρ : Store} (g : β.Allows X ρ) (st : Store) (more : ρ.Gains st) : st.Stages c l r :=
    (g.trans more).stages spared stages
  unfold unionStage
  refine .bind (.reads (fun st more => outcome_pipelineAt (there left st more))
    fun st more => outcome_pipelineAt (there right st more)) ?_
  rintro _ rfl
  split
  · exact .throw _ _
  · refine .bind ((resolves "union_with()").mono left right) fun name named => ?_
    refine .bind (.reads (fun st more => outcome_stagesOf (there left st more) plain)
      fun st more => outcome_stagesOf (there right st more) plain) ?_
    rintro _ rfl
    refine .pure (staged (Value.plain_dict.mpr ?_))
    simpa using ⟨⟨.str _, named⟩, .str _, .list _ plain⟩

variable (h : a.Is σ i p) (k : b.Is τ j q)
include h k

theorem agree_nestedStages {model model' : Value}
    (nests : β.Nests X { a with model } { b with model := model' } v w) (context : String) :
    Agree (fun _ => False) σ τ Value.Plain
      (nestedStages a.dispatch (.handle (.pipeline a.cls i)) context model v)
      (nestedStages b.dispatch (.handle (.pipeline b.cls j)) context model' w) :=
  .congr ((nests context).mono left right)
    (fun _ more => outcome_nestedStages (Store.Gains.stages more h.stages) context model v)
    fun _ more => outcome_nestedStages (Store.Gains.stages more k.stages) context model' w

theorem agree_facetBranches
    (same : List.Forall₂ (fun e f => e.1 = f.1 ∧ β.Nests X a b e.2 f.2) es fs) :
    Agree (fun _ => False) σ τ (fun es => (Value.dict es).Plain)
      (facetBranches a.dispatch (.handle (.pipeline a.cls i)) es)
      (facetBranches b.dispatch (.handle (.pipeline b.cls j)) fs) := by
  have bound {ρ : Store} {l : Nat} {r : Pipeline} {e : Behalf} (is : e.Is ρ l r) (st : Store)
      (more : ρ.Gains st) : (branchModel e.dispatch (.handle (.pipeline e.cls l))).outcome st =
        (.ok e.model, st) := by
    rw [outcome_branchModel (Store.Gains.stages more is.stages), is.bound]
  induction same with
  | nil => exact .pure Value.plain_empty
  | cons here _ ih =>
    rename_i e f es fs _
    obtain ⟨name, v⟩ := e
    obtain ⟨name', w⟩ := f
    obtain ⟨rfl, nests⟩ := here
    unfold facetBranches
    cases name.name? with
    | none => exact .throw _ _
    | some title =>
      intro st st' more more'
      simp only
      rw [outcome_bind_ok (bound h st more), outcome_bind_ok (bound k st' more')]
      refine Agree.bind (agree_nestedStages left right h k nests _) (fun stages plain => ?_) st st'
        more more'
      refine .bind ih fun rest plains => .pure ?_
      rw [Value.plain_dict, List.forall_mem_cons, ← Value.plain_dict]
      exact ⟨⟨.str title, plain⟩, plains⟩

theorem agree_facetStage (entries : v.entries? = some es) (entries' : w.entries? = some fs)
    (same : List.Forall₂ (fun e f => e.1 = f.1 ∧ β.Nests X a b e.2 f.2) es fs) :
    Agree (fun _ => False) σ τ Value.Staged
      (facetStage a.dispatch (.handle (.pipeline a.cls i)) v)
      (facetStage b.dispatch (.handle (.pipeline b.cls j)) w) := by
  unfold facetStage
  rw [Argument.mapping_eq_ok.mpr entries, Argument.mapping_eq_ok.mpr entries']
  simp only [ofExcept_ok, pure_bind]
  have branches := agree_facetBranches left right h k same
  cases same with
  | nil => exact .throw _ _
  | cons => exact branches.bind fun _ plain => .pure (staged plain)

theorem agree_lookupStage (entries : v.entries? = some es) (entries' : w.entries? = some fs)
    (target : fs.field? "as" = es.field? "as")
    (same : es.Agree β X a b "from" ["localField", "foreignField", "let"] fs) :
    Agree (fun _ => False) σ τ Value.Staged
      (lookupStage a.dispatch (.handle (.pipeline a.cls i)) v)
      (lookupStage b.dispatch (.handle (.pipeline b.cls j)) w) := by
  obtain ⟨here, plainHere⟩ := same.data "localField" (by simp)
  obtain ⟨there, plainThere⟩ := same.data "foreignField" (by simp)
  obtain ⟨bound, plainBound⟩ := same.data "let" (by simp)
  unfold lookupStage
  rw [Argument.mapping_eq_ok.mpr entries, Argument.mapping_eq_ok.mpr entries']
  simp only [ofExcept_ok, pure_bind, same.source, target, here, there, bound]
  cases reads : es.field? "from" with
  | none => exact .throw _ _
  | some source =>
  cases (es.field? "as").bind Value.name? with
  | none => exact .throw _ _
  | some title =>
  simp only
  refine .bind ((same.resolves _ reads "lookup()").mono left right) fun name plain => ?_
  cases near : es.field? "localField" with
  | some near' =>
    cases far : es.field? "foreignField" with
    | none => exact .throw _ _
    | some far' =>
      refine .pure (staged (Value.plain_dict.mpr ?_))
      simpa using ⟨⟨.str _, plain⟩, ⟨.str _, plainHere _ near⟩, ⟨.str _, plainThere _ far⟩,
        .str _, .str _⟩
  | none =>
    have nests := same.nests
    generalize es.field? "pipeline" = inner at nests
    generalize fs.field? "pipeline" = inner' at nests
    cases nests with
    | none => exact .throw _ _
    | some nests =>
      refine .bind (agree_sourceModel left right source) fun model _ => ?_
      have stages := agree_nestedStages left right h k (nests model) "lookup() pipeline"
      have whole (bindings : Entries) (bound : (Value.dict bindings).Plain) {stages : Value}
          (nested : stages.Plain) : (Stage.ofOperator "$lookup" (.dict ([(.str "from", name)] ++
            bindings ++ [(.str "pipeline", stages), (.str "as", .str title)]))).Staged := by
        refine staged (Value.plain_dict.mpr ?_)
        rw [List.forall_mem_append, List.forall_mem_append]
        refine ⟨⟨?_, Value.plain_dict.mp bound⟩, ?_⟩
        · simpa using ⟨.str _, plain⟩
        · simpa using ⟨⟨.str _, nested⟩, .str _, .str _⟩
      cases given : es.field? "let" with
      | none => exact .bind stages fun _ nested => .pure (whole [] Value.plain_empty nested)
      | some v =>
        refine .ofExcept fun ls mapped => ?_
        have under := (plainBound _ given).entries (Argument.mapping_eq_ok.mp mapped)
        exact .bind stages fun _ nested => .pure
          (whole _ (Value.plain_dict.mpr (by simpa using ⟨.str _, under⟩)) nested)

theorem agree_unionStage (entries : v.entries? = some es) (entries' : w.entries? = some fs)
    (same : es.Agree β X a b "coll" [] fs) :
    Agree (fun _ => False) σ τ Value.Staged
      (unionStage a.dispatch (.handle (.pipeline a.cls i)) v)
      (unionStage b.dispatch (.handle (.pipeline b.cls j)) w) := by
  have through {u : Value} {fs : Entries} (mapping : u.entries? = some fs) (d : Dispatch)
      (self : Value) : unionStage d self u = unionStage d self (.dict fs) := by
    cases u <;> cases mapping <;> rfl
  rw [through entries, through entries']
  unfold unionStage
  simp only [Value.entries?_dict, same.source]
  cases reads : es.field? "coll" with
  | none => exact .throw _ _
  | some source =>
  simp only
  refine .bind ((same.resolves _ reads "union_with()").mono left right) fun name plain => ?_
  have nests := same.nests
  generalize es.field? "pipeline" = inner at nests
  generalize fs.field? "pipeline" = inner' at nests
  cases nests with
  | none =>
    exact .pure (staged (Value.plain_dict.mpr (by simpa using ⟨.str _, plain⟩)))
  | some nests =>
    refine .bind (agree_sourceModel left right source) fun model _ => ?_
    refine .bind (agree_nestedStages left right h k (nests model) _) fun stages nested => ?_
    refine .pure (staged (Value.plain_dict.mpr ?_))
    simpa using ⟨⟨.str _, plain⟩, .str _, nested⟩

/-- Calls that ask for the same make the same stage. -/
theorem agree_stageOf (agree : call.Agree β X a b dall) :
    Agree (fun _ => False) σ τ Value.Staged
      (stageOf a.dispatch (.handle (.pipeline a.cls i)) call)
      (stageOf b.dispatch (.handle (.pipeline b.cls j)) dall) := by
  cases agree with
  | @made _ r own staged =>
    have direct (d : Dispatch) (self : Value) : stageOf d self call = ofExcept r := by
      cases call <;> cases own <;> rfl
    rw [direct, direct]
    cases r with
    | error e => exact .throw e e
    | ok s => exact .pure (staged s rfl)
  | «match» same => exact same.mono left right
  | lookup entries entries' target same =>
    exact agree_lookupStage left right h k entries entries' target same
  | facet entries entries' same => exact agree_facetStage left right h k entries entries' same
  | unionWith entries entries' same => exact agree_unionStage left right h k entries entries' same
  | pipeline spared stages plain resolves =>
    exact agree_unionPipeline left right spared stages plain resolves (.handle (.pipeline a.cls i))
      (.handle (.pipeline b.cls j))
  | @collection v other entries resolves =>
    have direct (d : Dispatch) (self : Value) : stageOf d self (.unionWith v) =
        (do return Stage.ofOperator "$unionWith" (← resolveCollection d v "union_with()")) := by
      rw [stageOf]
      unfold unionStage
      split
      · exact absurd rfl other
      · rw [entries]
    rw [direct, direct]
    exact .bind ((resolves _).mono left right) fun _ plain => .pure (staged plain)
  | noLookup none none' =>
    simp only [stageOf, lookupStage, Argument.mapping, none, none']
    exact .throw _ _
  | noFacet none none' =>
    simp only [stageOf, facetStage, Argument.mapping, none, none']
    exact .throw _ _

end

end Act

end DocMapper
