import DocMapper.Proofs.Joining

/-!
What a facet and a union accept.  The branches of a facet are asked for their stages one after the
other, so one that is refused comes after all that were asked before it, and none is asked after it.
A union reads a collection, by its name alone or with a pipeline.
-/

namespace DocMapper

namespace Grammar

/-- Branches under names, each with what it may be given.  They are asked in order, each on behalf of
the builder as it is by then. -/
inductive Branches (d : Dispatch) (c : ClassRef) (i : Nat) :
    Store → Entries → Entries → Store → Prop
  | nil {st : Store} : Branches d c i st [] [] st
  | cons {st mid after : Store} {p : Pipeline} {name : String} {source stages : Value}
      {es bs : Entries} (named : name ≠ "") (bound : st.Stages c i p)
      (nested : Nested d c p.model st source stages mid) (rest : Branches d c i mid es bs after) :
      Branches d c i st ((.str name, source) :: es) ((.str name, stages) :: bs) after

/-- What a facet may be given, and what its stage is made of. -/
structure Facet (d : Dispatch) (c : ClassRef) (i : Nat) (st : Store) (spec : Value)
    (es body : Entries) (after : Store) : Prop where
  mapping : spec.entries? = some es
  some_branch : es ≠ []
  branches : Branches d c i st es body after

/-- What a union may be given, and what its stage is made of. -/
inductive Union (d : Dispatch) (c : ClassRef) (st : Store) : Value → Value → Store → Prop
  | collection {v name model : Value} {after : Store} (sourced : Source st v name model after) :
      Union d c st v name after
  | builder {k : ClassRef} {j : Nat} {name model stages : Value} {mid after : Store}
      (sourced : Source st (st.pipelines.getD j default).model name model mid)
      (gives : (Act.stagesOf d (.handle (.pipeline k j))).outcome mid = (.ok stages, after)) :
      Union d c st (.handle (.pipeline k j))
        (.dict [(.str "coll", name), (.str "pipeline", stages)]) after
  | whole {v source name model : Value} {es : Entries} {after : Store}
      (mapping : v.entries? = some es) (given : es.field? "coll" = some source)
      (sourced : Source st source name model after) (alone : es.field? "pipeline" = none) :
      Union d c st v (.dict [(.str "coll", name)]) after
  | pipeline {v source name model inner stages : Value} {es : Entries} {mid after : Store}
      (mapping : v.entries? = some es) (given : es.field? "coll" = some source)
      (sourced : Source st source name model mid) (inside : es.field? "pipeline" = some inner)
      (nested : Nested d c model mid inner stages after) :
      Union d c st v (.dict [(.str "coll", name), (.str "pipeline", stages)]) after

variable {d : Dispatch} {names : Names} {n : Nat} {st mid after : Store} {c : ClassRef} {i : Nat}
variable {p : Pipeline} {R : Store → Prop} {es bs : Entries} {k spec source s : Value}

theorem Branches.keys_eq (branches : Branches d c i st es bs after) :
    Entries.keys bs = Entries.keys es := by
  induction branches with
  | nil => rfl
  | cons _ _ _ _ ih => exact congrArg (_ :: ·) ih

theorem Branches.texts (branches : Branches d c i st es bs after) : bs.Texts := by
  induction branches with
  | nil => exact nofun
  | cons _ _ _ _ ih => exact List.forall_mem_cons.mpr ⟨⟨_, rfl⟩, ih⟩

/-- One branch on its own. -/
theorem outcome_facetBranches_named {name : String} (named : name ≠ "") (h : st.Stages c i p) :
    (Act.facetBranches d (.handle (.pipeline c i)) ((.str name, source) :: es)).outcome st =
      (do
        let stages ← Act.nestedFor d c s!"facet() branch '{name}'" p.model source
        return (Value.str name, stages) ::
          (← Act.facetBranches d (.handle (.pipeline c i)) es)).outcome st := by
  rw [Act.facetBranches, Value.name?_eq_some.mpr ⟨rfl, named⟩]
  simp only
  rw [Act.outcome_bind_ok (Act.outcome_branchModel h), Act.outcome_bind,
    Act.outcome_nestedStages h, ← Act.outcome_bind]

/-- Branches that are accepted are asked once each, whatever comes after them. -/
theorem Branches.outcome_append (branches : Branches d c i st es bs mid) (rest : Entries) :
    (Act.facetBranches d (.handle (.pipeline c i)) (es ++ rest)).outcome st =
      (do
        return bs ++ (← Act.facetBranches d (.handle (.pipeline c i)) rest)).outcome mid := by
  induction branches with
  | nil => simp
  | cons named bound nested _ ih =>
    rw [List.cons_append, outcome_facetBranches_named named bound,
      Act.outcome_bind_ok ((outcome_nestedFor_eq_ok _).mpr nested), Act.outcome_bind, ih,
      ← Act.outcome_bind]
    simp

theorem Branches.outcome (branches : Branches d c i st es bs after) :
    (Act.facetBranches d (.handle (.pipeline c i)) es).outcome st = (.ok bs, after) := by
  have done := branches.outcome_append []
  rw [List.append_nil] at done
  rw [done]
  simp [Act.facetBranches]

/-- What is accepted as branches, and the stages that they come to. -/
theorem outcome_facetBranches_eq_ok (host : Act.Host R c i)
    (guests : ∀ e ∈ es, Act.Guest d R c e.2) (here : R st) :
    (Act.facetBranches d (.handle (.pipeline c i)) es).outcome st = (.ok bs, after) ↔
      Branches d c i st es bs after := by
  refine ⟨fun made => ?_, Branches.outcome⟩
  induction es generalizing st bs with
  | nil =>
    cases made
    exact .nil
  | cons e es ih =>
    obtain ⟨key, source⟩ := e
    obtain ⟨guest, others⟩ := List.forall_mem_cons.mp guests
    obtain ⟨p, bound⟩ := host.stages st here
    cases known : key.name? with
    | none =>
      rw [Act.facetBranches, known] at made
      cases made
    | some name =>
      obtain ⟨rfl, named⟩ := Value.name?_eq_some.mp known
      rw [outcome_facetBranches_named named bound] at made
      obtain ⟨stages, mid, nested, made⟩ := Act.outcome_bind_eq_ok made
      obtain ⟨cs, last, rest, made⟩ := Act.outcome_bind_eq_ok made
      cases made
      have kept := host.nestedStages guest s!"facet() branch '{name}'" p.model st here
      rw [Act.outcome_nestedStages bound, nested] at kept
      exact .cons named bound ((outcome_nestedFor_eq_ok _).mp nested) (ih others kept rest)

theorem facetStage_eq (mapping : spec.entries? = some es) (some_branch : es ≠ [])
    (d : Dispatch) (self : Value) :
    Act.facetStage d self spec =
      (do return Stage.ofOperator "$facet" (.dict (← Act.facetBranches d self es))) := by
  rw [Act.facetStage, Argument.mapping_eq_ok.mpr mapping]
  cases es with
  | nil => exact absurd rfl some_branch
  | cons e es => rfl

/-- A branch with no name ends the facet: what was asked is what comes before it. -/
theorem Branches.unnamed {rest : Entries} (before : Branches d c i st es bs mid)
    (mapping : spec.entries? = some (es ++ (k, source) :: rest)) (unnamed : k.name? = none) :
    (Act.facetStage d (.handle (.pipeline c i)) spec).outcome st = (.error (.facetName k), mid) := by
  rw [facetStage_eq mapping (by simp), Act.outcome_bind, before.outcome_append, Act.facetBranches,
    unnamed]
  rfl

/-- A branch of which no stages can be had ends the facet as well. -/
theorem Branches.offends {rest : Entries} {name : String} (before : Branches d c i st es bs mid)
    (mapping : spec.entries? = some (es ++ (k, source) :: rest)) (named : k.name? = some name)
    (bound : mid.Stages c i p) (offends : Offends d c p.model mid source after) :
    ∃ e, (Act.facetStage d (.handle (.pipeline c i)) spec).outcome st = (.error e, after) := by
  obtain ⟨rfl, given⟩ := Value.name?_eq_some.mp named
  obtain ⟨e, refused⟩ := offends.refused s!"facet() branch '{name}'"
  refine ⟨e, ?_⟩
  rw [facetStage_eq mapping (by simp), Act.outcome_bind, before.outcome_append, Act.outcome_bind,
    outcome_facetBranches_named given bound, Act.outcome_bind_error refused]

/-- What is accepted by a facet, and the stage that is made of it. -/
theorem outcome_facetStage_eq_ok (host : Act.Host R c i)
    (guests : ∀ u ∈ (StageCall.facet spec).sources, Act.Guest d R c u) (here : R st) :
    (Act.facetStage d (.handle (.pipeline c i)) spec).outcome st = (.ok s, after) ↔
      ∃ es body, s = Stage.ofOperator "$facet" (.dict body) ∧
        Facet d c i st spec es body after := by
  constructor
  · intro made
    cases mapping : spec.entries? with
    | none =>
      simp only [Act.facetStage, Argument.mapping, mapping] at made
      cases made
    | some es =>
    by_cases none : es = []
    · subst none
      simp only [Act.facetStage, Argument.mapping_eq_ok.mpr mapping] at made
      cases made
    rw [StageCall.sources, mapping, Option.getD_some, List.forall_mem_map] at guests
    rw [facetStage_eq mapping none] at made
    obtain ⟨bs, last, branches, made⟩ := Act.outcome_bind_eq_ok made
    cases made
    exact ⟨es, bs, rfl, mapping, none, (outcome_facetBranches_eq_ok host guests here).mp branches⟩
  · rintro ⟨es, body, rfl, mapping, some_branch, branches⟩
    rw [facetStage_eq mapping some_branch, Act.outcome_bind_ok branches.outcome]
    rfl

theorem unionStage_mapping (mapping : spec.entries? = some es) (d : Dispatch) (self : Value) :
    Act.unionStage d self spec = Act.unionStage d self (.dict es) := by
  cases spec <;> cases mapping <;> rfl

theorem unionStage_collection (pipeline : ¬Act.isPipeline spec) (entries : spec.entries? = none)
    (d : Dispatch) (self : Value) :
    Act.unionStage d self spec = (do
      return Stage.ofOperator "$unionWith" (← Act.resolveCollection d spec "union_with()")) := by
  unfold Act.unionStage
  split
  · exact absurd rfl pipeline
  · rw [entries]

theorem Source.alone {model name v : Value} (source : Source st v name model after) :
    ¬Act.isPipeline v ∧ v.entries? = none ∧ v ≠ .null := by
  cases source <;> exact ⟨nofun, rfl, nofun⟩

/-- What is accepted by a union with another builder. -/
theorem outcome_unionStage_builder_eq_ok {k : ClassRef} {j : Nat} (self : Value) :
    (Act.unionStage (dispatch names (n + 1)) self (.handle (.pipeline k j))).outcome st =
        (.ok s, after) ↔
      ∃ name model stages mid, Source st (st.pipelines.getD j default).model name model mid ∧
        (Act.stagesOf (dispatch names (n + 1)) (.handle (.pipeline k j))).outcome mid =
          (.ok stages, after) ∧
        s = Stage.ofOperator "$unionWith"
          (.dict [(.str "coll", name), (.str "pipeline", stages)]) := by
  have found : (Act.pipeline j).outcome st = (.ok (st.pipelines.getD j default), st) := rfl
  rw [Act.unionStage, Act.outcome_bind_ok found]
  constructor
  · intro made
    split at made
    · cases made
    · obtain ⟨name, mid, resolved, made⟩ := Act.outcome_bind_eq_ok made
      obtain ⟨stages, last, gives, made⟩ := Act.outcome_bind_eq_ok made
      cases made
      obtain ⟨model, sourced⟩ := outcome_resolveCollection_eq_ok.mp resolved
      exact ⟨name, model, stages, mid, sourced, gives, rfl⟩
  · rintro ⟨name, model, stages, mid, sourced, gives, rfl⟩
    split
    · rename_i unbound
      exact absurd unbound sourced.alone.2.2
    · rw [Act.outcome_bind_ok (sourced.resolves names n _), Act.outcome_bind_ok gives]
      rfl

/-- What is accepted by a union, and the stage that is made of it. -/
theorem outcome_unionStage_eq_ok (h : st.Stages c i p) :
    (Act.unionStage (dispatch names (n + 1)) (.handle (.pipeline c i)) spec).outcome st =
        (.ok s, after) ↔
      ∃ body, s = Stage.ofOperator "$unionWith" body ∧
        Union (dispatch names (n + 1)) c st spec body after := by
  constructor
  · intro made
    by_cases pipeline : Act.isPipeline spec
    · obtain ⟨k, j, rfl⟩ := Act.isPipeline_iff.mp pipeline
      obtain ⟨name, model, stages, mid, sourced, gives, rfl⟩ :=
        (outcome_unionStage_builder_eq_ok _).mp made
      exact ⟨_, rfl, .builder sourced gives⟩
    cases mapping : spec.entries? with
    | none =>
      rw [unionStage_collection pipeline mapping] at made
      obtain ⟨name, last, resolved, made⟩ := Act.outcome_bind_eq_ok made
      cases made
      obtain ⟨model, sourced⟩ := outcome_resolveCollection_eq_ok.mp resolved
      exact ⟨name, rfl, .collection sourced⟩
    | some es =>
      rw [unionStage_mapping mapping] at made
      simp only [Act.unionStage, Value.entries?_dict] at made
      cases given : es.field? "coll" with
      | none =>
        rw [given] at made
        cases made
      | some source =>
      rw [given] at made
      obtain ⟨name, mid, resolved, made⟩ := Act.outcome_bind_eq_ok made
      obtain ⟨model, sourced⟩ := outcome_resolveCollection_eq_ok.mp resolved
      cases inside : es.field? "pipeline" with
      | none =>
        rw [inside] at made
        cases made
        exact ⟨_, rfl, .whole mapping given sourced inside⟩
      | some inner =>
        rw [inside] at made
        simp only at made
        rw [Act.outcome_bind_ok sourced.bound] at made
        obtain ⟨stages, last, nested, made⟩ := Act.outcome_bind_eq_ok made
        cases made
        rw [Act.outcome_nestedStages (sourced.retains.stages h)] at nested
        exact ⟨_, rfl, .pipeline mapping given sourced inside ((outcome_nestedFor_eq_ok _).mp nested)⟩
  · rintro ⟨body, rfl, union⟩
    cases union with
    | collection sourced =>
      rw [unionStage_collection sourced.alone.1 sourced.alone.2.1,
        Act.outcome_bind_ok (sourced.resolves names n _)]
      rfl
    | builder sourced gives =>
      exact (outcome_unionStage_builder_eq_ok _).mpr ⟨_, _, _, _, sourced, gives, rfl⟩
    | whole mapping given sourced alone =>
      rw [unionStage_mapping mapping]
      simp only [Act.unionStage, Value.entries?_dict, given]
      rw [Act.outcome_bind_ok (sourced.resolves names n _), alone]
      rfl
    | pipeline mapping given sourced inside nested =>
      rw [← outcome_nestedFor_eq_ok "union_with() pipeline",
        ← Act.outcome_nestedStages (sourced.retains.stages h)] at nested
      rw [unionStage_mapping mapping]
      simp only [Act.unionStage, Value.entries?_dict, given]
      rw [Act.outcome_bind_ok (sourced.resolves names n _), inside]
      simp only
      rw [Act.outcome_bind_ok sourced.bound, Act.outcome_bind_ok nested]
      rfl

end Grammar

/-- The first of what there is, under a name and by a union. -/
def Value.branchFirst : Value := .dict [(.str "first", .first)]

def Value.uniteFirst : Value := .dict [(.str "coll", .str "posts"), (.str "pipeline", .first)]

/-- A branch with a document that holds a cursor. -/
def Value.branchCursor : Value :=
  .dict [(.str "x", .list [.dict [(.str "$k", .handle (.cursor .aggregate 0))]])]

end DocMapper
