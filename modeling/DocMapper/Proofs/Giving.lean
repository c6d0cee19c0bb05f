import DocMapper.Proofs.Adding

/-!
What calls are given.  What was there before, and data above all, comes to the same whenever a call
asks for it; so calls that are given that make the same stage whenever they are made.
-/

namespace DocMapper

namespace Store

/-- What comes to the same wherever it is asked for stages or criteria: data, a builder that was
there before and holds data, or what is refused. -/
inductive Held (β : Store) (X : Nat → Prop) : Value → Prop
  | data {v} (plain : v.Plain) (other : ¬v.isCallable) : Held β X v
  | pipeline {k j q} (spared : ¬X j) (stages : β.Stages k j q) (plain : ∀ s ∈ q.stages, s.Plain) :
      Held β X (.handle (.pipeline k j))
  | query {k j q} (builds : β.Builds k j q) (plain : (Value.dict q.criteria).Plain) :
      Held β X (.handle (.query k j))
  | refused {v} (pipeline : ¬Act.isPipeline v) (query : ¬Act.isQuery v)
      (entries : v.entries? = none) (listed : ∀ vs, v.listed? = some vs → ∃ u ∈ vs, ¬u.isMapping)
      (callable : ¬v.isCallable) : Held β X v

/-- What has data for a collection, if it has one at all. -/
def Located (β : Store) (v : Value) : Prop :=
  ∀ context u after,
    (Act.resolveCollection (dispatch [] 1) v context).outcome β = (.ok u, after) → u.Plain

end Store

/-- What can be called is no builder and holds nothing. -/
theorem Value.callable_alone {v : Value} (callable : v.isCallable) :
    ¬Act.isPipeline v ∧ ¬Act.isQuery v ∧ v.listed? = none ∧ v.entries? = none := by
  cases v with
  | cls => simp [Act.isPipeline, Act.isQuery, listed?, entries?]
  | object => simp [Act.isPipeline, Act.isQuery, listed?, entries?]
  | handle h => cases h <;> cases callable <;> simp [Act.isPipeline, Act.isQuery, listed?, entries?]
  | _ => cases callable

theorem Value.Plain.no_builder {v : Value} (plain : v.Plain) :
    ¬Act.isPipeline v ∧ ¬Act.isQuery v := by
  cases plain <;> simp [Act.isPipeline, Act.isQuery]

theorem Act.checkStages_refuses (context : String) (index : Nat) {vs : List Value}
    (refused : ∃ v ∈ vs, ¬v.isMapping) : ∃ e, checkStages context index vs = .error e := by
  induction vs generalizing index with
  | nil => simp at refused
  | cons v vs ih =>
    rw [checkStages]
    by_cases mapping : v.isMapping
    · rw [if_pos mapping]
      exact ih (index + 1) (by simpa [mapping] using refused)
    · rw [if_neg mapping]
      exact ⟨_, rfl⟩

namespace Store

variable {β : Store} {X : Nat → Prop} {a b : Act.Behalf} {d d' : Dispatch} {v : Value}

theorem Held.nests (held : β.Held X v) : β.Nests X a b v v := by
  intro context
  cases held with
  | @data v plain other =>
    rw [Act.nestedFor, if_neg plain.no_builder.1, Act.nestedFor, if_neg plain.no_builder.1]
    cases listed : v.listed? with
    | some vs =>
      have inside : (Value.list vs).Plain := by
        cases plain <;> cases listed <;> exact .list _ ‹_›
      exact .ofExcept fun _ _ => .copy inside
    | none =>
      simp only [other]
      exact .throw _ _
  | pipeline spared stages plain =>
    exact .congr (.pure (.list _ plain))
      (fun _ more => Act.outcome_stagesOf (more.stages spared stages) plain)
      fun _ more => Act.outcome_stagesOf (more.stages spared stages) plain
  | query => exact .throw _ _
  | @refused v pipeline _ _ listed callable =>
    rw [Act.nestedFor, if_neg pipeline, Act.nestedFor, if_neg pipeline]
    cases items : v.listed? with
    | some vs =>
      obtain ⟨e, refuses⟩ := Act.checkStages_refuses context 0 (listed vs items)
      simp only [refuses]
      exact .throw e e
    | none =>
      simp only [callable]
      exact .throw _ _

theorem Held.agree_matchStage (held : β.Held X v) :
    Act.Agree X β β Value.Staged (Act.matchStage d v) (Act.matchStage d' v) := by
  cases held with
  | @data v plain other =>
    rw [Act.matchStage, if_neg plain.no_builder.2, Act.matchStage, if_neg plain.no_builder.2]
    cases entries : v.entries? with
    | some es => exact .pure (Act.staged (plain.entries entries))
    | none =>
      simp only [other]
      exact .throw _ _
  | pipeline => exact .throw _ _
  | @query k j q builds plain =>
    have json (d : Dispatch) (st : Store) (more : β.Allows X st) :
        (Act.queryJson d (.handle (.query k j))).outcome st = (.ok (.dict q.criteria), st) := by
      rw [Act.outcome_queryJson_copy (more.builds builds), Act.outcome_copy plain]
    exact .bind (.congr (.pure plain) (json d) (json d')) fun _ plain => .pure (Act.staged plain)
  | refused _ query entries _ callable =>
    rw [Act.matchStage, if_neg query, entries, Act.matchStage, if_neg query, entries]
    simp only [callable]
    exact .throw _ _

variable {names names' : Names} {n n' : Nat}

/-- What a class has for a collection is read the same again if it is data. -/
theorem agree_read {k : ClassRef} (depth : n = n' ∨ 0 < n ∧ 0 < n')
    (plain : ∀ u after, (Act.readClass k "collection").outcome β = (.ok u, after) → u.Plain) :
    Act.Agree X β β Value.Plain ((dispatch names n).read (.cls k) "collection")
      ((dispatch names' n').read (.cls k) "collection") := by
  have reads : Act.Agree X β β Value.Plain (Act.readClass k "collection")
      (Act.readClass k "collection") := by
    obtain ⟨x, read⟩ | ⟨s, read⟩ := Act.readClass_collection k β.registry
    · have again (st : Store) (more : β.Allows X st) :
          (Act.readClass k "collection").outcome st = (x, st) := read st more.registry
      rw [read β rfl] at plain
      exact .still again again fun u same => plain u β (by rw [same])
    · rw [read β rfl] at plain
      cases plain _ _ rfl
  cases n with
  | zero =>
    obtain rfl : n' = 0 := by omega
    exact .throw _ _
  | succ m =>
    obtain ⟨m', rfl⟩ : ∃ m', n' = m' + 1 := ⟨n' - 1, by omega⟩
    exact reads

theorem Located.resolves {c k : ClassRef} {model other : Value} (depth : n = n' ∨ 0 < n ∧ 0 < n')
    (located : β.Located v) :
    β.Resolves X (names.behalf n c model) (names'.behalf n' k other) v := by
  intro context
  have located := located context
  unfold Act.resolveCollection at located ⊢
  split at located
  · exact .throw _ _
  · exact .pure (.str _)
  · have gives (st : Store) (more : β.Allows X st) :
        (Act.givesCollection v).outcome st = (.ok (β.registry.gives v), st) := by
      rw [Act.outcome_givesCollection, more.registry]
    rw [Act.outcome_bind_ok (gives β (.refl β))] at located
    refine .bind (.reads gives gives) ?_
    rintro _ rfl
    by_cases given : β.registry.gives v
    · simp only [given, if_true] at located ⊢
      cases v with
      | cls k =>
        cases k with
        | model slot =>
          have again (st : Store) (more : β.Allows X st) :
              (do Act.ofExcept ((← Act.registry).collection (.cls (.model slot)))).outcome st =
                (β.registry.collection (.cls (.model slot)), st) := by
            rw [← more.registry]
            exact (Act.outcome_bind_ok rfl).trans (Act.outcome_ofExcept ..)
          refine .still again again fun u same => located u β ?_
          rw [← same]
          exact again β (.refl β)
        | _ => exact agree_read depth located
      | _ => cases given
    · simp only [given]
      exact .throw _ _

/-- Two values that come to the same stages: as branches, on behalf of the builders' own models, and
where a stage reads another collection. -/
structure Supplies (β : Store) (X : Nat → Prop) (a b : Act.Behalf) (v w : Value) : Prop where
  branches : β.Nests X a b v w
  reads : ∀ model, β.Nests X { a with model } { b with model } v w

theorem Held.supplies (held : β.Held X v) : β.Supplies X a b v v :=
  ⟨held.nests, fun _ => held.nests⟩

/-- What comes to the same stages whenever it is asked for some; a function, for each model that it
is given a fresh pipeline of. -/
inductive Staging (β : Store) (X : Nat → Prop) (d : Dispatch) (c : ClassRef) (v : Value) : Prop
  | held (held : β.Held X v)
  | function (callable : v.isCallable)
      (alike : ∀ context model, Act.Agree X β β Value.Plain (Act.askPipeline d c context model v)
        (Act.askPipeline d c context model v))

/-- What comes to the same criteria whenever it is asked for some. -/
inductive Restricting (β : Store) (X : Nat → Prop) (d : Dispatch) (v : Value) : Prop
  | held (held : β.Held X v)
  | function (callable : v.isCallable)
      (alike : Act.Agree X β β Value.Plain (Act.askQuery d v) (Act.askQuery d v))

theorem Staging.supplies {c : ClassRef} {model : Value}
    (staging : β.Staging X (dispatch names n) c v) :
    β.Supplies X (names.behalf n c model) (names.behalf n c model) v v := by
  cases staging with
  | held held => exact held.supplies
  | function callable alike =>
    obtain ⟨pipeline, -, listed, -⟩ := Value.callable_alone callable
    have nests (model : Value) :
        β.Nests X (names.behalf n c model) (names.behalf n c model) v v := by
      intro context
      rw [Act.nestedFor, if_neg pipeline, listed]
      simp only [callable, if_true]
      exact alike context model
    exact ⟨nests model, nests⟩

theorem Restricting.agree_matchStage (restricting : β.Restricting X d v) :
    Act.Agree X β β Value.Staged (Act.matchStage d v) (Act.matchStage d v) := by
  cases restricting with
  | held held => exact held.agree_matchStage
  | function callable alike =>
    obtain ⟨-, query, -, entries⟩ := Value.callable_alone callable
    rw [Act.matchStage_callable query entries callable]
    exact .bind alike fun _ plain => .pure (Act.staged plain)

end Store

/-- Entries with data in their places, but for a pipeline. -/
structure Entries.Sound (β : Store) (key : String) (names : List String) (es : Entries) : Prop where
  located : ∀ v, es.field? key = some v → β.Located v
  plain : ∀ name ∈ names, ∀ v, es.field? name = some v → v.Plain

/-- Entries that differ at most in the pipeline. -/
structure Entries.Like (P : Value → Value → Prop) (es fs : Entries) : Prop where
  others : ∀ name, name ≠ "pipeline" → fs.field? name = es.field? name
  pipeline : Option.Rel P (es.field? "pipeline") (fs.field? "pipeline")

namespace StageCall

/-- A call that is given data for what it does not ask for. -/
def Sound (β : Store) (X : Nat → Prop) : StageCall → Prop
  | .match _ | .facet _ => True
  | .lookup v => ∀ es, v.entries? = some es →
    es.Sound β "from" ["localField", "foreignField", "let"]
  | .unionWith (.handle (.pipeline k j)) =>
    ∃ q, ¬X j ∧ β.Stages k j q ∧ (∀ s ∈ q.stages, s.Plain) ∧ β.Located q.model
  | .unionWith v =>
    (v.entries? = none → β.Located v) ∧ ∀ es, v.entries? = some es → es.Sound β "coll" []
  | call => ∀ s, call.made? = some (.ok s) → s.Plain

/-- Calls that differ at most in what they ask for. -/
inductive Like (P : Value → Value → Prop) : StageCall → StageCall → Prop
  | same (call) : Like P call call
  | match {v w} (like : P v w) : Like P (.match v) (.match w)
  | lookup {v w es fs} (left : v.entries? = some es) (right : w.entries? = some fs)
      (like : es.Like P fs) : Like P (.lookup v) (.lookup w)
  | facet {v w es fs} (left : v.entries? = some es) (right : w.entries? = some fs)
      (like : List.Forall₂ (fun e f => e.1 = f.1 ∧ P e.2 f.2) es fs) : Like P (.facet v) (.facet w)
  | unionWith {v w es fs} (left : v.entries? = some es) (right : w.entries? = some fs)
      (like : es.Like P fs) : Like P (.unionWith v) (.unionWith w)

theorem Sound.plain {β : Store} {X : Nat → Prop} {call : StageCall} {s : Value}
    (sound : call.Sound β X) (made : call.made? = some (.ok s)) : s.Plain := by
  cases call <;> first | exact sound s made | cases made

theorem Sound.agree_made {β : Store} {X : Nat → Prop} {a b : Act.Behalf} {call : StageCall}
    {r : Except Fault Value} (sound : call.Sound β X) (own : call.made? = some r) :
    call.Agree β X a b call :=
  .made own fun _ same => ⟨sound.plain (own.trans (congrArg some same)),
    isMapping_of_made (own.trans (congrArg some same))⟩

end StageCall

section

open Act

variable {β : Store} {X : Nat → Prop} {P : Value → Value → Prop} {names : Names} {n n' : Nat}
variable {c k : ClassRef} {model other v w : Value} {es fs : Entries} {call dall : StageCall}

theorem StageCall.agree_facet (left : v.entries? = some es) (right : w.entries? = some fs)
    (like : List.Forall₂ (fun e f => e.1 = f.1 ∧ P e.2 f.2) es fs)
    (asks : ∀ u ∈ (StageCall.facet v).sources, ∀ w, P u w →
      β.Supplies X (names.behalf n c model) (names.behalf n' k other) u w) :
    (StageCall.facet v).Agree β X (names.behalf n c model) (names.behalf n' k other)
      (.facet w) := by
  rw [StageCall.sources, left, Option.getD_some, List.forall_mem_map] at asks
  have both := (List.forall₂_and_left es fs).mpr ⟨asks, like⟩
  exact .facet left right (both.imp fun _ _ given =>
    ⟨given.2.1, (given.1 _ given.2.2).branches⟩)

variable (depth : n = n' ∨ 0 < n ∧ 0 < n')
include depth

theorem Entries.Sound.agree {key : String} {keys : List String} (sound : es.Sound β key keys)
    (like : es.Like P fs) (own : key ≠ "pipeline") (ours : "pipeline" ∉ keys)
    (asks : ∀ v ∈ (es.field? "pipeline").toList, ∀ w, P v w →
      β.Supplies X (names.behalf n c model) (names.behalf n' k other) v w) :
    es.Agree β X (names.behalf n c model) (names.behalf n' k other) key keys fs where
  source := like.others key own
  resolves v found := (sound.located v found).resolves depth
  data name listed := ⟨like.others name fun same => ours (same ▸ listed), sound.plain name listed⟩
  nests := by
    have pipeline := like.pipeline
    generalize es.field? "pipeline" = inner at pipeline asks
    generalize fs.field? "pipeline" = inner' at pipeline
    cases pipeline with
    | none => exact .none
    | some related => exact .some (asks _ (by simp) _ related).reads

namespace StageCall

theorem agree_lookup (left : v.entries? = some es) (right : w.entries? = some fs)
    (like : es.Like P fs) (sound : (lookup v).Sound β X)
    (asks : ∀ u ∈ (lookup v).sources, ∀ w, P u w →
      β.Supplies X (names.behalf n c model) (names.behalf n' k other) u w) :
    (lookup v).Agree β X (names.behalf n c model) (names.behalf n' k other) (.lookup w) := by
  rw [sources, left, Option.getD_some] at asks
  exact .lookup left right (like.others "as" (by decide))
    ((sound es left).agree depth like (by decide) (by decide) asks)

theorem agree_unionWith (left : v.entries? = some es) (right : w.entries? = some fs)
    (like : es.Like P fs) (sound : (unionWith v).Sound β X)
    (asks : ∀ u ∈ (unionWith v).sources, ∀ w, P u w →
      β.Supplies X (names.behalf n c model) (names.behalf n' k other) u w) :
    (unionWith v).Agree β X (names.behalf n c model) (names.behalf n' k other) (.unionWith w) := by
  have plain : ¬isPipeline v := by
    cases v <;> cases left <;> simp [isPipeline]
  rw [sources, if_neg plain, left, Option.getD_some] at asks
  refine .unionWith left right (Entries.Sound.agree depth ?_ like (by decide) (by decide) asks)
  unfold Sound at sound
  cases v <;> cases left
  all_goals exact sound.2 es rfl

/-- Calls that differ at most in what they ask for make the same stage if that comes to the same. -/
theorem Like.agree (like : call.Like P dall) (refl : ∀ v, P v v) (sound : call.Sound β X)
    (asks : call.Asks
      (fun v => ∀ w, P v w → β.Supplies X (names.behalf n c model) (names.behalf n' k other) v w)
      fun v => ∀ w, P v w → Act.Agree X β β Value.Staged (matchStage (dispatch names n) v)
        (matchStage (dispatch names n') w)) :
    call.Agree β X (names.behalf n c model) (names.behalf n' k other) dall := by
  have still (es : Entries) : es.Like P es := by
    refine ⟨fun _ _ => rfl, ?_⟩
    cases es.field? "pipeline" with
    | none => exact .none
    | some v => exact .some (refl v)
  cases like with
  | «match» related => exact .match (asks _ related)
  | lookup left right like => exact agree_lookup depth left right like sound asks
  | facet left right like => exact agree_facet left right like asks
  | unionWith left right like => exact agree_unionWith depth left right like sound asks
  | same =>
    cases call with
    | «match» v => exact .match (asks v (refl v))
    | lookup v =>
      cases entries : v.entries? with
      | none => exact .noLookup entries entries
      | some es => exact agree_lookup depth entries entries (still es) sound asks
    | facet v =>
      cases entries : v.entries? with
      | none => exact .noFacet entries entries
      | some es =>
        exact agree_facet entries entries (List.forall₂_same.mpr fun e _ => ⟨rfl, refl e.2⟩) asks
    | unionWith v =>
      cases entries : v.entries? with
      | some es => exact agree_unionWith depth entries entries (still es) sound asks
      | none =>
        unfold Sound at sound
        split at sound
        case h_4 given =>
          cases given
          obtain ⟨q, spared, stages, plain, located⟩ := sound
          exact .pipeline spared stages plain (located.resolves depth)
        case h_5 different given =>
          cases given
          refine .collection (fun pipeline => ?_) entries ((sound.1 entries).resolves depth)
          unfold isPipeline at pipeline
          split at pipeline
          · exact different _ _ rfl
          · cases pipeline
        all_goals simp_all only [reduceCtorEq, unionWith.injEq, forall_eq', imp_false]
    | _ => exact sound.agree_made rfl

end StageCall

end

end DocMapper
