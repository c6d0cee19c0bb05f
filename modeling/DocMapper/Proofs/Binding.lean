import DocMapper.Proofs.Questioning

/-!
Which builders functions are given, and what these are bound to.  Facets, lookups and unions may be
given functions, which may make such calls on their builders in turn.  Each function is given a
builder of its own; a facet passes on the model of the builder that it was called on, a lookup or a
union the model that it reads from, or none if that is a collection's name.
-/

namespace DocMapper

/-- Where a function stands: in a branch of a facet, or in a lookup or a union that reads from a
model, or from a collection by its name. -/
inductive Enclosure
  | facet
  | reads (model : Value)

namespace Enclosure

/-- The model that a lookup or a union brings along. -/
def model? : Enclosure → Option Value
  | facet => none
  | reads model => some model

end Enclosure

/-- The model of the innermost lookup or union on the way to a function, or else the model of the
builder that the way starts from. -/
def innermost (model : Value) (way : List Enclosure) : Value :=
  ((way.filterMap Enclosure.model?).getLast?).getD model

theorem innermost_cons (model : Value) (a : Enclosure) (way : List Enclosure) :
    innermost model (a :: way) = innermost (a.model?.getD model) way := by
  cases a with
  | facet => rfl
  | reads other => simp [innermost, Enclosure.model?, List.getLast?_cons]

/-- The ways to a function and to the functions inside of it. -/
def Enclosure.around (a : Enclosure) (ways : List (List Enclosure)) : List (List Enclosure) :=
  [a] :: ways.map (a :: ·)

theorem Enclosure.map_around (model : Value) (a : Enclosure) (ways : List (List Enclosure)) :
    (a.around ways).map (innermost model) =
      a.model?.getD model :: ways.map (innermost (a.model?.getD model)) := by
  have inside : innermost model ∘ (a :: ·) = innermost (a.model?.getD model) :=
    funext (innermost_cons model a)
  rw [around, List.map_cons, List.map_map, inside, innermost_cons]
  rfl

namespace Names

/-- A function of calls on its builder, which it returns, or else some data. -/
inductive Function (names : Names) (ks : List Call) (v : Value) : Prop
  | intro {i : Option Nat} {result : Option Value}
      (stands : names.Stands (.object i (.function ks result)) v) (data : ∀ r ∈ result, r.Plain)

/-- What a lookup or a union may read from, and the model that comes with it. -/
inductive Origin (names : Names) : Value → Value → Prop
  | collection {v : Value} {s : String} (stands : names.Stands (.str s) v) : Origin names v .null
  | model {v : Value} {k : ClassRef} (stands : names.Stands (.cls k) v) : Origin names v (.cls k)

/-- A mapping of entries under texts that are told apart, with values that are silent. -/
structure Spells (names : Names) (spec : Value) (es : Entries) : Prop where
  mapping : spec.entries? = some es
  texts : es.Texts
  once : (Entries.keys es).Nodup
  silent : ∀ e ∈ es, names.Silent e.2

end Names

/-- The calls that read another collection. -/
inductive Reader
  | lookup
  | unionWith
  deriving DecidableEq

namespace Reader

def method : Reader → String
  | lookup => "lookup"
  | unionWith => "union_with"

/-- The key under which a collection is given. -/
def key : Reader → String
  | lookup => "from"
  | unionWith => "coll"

def call : Reader → Value → StageCall
  | lookup => .lookup
  | unionWith => .unionWith

theorem isMethod (r : Reader) : StageCall.isMethod r.method := by
  cases r <;> rfl

theorem positional (r : Reader) (v : Value) : StageCall.of? r.method [v] [] = some (r.call v) := by
  cases r <;> rfl

theorem named (r : Reader) (v : Value) :
    StageCall.of? r.method [] [(.str "spec", v)] = some (r.call v) := by
  cases r <;> rfl

end Reader

/-- What a lookup or a union is given to read from, and through which function. -/
structure Names.Reads (names : Names) (r : Reader) (es : Entries) (model : Value) (ks : List Call) :
    Prop where
  source : ∃ v ∈ es.field? r.key, names.Origin v model
  inner : ∃ v ∈ es.field? "pipeline", names.Function ks v
  apart : r = .lookup → es.field? "localField" = none

/-- What there is to do for a builder: its calls, or the branches of a facet. -/
inductive Work
  | calls (ks : List Call)
  | branches (es : Entries)

/-- Facets, lookups and unions of functions that make such calls in turn, between calls that run no
function, with the ways to all functions in the order in which these are run. -/
inductive CallTree (names : Names) (β : Store) : Work → List (List Enclosure) → Prop
  | done : CallTree names β (.calls []) []
  | other {k : Call} {ks : List Call} {ways : List (List Enclosure)} (quiet : k.Quiet names β)
      (rest : CallTree names β (.calls ks) ways) : CallTree names β (.calls (k :: ks)) ways
  | facet {k : Call} {spec : Value} {es : Entries} {ks : List Call}
      {inner ways : List (List Enclosure)} (passes : k.Passes "facet" "spec" spec)
      (spells : names.Spells spec es)
      (branches : CallTree names β (.branches es) inner)
      (rest : CallTree names β (.calls ks) ways) :
      CallTree names β (.calls (k :: ks)) (inner ++ ways)
  | reads {r : Reader} {k : Call} {spec : Value} {es : Entries} {model : Value} {ls ks : List Call}
      {inner ways : List (List Enclosure)} (passes : k.Passes r.method "spec" spec)
      (spells : names.Spells spec es) (reads : names.Reads r es model ls)
      (inside : CallTree names β (.calls ls) inner) (rest : CallTree names β (.calls ks) ways) :
      CallTree names β (.calls (k :: ks)) ((Enclosure.reads model).around inner ++ ways)
  | none : CallTree names β (.branches []) []
  | branch {key v : Value} {ls : List Call} {es : Entries} {inner ways : List (List Enclosure)}
      (function : names.Function ls v) (inside : CallTree names β (.calls ls) inner)
      (rest : CallTree names β (.branches es) ways) :
      CallTree names β (.branches ((key, v) :: es)) (Enclosure.facet.around inner ++ ways)
  | idle {key v : Value} {es : Entries} {ways : List (List Enclosure)}
      (idle : ∀ w, names.Yields v w → w.Idle) (rest : CallTree names β (.branches es) ways) :
      CallTree names β (.branches ((key, v) :: es)) ways

section

variable {names : Names} {es : Entries}
variable {β st : Store} {c : ClassRef} {i : Nat} {model : Value} {ms : List Value} {n : Nat}

namespace Names.Spells

variable {spec : Value} (spells : names.Spells spec es)
include spells

theorem silent_spec : names.Silent spec := by
  obtain ⟨mapping, texts, -, silent⟩ := spells
  intro n st
  have entries : Act.Keeps st.Hushed (names.completeEntries (DocMapper.dispatch names n) es) := by
    refine silent_entries (fun e there => ?_) fun e there => silent e there n st
    obtain ⟨s, text⟩ := texts e there
    rw [text]
    exact silent_plain (.str s) n st
  cases spec <;> cases mapping <;> exact .bind entries fun _ => .pure _

theorem yields_spec {v : Value} (yields : names.Yields spec v) :
    ∃ fs, v.entries? = some fs ∧ Entries.Related names.Yields es fs := by
  obtain ⟨mapping, texts, once, -⟩ := spells
  obtain ⟨n, st, after, done⟩ := yields
  have spelled {make : Entries → Value}
      (done : (names.completeEntries (DocMapper.dispatch names n) es >>= fun fs =>
        pure (make (.ofPairs fs))).outcome st = (.ok v, after)) :
      ∃ fs, v = make fs ∧ Entries.Related names.Yields es fs := by
    obtain ⟨fs, mid, completed, done⟩ := Act.outcome_bind_eq_ok done
    have related := yields_entries texts completed
    have once : (Entries.keys fs).Nodup := related.keys_eq ▸ once
    cases done
    exact ⟨fs, congrArg make (Entries.ofPairs_of_nodup (related.texts texts) once), related⟩
  cases spec <;> cases mapping
  all_goals
    obtain ⟨fs, rfl, related⟩ := spelled done
    exact ⟨fs, rfl, related⟩

end Names.Spells

theorem Act.nested_function (d : Dispatch) (self : Value) (context : String) (model : Value)
    (j : Option Nat) (ks : List Call) (result : Option Value) :
    nested d self context model (.object j (.function ks result)) = (do
      let fresh ← spawnLike d self model
      let built ← d.apply .never (.object j (.function ks result)) [fresh] []
      if isPipeline built then stagesOf d built else throw (.nestedResult context built)) := rfl

namespace Store.Crew

variable (crew : st.Crew c i model)
include crew

theorem outcome_branchModel (d : Dispatch) :
    (Act.branchModel d (.handle (.pipeline c i))).outcome st = (.ok model, st) := by
  have found : (Act.pipeline i).outcome st = (.ok (st.pipelines.getD i default), st) := rfl
  have bound : (st.pipelines.getD i default).model = model := by
    obtain ⟨there, is⟩ := List.getElem?_eq_some_iff.mp crew.bound
    have stored : i < st.pipelines.size := crew.built
    simpa [models, stored] using is
  rw [Act.branchModel, Act.outcome_bind_ok found, bound]
  rfl

/-- What a function returns is asked for its stages, or refused. -/
theorem hushed_answer (names : Names) (n : Nat) (d : Dispatch) (refuse : Value → Fault)
    (result : Option Value) : (∀ r ∈ result, r.Plain) →
    st.Hushed (((match result with
        | some r => names.complete (dispatch names n) r
        | none => pure (.handle (.pipeline c i))) >>= fun built =>
      if Act.isPipeline built then Act.stagesOf d built
      else throw (refuse built)).outcome st).2 := by
  intro data
  cases result with
  | none => exact crew.hushed_stagesOf d
  | some r =>
    refine Act.hushed_bind (Names.silent_plain (data r rfl) n st st (.refl st))
      fun w mid completed _ => ?_
    simp only [(Names.yields_plain (data r rfl) ⟨n, st, mid, completed⟩).1]
    exact .refl mid

/-- A function inside of a stage is run on a fresh pipeline, which is bound as it is asked for. -/
theorem gives_function {ks : List Call} {ways : List (List Enclosure)} {v w : Value}
    (inside : ∀ n (now : Store) j other, st.Advances now → now.Crew c j other →
      Act.Gives c (ways.map (innermost other)) now
        ((Act.runCalls (dispatch names n) names (.handle (.pipeline c j)) ks).outcome now))
    (function : names.Function ks v) (yields : names.Yields v w) (n : Nat) (context : String)
    (other : Value) :
    Act.Gives c (other :: ways.map (innermost other)) st
      ((Act.nestedStages (dispatch names n) (.handle (.pipeline c i)) context other w).outcome
        st) := by
  obtain ⟨stands, data⟩ := function
  obtain ⟨j, rfl⟩ := Names.yields_function stands yields
  rw [crew.outcome_nestedStages, Act.nested_function]
  obtain spawned | ⟨e, refused⟩ := crew.outcome_spawnLike names n other
  · rw [Act.outcome_bind_ok spawned]
    cases n with
    | zero => exact .failed (hushed_launched st c other)
    | succ n =>
      have seen := Advances.sighted (st.launched c other) (.handle (.pipeline c st.pipelines.size))
      have fresh := (crew.fresh other).advanced seen
      have l := (hushed_launched st c other).toAdvances.trans seen
      have run := (inside n _ _ other l fresh).bind_rest fun _ mid _ l =>
        (fresh.advanced l).hushed_answer names n (dispatch names (n + 1)) (.nestedResult context) _
          data
      rw [Act.outcome_bind, Act.outcome_apply_calls, ← Act.outcome_bind, Act.replay.eq_def,
        bind_assoc, ← bound_sightingOf st c other]
      exact .cons (crew.heard_sighted other) (by rwa [bound_sightingOf])
  · rw [Act.outcome_bind_error refused]
    exact .failed (.refl st)

end Store.Crew

/-- The model that comes with what is read from. -/
theorem Names.Origin.bound {v w name : Value} {mid : Store} {d : Dispatch} {context : String}
    (origin : names.Origin v model) (yields : names.Yields v w)
    (resolved : (Act.resolveCollection d w context).outcome st = (.ok name, mid))
    (l : st.Advances mid) : (Act.sourceModel w).outcome mid = (.ok model, mid) := by
  rw [Act.outcome_sourceModel]
  cases origin with
  | collection stands =>
    obtain rfl := yields_same stands (fun _ => rfl) (fun _ => rfl) yields
    rfl
  | @model k stands =>
    obtain rfl := yields_same stands (fun _ => rfl) (fun _ => rfl) yields
    have same : mid.registry.gives (.cls k) = st.registry.gives (.cls k) := by
      simp only [Registry.gives, l.member?]
    rw [same]
    cases gives : st.registry.gives (.cls k) with
    | true => rfl
    | false =>
      unfold Act.resolveCollection at resolved
      rw [Act.outcome_bind_ok (Act.outcome_givesCollection _ st), gives] at resolved
      cases resolved

/-- What there is to do runs the functions on the ways to them. -/
def Work.Gives (names : Names) (β : Store) (c : ClassRef) (ways : List (List Enclosure)) :
    Work → Prop
  | .calls ks => ∀ n (st : Store) i model, β.Advances st → st.Crew c i model →
    Act.Gives c (ways.map (innermost model)) st
      ((Act.runCalls (dispatch names n) names (.handle (.pipeline c i)) ks).outcome st)
  | .branches es => ∀ fs, Entries.Related names.Yields es fs →
    ∀ n (st : Store) i model, β.Advances st → st.Crew c i model →
    Act.Gives c (ways.map (innermost model)) st
      ((Act.facetBranches (dispatch names n) (.handle (.pipeline c i)) fs).outcome st)

namespace Work.Gives

variable {key v : Value} {ls ks : List Call} {inner ways : List (List Enclosure)}

/-- A branch is asked for its stages before those after it. -/
theorem branch_cons (asked : ∀ w, names.Yields v w → ∀ n (st : Store) i model context,
      β.Advances st → st.Crew c i model →
      Act.Gives c (inner.map (innermost model)) st
        ((Act.nestedStages (dispatch names n) (.handle (.pipeline c i)) context model w).outcome
          st))
    (rest : Work.Gives names β c ways (.branches es)) :
    Work.Gives names β c (inner ++ ways) (.branches ((key, v) :: es)) := by
  rintro _ (_ | @⟨_, ⟨_, w⟩, _, fs, ⟨rfl, yields⟩, related⟩) n st i model since crew
  rw [List.map_append]
  unfold Act.facetBranches
  split
  · exact .failed (.refl st)
  · rw [Act.outcome_bind_ok (crew.outcome_branchModel _)]
    refine .bind (asked w yields n st i model _ since crew) fun _ mid _ l => ?_
    exact .bind_rest (rest fs related n mid i model (since.trans l) (crew.advanced l))
      fun _ last _ _ => .refl last

theorem branch (function : names.Function ls v) (inside : Work.Gives names β c inner (.calls ls))
    (rest : Work.Gives names β c ways (.branches es)) :
    Work.Gives names β c (Enclosure.facet.around inner ++ ways) (.branches ((key, v) :: es)) := by
  refine .branch_cons (fun w yields n st i model context since crew => ?_) rest
  rw [Enclosure.map_around]
  exact crew.gives_function (fun n now j other l => inside n now j other (since.trans l)) function
    yields n context model

theorem idle (idle : ∀ w, names.Yields v w → w.Idle)
    (rest : Work.Gives names β c ways (.branches es)) :
    Work.Gives names β c ways (.branches ((key, v) :: es)) := by
  refine (.branch_cons (fun w yields _ st _ model context _ crew => ?_) rest :
    Work.Gives names β c ([] ++ ways) (.branches ((key, v) :: es)))
  exact Act.Gives.quiet_iff.mpr ((crew.spares (idle w yields)).nested context model st (.refl st))

theorem facetStage (branches : Work.Gives names β c ways (.branches es)) {spec : Value}
    {fs : Entries} (mapping : spec.entries? = some fs)
    (related : Entries.Related names.Yields es fs) (since : β.Advances st)
    (crew : st.Crew c i model) (n : Nat) :
    Act.Gives c (ways.map (innermost model)) st
      ((Act.facetStage (dispatch names n) (.handle (.pipeline c i)) spec).outcome st) := by
  by_cases none : fs = []
  · subst none
    rw [Act.facetStage, Argument.mapping_eq_ok.mpr mapping]
    exact .failed (.refl st)
  · rw [Grammar.facetStage_eq mapping none]
    exact .bind_rest (branches fs related n st i model since crew) fun _ last _ _ => .refl last

theorem pipelineJoin {w : Value} (inside : Work.Gives names β c inner (.calls ls))
    (function : names.Function ls v) (yields : names.Yields v w) (since : β.Advances st)
    (crew : st.Crew c i model) (n : Nat) (name other : Value) (title : String) (bs : Entries) :
    Act.Gives c (other :: inner.map (innermost other)) st
      ((Act.pipelineJoin (dispatch names n) (.handle (.pipeline c i)) w name other title bs).outcome
        st) :=
  .bind_rest (crew.gives_function (fun n now j other l => inside n now j other (since.trans l))
    function yields n _ other) fun _ last _ _ => .refl last

/-- A function in a lookup or a union is run once the collection is found. -/
theorem stageOf {r : Reader} {other spec : Value} {fs : Entries}
    (inside : Work.Gives names β c inner (.calls ls)) (reads : names.Reads r es other ls)
    (mapping : spec.entries? = some fs) (related : Entries.Related names.Yields es fs)
    (since : β.Advances st) (crew : st.Crew c i model) (n : Nat) :
    Act.Gives c (other :: inner.map (innermost other)) st
      ((Act.stageOf (dispatch names n) (.handle (.pipeline c i)) (r.call spec)).outcome st) := by
  obtain ⟨⟨u, source, origin⟩, ⟨v, inner, function⟩, apart⟩ := reads
  obtain ⟨x, source, comes⟩ := related.field?_some source
  obtain ⟨w, inner, yields⟩ := related.field?_some inner
  have resolves (context : String) :
      Act.Keeps st.Hushed (Act.resolveCollection (dispatch names n) x context) :=
    .resolveCollection (Act.Keeps.hushed_reads names n) x context
  cases r with
  | lookup =>
    have apart := related.field?_none (apart rfl)
    change Act.Gives c _ st ((Act.lookupStage _ _ _).outcome st)
    rw [Act.lookupStage_eq, Argument.mapping_eq_ok.mpr mapping,
      Act.outcome_bind_ok (Act.outcome_ofExcept ..)]
    simp only [show fs.field? "from" = some x from source]
    split
    · refine .bind_quiet (resolves _) fun name mid resolved l => ?_
      simp only [Act.joinedStage, apart, inner]
      rw [Act.outcome_bind_ok (origin.bound comes resolved l)]
      split
      · rename_i y _
        cases mapping : Argument.mapping "lookup() 'let'" y with
        | error e => exact .failed (.refl mid)
        | ok bs => exact inside.pipelineJoin function yields (since.trans l) (crew.advanced l) n ..
      · exact inside.pipelineJoin function yields (since.trans l) (crew.advanced l) n ..
    · exact .failed (.refl st)
  | unionWith =>
    change Act.Gives c _ st ((Act.unionStage _ _ _).outcome st)
    rw [Grammar.unionStage_mapping mapping]
    simp only [Act.unionStage, Value.entries?_dict, show fs.field? "coll" = some x from source]
    refine .bind_quiet (resolves _) fun name mid resolved l => ?_
    simp only [inner]
    rw [Act.outcome_bind_ok (origin.bound comes resolved l)]
    exact .bind_rest ((crew.advanced l).gives_function
      (fun n now j other r => inside n now j other ((since.trans l).trans r)) function yields n
      _ other) fun _ last _ _ => .refl last

end Work.Gives

/-- Every function of a tree of calls is given a fresh pipeline. -/
theorem CallTree.gives {work : Work} {ways : List (List Enclosure)}
    (tree : CallTree names β work ways) (c : ClassRef) : work.Gives names β c ways := by
  induction tree with
  | done => exact fun n st i model _ crew => Act.Gives.quiet_iff.mpr (.refl st)
  | other quiet _ ih =>
    intro n st i model since crew
    rw [Act.runCalls_perform quiet.target]
    have hushed := quiet.hushed n st c i model since crew
    exact (Act.Gives.quiet_iff.mpr hushed).bind fun _ mid _ l =>
      ih n mid i model (since.trans l) (crew.advanced l)
  | facet passes spells _ _ branches ih =>
    intro n st i model since crew
    rw [Act.runCalls_perform passes.target, List.map_append]
    have performed := passes.gives rfl (fun _ => rfl) (fun _ => rfl) crew n spells.silent_spec
      fun w yields m now l => by
        obtain ⟨fs, mapping, related⟩ := spells.yields_spec yields
        exact branches.facetStage mapping related (since.trans l) (crew.advanced l) m
    exact performed.bind fun _ mid _ l => ih n mid i model (since.trans l) (crew.advanced l)
  | @reads r _ _ _ _ _ _ _ _ passes spells reads _ _ inside ih =>
    intro n st i model since crew
    rw [Act.runCalls_perform passes.target, List.map_append, Enclosure.map_around]
    have performed := passes.gives r.isMethod r.positional r.named crew n spells.silent_spec
      fun w yields m now l => by
        obtain ⟨fs, mapping, related⟩ := spells.yields_spec yields
        exact inside.stageOf reads mapping related (since.trans l) (crew.advanced l) m
    exact performed.bind fun _ mid _ l => ih n mid i model (since.trans l) (crew.advanced l)
  | none =>
    rintro _ (_ | _) n st i model _ _
    exact Act.Gives.quiet_iff.mpr (.refl st)
  | branch function _ _ inside ih => exact .branch function inside ih
  | idle idle _ ih => exact .idle idle ih

end

/-- Every function in a tree of facets, lookups and unions is given a fresh pipeline without stages,
which is none of those that there were nor one of those that other functions are given, and is of
the class of the pipeline that the calls are made on.  It is bound to the model of the innermost
lookup or union around the function, which is none if that reads a collection by its name, or else
to the model of the pipeline that the calls are made on.  If a call fails, this holds of the
functions that were run before. -/
theorem functions_bound {names : Names} {st : Store} {c : ClassRef} {i : Nat} {model : Value}
    {ks : List Call} {ways : List (List Enclosure)} (n : Nat) (crew : st.Crew c i model)
    (tree : CallTree names st (.calls ks) ways) :
    ∃ r log after,
      (Act.runCalls (dispatch names n) names (.handle (.pipeline c i)) ks).outcome st = (r, after) ∧
      after.runs = st.runs ++ log ∧
      log.map Sighting.bound <+: ways.map (innermost model) ∧
      (r.isOk → log.map Sighting.bound = ways.map (innermost model)) ∧
      (log.map Sighting.builder).Nodup ∧
      ∀ s ∈ log, s.size = 0 ∧
        after.classOf s.builder = st.classOf (.handle (.pipeline c i)) ∧
        ∃ j, s.builder = .handle (.pipeline c j) ∧ i < st.pipelines.size ∧
          st.pipelines.size ≤ j := by
  obtain ⟨log, heard, bounds, all⟩ := tree.gives c n st i model (.refl st) crew
  refine ⟨_, log, _, rfl, heard.heard, bounds, all, heard.apart, fun s there => ?_⟩
  obtain ⟨size, j, builder, new, -, cls⟩ := heard.fresh s there
  exact ⟨size, cls.trans crew.cls.symm, j, builder, crew.built, new⟩

/-- A function of calls that are written out. -/
def Value.ofCalls (ks : List Call) : Value := .object none (.function ks none)

namespace Call

/-- A match of what a function asks of a query. -/
def choosing : Call :=
  ⟨none, "match", [.ofCalls [⟨none, "eq", [.str "wet", .bool true], []⟩]], []⟩

/-- A union with what is in a collection, through a function. -/
def uniting : Call :=
  ⟨none, "union_with",
    [.dict [(.str "coll", .str "ponds"), (.str "pipeline", .ofCalls [choosing])]], []⟩

def dividing : Call :=
  ⟨none, "facet", [], [(.str "spec", .dict [(.str "all", .ofCalls [uniting])])]⟩

def joining : Call :=
  ⟨none, "lookup", [.dict [(.str "from", .handle (.variable ["Duck"])), (.str "as", .str "ducks"),
    (.str "pipeline", .ofCalls [dividing])]], []⟩

/-- A facet that leads to three further functions. -/
def nesting : Call :=
  ⟨none, "facet", [.dict [(.str "found", .ofCalls [limiting 1, joining])]], []⟩

end Call

/-- A pipeline of a class that refines the library's, bound to a class. -/
def Store.pond : Store where
  pipelines := #[{
    cls := .known "TracingAggregate", stages := [], model := .cls (.known "HasGetCollection") }]

theorem Store.crew_pond :
    pond.Crew (.known "TracingAggregate") 0 (.cls (.known "HasGetCollection")) where
  bound := rfl
  cls := rfl
  furnished :=
    have stages : pond.Stages (.known "TracingAggregate") 0 _ :=
      .of_bare ⟨fun _ => rfl, rfl⟩ (fun _ _ => rfl) (.inr rfl) rfl rfl
    stages.usual
  coming _ _ := ⟨fun _ => rfl, rfl⟩
  makes := .inl (.inr rfl)

/-- A class under a name. -/
def Names.ducks : Names := [("Duck", .cls (.known "DuckModel"))]

theorem Names.function_ofCalls (names : Names) (ks : List Call) :
    names.Function ks (.ofCalls ks) :=
  .intro .literal nofun

theorem Call.quiet_limiting (names : Names) (β : Store) (m : Int) : (limiting m).Quiet names β :=
  quiet_of_alone rfl rfl (by simp [limiting])
    (List.forall_mem_singleton.mpr (Names.silent_plain (.int m))) nofun

/-- The function on the query is none of those that are run on pipelines. -/
theorem Call.quiet_choosing (names : Names) : choosing.Quiet names .pond := by
  refine quiet_of_matching ⟨rfl, rfl, .inl ⟨rfl, rfl⟩⟩ (Names.silent_made _ _ _)
    (fun w yields => ?_) fun i _ => .of_bare ⟨fun _ => rfl, rfl⟩ (fun _ _ => rfl)
  obtain ⟨j, rfl⟩ := Names.yields_function .literal yields
  refine .function rfl (List.forall_mem_singleton.mpr ?_) nofun
  refine restricts_of_alone rfl ⟨_, rfl⟩ (by simp) ?_ nofun
  simpa using ⟨Names.silent_plain (.str "wet"), Names.silent_plain (.bool true)⟩

/-- The functions in a facet that leads from one to the next. -/
theorem Call.tree_nesting : CallTree .ducks .pond (.calls [nesting])
    [[.facet], [.facet, .reads (.cls (.known "DuckModel"))],
      [.facet, .reads (.cls (.known "DuckModel")), .facet],
      [.facet, .reads (.cls (.known "DuckModel")), .facet, .reads .null]] := by
  have calls (ks : List Call) : Names.Silent .ducks (.ofCalls ks) := Names.silent_made none ks none
  have text (s : String) : Names.Silent .ducks (.str s) := Names.silent_plain (.str s)
  have united : CallTree .ducks .pond (.calls [uniting]) [[.reads .null]] :=
    .reads (r := .unionWith) ⟨rfl, rfl, .inl ⟨rfl, rfl⟩⟩
      ⟨rfl, by simp [Entries.Texts], by simp [Entries.keys], by simpa using ⟨text _, calls _⟩⟩
      ⟨⟨_, rfl, .collection .literal⟩, ⟨_, rfl, Names.function_ofCalls ..⟩, nofun⟩
      (.other (quiet_choosing _) .done) .done
  have divided : CallTree .ducks .pond (.calls [dividing]) [[.facet], [.facet, .reads .null]] :=
    .facet ⟨rfl, rfl, .inr ⟨rfl, rfl⟩⟩
      ⟨rfl, by simp [Entries.Texts], by simp [Entries.keys], by simpa using calls _⟩
      (.branch (Names.function_ofCalls ..) united .none) .done
  have joined : CallTree .ducks .pond (.calls [joining])
      [[.reads (.cls (.known "DuckModel"))], [.reads (.cls (.known "DuckModel")), .facet],
        [.reads (.cls (.known "DuckModel")), .facet, .reads .null]] :=
    .reads (r := .lookup) ⟨rfl, rfl, .inl ⟨rfl, rfl⟩⟩
      ⟨rfl, by simp [Entries.Texts], by simp [Entries.keys],
        by simpa using ⟨Names.silent_named "Duck", text _, calls _⟩⟩
      ⟨⟨_, rfl, .model (.named rfl)⟩, ⟨_, rfl, Names.function_ofCalls ..⟩, fun _ => rfl⟩
      divided .done
  exact .facet ⟨rfl, rfl, .inl ⟨rfl, rfl⟩⟩
    ⟨rfl, by simp [Entries.Texts], by simp [Entries.keys], by simpa using calls _⟩
    (.branch (Names.function_ofCalls ..) (.other (quiet_limiting ..) joined) .none) .done

theorem functions_bound_nesting :
    ∃ r after, (Act.runCalls (dispatch .ducks 11) .ducks
        (.handle (.pipeline (.known "TracingAggregate") 0)) [.nesting]).outcome .pond = (r, after) ∧
      r.isOk ∧
      after.runs.map Sighting.bound = [.cls (.known "HasGetCollection"), .cls (.known "DuckModel"),
        .cls (.known "DuckModel"), .null] ∧
      (after.runs.map Sighting.builder).Nodup ∧
      ∀ s ∈ after.runs, s.size = 0 ∧ after.classOf s.builder = .known "TracingAggregate" := by
  obtain ⟨r, log, after, run, heard, -, all, apart, fresh⟩ :=
    functions_bound 11 Store.crew_pond Call.tree_nesting
  obtain rfl : after.runs = log := heard
  have accepted : ((Act.runCalls (dispatch .ducks 11) .ducks
      (.handle (.pipeline (.known "TracingAggregate") 0)) [.nesting]).outcome .pond).1.isOk := by
    decide +kernel
  rw [run] at accepted
  refine ⟨r, after, run, accepted, all accepted, apart, fun s there => ?_⟩
  obtain ⟨size, cls, -⟩ := fresh s there
  exact ⟨size, cls⟩

end DocMapper
