import DocMapper.Proofs.Giving

/-!
Functions that do nothing but calls on the builder that they are given.  What such a function asks
for may be functions of the same kind, to any depth.  It appends the same stages to every fresh
pipeline, whichever class and model that has.
-/

namespace DocMapper

/-- One value, or an object that was written out twice. -/
inductive Value.Twin : Value → Value → Prop
  | same (v) : Twin v v
  | object (i j s) : Twin (.object i s) (.object j s)

theorem Value.Twin.isPipeline {v w : Value} (twin : v.Twin w) :
    Act.isPipeline w = Act.isPipeline v := by
  cases twin <;> rfl

theorem Value.Twin.of_pipeline {v w : Value} (twin : v.Twin w) (pipeline : Act.isPipeline v) :
    w = v := by
  cases twin with
  | same => rfl
  | object => cases pipeline

/-- The arguments of a call as they are when it is made. -/
def Call.written (k : Call) (names : Names) (d : Dispatch) : Act (List Value × Entries) := do
  let args ← names.completeItems d k.args
  let named := Entries.ofPairs (← names.completeEntries d k.named)
  return (args, named)

theorem Names.outcome_complete_named (names : Names) (name : String) (d : Dispatch) (st : Store) :
    (names.complete d (.handle (.variable [name]))).outcome st =
      (((names.lookup name).map st.current).elim (.error (.unbound name)) .ok, st) := by
  change (Names.resolve d names [name]).outcome st = _
  rw [resolve, locate]
  cases names.lookup name <;> rfl

/-- A call on a builder whose arguments come out the same whenever it is written out, but for which
objects they are; what it asks for is as it should be. -/
structure Call.Fixed (β : Store) (X : Nat → Prop) (names : Names) (depth : Nat)
    (staging restricting : Value → Prop) (k : Call) : Prop where
  target : k.target = none
  stage : StageCall.isMethod k.method
  written : ∀ n n', depth < n → depth < n' → ∀ st st', β.Allows X st → β.Allows X st' →
    ∃ args named after args' named' after',
      (k.written names (dispatch names n)).outcome st = (.ok (args, named), after) ∧
      (k.written names (dispatch names n')).outcome st' = (.ok (args', named'), after') ∧
      st.Gains after ∧ st'.Gains after' ∧
      Option.Rel (fun call dall => call.Like Value.Twin dall ∧ call.Sound β X ∧
          call.Asks staging restricting)
        (StageCall.of? k.method args named) (StageCall.of? k.method args' named')

namespace Store

variable (β : Store) (X : Nat → Prop) (names : Names)

/-- A written value that comes to the same whenever it is written out, unless it is an object. -/
def Comes (depth : Nat) (r u : Value) : Prop :=
  ∀ n, depth < n → ∀ st, β.Allows X st → ∃ w after,
    (names.complete (dispatch names n) r).outcome st = (.ok w, after) ∧ st.Gains after ∧ u.Twin w

/-- What comes to the same criteria whenever it is asked for some. -/
def Chooses (depth : Nat) (v : Value) : Prop :=
  ∀ n n', depth < n → depth < n' → ∀ w, v.Twin w →
    Act.Agree X β β Value.Staged (Act.matchStage (DocMapper.dispatch names n) v)
      (Act.matchStage (DocMapper.dispatch names n') w)

/-- What comes to the same stages whenever it is asked for some: what was there before, or a
function of calls whose sources are such values of the depth before. -/
def Settled : Nat → Value → Prop
  | 0, v => β.Held X v
  | m + 1, v => Settled m v ∨ ∃ i calls result, v = .object i (.function calls result) ∧
    (∀ k ∈ calls, k.Fixed β X names (2 * m) (Settled m) (β.Chooses X names (2 * m))) ∧
    ∀ r ∈ result, ∃ u, (Act.isPipeline u → β.Held X u) ∧ β.Comes X names (2 * m) r u

end Store

/-- The store after a function was given a builder. -/
def Store.sighted (st : Store) (builder : Value) : Store :=
  { st with sightings := st.sightings.push (Act.sightingOf st builder) }

namespace Act

/-- What a run of calls did to a pipeline. -/
structure Runs (a : Behalf) (β : Store) (X : Nat → Prop) (σ : Store) (i : Nat) (p : Pipeline)
    (ss : List Value) (after : Store) : Prop where
  joins : a.Joins β X after i (p.extended ss)
  apart : σ.Allows (· = i) after

variable {β σ τ mid after : Store} {X : Nat → Prop} {a : Behalf} {i j : Nat} {p q : Pipeline}
variable {c k : ClassRef} {model other : Value} {names : Names} {n n' depth : Nat}
variable {ss ts : List Value} {s : Option Value} {P Q : Value → Prop} {ks : List Call}

theorem Runs.nil (h : a.Joins β X σ i p) : Runs a β X σ i p [] σ :=
  ⟨by simpa using h, .refl σ⟩

theorem Runs.step {ended : Except Fault Value × Store} (h : a.Joins β X σ i p)
    (adds : Adds σ a.cls i p s ended) : Runs a β X σ i p s.toList ended.2 :=
  ⟨h.adds adds, adds.apart⟩

theorem Runs.gains (run : Runs a β X mid i p ss after)
    (g : σ.Gains mid) :
    Runs a β X σ i p ss after :=
  ⟨run.joins, g.wider.within run.apart (.inl rfl)⟩

theorem Runs.append (run : Runs a β X σ i p ss mid)
    (rest : Runs a β X mid i (p.extended ss) ts after) : Runs a β X σ i p (ss ++ ts) after :=
  ⟨by rw [Pipeline.extended_append]; exact rest.joins, run.apart.within rest.apart (.inl rfl)⟩

theorem runCalls_cons {d : Dispatch} {self : Value} {k : Call} (target : k.target = none) :
    runCalls d names self (k :: ks) = (do
      let (args, named) ← k.written names d
      let _ ← d.call .never self k.method args named
      runCalls d names self ks) := by
  simp only [runCalls, target, Call.written, bind_assoc, pure_bind]

/-- A function's calls append the same stages to any two pipelines, up to the first that fails. -/
theorem outcome_runCalls
    (fixed : ∀ k ∈ ks, k.Fixed β X names depth P Q)
    (supplies : ∀ v, P v → ∀ w, v.Twin w →
      β.Supplies X (names.behalf n c model) (names.behalf n' k other) v w)
    (chooses : ∀ v, Q v → β.Chooses X names depth v) (deep : depth < n) (deep' : depth < n')
    (left : (names.behalf n c model).Joins β X σ i p)
    (right : (names.behalf n' k other).Joins β X τ j q) :
    ∃ ss r r' σ' τ',
      (runCalls (dispatch names (n + 1)) names (.handle (.pipeline c i)) ks).outcome σ = (r, σ') ∧
      (runCalls (dispatch names (n' + 1)) names (.handle (.pipeline k j)) ks).outcome τ = (r', τ') ∧
      r.toOption = r'.toOption ∧ Runs (names.behalf n c model) β X σ i p ss σ' ∧
      Runs (names.behalf n' k other) β X τ j q ss τ' ∧ ∀ s ∈ ss, s.Staged := by
  induction ks generalizing σ τ p q with
  | nil => exact ⟨[], .ok (), .ok (), σ, τ, rfl, rfl, rfl, .nil left, .nil right, nofun⟩
  | cons call ks ih =>
    obtain ⟨fixed, rest⟩ := List.forall_mem_cons.mp fixed
    obtain ⟨args, named, mid, args', named', mid', written, written', more, more', likes⟩ :=
      fixed.written (n + 1) (n' + 1) (by omega) (by omega) σ τ left.allows right.allows
    have agree : Option.Rel
        (StageCall.Agree β X (names.behalf n c model) (names.behalf n' k other))
        (StageCall.of? call.method args named) (StageCall.of? call.method args' named') := by
      generalize StageCall.of? call.method args named = x at likes
      generalize StageCall.of? call.method args' named' = y at likes
      cases likes with
      | none => exact .none
      | some likes =>
        obtain ⟨like, sound, asks⟩ := likes
        refine .some (like.agree (.inr ⟨by omega, by omega⟩) .same sound
          (StageCall.Asks.imp asks supplies ?_))
        exact fun v chosen w twin => chooses v chosen n n' deep deep' w twin
    obtain ⟨s, adds, adds', plain⟩ :=
      adds_method fixed.stage agree (left.gains more).toFollows (right.gains more').toFollows
    have first := (Runs.step (left.gains more) adds).gains more
    have first' := (Runs.step (right.gains more') adds').gains more'
    rw [runCalls_cons fixed.target, outcome_bind_ok written, runCalls_cons fixed.target,
      outcome_bind_ok written']
    simp only
    generalize (DocMapper.dispatch names (n + 1)).call .never (.handle (.pipeline c i)) call.method
      args named = x at adds first
    generalize (DocMapper.dispatch names (n' + 1)).call .never (.handle (.pipeline k j)) call.method
      args' named' = y at adds' first'
    rcases made : x.outcome mid with ⟨answer, next⟩
    rcases made' : y.outcome mid' with ⟨answer', next'⟩
    rw [made] at adds first
    rw [made'] at adds' first'
    have answered := adds.answer
    have answered' := adds'.answer
    cases s with
    | none =>
      cases answer <;> cases answered
      cases answer' <;> cases answered'
      rw [outcome_bind_error made, outcome_bind_error made']
      exact ⟨[], _, _, next, next', rfl, rfl, rfl, first, first', nofun⟩
    | some s =>
      cases answer <;> cases answered
      cases answer' <;> cases answered'
      rw [outcome_bind_ok made, outcome_bind_ok made']
      obtain ⟨ss, r, r', σ', τ', run, run', same, later, later', plains⟩ :=
        ih rest first.joins first'.joins
      exact ⟨s :: ss, r, r', σ', τ', run, run', same, first.append later, first'.append later',
        List.forall_mem_cons.mpr ⟨plain s rfl, plains⟩⟩

/-- A fresh pipeline may be given stages. -/
theorem joins_newPipeline {st : Store} (names : Names) (n : Nat) (model : Value) (clear : β.Clear)
    (known : c.IsPipeline) (allows : β.Allows X st) :
    ∃ after, (newPipeline { cls := c, stages := [], model }).outcome st =
        (.ok (.handle (.pipeline c st.pipelines.size)), after) ∧ st.Gains after ∧
      (names.behalf n c model).Joins β X after st.pipelines.size
        { cls := c, stages := [], model } := by
  have gains : st.Gains
      { st with pipelines := st.pipelines.push { cls := c, stages := [], model } } :=
    ⟨rfl, List.prefix_refl _, by simp, fun i there _ =>
      (Array.getElem?_push_lt there).trans (Array.getElem?_eq_getElem there).symm⟩
  have now := Store.Allows.clear gains (allows.clear clear)
  refine ⟨_, rfl, gains, ⟨⟨.of_bare ?_ now.pristine known (by simp) rfl, rfl⟩, allows.trans gains⟩,
    .inr allows.grown⟩
  exact ((allows.clear clear).coming c _ (Nat.le_refl _)).of_setting rfl

/-- What a function of calls does with a builder. -/
def replay (d : Dispatch) (names : Names) (ks : List Call) (result : Option Value) (self : Value) :
    Act Value := do
  runCalls d names self ks
  match result with
  | some v => names.complete d v
  | none => return self

/-- A function is seen with its builder, and then makes its calls. -/
theorem outcome_apply_calls (names : Names) (n : Nat) (i : Option Nat) (ks : List Call)
    (result : Option Value) (self : Value) (st : Store) :
    ((dispatch names (n + 1)).apply .never (.object i (.function ks result)) [self] []).outcome st =
      (replay (dispatch names n) names ks result self).outcome (st.sighted self) := by
  change (runFunction (dispatch names n) names ks result [self] >>= fun v =>
    if Waiting.never = .always then awaitedBy (dispatch names n) v else pure v).outcome st = _
  simp only [reduceCtorEq, if_false, bind_pure, runFunction]
  exact outcome_bind_ok (outcome_modify ..)

theorem outcome_apply_function (names : Names) (n : Nat) (i : Option Nat) (ks : List Call)
    (result : Option Value) (self : Value) (st : Store) :
    ∃ mid, st.Gains mid ∧
      ((dispatch names (n + 1)).apply .never (.object i (.function ks result)) [self]
        []).outcome st = (replay (dispatch names n) names ks result self).outcome mid :=
  ⟨st.sighted self, ⟨rfl, List.prefix_refl _, Nat.le_refl _, fun _ _ _ => rfl⟩,
    outcome_apply_calls names n i ks result self st⟩

/-- A function of calls makes the same stages of any two fresh pipelines. -/
theorem agree_askPipeline {ks : List Call} {result : Option Value} {i j : Option Nat}
    {context : String} (clear : β.Clear)
    (known : c.IsPipeline) (known' : k.IsPipeline)
    (fixed : ∀ call ∈ ks, call.Fixed β X names depth P Q)
    (ends : ∀ r ∈ result, ∃ u, (isPipeline u → β.Held X u) ∧ β.Comes X names depth r u)
    (supplies : ∀ v, P v → ∀ w, v.Twin w →
      β.Supplies X (names.behalf n c model) (names.behalf n' k other) v w)
    (chooses : ∀ v, Q v → β.Chooses X names depth v) (deep : depth < n) (deep' : depth < n') :
    Act.Agree X β β Value.Plain
      (askPipeline (dispatch names (n + 2)) c context model (.object i (.function ks result)))
      (askPipeline (dispatch names (n' + 2)) k context other
        (.object j (.function ks result))) := by
  intro st st' allows allows'
  obtain ⟨σ, new, more, left⟩ := joins_newPipeline names n model clear known allows
  obtain ⟨τ, new', more', right⟩ := joins_newPipeline names n' other clear known' allows'
  obtain ⟨mid, seen, applied⟩ := outcome_apply_function names (n + 1) i ks result
    (.handle (.pipeline c st.pipelines.size)) σ
  obtain ⟨mid', seen', applied'⟩ := outcome_apply_function names (n' + 1) j ks result
    (.handle (.pipeline k st'.pipelines.size)) τ
  obtain ⟨ss, r, r', after, after', run, run', same, runs, runs', staged⟩ :=
    outcome_runCalls fixed supplies chooses deep deep' (left.gains seen) (right.gains seen')
  have plain (s : Value) (there : s ∈ ss) : s.Plain := (staged s there).plain
  have grown : st.Gains after := (more.trans seen).within runs.apart (.inr (Nat.le_refl _))
  have grown' : st'.Gains after' := (more'.trans seen').within runs'.apart (.inr (Nat.le_refl _))
  rw [askPipeline, outcome_bind_ok new, askPipeline, outcome_bind_ok new']
  cases r with
  | error e =>
    cases r' <;> cases same
    rw [outcome_bind_error (applied.trans (outcome_bind_error run)),
      outcome_bind_error (applied'.trans (outcome_bind_error run'))]
    exact .failed grown grown'
  | ok =>
    cases r' <;> cases same
    have done := applied.trans (outcome_bind_ok run)
    have done' := applied'.trans (outcome_bind_ok run')
    cases result with
    | none =>
      rw [outcome_bind_ok done, outcome_bind_ok done']
      simp only [isPipeline, if_true]
      rw [outcome_stagesOf runs.joins.stages plain, outcome_stagesOf runs'.joins.stages plain]
      exact .gave (.list _ plain) grown grown'
    | some r =>
      obtain ⟨u, held, comes⟩ := ends r rfl
      obtain ⟨w, last, completed, further, twin⟩ := comes (n + 1) (by omega) after runs.joins.allows
      obtain ⟨w', last', completed', further', twin'⟩ :=
        comes (n' + 1) (by omega) after' runs'.joins.allows
      rw [outcome_bind_ok (done.trans completed), outcome_bind_ok (done'.trans completed')]
      by_cases pipeline : isPipeline u
      · have nests := (held pipeline).nests (a := names.behalf (n + 2) c model)
          (b := names.behalf (n' + 2) k other) context
        rw [nestedFor, if_pos pipeline, nestedFor, if_pos pipeline] at nests
        rw [twin.of_pipeline pipeline, twin'.of_pipeline pipeline, if_pos pipeline,
          if_pos pipeline]
        exact (nests _ _ (runs.joins.allows.trans further) (runs'.joins.allows.trans further')).from
          (grown.trans further) (grown'.trans further')
      · rw [twin.isPipeline, twin'.isPipeline, if_neg pipeline, if_neg pipeline]
        exact .failed (grown.trans further) (grown'.trans further')

end Act

namespace Store

variable {β : Store} {X : Nat → Prop} {a b : Act.Behalf} {names : Names} {n n' : Nat} {v w : Value}
variable {c k : ClassRef} {model other : Value}

theorem comes_named {name : String} {u : Value}
    (bound : names.lookup name = some u) (own : ∀ st : Store, st.current u = u) (depth : Nat) :
    β.Comes X names depth (.handle (.variable [name])) u := by
  intro n _ st _
  refine ⟨u, st, ?_, .refl st, .same u⟩
  rw [Names.outcome_complete_named, bound, Option.map_some, own]
  rfl

/-- What cannot be called and is an object comes to nothing. -/
theorem Held.supplies_twin (held : β.Held X v) (twin : v.Twin w) : β.Supplies X a b v w := by
  cases twin with
  | same => exact held.supplies
  | object i j s =>
    have callable : ¬(Value.object i s).isCallable := by
      cases held with
      | data _ other => exact other
      | refused _ _ _ _ callable => exact callable
    have refused (model : Value) (other : Value) :
        β.Nests X { a with model } { b with model := other } (.object i s) (.object j s) := by
      intro context
      have callable' : ¬(Value.object j s).isCallable := by cases s <;> exact callable
      rw [Act.nestedFor, Act.nestedFor]
      simp only [Act.isPipeline, Value.listed?, callable, callable']
      exact .throw _ _
    exact ⟨refused _ _, fun model => refused model model⟩

/-- Functions of calls come to the same stages, however deep functions are given to them. -/
theorem Settled.supplies {m : Nat} (settled : β.Settled X names m v) (twin : v.Twin w)
    (clear : β.Clear) (known : c.IsPipeline) (known' : k.IsPipeline) (deep : 2 * m < n)
    (deep' : 2 * m < n') (model other : Value) :
    β.Supplies X (names.behalf n c model) (names.behalf n' k other) v w := by
  induction m generalizing v w n n' model other with
  | zero => exact Held.supplies_twin settled twin
  | succ m ih =>
    obtain settled | ⟨i, ks, result, rfl, fixed, ends⟩ := settled
    · exact ih settled twin (by omega) (by omega) model other
    obtain ⟨n, rfl⟩ : ∃ l, n = l + 2 := ⟨n - 2, by omega⟩
    obtain ⟨n', rfl⟩ : ∃ l, n' = l + 2 := ⟨n' - 2, by omega⟩
    obtain ⟨j, rfl⟩ : ∃ j, w = .object j (.function ks result) := by
      cases twin
      · exact ⟨i, rfl⟩
      · exact ⟨_, rfl⟩
    have replays (model other : Value) :
        β.Nests X (names.behalf (n + 2) c model) (names.behalf (n' + 2) k other)
          (.object i (.function ks result)) (.object j (.function ks result)) := fun context =>
      Act.agree_askPipeline clear known known' fixed ends
        (fun v settled w twin => ih settled twin (by omega) (by omega) model other) (fun _ => id)
        (by omega) (by omega)
    exact ⟨replays _ _, fun model => replays model model⟩

theorem Settled.staging {m : Nat} (settled : β.Settled X names m v) (clear : β.Clear)
    (known : c.IsPipeline) (deep : 2 * m < n) :
    β.Staging X (dispatch names n) c v := by
  by_cases callable : v.isCallable
  · refine .function callable fun context model => ?_
    have nests := (settled.supplies (.same v) clear known known deep deep model model).branches
      context
    obtain ⟨pipeline, -, listed, -⟩ := Value.callable_alone callable
    rw [Act.nestedFor, if_neg pipeline, listed] at nests
    simpa only [callable, if_true] using nests
  · refine .held ?_
    induction m with
    | zero => exact settled
    | succ m ih =>
      obtain settled | ⟨i, ks, result, rfl, -⟩ := settled
      · exact ih settled (by omega)
      · exact absurd rfl callable

/-- A function of calls does nothing to the builders that there were. -/
theorem Settled.guest {R : Store → Prop} {m : Nat}
    (settled : ∀ st, R st → st.Clear ∧ st.Settled (fun _ => False) names m v)
    (kept : ∀ st after, R st → st.Gains after → R after)
    (known : c.IsPipeline) (deep : 2 * m < n) :
    Act.Guest (dispatch names n) R c v := by
  have keeps (context : String) (model : Value) :
      Act.Keeps R (Act.nestedFor (dispatch names n) c context model v) := by
    intro st here
    obtain ⟨clear, settled⟩ := settled st here
    have nests := (settled.supplies (.same v) clear known known deep deep model model).branches
      context st st (.refl st) (.refl st)
    generalize (Act.nestedFor (dispatch names n) c context model v).outcome st = ended at nests
    cases nests with
    | failed left => exact kept st _ here left
    | gave _ left => exact kept st _ here left
  constructor
  · intro pipeline
    have own := keeps "" .null
    rwa [Act.nestedFor, if_pos pipeline] at own
  · intro callable context model
    have asked := keeps context model
    obtain ⟨pipeline, -, listed, -⟩ := Value.callable_alone callable
    rw [Act.nestedFor, if_neg pipeline, listed] at asked
    simpa only [callable, if_true] using asked

end Store

/-- A call whose arguments are written as they are. -/
theorem Call.Fixed.of_literal {β : Store} {X : Nat → Prop} {names : Names} {depth : Nat}
    {P Q : Value → Prop} {k : Call} {args : List Value} {named : Entries} (target : k.target = none)
    (stage : StageCall.isMethod k.method)
    (literal : ∀ d st, (k.written names d).outcome st = (.ok (args, named), st))
    (sound : ∀ call, StageCall.of? k.method args named = some call →
      call.Sound β X ∧ call.Asks P Q) : k.Fixed β X names depth P Q where
  target := target
  stage := stage
  written n n' _ _ st st' _ _ := by
    refine ⟨args, named, st, args, named, st', literal .., literal .., .refl st, .refl st', ?_⟩
    cases stands : StageCall.of? k.method args named with
    | none => exact .none
    | some call => exact .some ⟨.same call, sound call stands⟩

end DocMapper
