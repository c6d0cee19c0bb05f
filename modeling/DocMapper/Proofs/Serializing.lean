import DocMapper.Proofs.Concatenating

/-!
The forms in which a pipeline can be given to another one.  A builder stands for the stages that it
has by then; so do these stages as a list, a function that answers with the builder, and one that
makes the calls again that the builder was built by.
-/

namespace DocMapper

theorem Act.checkStages_passes (context : String) (index : Nat) {vs : List Value}
    (mappings : ∀ v ∈ vs, v.isMapping) : checkStages context index vs = .ok () := by
  induction vs generalizing index with
  | nil => rfl
  | cons v vs ih =>
    obtain ⟨mapping, mappings⟩ := List.forall_mem_cons.mp mappings
    rw [checkStages, if_pos mapping, ih _ mappings]

namespace Store

/-- What comes to given stages on whatever behalf it is asked for them. -/
def Unfolds (σ : Store) (names : Names) (depth : Nat) (v : Value) (ss : List Value) : Prop :=
  ∀ n, depth < n → ∀ c, c.IsPipeline → ∀ context model st, σ.Gains st → ∃ after,
    (Act.nestedFor (DocMapper.dispatch names n) c context model v).outcome st =
      (.ok (.list ss), after) ∧ st.Gains after

/-- The forms of a builder of which the calls are known that it was built by. -/
inductive Form (σ : Store) (names : Names) (depth : Nat) (builder : Value) (ks : List Call)
    (ss : List Value) : Value → Prop
  | builder : Form σ names depth builder ks ss builder
  | list : Form σ names depth builder ks ss (.list ss)
  | tuple : Form σ names depth builder ks ss (.tuple ss)
  | returned {i r} (comes : σ.Comes (fun _ => False) names depth r builder) :
      Form σ names depth builder ks ss (.object i (.function [] (some r)))
  | replayed {i} : Form σ names depth builder ks ss (.object i (.function ks none))

/-- A pipeline that was built from an empty one by calls with settled arguments. -/
structure Composes (β : Store) (names : Names) (m n : Nat) (c : ClassRef) (i : Nat) (model : Value)
    (ks : List Call) (σ : Store) : Prop where
  clear : β.Clear
  empty : β.Stages c i { cls := c, stages := [], model }
  deep : 2 * m < n
  fixed : ∀ k ∈ ks, k.Fixed β (· = i) names (2 * m) (β.Settled (· = i) names m)
    (β.Chooses (· = i) names (2 * m))
  built : (Act.runCalls (DocMapper.dispatch names (n + 1)) names (.handle (.pipeline c i))
    ks).outcome β = (.ok (), σ)

variable {β σ st : Store} {names : Names} {m n n' depth i : Nat} {c k : ClassRef}
variable {model other v w : Value} {ks : List Call} {ss : List Value}

theorem Composes.joins (h : β.Composes names m n c i model ks σ) :
    (names.behalf n c model).Joins β (· = i) β i { cls := c, stages := [], model } :=
  ⟨⟨⟨h.empty, rfl⟩, .refl β⟩, .inl rfl⟩

/-- The calls do the same to every fresh pipeline. -/
theorem Composes.replays (h : β.Composes names m n c i model ks σ) {τ : Store} {j : Nat}
    {q : Pipeline} (known : k.IsPipeline) (deep : 2 * m < n')
    (right : (names.behalf n' k other).Joins β (· = i) τ j q) :
    ∃ ss after, σ.Stages c i { cls := c, stages := ss, model } ∧ β.Allows (· = i) σ ∧
      (Act.runCalls (DocMapper.dispatch names (n' + 1)) names (.handle (.pipeline k j))
        ks).outcome τ = (.ok (), after) ∧
      Act.Runs (names.behalf n' k other) β (· = i) τ j q ss after ∧ ∀ s ∈ ss, s.Staged := by
  obtain ⟨ss, r, r', σ', after, run, run', same, runs, runs', staged⟩ :=
    Act.outcome_runCalls h.fixed
      (fun v settled w twin => settled.supplies twin h.clear h.empty.known known h.deep deep ..)
      (fun _ => id) h.deep deep h.joins right
  rw [h.built] at run
  cases run
  cases r' <;> cases same
  exact ⟨ss, after, runs.joins.stages, runs.apart, run', runs', staged⟩

theorem Composes.stages (h : β.Composes names m n c i model ks σ) :
    ∃ ss, σ.Stages c i { cls := c, stages := ss, model } ∧ β.Allows (· = i) σ ∧
      ∀ s ∈ ss, s.Staged := by
  obtain ⟨ss, -, built, apart, -, -, staged⟩ := h.replays h.empty.known h.deep h.joins
  exact ⟨ss, built, apart, staged⟩

section

theorem unfolds_listed (staged : ∀ s ∈ ss, s.Staged) (listed : v.listed? = some ss)
    (pipeline : ¬Act.isPipeline v) : σ.Unfolds names depth v ss := by
  intro n _ c _ context model st _
  have passes := Act.checkStages_passes context 0 fun s there => (staged s there).mapping
  rw [Act.nestedFor, if_neg pipeline, listed]
  simp only [passes]
  exact ⟨st, Act.outcome_copy (.list _ fun s there => (staged s there).plain) st, .refl st⟩

variable {p : Pipeline} (built : σ.Stages c i p) (staged : ∀ s ∈ p.stages, s.Staged)
include built staged

theorem unfolds_builder : σ.Unfolds names depth (.handle (.pipeline c i)) p.stages := by
  intro n _ k _ context model st more
  refine ⟨st, ?_, .refl st⟩
  rw [Act.nestedFor]
  exact Act.outcome_stagesOf (more.stages built) fun s there => (staged s there).plain

theorem unfolds_returned {r : Value} {j : Option Nat} (clear : σ.Clear)
    (comes : σ.Comes (fun _ => False) names depth r (.handle (.pipeline c i))) :
    σ.Unfolds names (depth + 1) (.object j (.function [] (some r))) p.stages := by
  intro n deep k known context model st more
  obtain ⟨n, rfl⟩ : ∃ l, n = l + 1 := ⟨n - 1, by omega⟩
  obtain ⟨fresh, new, grown, -⟩ := Act.joins_newPipeline names n model clear known more
  obtain ⟨mid, seen, applied⟩ := Act.outcome_apply_function names n j [] (some r)
    (.handle (.pipeline k st.pipelines.size)) fresh
  have further := (grown.trans seen)
  obtain ⟨w, after, completed, last, twin⟩ := comes n (by omega) mid (more.trans further)
  obtain rfl := twin.of_pipeline rfl
  refine ⟨after, ?_, further.trans last⟩
  change (Act.askPipeline _ _ _ _ _).outcome st = _
  rw [Act.askPipeline, Act.outcome_bind_ok new,
    Act.outcome_bind_ok (applied.trans ((Act.outcome_bind_ok rfl).trans completed))]
  exact Act.outcome_stagesOf (Gains.stages ((more.trans further).trans last) built)
    fun s there => (staged s there).plain

end

theorem Composes.unfolds_replayed (h : β.Composes names m n c i model ks σ)
    (built : σ.Stages c i { cls := c, stages := ss, model }) {j : Option Nat} :
    σ.Unfolds names (2 * m + 2) (.object j (.function ks none)) ss := by
  intro n' deep k known context other st more
  obtain ⟨l, rfl⟩ : ∃ l, n' = l + 2 := ⟨n' - 2, by omega⟩
  obtain ⟨-, -, apart, -⟩ := h.stages
  obtain ⟨fresh, new, grown, joins⟩ :=
    Act.joins_newPipeline names l other h.clear known (apart.trans more)
  obtain ⟨mid, seen, applied⟩ := Act.outcome_apply_function names (l + 1) j ks none
    (.handle (.pipeline k st.pipelines.size)) fresh
  obtain ⟨ts, after, again, -, run, runs, staged⟩ :=
    h.replays known (by omega) (joins.gains seen)
  obtain rfl : ss = ts := by
    have same := built.pipeline.symm.trans again.pipeline
    simpa using same
  refine ⟨after, ?_, (grown.trans seen).within runs.apart (.inr (Nat.le_refl _))⟩
  change (Act.askPipeline _ _ _ _ _).outcome st = _
  rw [Act.askPipeline, Act.outcome_bind_ok new,
    Act.outcome_bind_ok (applied.trans (Act.outcome_bind_ok run))]
  exact Act.outcome_stagesOf runs.joins.stages fun s there => (staged s there).plain

/-- In whichever form a builder is given, it comes to its stages. -/
theorem Composes.unfolds (h : β.Composes names m n c i model ks σ)
    (built : σ.Stages c i { cls := c, stages := ss, model })
    (form : σ.Form names (2 * m) (.handle (.pipeline c i)) ks ss v) :
    σ.Unfolds names (2 * m + 2) v ss := by
  obtain ⟨ts, again, apart, staged⟩ := h.stages
  obtain rfl : ss = ts := by
    have same := built.pipeline.symm.trans again.pipeline
    simpa using same
  cases form with
  | builder => exact unfolds_builder built staged
  | list => exact unfolds_listed staged rfl Bool.false_ne_true
  | tuple => exact unfolds_listed staged rfl Bool.false_ne_true
  | returned comes =>
    exact fun n deep => unfolds_returned built staged (apart.clear h.clear) comes n (by omega)
  | replayed => exact h.unfolds_replayed built

theorem Unfolds.supplies {depth' : Nat} (left : σ.Unfolds names depth v ss)
    (right : σ.Unfolds names depth' w ss) (plain : ∀ s ∈ ss, s.Plain)
    (known : c.IsPipeline) (known' : k.IsPipeline) (deep : depth < n) (deep' : depth' < n')
    (model other : Value) :
    σ.Supplies (fun _ => False) (names.behalf n c model) (names.behalf n' k other) v w := by
  have nests (model other : Value) :
      σ.Nests (fun _ => False) (names.behalf n c model) (names.behalf n' k other) v w := by
    intro context st st' more more'
    obtain ⟨after, comes, grown⟩ := left n deep c known context model st more
    obtain ⟨after', comes', grown'⟩ := right n' deep' k known' context other st' more'
    rw [comes, comes']
    exact .gave (.list _ plain) grown grown'
  exact ⟨nests _ _, fun model => nests model model⟩

/-- What a call appends to every pipeline, if it does not fail on all. -/
def Adds (σ : Store) (names : Names) (n : Nat) (name : String) (args : List Value) (named : Entries)
    (s : Option Value) : Prop :=
  ∀ st k j q, σ.Gains st → st.Stages k j q → Act.Adds st k j q s
    (((DocMapper.dispatch names (n + 1)).call .never (.handle (.pipeline k j)) name args
      named).outcome st)

theorem adds_of_agree {p : Pipeline} {call dall : StageCall} {name : String}
    {args args' : List Value} {named named' : Entries} {s : Option Value} (here : σ.Stages c i p)
    (first : Act.Adds σ c i p s (((DocMapper.dispatch names (n + 1)).call .never
      (.handle (.pipeline c i)) name args named).outcome σ))
    (stands : StageCall.of? name args named = some call)
    (stands' : StageCall.of? name args' named' = some dall)
    (agree : ∀ k, k.IsPipeline → ∀ other,
      call.Agree σ (fun _ => False) (names.behalf n c p.model) (names.behalf n k other) dall) :
    σ.Adds names n name args' named' s := by
  intro st k j q more there
  have same : Option.Rel (StageCall.Agree σ (fun _ => False) (names.behalf n c p.model)
      (names.behalf n k q.model)) (StageCall.of? name args named)
      (StageCall.of? name args' named') := by
    rw [stands, stands']
    exact .some (agree k there.known q.model)
  obtain ⟨t, adds, adds', -⟩ := Act.adds_method (StageCall.isMethod_of_stands stands) same
    ⟨⟨here, rfl⟩, .refl σ⟩ ⟨⟨there, rfl⟩, more⟩
  obtain rfl := first.unique adds
  exact adds'

/-- A class, or a name, that a collection is read by. -/
def Lies (σ : Store) (v : Value) (text : String) : Prop :=
  ∀ context, ∃ after, (Act.resolveCollection (DocMapper.dispatch [] 1) v context).outcome σ =
    (.ok (.str text), after)

theorem lies_text (σ : Store) {text : String} (nonempty : text ≠ "") : σ.Lies (.str text) text := by
  intro context
  refine ⟨σ, ?_⟩
  unfold Act.resolveCollection
  split
  · rename_i given
    cases given
    exact absurd rfl nonempty
  · rename_i given
    cases given
    rfl
  · rename_i other
    exact absurd rfl (other text)

theorem lies_model {slot : Nat} {text : String}
    (gives : σ.registry.gives (.cls (.model slot)))
    (collection : σ.registry.collection (.cls (.model slot)) = .ok (.str text)) :
    σ.Lies (.cls (.model slot)) text := by
  intro context
  refine ⟨σ, ?_⟩
  unfold Act.resolveCollection
  dsimp only
  rw [Act.outcome_bind_ok (Act.outcome_givesCollection _ σ), if_pos gives]
  exact (Act.outcome_bind_ok rfl).trans (by rw [collection]; rfl)

theorem Lies.resolves {text : String} (lies : σ.Lies v text) (names : Names) (context : String)
    (deep : 0 < n) (more : σ.Gains st) : ∃ after,
      (Act.resolveCollection (DocMapper.dispatch names n) v context).outcome st =
        (.ok (.str text), after) ∧ st.Gains after := by
  have located : σ.Located v := by
    intro context u after same
    obtain ⟨_, is⟩ := lies context
    cases is.symm.trans same
    exact .str _
  have agree : σ.Resolves (fun _ => False) (Names.behalf [] 1 Act.pipelineClass .null)
      (names.behalf n Act.pipelineClass .null) v := located.resolves (.inr ⟨Nat.one_pos, deep⟩)
  have ended := agree context σ st (.refl σ) more
  obtain ⟨mid, is⟩ := lies context
  rw [is] at ended
  generalize (Act.resolveCollection (DocMapper.dispatch names n) v context).outcome st = result
    at ended ⊢
  cases ended with
  | gave _ _ grown => exact ⟨_, rfl, grown⟩

theorem Lies.ne_null {text : String} (lies : σ.Lies v text) : v ≠ .null := by
  rintro rfl
  obtain ⟨after, is⟩ := lies ""
  cases is

/-- What a union makes of a collection and stages. -/
def unionOf (text : String) (ss : List Value) : Value :=
  Stage.ofOperator "$unionWith" (.dict [(.str "coll", .str text), (.str "pipeline", .list ss)])

section

variable {p q : Pipeline} {text : String} {j : Nat} {source : Value}

theorem outcome_unionStage_builder (built : σ.Stages c i p) (plain : ∀ s ∈ p.stages, s.Plain)
    (lies : σ.Lies p.model text) (deep : 0 < n) (self : Value) (more : σ.Gains st) :
    ∃ after, (Act.unionStage (DocMapper.dispatch names n) self
      (.handle (.pipeline c i))).outcome st = (.ok (unionOf text p.stages), after) ∧
        st.Gains after := by
  have there := more.stages built
  unfold Act.unionStage
  dsimp only
  rw [Act.outcome_bind_ok (Act.outcome_pipelineAt there)]
  split
  · rename_i none
    exact absurd none lies.ne_null
  · obtain ⟨after, resolved, grown⟩ := lies.resolves names "union_with()" deep more
    rw [Act.outcome_bind_ok resolved,
      Act.outcome_bind_ok (Act.outcome_stagesOf (grown.stages there) plain)]
    exact ⟨after, rfl, grown⟩

theorem outcome_unionStage_mapping (unfolds : σ.Unfolds names depth v ss)
    (lies : σ.Lies source text) (deep : depth < n) (more : σ.Gains st) (there : st.Stages k j q) :
    ∃ after, (Act.unionStage (DocMapper.dispatch names n) (.handle (.pipeline k j))
      (.dict [(.str "coll", source), (.str "pipeline", v)])).outcome st =
        (.ok (unionOf text ss), after) ∧ st.Gains after := by
  have positive : 0 < n := by omega
  obtain ⟨mid, resolved, grown⟩ := lies.resolves names "union_with()" positive more
  have sourceModel : (Act.sourceModel source).outcome mid =
      (.ok (if mid.registry.gives source then source else .null), mid) := by
    rw [Act.sourceModel, Act.outcome_bind_ok (Act.outcome_givesCollection source mid)]
    split <;> rfl
  obtain ⟨after, comes, further⟩ := unfolds n deep k there.known "union_with() pipeline"
    (if mid.registry.gives source then source else .null) mid (more.trans grown)
  refine ⟨after, ?_, grown.trans further⟩
  have coll : Entries.field? [(.str "coll", source), (.str "pipeline", v)] "coll" =
    some source := rfl
  have pipeline : Entries.field? [(.str "coll", source), (.str "pipeline", v)] "pipeline" =
    some v := rfl
  unfold Act.unionStage
  simp only [Value.entries?_dict, coll, pipeline]
  rw [Act.outcome_bind_ok resolved, Act.outcome_bind_ok sourceModel]
  rw [← Act.outcome_nestedStages (grown.stages there)] at comes
  rw [Act.outcome_bind_ok comes]
  rfl

end

/-- The forms of a query. -/
inductive QueryForm (σ : Store) (X : Nat → Prop) (names : Names) (depth : Nat) (kind : QueryKind)
    (j : Nat) (criteria : Entries) : Value → Prop
  | query : QueryForm σ X names depth kind j criteria (.handle (.query kind j))
  | mapping : QueryForm σ X names depth kind j criteria (.dict criteria)
  | returned {i r} (comes : σ.Comes X names depth r (.handle (.query kind j))) :
      QueryForm σ X names depth kind j criteria (.object i (.function [] (some r)))

/-- In whichever form a query is given, it comes to its criteria. -/
theorem QueryForm.outcome_matchStage {X : Nat → Prop} {kind : QueryKind} {j : Nat} {q : Query}
    (form : σ.QueryForm X names depth kind j q.criteria v) (built : σ.Builds kind j q)
    (plain : (Value.dict q.criteria).Plain) (deep : depth + 1 < n) (more : σ.Allows X st) :
    ∃ after, (Act.matchStage (DocMapper.dispatch names n) v).outcome st =
      (.ok (Stage.ofOperator "$match" (.dict q.criteria)), after) ∧ st.Gains after := by
  have json (d : Dispatch) {st : Store} (more : σ.Allows X st) :
      (Act.queryJson d (.handle (.query kind j))).outcome st = (.ok (.dict q.criteria), st) := by
    rw [Act.outcome_queryJson_copy (more.builds built), Act.outcome_copy plain]
  cases form with
  | query => exact ⟨st, Act.outcome_bind_ok (json _ more), .refl st⟩
  | mapping => exact ⟨st, rfl, .refl st⟩
  | @returned i r comes =>
    obtain ⟨n, rfl⟩ : ∃ l, n = l + 1 := ⟨n - 1, by omega⟩
    have new := Act.outcome_startQuery_empty st
    have grown : st.Gains st.questioned :=
      ⟨rfl, by simp [Store.questioned], Nat.le_refl _, fun _ _ _ => rfl⟩
    obtain ⟨mid, seen, applied⟩ := Act.outcome_apply_function names n i [] (some r)
      (.handle (.query .unbound st.queries.size)) st.questioned
    obtain ⟨w, after, completed, last, twin⟩ :=
      comes n (by omega) mid (more.trans (grown.trans seen))
    cases twin
    have further := (grown.trans seen).trans last
    refine ⟨after, ?_, further⟩
    have asked : (Act.askQuery (DocMapper.dispatch names (n + 1))
        (.object i (.function [] (some r)))).outcome st = (.ok (.dict q.criteria), after) := by
      rw [Act.askQuery, Act.outcome_bind_ok new,
        Act.outcome_bind_ok (applied.trans ((Act.outcome_bind_ok rfl).trans completed))]
      exact json _ (more.trans further)
    rw [Act.matchStage_callable (by simp [Act.isQuery]) rfl rfl]
    exact Act.outcome_bind_ok asked

theorem QueryForm.chooses {X : Nat → Prop} {kind : QueryKind} {j : Nat} {q : Query}
    (form : σ.QueryForm X names depth kind j q.criteria v) (built : σ.Builds kind j q)
    (plain : (Value.dict q.criteria).Plain) : σ.Chooses X names (depth + 1) v := by
  intro n n' deep deep' w twin st st' more more'
  have again : σ.QueryForm X names depth kind j q.criteria w := by
    cases twin with
    | same => exact form
    | object =>
      cases form with
      | returned comes => exact .returned comes
  obtain ⟨after, made, kept⟩ := form.outcome_matchStage built plain deep more
  obtain ⟨after', made', kept'⟩ := again.outcome_matchStage built plain deep' more'
  rw [made, made']
  exact .gave (Act.staged plain) kept kept'

/-- Calls that are given builders in other forms append the same stage, or fail alike. -/
theorem Composes.adds_alike (h : β.Composes names m n' c i model ks σ)
    (built : σ.Stages c i { cls := c, stages := ss, model }) (staged : ∀ s ∈ ss, s.Staged)
    (deep : 2 * m + 2 < n) {form : Value → Prop}
    (forms : ∀ v, form v → σ.Unfolds names (2 * m + 2) v ss) {name : String}
    {args args' : List Value} {named named' : Entries} {call dall : StageCall}
    (stands : StageCall.of? name args named = some call)
    (stands' : StageCall.of? name args' named' = some dall)
    (like : call.Like (fun v w => v = w ∨ form v ∧ form w) dall)
    (sound : call.Sound σ fun _ => False)
    (asks : call.Asks (fun v => form v ∨ ∃ l, 2 * l < n ∧ σ.Settled (fun _ => False) names l v)
      fun _ => False) :
    ∃ s, σ.Adds names n name args named s ∧ σ.Adds names n name args' named' s := by
  obtain ⟨-, -, apart, -⟩ := h.stages
  have clear := apart.clear h.clear
  have agree {x : StageCall} (like : call.Like (fun v w => v = w ∨ form v ∧ form w) x)
      (k : ClassRef) (known : k.IsPipeline) (other : Value) :
      call.Agree σ (fun _ => False) (names.behalf n c model) (names.behalf n k other) x := by
    refine like.agree (.inl rfl) (fun _ => .inl rfl) sound (StageCall.Asks.imp asks ?_ nofun)
    have plain (s : Value) (there : s ∈ ss) : s.Plain := (staged s there).plain
    rintro v source w (rfl | ⟨left, right⟩)
    · obtain unfolds | ⟨l, below, settled⟩ := source
      · exact (forms v unfolds).supplies (forms v unfolds) plain built.known known deep deep ..
      · exact settled.supplies (.same v) clear built.known known below below ..
    · exact (forms v left).supplies (forms w right) plain built.known known deep deep ..
  have same : Option.Rel
      (StageCall.Agree σ (fun _ => False) (names.behalf n c model) (names.behalf n c model))
      (StageCall.of? name args named) (StageCall.of? name args named) := by
    rw [stands]
    exact .some (agree (.same call) c built.known model)
  obtain ⟨s, first, -⟩ := Act.adds_method (StageCall.isMethod_of_stands stands) same
    ⟨⟨built, rfl⟩, .refl σ⟩ ⟨⟨built, rfl⟩, .refl σ⟩
  exact ⟨s, adds_of_agree built first stands stands (agree (.same call)),
    adds_of_agree built first stands stands' (agree like)⟩

/-- A union with a pipeline reads the collection of its model through its stages. -/
theorem adds_union {p : Pipeline} {text : String} (built : σ.Stages c i p)
    (plain : ∀ s ∈ p.stages, s.Plain) (lies : σ.Lies p.model text) (nonempty : text ≠ "")
    {form : Value → Prop} (forms : ∀ v, form v → σ.Unfolds names depth v p.stages)
    (deep : depth < n) {args : List Value} {named : Entries} {u : Value}
    (stands : StageCall.of? "union_with" args named = some (.unionWith u))
    (given : u = .handle (.pipeline c i) ∨ ∃ source v, (source = p.model ∨ source = .str text) ∧
      form v ∧ u = .dict [(.str "coll", source), (.str "pipeline", v)]) :
    σ.Adds names n "union_with" args named (some (unionOf text p.stages)) := by
  intro st k j q more there
  have still : st.Gains st.identified := .identified st
  have whole : (unionOf text p.stages).Plain := (Act.staged (Value.plain_dict.mpr
    (by simpa using ⟨⟨.str _, .str _⟩, .str _, .list _ plain⟩))).plain
  have made : ∃ mid, (Act.stageOf (DocMapper.dispatch names n) (.handle (.pipeline k j))
      (.unionWith u)).outcome st.identified = (.ok (unionOf text p.stages), mid) ∧
        st.identified.Gains mid := by
    obtain rfl | ⟨source, v, lying, form, rfl⟩ := given
    · exact outcome_unionStage_builder built plain lies (by omega) (.handle (.pipeline k j))
        (more.trans still)
    · have lies : σ.Lies source text := by
        obtain rfl | rfl := lying
        · exact lies
        · exact σ.lies_text nonempty
      exact outcome_unionStage_mapping (forms v form) lies deep (more.trans still) there.identified
  obtain ⟨mid, made, kept⟩ := made
  exact Act.adds_made stands there made kept whole

/-- A match with a query is a match with its criteria. -/
theorem adds_match {kind : QueryKind} {j : Nat} {q : Query} (built : σ.Builds kind j q)
    (plain : (Value.dict q.criteria).Plain) (deep : depth + 1 < n) {args : List Value}
    {named : Entries} {u : Value} (stands : StageCall.of? "match" args named = some (.match u))
    (form : σ.QueryForm (fun _ => False) names depth kind j q.criteria u) :
    σ.Adds names n "match" args named (some (Stage.ofOperator "$match" (.dict q.criteria))) := by
  intro st k i p more there
  have still : st.Gains st.identified := .identified st
  obtain ⟨mid, made, kept⟩ := form.outcome_matchStage built plain deep (more.trans still)
  exact Act.adds_made stands there made kept (Act.staged plain).plain

end Store

/-- In whichever form a builder is given for a pipeline inside a stage, it comes to the same stages,
and the calls append the same stage, as long as calls may lead deep enough into one another.  A
union with the builder is one with the collection of its model, through the stages in any of these
forms; a match with a query is one with its criteria. -/
theorem nested_forms_agree (names : Names) {β σ : Store} {m n : Nat} {c : ClassRef} {i : Nat}
    {model : Value} {ks : List Call} (composed : β.Composes names m n c i model ks σ) :
    ∃ ss, σ.Stages c i { cls := c, stages := ss, model } ∧
      (∀ d, (Act.stagesOf d (.handle (.pipeline c i))).outcome σ = (.ok (.list ss), σ)) ∧
      (∀ v, σ.Form names (2 * m) (.handle (.pipeline c i)) ks ss v →
        σ.Unfolds names (2 * m + 2) v ss) ∧
      ∀ l, 2 * m + 2 < l →
        (∀ (name : String) (args args' : List Value) (named named' : Entries)
          (call dall : StageCall), StageCall.of? name args named = some call →
          StageCall.of? name args' named' = some dall →
          call.Like (fun v w => v = w ∨ σ.Form names (2 * m) (.handle (.pipeline c i)) ks ss v ∧
            σ.Form names (2 * m) (.handle (.pipeline c i)) ks ss w) dall →
          (call.Sound σ fun _ => False) →
          call.Asks (fun v => σ.Form names (2 * m) (.handle (.pipeline c i)) ks ss v ∨
            ∃ r, 2 * r < l ∧ σ.Settled (fun _ => False) names r v) (fun _ => False) →
          ∃ s, σ.Adds names l name args named s ∧ σ.Adds names l name args' named' s) ∧
        (∀ (text : String) (args : List Value) (named : Entries) (u : Value), σ.Lies model text →
          text ≠ "" → StageCall.of? "union_with" args named = some (.unionWith u) →
          (u = .handle (.pipeline c i) ∨ ∃ source v, (source = model ∨ source = .str text) ∧
            σ.Form names (2 * m) (.handle (.pipeline c i)) ks ss v ∧
            u = .dict [(.str "coll", source), (.str "pipeline", v)]) →
          σ.Adds names l "union_with" args named (some (Store.unionOf text ss))) ∧
        ∀ (kind : QueryKind) (j : Nat) (q : Query) (args : List Value) (named : Entries)
          (u : Value), σ.Builds kind j q → (Value.dict q.criteria).Plain →
          StageCall.of? "match" args named = some (.match u) →
          σ.QueryForm (fun _ => False) names (2 * m) kind j q.criteria u →
          σ.Adds names l "match" args named
            (some (Stage.ofOperator "$match" (.dict q.criteria))) := by
  obtain ⟨ss, built, -, staged⟩ := composed.stages
  have plain (s : Value) (there : s ∈ ss) : s.Plain := (staged s there).plain
  have forms (v : Value) (form : σ.Form names (2 * m) (.handle (.pipeline c i)) ks ss v) :
      σ.Unfolds names (2 * m + 2) v ss := composed.unfolds built form
  refine ⟨ss, built, fun d => Act.outcome_stagesOf built plain, forms, fun l deep => ⟨?_, ?_, ?_⟩⟩
  · intro name args args' named named' call dall stands stands' like sound asks
    exact composed.adds_alike built staged deep forms stands stands' like sound asks
  · intro text args named u lies nonempty stands given
    exact Store.adds_union built plain lies nonempty forms deep stands given
  · intro kind j q args named u asked criteria stands form
    exact Store.adds_match asked criteria (by omega) stands form

theorem Call.fixed_branching {β : Store} {X : Nat → Prop} {names : Names} {depth : Nat}
    {P Q : Value → Prop} (staging : ∀ i, P (.object i (.function [.limiting 1] none))) :
    branching.Fixed β X names depth P Q where
  target := rfl
  stage := rfl
  written n n' _ _ st st' _ _ := by
    refine ⟨_, _, st.identified, _, _, st'.identified, rfl, rfl, .identified st,
      .identified st', ?_⟩
    refine .some ⟨.facet rfl rfl (.cons ⟨rfl, .object ..⟩ .nil), trivial, ?_⟩
    exact List.forall_mem_singleton.mpr (staging _)

/-- An empty pipeline on a model, and a query. -/
def Store.drafts : Store :=
  { Store.posts [] with
    queries := Store.adults.queries
    pipelines := #[{ cls := Act.pipelineClass, stages := [], model := .cls (.model 1) }] }

/-- Names for both. -/
def Names.drafts : Names :=
  [("draft", .handle (.pipeline Act.pipelineClass 0)), ("adults", .handle (.query .unbound 0))]

/-- A function that answers with what has a name. -/
def Value.naming (name : String) : Value :=
  .object none (.function [] (some (.handle (.variable [name]))))

def Call.matching : Call := ⟨none, "match", [.naming "adults"], []⟩

/-- The calls that the pipeline is built by. -/
def Call.drafting : List Call := [.branching, .matching, .limiting 2]

theorem Store.clear_drafts : drafts.Clear :=
  ⟨⟨fun _ _ => rfl, fun _ _ _ => ⟨fun _ => rfl, rfl⟩⟩, fun _ _ _ => ⟨fun _ => rfl, rfl⟩⟩

theorem Store.builds_drafts : drafts.Builds .unbound 0 (adults.queries.getD 0 default) :=
  .of_bare ⟨fun _ => rfl, rfl⟩ (fun _ _ => rfl) rfl (.inl rfl) rfl rfl rfl

theorem Store.plain_adults : (Value.dict (adults.queries.getD 0 default).criteria).Plain := by
  have bound : (Value.dict [(.str "$gte", .int 18)]).Plain :=
    Value.plain_dict.mpr (List.forall_mem_singleton.mpr ⟨.str _, .int _⟩)
  exact Value.plain_dict.mpr (List.forall_mem_singleton.mpr ⟨.str _, bound⟩)

theorem Call.fixed_matching (P : Value → Prop) : matching.Fixed .drafts (· = 0) .drafts 2 P
    (Store.drafts.Chooses (· = 0) .drafts 2) where
  target := rfl
  stage := rfl
  written n n' _ _ st st' _ _ := by
    refine ⟨_, _, st.identified, _, _, st'.identified, rfl, rfl, .identified st,
      .identified st', .some ⟨.match (.object ..), trivial, ?_⟩⟩
    have comes : Store.drafts.Comes (· = 0) .drafts 1 (.handle (.variable ["adults"]))
        (.handle (.query .unbound 0)) := Store.comes_named rfl (fun _ => rfl) 1
    exact (Store.QueryForm.returned comes).chooses Store.builds_drafts Store.plain_adults

theorem Store.composes_drafts : ∃ σ, drafts.Composes .drafts 1 3 Act.pipelineClass 0
    (.cls (.model 1)) Call.drafting σ := by
  have done : ((Act.runCalls (dispatch .drafts 4) .drafts (.handle (.pipeline Act.pipelineClass 0))
      Call.drafting).outcome drafts).1.isOk := by decide +kernel
  rcases run : (Act.runCalls (dispatch .drafts 4) .drafts (.handle (.pipeline Act.pipelineClass 0))
    Call.drafting).outcome drafts with ⟨_ | _, σ⟩
  · rw [run] at done
    cases done
  refine ⟨σ, clear_drafts, ?_, by decide, ?_, run⟩
  · exact .of_bare ⟨fun _ => rfl, rfl⟩ (fun _ _ => rfl) (.inl rfl) rfl rfl
  · have first (i : Option Nat) :
        drafts.Settled (· = 0) .drafts 1 (.object i (.function [.limiting 1] none)) :=
      .inr ⟨i, _, none, rfl, List.forall_mem_singleton.mpr (Call.fixed_limiting ..), nofun⟩
    simp only [Call.drafting, List.forall_mem_cons]
    exact ⟨Call.fixed_branching first, Call.fixed_matching _, Call.fixed_limiting .., nofun⟩

theorem nested_forms_agree_drafts : ∃ (σ : Store) (ss : List Value),
    (∃ s, σ.Adds .drafts 5 "facet" [.dict [(.str "again", .object none (.function Call.drafting
        none)), (.str "first", .first)]] [] s ∧
      σ.Adds .drafts 5 "facet" [.dict [(.str "again", .tuple ss), (.str "first", .first)]] [] s) ∧
    σ.Adds .drafts 5 "union_with" [.handle (.pipeline Act.pipelineClass 0)] []
      (some (Store.unionOf "posts" ss)) ∧
    σ.Adds .drafts 5 "union_with" [.dict [(.str "coll", .str "posts"), (.str "pipeline",
        .naming "draft")]] [] (some (Store.unionOf "posts" ss)) ∧
    σ.Adds .drafts 5 "match" [.naming "adults"] [] (some (Stage.ofOperator "$match"
      (.dict [(.str "age", .dict [(.str "$gte", .int 18)])]))) := by
  obtain ⟨σ, composed⟩ := Store.composes_drafts
  obtain ⟨-, -, apart, -⟩ := composed.stages
  obtain ⟨ss, built, -, -, agree⟩ := nested_forms_agree .drafts composed
  obtain ⟨alike, unites, restricts⟩ := agree 5 (by decide)
  have lies : σ.Lies (.cls (.model 1)) "posts" :=
    Store.lies_model (by rw [apart.registry]; rfl) (by rw [apart.registry]; rfl)
  refine ⟨σ, ss, ?_, ?_, ?_, ?_⟩
  · refine alike "facet" _ _ [] [] _ _ rfl rfl
      (.facet rfl rfl (.cons ⟨rfl, .inr ⟨.replayed, .tuple⟩⟩ (.cons ⟨rfl, .inl rfl⟩ .nil)))
      trivial ?_
    exact List.forall_mem_cons.mpr ⟨.inl .replayed, List.forall_mem_singleton.mpr
      (.inr ⟨1, by decide, Value.settled_first ..⟩)⟩
  · exact unites "posts" _ _ _ lies (by decide) rfl (.inl rfl)
  · exact unites "posts" _ _ _ lies (by decide) rfl (.inr ⟨_, _, .inr rfl,
      .returned (Store.comes_named rfl (fun _ => rfl) _), rfl⟩)
  · exact restricts .unbound 0 _ _ _ _ (apart.builds Store.builds_drafts) Store.plain_adults rfl
      (.returned (Store.comes_named rfl (fun _ => rfl) _))

end DocMapper
