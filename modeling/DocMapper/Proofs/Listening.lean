import DocMapper.Proofs.Branching

/-!
What is seen of pipelines while calls are made on them.  Every run of a function is seen with the
builder that it was given.  Most of what a call does runs none: it may leave more pipelines behind,
or one with more stages, but each is bound to the model that it was bound to before.
-/

namespace DocMapper

namespace Store

/-- The models that pipelines are bound to, in the order in which the pipelines came. -/
def models (st : Store) : List Value := st.pipelines.toList.map Pipeline.model

/-- The runs of functions on pipelines so far; functions on queries do not count. -/
def runs (st : Store) : List Sighting :=
  st.sightings.toList.filter fun s => Act.isPipeline s.builder

/-- A store but for how far queries and pipelines are built. -/
def unbuilt (st : Store) : Store :=
  { st with
    queries := st.queries.map fun _ => default
    pipelines := st.pipelines.map fun p => { p with stages := [] } }

/-- Queries and pipelines may have come and may have been built further, but no pipeline was bound
to another model, and nothing was set on those that were there, nor on those that are still to
come. -/
structure Advances (st after : Store) : Prop where
  retains : st.unbuilt.Retains after.unbuilt

/-- Nothing was done but what `Advances` allows, and no function was run on a pipeline. -/
structure Hushed (st after : Store) : Prop extends Advances st after where
  quiet : after.runs = st.runs

variable {st mid after : Store} {c : ClassRef} {i : Nat} {model : Value} {h : Handle}

theorem length_models (st : Store) : st.models.length = st.pipelines.size := by simp [models]

theorem models_unbuilt (st : Store) : st.unbuilt.models = st.models := by
  simp [models, unbuilt, Function.comp_def]

theorem built_unbuilt : st.unbuilt.Built h ↔ st.Built h := by
  cases h <;> simp [Built, unbuilt]

theorem coming_unbuilt : st.unbuilt.Coming h ↔ st.Coming h := by
  cases h <;> simp [Coming, unbuilt]

namespace Advances

theorem refl (st : Store) : st.Advances st := ⟨.refl _⟩

theorem trans (l : st.Advances mid) (k : mid.Advances after) : st.Advances after :=
  ⟨l.retains.trans k.retains⟩

theorem of_retains (r : st.Retains after) : st.Advances after where
  retains :=
    { own := r.own
      declarations := r.declarations
      queries := by simpa [unbuilt] using r.queries.map fun _ => (default : Query)
      pipelines := by simpa [unbuilt] using r.pipelines.map fun p => { p with stages := [] }
      extras := fun h there => r.extras h (there.imp built_unbuilt.mp coming_unbuilt.mp)
      refined := fun h there => r.refined h (there.imp built_unbuilt.mp coming_unbuilt.mp) }

theorem of_setting (setting : after.setting = st.setting) (queries : after.queries = st.queries)
    (pipelines : after.pipelines = st.pipelines) : st.Advances after :=
  of_retains (.of_setting setting (queries ▸ List.prefix_refl _) (pipelines ▸ List.prefix_refl _))

theorem models (l : st.Advances after) : st.models <+: after.models := by
  have models := l.retains.pipelines.map Pipeline.model
  rwa [← Store.models, ← Store.models, models_unbuilt, models_unbuilt] at models

theorem grown (l : st.Advances after) : st.pipelines.size ≤ after.pipelines.size := by
  simpa only [length_models] using l.models.length_le

theorem built (l : st.Advances after) (there : st.Built h) : after.Built h :=
  built_unbuilt.mp (l.retains.built (built_unbuilt.mpr there))

theorem coming (l : st.Advances after) (later : after.Coming h) : st.Coming h :=
  coming_unbuilt.mp (l.retains.coming (coming_unbuilt.mpr later))

theorem extras (l : st.Advances after) (there : st.Built h ∨ after.Coming h) (name : String) :
    after.extras.lookup (.handle h, name) = st.extras.lookup (.handle h, name) :=
  l.retains.extras h (there.imp built_unbuilt.mpr coming_unbuilt.mpr) name

theorem refined (l : st.Advances after) (there : st.Built h ∨ after.Coming h) :
    after.refined.lookup h = st.refined.lookup h :=
  l.retains.refined h (there.imp built_unbuilt.mpr coming_unbuilt.mpr)

theorem classOf (l : st.Advances after) (there : st.Built h ∨ after.Coming h) :
    after.classOf (.handle h) = st.classOf (.handle h) := by
  simp only [Store.classOf, l.refined there]

theorem extraOf? (l : st.Advances after) (there : st.Built h ∨ after.Coming h) (name : String) :
    after.extraOf? (.handle h) name = st.extraOf? (.handle h) name := by
  simp only [Store.extraOf?, Holder.of?, Option.bind_some]
  exact l.extras there name

theorem declarations (l : st.Advances after) :
    after.registry.declarations = st.registry.declarations :=
  l.retains.declarations

theorem ownMember? (l : st.Advances after) (c : ClassRef) (name : String) :
    after.registry.ownMember? c name = st.registry.ownMember? c name :=
  l.retains.ownMember? c name

theorem member? (l : st.Advances after) (c : ClassRef) (name : String) :
    after.registry.member? c name = st.registry.member? c name := by
  simp only [Registry.member?, Registry.ancestors, Registry.declaration?, l.declarations,
    l.ownMember?]

theorem maker? (l : st.Advances after) (c : ClassRef) :
    after.registry.maker? c = st.registry.maker? c := by
  simp only [Registry.maker?, Registry.ancestors, Registry.declaration?, l.declarations]

theorem usual (l : st.Advances after) (there : st.Built h ∨ after.Coming h) (owner : ClassRef)
    (name : String) : after.usual (.handle h) owner name = st.usual (.handle h) owner name := by
  have member : after.member? (.handle h) name = st.member? (.handle h) name := by
    simp only [Store.member?, l.classOf there, l.member?]
  simp only [Store.usual, l.extraOf? there, member]

theorem bare (l : st.Advances after) (later : after.Coming h) (bare : st.Bare h) : after.Bare h :=
  ⟨fun name => (l.extras (.inr later) name).trans (bare.extras name),
    (l.refined (.inr later)).trans bare.refined⟩

theorem sighted (st : Store) (v : Value) : st.Advances (st.sighted v) :=
  .of_setting rfl rfl rfl

end Advances

namespace Hushed

theorem refl (st : Store) : st.Hushed st := ⟨.refl st, rfl⟩

theorem trans (l : st.Hushed mid) (k : mid.Hushed after) : st.Hushed after :=
  ⟨l.toAdvances.trans k.toAdvances, k.quiet.trans l.quiet⟩

theorem of_retains (r : st.Retains after) (sightings : after.sightings = st.sightings) :
    st.Hushed after :=
  ⟨.of_retains r, by rw [runs, sightings, runs]⟩

theorem identified (st : Store) : st.Hushed st.identified :=
  .of_retains (.identified st) rfl

/-- What is built further is bound as it was. -/
theorem of_unbuilt (setting : after.setting = st.setting)
    (queries : after.unbuilt.queries = st.unbuilt.queries)
    (pipelines : after.unbuilt.pipelines = st.unbuilt.pipelines)
    (sightings : after.sightings = st.sightings) : st.Hushed after where
  retains := .of_setting setting (queries ▸ List.prefix_refl _) (pipelines ▸ List.prefix_refl _)
  quiet := by rw [runs, sightings, runs]

theorem of_beyond (same : after.beyond = st.beyond) : st.Hushed after := by
  have queries : after.queries = st.queries := by
    change after.beyond.queries = st.beyond.queries
    rw [same]
  have pipelines : after.pipelines = st.pipelines := by
    change after.beyond.pipelines = st.beyond.pipelines
    rw [same]
  have sightings : after.sightings = st.sightings := by
    change after.beyond.sightings = st.beyond.sightings
    rw [same]
  exact .of_unbuilt (setting_of_beyond same) (by rw [unbuilt, unbuilt, queries])
    (by rw [unbuilt, unbuilt, pipelines]) sightings

theorem restaged (st : Store) (i : Nat) (ss : List Value) :
    st.Hushed (st.restaged i { st.pipelines.getD i default with stages := ss }) := by
  refine .of_unbuilt rfl rfl (Array.ext_getElem? fun j => ?_) rfl
  by_cases same : i = j
  · subst same
    by_cases there : i < st.pipelines.size <;>
      simp [unbuilt, Store.restaged, there]
  · simp [unbuilt, Store.restaged, Array.getElem?_setIfInBounds_ne same]

theorem setQuery (st : Store) (i : Nat) (q : Query) : st.Hushed (st.setQuery i q) := by
  have same {qs : Array Query} (size : qs.size = st.queries.size) :
      qs.map (fun _ => (default : Query)) = st.queries.map fun _ => default := by
    rw [Array.map_const', Array.map_const', size]
  unfold Store.setQuery
  split <;> exact .of_unbuilt rfl (same (by simp)) rfl rfl

theorem questioned (st : Store) : st.Hushed st.questioned :=
  .of_retains (.of_setting rfl (by simp [Store.questioned]) (List.prefix_refl _)) rfl

/-- The run of a function on a query does not count. -/
theorem sighted_query (st : Store) (k : QueryKind) (i : Nat) :
    st.Hushed (st.sighted (.handle (.query k i))) where
  toAdvances := .sighted ..
  quiet := by simp [runs, Store.sighted, Act.sightingOf, Act.isPipeline]

end Hushed

theorem duplicate_sightings {h k : Handle} (duplicate : st.duplicate h = some (k, after)) :
    after.sightings = st.sightings := by
  cases h <;>
    simp only [Store.duplicate, Option.some.injEq, Prod.mk.injEq, reduceCtorEq] at duplicate
  all_goals
    obtain ⟨-, rfl⟩ := duplicate
    rfl

theorem refineLike_sightings (st : Store) (h k : Handle) :
    (st.refineLike h k).sightings = st.sightings := by
  unfold refineLike
  split <;> rfl

theorem accompany_sightings (acc : Counterparts × Store) (h : Holder) :
    (accompany acc h).2.sightings = acc.2.sightings := by
  unfold accompany
  dsimp only
  split
  · split
    · rfl
    · exact duplicate_sightings ‹_›
    · rfl
  · split
    · exact (refineLike_sightings ..).trans (duplicate_sightings ‹_›)
    · rfl
  · rfl
  · rfl

theorem adapt_sightings (cs : Counterparts) (st : Store) (p : Holder × Holder) :
    (adapt cs st p).sightings = st.sightings := by
  unfold adapt
  split
  · rename_i h
    cases h <;> rfl
  · rfl

theorem cloned_sightings (st : Store) (v : Value) : (st.cloned v).2.sightings = st.sightings := by
  have accompanied (hs : List Holder) (acc : Counterparts × Store) :
      (hs.foldl accompany acc).2.sightings = acc.2.sightings := by
    induction hs generalizing acc with
    | nil => rfl
    | cons h hs ih => exact (ih _).trans (accompany_sightings acc h)
  have adapted (cs ds : Counterparts) (st : Store) :
      (ds.foldl (adapt cs) st).sightings = st.sightings := by
    induction ds generalizing st with
    | nil => rfl
    | cons p ds ih => exact (ih _).trans (adapt_sightings cs st p)
  unfold cloned
  split
  · rfl
  · exact (adapted _ _ _).trans (accompanied _ _)

end Store

theorem Act.hushed_bind {x : Act α} {f : α → Act β} {st : Store}
    (first : st.Hushed (x.outcome st).2)
    (rest : ∀ a mid, x.outcome st = (.ok a, mid) → st.Advances mid →
      mid.Hushed ((f a).outcome mid).2) :
    st.Hushed ((x >>= f).outcome st).2 := by
  rcases hx : x.outcome st with ⟨e | a, mid⟩ <;> rw [hx] at first
  · rw [outcome_bind_error hx]
    exact first
  · rw [outcome_bind_ok hx]
    exact first.trans (rest a mid hx first.toAdvances)

namespace Act.Keeps

variable {st : Store} {c : ClassRef} {i : Nat} {v : Value} {names : Names} {n : Nat}

theorem of_hushed {x : Act α} (hushed : ∀ now : Store, now.Hushed (x.outcome now).2) :
    Keeps st.Hushed x :=
  fun now here => here.trans (hushed now)

theorem hushed_copy (v : Value) : Keeps st.Hushed (Act.copy v) := by
  refine of_hushed fun now => ?_
  rw [Act.copy, outcome_bind_ok (outcome_get now)]
  cases now.uncopyable? v with
  | some e => exact .refl now
  | none => exact .of_retains (now.cloned_retains v) (now.cloned_sightings v)

theorem hushed_reads (names : Names) (n : Nat) (k : ClassRef) :
    Keeps st.Hushed ((dispatch names n).read (.cls k) "collection") :=
  .reads (fun now here => here.trans (.identified now)) names n k

theorem hushed_noteOf (v : Value) (level : Level) (message : Store → String) :
    Keeps st.Hushed (noteOf v level message) := by
  have noted (log : String) : Keeps st.Hushed (noteIn log level message) := by
    refine of_hushed fun now => ?_
    rw [outcome_noteIn]
    exact .of_beyond (Store.beyond_noted ..)
  refine .bind (fun _ => id) fun now => ?_
  split
  · exact noted _
  · exact .throw _
  · exact noted _
  · exact .throw _

/-- What is appended is a copy, and the pipeline stays bound to its model. -/
theorem hushed_appendStage {d : Dispatch} (c : ClassRef) (i : Nat) (stage : Value) :
    Keeps st.Hushed (appendStage d (.handle (.pipeline c i)) stage) := by
  refine .bind (.bind (fun _ => id) fun _ => .pure _) fun p => ?_
  split
  · exact .throw _
  refine .bind (hushed_copy stage) fun copied => fun now here => ?_
  have found : (pipeline i).outcome now = (.ok (now.pipelines.getD i default), now) := rfl
  have set (q : Pipeline) : (setPipeline i q).outcome now = (.ok (), now.restaged i q) := rfl
  rw [outcome_bind_ok found, outcome_bind_ok (set _)]
  refine Keeps.bind (R := st.Hushed) (hushed_noteOf _ _ _) (fun _ => .pure _) _
    (here.trans ?_)
  exact .restaged ..

end Act.Keeps

namespace Store

/-- A pipeline bound to a model, with the functions of the library, in a store that makes others of
its class as the library does: its class is one of the library, or is declared and called like one. -/
structure Crew (st : Store) (c : ClassRef) (i : Nat) (model : Value) : Prop where
  bound : st.models[i]? = some model
  cls : st.classOf (.handle (.pipeline c i)) = c
  furnished : st.Furnished c i
  coming : ∀ j, st.pipelines.size ≤ j → st.Bare (.pipeline c j)
  makes : c.IsPipeline ∨ st.registry.maker? c = Interface.maker? "AggregateBuilder"

variable {st after : Store} {c : ClassRef} {i j : Nat} {model other : Value}

/-- An object that nothing was done to has the functions that others of its class have. -/
theorem Bare.usual_like {g h : Handle} {owner : ClassRef} {name : String} (bare : st.Bare h)
    (cls : st.classOf (.handle g) = h.cls) (usual : st.usual (.handle g) owner name) :
    st.usual (.handle h) owner name := by
  have member : st.member? (.handle h) name = st.member? (.handle g) name := by
    simp only [Store.member?, bare.classOf, cls]
  rw [Store.usual, Bool.and_eq_true] at usual ⊢
  rw [member, bare.extraOf?]
  exact ⟨rfl, usual.2⟩

/-- The store with a fresh pipeline. -/
def launched (st : Store) (c : ClassRef) (model : Value) : Store :=
  { st with pipelines := st.pipelines.push { cls := c, stages := [], model } }

theorem models_launched (st : Store) (c : ClassRef) (model : Value) :
    (st.launched c model).models = st.models ++ [model] := by
  simp [models, launched]

theorem hushed_launched (st : Store) (c : ClassRef) (model : Value) :
    st.Hushed (st.launched c model) :=
  .of_retains (.of_setting rfl (List.prefix_refl _) (by simp [launched])) rfl

namespace Crew

theorem built (crew : st.Crew c i model) : st.Built (.pipeline c i) := by
  rw [Built, ← length_models]
  exact (List.getElem?_eq_some_iff.mp crew.bound).1

theorem advanced (crew : st.Crew c i model) (l : st.Advances after) : after.Crew c i model where
  bound := by
    obtain ⟨there, is⟩ := List.getElem?_eq_some_iff.mp crew.bound
    rw [List.prefix_iff_getElem?.mp l.models i there, is]
  cls := (l.classOf (.inl crew.built)).trans crew.cls
  furnished name m found := by
    rw [l.usual (.inl crew.built), l.ownMember?]
    exact crew.furnished name m found
  coming j later := l.bare later (crew.coming j (Nat.le_trans l.grown later))
  makes := l.maker? c ▸ crew.makes

/-- A fresh pipeline of the class has the functions of the library as well. -/
theorem fresh (crew : st.Crew c i model) (other : Value) :
    (st.launched c other).Crew c st.pipelines.size other := by
  have l := (hushed_launched st c other).toAdvances
  have now := crew.advanced l
  have bare : (st.launched c other).Bare (.pipeline c st.pipelines.size) :=
    (crew.coming _ (Nat.le_refl _)).of_setting rfl
  refine ⟨?_, bare.classOf, fun name m found => ?_, now.coming, now.makes⟩
  · rw [models_launched, ← length_models, List.getElem?_concat_length]
  · obtain ⟨usual, own⟩ := now.furnished name m found
    exact ⟨bare.usual_like now.cls usual, own⟩

end Crew

/-- Functions were run on pipelines between two stores, each on a fresh one of a class. -/
structure Heard (st : Store) (c : ClassRef) (log : List Sighting) (after : Store) : Prop extends
    Advances st after where
  heard : after.runs = st.runs ++ log
  fresh : ∀ s ∈ log, s.size = 0 ∧ ∃ j, s.builder = .handle (.pipeline c j) ∧
    st.pipelines.size ≤ j ∧ j < after.pipelines.size ∧ after.classOf s.builder = c
  apart : (log.map Sighting.builder).Nodup

variable {mid : Store} {log more : List Sighting}

theorem Hushed.heard (h : st.Hushed after) (c : ClassRef) : st.Heard c [] after :=
  ⟨h.toAdvances, by rw [h.quiet, List.append_nil], nofun, List.nodup_nil⟩

theorem Heard.append (first : st.Heard c log mid) (rest : mid.Heard c more after) :
    st.Heard c (log ++ more) after where
  toAdvances := first.toAdvances.trans rest.toAdvances
  heard := by rw [rest.heard, first.heard, List.append_assoc]
  fresh := by
    refine List.forall_mem_append.mpr ⟨fun s there => ?_, fun s there => ?_⟩
    · obtain ⟨size, j, builder, new, before, cls⟩ := first.fresh s there
      have built : mid.Built (.pipeline c j) := before
      refine ⟨size, j, builder, new, Nat.lt_of_lt_of_le before rest.grown, ?_⟩
      rw [builder] at cls ⊢
      rw [rest.classOf (.inl built), cls]
    · obtain ⟨size, j, builder, new, before, cls⟩ := rest.fresh s there
      exact ⟨size, j, builder, Nat.le_trans first.grown new, before, cls⟩
  apart := by
    rw [List.map_append]
    refine List.nodup_append.mpr ⟨first.apart, rest.apart, ?_⟩
    rw [List.forall_mem_map]
    intro s early
    rw [List.forall_mem_map]
    intro t late same
    obtain ⟨-, j, builder, -, before, -⟩ := first.fresh s early
    obtain ⟨-, k, builder', new, -, -⟩ := rest.fresh t late
    rw [builder, builder'] at same
    cases same
    exact absurd before (Nat.not_lt.mpr new)

theorem bound_sightingOf (st : Store) (c : ClassRef) (model : Value) :
    (Act.sightingOf (st.launched c model) (.handle (.pipeline c st.pipelines.size))).bound =
      model := by
  simp [Act.sightingOf, Act.modelOfBuilder, launched]

/-- A function is run on a pipeline that was just made. -/
theorem Crew.heard_sighted (crew : st.Crew c i model) (other : Value) :
    st.Heard c [Act.sightingOf (st.launched c other) (.handle (.pipeline c st.pipelines.size))]
      ((st.launched c other).sighted (.handle (.pipeline c st.pipelines.size))) where
  toAdvances := (hushed_launched st c other).toAdvances.trans (.sighted ..)
  heard := by simp [runs, sighted, launched, Act.sightingOf, Act.isPipeline]
  fresh := by
    refine List.forall_mem_singleton.mpr ⟨?_, _, rfl, Nat.le_refl _, ?_, ?_⟩
    · simp [Act.sightingOf, Act.sizeOfBuilder, launched, Pipeline.toJson, Value.items?]
    · simp [sighted, launched]
    · exact (crew.fresh other).cls
  apart := by simp

end Store

namespace Act

/-- How an action ends that runs functions on pipelines: as far as they were run, in their order,
each was given a fresh pipeline of a class that was bound to one of the models; unless the action
failed, all of them were run. -/
def Gives (c : ClassRef) (models : List Value) (st : Store) (ended : Except Fault α × Store) :
    Prop :=
  ∃ log, st.Heard c log ended.2 ∧ log.map Sighting.bound <+: models ∧
    (ended.1.isOk → log.map Sighting.bound = models)

namespace Gives

variable {st mid : Store} {c : ClassRef} {ms ls : List Value} {x : Act α} {f : α → Act β}
variable {ended : Except Fault α × Store}

theorem quiet_iff : Gives c [] st ended ↔ st.Hushed ended.2 := by
  constructor
  · rintro ⟨log, heard, bounds, -⟩
    obtain rfl : log = [] := List.map_eq_nil_iff.mp (List.prefix_nil.mp bounds)
    exact ⟨heard.toAdvances, by rw [heard.heard, List.append_nil]⟩
  · exact fun hushed => ⟨[], hushed.heard c, List.nil_prefix, fun _ => rfl⟩

theorem failed {e : Fault} (hushed : st.Hushed mid) :
    Gives c ms st ((.error e, mid) : Except Fault α × Store) :=
  ⟨[], hushed.heard c, List.nil_prefix, nofun⟩

/-- What is run by two actions one after the other. -/
theorem bind (first : Gives c ms st (x.outcome st))
    (rest : ∀ a mid, x.outcome st = (.ok a, mid) → st.Advances mid →
      Gives c ls mid ((f a).outcome mid)) :
    Gives c (ms ++ ls) st ((x >>= f).outcome st) := by
  obtain ⟨log, heard, bounds, all⟩ := first
  rcases hx : x.outcome st with ⟨e | a, mid⟩ <;> rw [hx] at heard all
  · rw [outcome_bind_error hx]
    exact ⟨log, heard, bounds.trans (List.prefix_append ..), nofun⟩
  · obtain ⟨more, after, others, every⟩ := rest a mid hx heard.toAdvances
    rw [outcome_bind_ok hx]
    refine ⟨log ++ more, heard.append after, ?_, fun returned => ?_⟩ <;>
      rw [List.map_append, all rfl]
    · exact (List.prefix_append_right_inj ms).mpr others
    · rw [every returned]

theorem bind_quiet (first : Keeps st.Hushed x)
    (rest : ∀ a mid, x.outcome st = (.ok a, mid) → st.Advances mid →
      Gives c ms mid ((f a).outcome mid)) :
    Gives c ms st ((x >>= f).outcome st) := by
  have quiet : Gives c [] st (x.outcome st) := quiet_iff.mpr (first st (.refl st))
  exact quiet.bind rest

theorem bind_rest (first : Gives c ms st (x.outcome st))
    (rest : ∀ a mid, x.outcome st = (.ok a, mid) → st.Advances mid →
      mid.Hushed ((f a).outcome mid).2) :
    Gives c ms st ((x >>= f).outcome st) := by
  have whole := bind first fun a mid hx l => quiet_iff.mpr (rest a mid hx l)
  rwa [List.append_nil] at whole

/-- What is run from a store on is run from before it on, if nothing was run in between. -/
theorem sooner (hushed : st.Hushed mid) (later : Gives c ms mid ended) : Gives c ms st ended := by
  obtain ⟨log, heard, bounds, all⟩ := later
  exact ⟨log, (hushed.heard c).append heard, bounds, all⟩

/-- A function is run before others. -/
theorem cons {s : Sighting} (heard : st.Heard c [s] mid) (later : Gives c ms mid ended) :
    Gives c (s.bound :: ms) st ended := by
  obtain ⟨log, rest, bounds, all⟩ := later
  exact ⟨s :: log, heard.append rest, List.cons_prefix_cons.mpr ⟨rfl, bounds⟩,
    fun returned => congrArg (s.bound :: ·) (all returned)⟩

theorem advances (gives : Gives c ms st ended) : st.Advances ended.2 := by
  obtain ⟨log, heard, -⟩ := gives
  exact heard.toAdvances

end Gives

end Act

/-- What is neither a builder nor a function. -/
structure Value.Idle (v : Value) : Prop where
  pipeline : ¬Act.isPipeline v
  query : ¬Act.isQuery v
  callable : ¬v.isCallable

namespace Store.Crew

variable {st : Store} {c : ClassRef} {i : Nat} {model : Value} {d : Dispatch} {v : Value}
variable (crew : st.Crew c i model)
include crew

theorem outcome_nestedStages (d : Dispatch) (context : String) (other source : Value) :
    (Act.nestedStages d (.handle (.pipeline c i)) context other source).outcome st =
      (Act.nested d (.handle (.pipeline c i)) context other source).outcome st := by
  obtain ⟨usual, -⟩ := crew.furnished "_resolve_pipeline" _ rfl
  rw [Act.nestedStages, Act.outcome_callOr_usual usual]

theorem hushed_stagesOf (d : Dispatch) :
    st.Hushed ((Act.stagesOf d (.handle (.pipeline c i))).outcome st).2 := by
  obtain ⟨usual, -⟩ := crew.furnished "to_json" _ rfl
  have found : (Act.pipeline i).outcome st = (.ok (st.pipelines.getD i default), st) := rfl
  rw [Act.stagesOf, Act.outcome_callOr_usual usual, Act.ownStages, Act.outcome_bind_ok found]
  exact Act.Keeps.hushed_copy _ st (.refl st)

/-- A fresh pipeline is of the class, and bound as it is asked for. -/
theorem outcome_spawnLike (names : Names) (n : Nat) (other : Value) :
    (Act.spawnLike (dispatch names n) (.handle (.pipeline c i)) other).outcome st =
        (.ok (.handle (.pipeline c st.pipelines.size)), st.launched c other) ∨
      ∃ e, (Act.spawnLike (dispatch names n) (.handle (.pipeline c i)) other).outcome st =
        (.error e, st) := by
  obtain ⟨usual, -⟩ := crew.furnished "_spawn" _ rfl
  rw [Act.spawnLike, Act.outcome_bind_ok (Act.outcome_get st), Act.outcome_callOr_usual usual,
    crew.cls]
  unfold Act.spawn
  split
  · exact .inl rfl
  · exact .inl rfl
  · rename_i apart apart'
    obtain ⟨same | same⟩ | declared := crew.makes
    · exact absurd same apart
    · exact absurd same apart'
    cases n with
    | zero => exact .inr ⟨_, rfl⟩
    | succ n =>
      refine .inl ?_
      change (Act.construct (dispatch names n) c [] [(.str "model_cls", other)] >>= fun v =>
        if Waiting.never = .always then Act.awaitedBy (dispatch names n) v
        else pure v).outcome st = _
      simp only [reduceCtorEq, if_false, bind_pure]
      have registry : (Act.registry).outcome st = (.ok st.registry, st) := rfl
      rw [Act.construct, Act.outcome_bind_ok registry, declared]
      rfl

theorem spares (idle : v.Idle) : Act.Spares d st.Hushed (.handle (.pipeline c i)) v where
  own pipeline := absurd pipeline idle.pipeline
  nested context other now here := by
    rw [(crew.advanced here.toAdvances).outcome_nestedStages, Act.nested, if_neg idle.pipeline]
    refine (?_ : Act.Keeps st.Hushed _) now here
    split
    · exact .ofExcept fun _ _ => .hushed_copy _
    · rw [if_neg idle.callable]
      exact .throw _

/-- A call runs what is run for its stage. -/
theorem gives_method {names : Names} {ms : List Value} {name : String} {args : List Value}
    {named : Entries} (n : Nat) (stage : StageCall.isMethod name)
    (made : ∀ k now call, st.Hushed now → StageCall.of? name args named = some call →
      Act.Gives c ms now
        ((Act.stageOf (dispatch names k) (.handle (.pipeline c i)) call).outcome now)) :
    Act.Gives c ms st
      (((dispatch names n).call .never (.handle (.pipeline c i)) name args named).outcome st) := by
  cases n with
  | zero => exact .failed (.refl st)
  | succ n =>
    have hushed := Hushed.identified st
    obtain ⟨call, is, called⟩ | ⟨-, e, failed⟩ :=
      Act.outcome_stageMethod names n args named crew.furnished stage
    · have gives := made n st.identified call hushed is
      have later := crew.advanced (hushed.toAdvances.trans gives.advances)
      rw [called, Act.outcome_callPipeline (crew.advanced hushed.toAdvances).furnished
        (Prod.eta _).symm later.furnished, ← Act.outcome_bind_result]
      refine .sooner hushed (gives.bind_rest fun s mid _ _ => ?_)
      exact Act.Keeps.hushed_appendStage c i s mid (.refl mid)
    · rw [failed]
      exact .failed hushed

end Store.Crew

end DocMapper
