import DocMapper.Proofs.Configuring
import DocMapper.Proofs.Serializing

/-!
What stages are made from.  A stage that reads another collection is given its name, or a class that
can be asked for a handle; a pipeline inside a stage is given as a builder, as a list of documents,
or as a function of a fresh builder.  Either is a relation between the store, what is given, what
comes of it, and the store after it, and holds exactly of what is accepted.
-/

namespace DocMapper

namespace Grammar

/-- What a stage may read from: what is given, the name of the collection, and the model that comes
with it. -/
inductive Source (st : Store) : Value → Value → Value → Store → Prop
  | name {s : String} (given : s ≠ "") : Source st (.str s) (.str s) .null st
  | model {k : ClassRef} {name : Value} {after : Store} (gives : st.registry.gives (.cls k))
      (reads : (Act.readClass k "collection").outcome st = (.ok name, after)) :
      Source st (.cls k) name (.cls k) after

/-- What may be given as a pipeline, on behalf of a builder of a class, and the stages that it
comes to.  A function is given a fresh builder that is bound to a model. -/
inductive Nested (d : Dispatch) (c : ClassRef) (model : Value) (st : Store) :
    Value → Value → Store → Prop
  | builder {k : ClassRef} {j : Nat} {stages : Value} {after : Store}
      (gives : (Act.stagesOf d (.handle (.pipeline k j))).outcome st = (.ok stages, after)) :
      Nested d c model st (.handle (.pipeline k j)) stages after
  | list {v : Value} {vs : List Value} (listed : v.listed? = some vs)
      (mappings : ∀ u ∈ vs, u.isMapping) (free : st.uncopyable? (.list vs) = none) :
      Nested d c model st v (st.cloned (.list vs)).1 (st.cloned (.list vs)).2
  | function {v fresh stages : Value} {k : ClassRef} {j : Nat} {mid late after : Store}
      (callable : v.isCallable)
      (spawned : (Act.newPipeline { cls := c, stages := [], model }).outcome st = (.ok fresh, mid))
      (returned : (d.apply .never v [fresh] []).outcome mid =
        (.ok (.handle (.pipeline k j)), late))
      (gives : (Act.stagesOf d (.handle (.pipeline k j))).outcome late = (.ok stages, after)) :
      Nested d c model st v stages after

/-- What no stages can be had of: a list that holds something else than documents, a function that
does not return a builder, or nothing of the three. -/
inductive Offends (d : Dispatch) (c : ClassRef) (model : Value) (st : Store) :
    Value → Store → Prop
  | list {v : Value} {vs : List Value} (listed : v.listed? = some vs)
      (other : ∃ u ∈ vs, ¬u.isMapping) : Offends d c model st v st
  | function {v fresh built : Value} {mid after : Store} (callable : v.isCallable)
      (spawned : (Act.newPipeline { cls := c, stages := [], model }).outcome st = (.ok fresh, mid))
      (returned : (d.apply .never v [fresh] []).outcome mid = (.ok built, after))
      (other : ¬Act.isPipeline built) : Offends d c model st v after
  | other {v : Value} (pipeline : ¬Act.isPipeline v) (listed : v.listed? = none)
      (callable : ¬v.isCallable) : Offends d c model st v st

end Grammar

theorem Act.isPipeline_iff {v : Value} :
    isPipeline v ↔ ∃ k j, v = .handle (.pipeline k j) := by
  constructor
  · intro pipeline
    unfold isPipeline at pipeline
    split at pipeline
    · exact ⟨_, _, rfl⟩
    · cases pipeline
  · rintro ⟨k, j, rfl⟩
    rfl

theorem Value.listed_alone {v : Value} {vs : List Value} (listed : v.listed? = some vs) :
    ¬Act.isPipeline v ∧ ¬v.isCallable := by
  cases v <;> cases listed <;> simp [Act.isPipeline, isCallable]

theorem Act.checkStages_eq_ok {context : String} {index : Nat} {vs : List Value} :
    checkStages context index vs = .ok () ↔ ∀ v ∈ vs, v.isMapping := by
  refine ⟨fun passes v there => ?_, checkStages_passes context index⟩
  by_contra other
  obtain ⟨e, refuses⟩ := checkStages_refuses context index ⟨v, there, other⟩
  rw [passes] at refuses
  cases refuses

theorem Act.outcome_copy_eq_ok {v u : Value} {st after : Store} :
    (copy v).outcome st = (.ok u, after) ↔
      st.uncopyable? v = none ∧ st.cloned v = (u, after) := by
  rw [copy, outcome_bind_ok (outcome_get st)]
  cases st.uncopyable? v with
  | some e => exact ⟨fun done => (by cases done), fun copies => (by cases copies.1)⟩
  | none =>
    change (Except.ok (st.cloned v).1, (st.cloned v).2) = (.ok u, after) ↔ _
    rcases st.cloned v with ⟨w, mid⟩
    simp

namespace Grammar

variable {d : Dispatch} {names : Names} {n : Nat} {st after : Store} {c : ClassRef}
variable {v name model stages : Value}

/-- Classes are read alike, whether they are models or not. -/
theorem outcome_resolveCollection_class {k : ClassRef} (names : Names) (n : Nat)
    (gives : st.registry.gives (.cls k)) (context : String) :
    (Act.resolveCollection (dispatch names (n + 1)) (.cls k) context).outcome st =
      (Act.readClass k "collection").outcome st := by
  have asked : (Act.givesCollection (.cls k)).outcome st = (.ok true, st) := by
    rw [Act.outcome_givesCollection, gives]
  rw [Act.resolveCollection.eq_def]
  simp only
  rw [Act.outcome_bind_ok asked]
  cases k <;> rfl

theorem Source.resolves (source : Source st v name model after) (names : Names) (n : Nat)
    (context : String) :
    (Act.resolveCollection (dispatch names (n + 1)) v context).outcome st = (.ok name, after) := by
  cases source with
  | name given =>
    unfold Act.resolveCollection
    split
    · rename_i empty
      exact absurd (Value.str.inj empty) given
    · rename_i same
      cases same
      rfl
    · rename_i other
      exact absurd rfl (other _)
  | model gives reads => rw [outcome_resolveCollection_class names n gives, reads]

/-- What is accepted for a collection, and what comes of it. -/
theorem outcome_resolveCollection_eq_ok :
    (Act.resolveCollection (dispatch names (n + 1)) v context).outcome st = (.ok name, after) ↔
      ∃ model, Source st v name model after := by
  refine ⟨fun resolved => ?_, fun ⟨_, source⟩ => source.resolves names n context⟩
  by_cases gives : st.registry.gives v
  · cases v with
    | cls k =>
      rw [outcome_resolveCollection_class names n gives] at resolved
      exact ⟨_, .model gives resolved⟩
    | _ => cases gives
  unfold Act.resolveCollection at resolved
  split at resolved
  · cases resolved
  · rename_i s given
    cases resolved
    exact ⟨_, .name given⟩
  · rw [Act.outcome_bind_ok (Act.outcome_givesCollection v st)] at resolved
    simp only [gives] at resolved
    cases resolved

theorem Source.registry (source : Source st v name model after) :
    after.registry = st.registry := by
  cases source with
  | name => rfl
  | @model k _ _ _ reads =>
    obtain ⟨x, read⟩ | ⟨x, read⟩ := Act.readClass_collection k st.registry <;>
      rw [read st rfl] at reads <;> cases reads <;> rfl

theorem Source.retains (source : Source st v name model after) : st.Retains after := by
  cases source with
  | name => exact .refl st
  | @model k _ _ _ reads =>
    obtain ⟨x, read⟩ | ⟨x, read⟩ := Act.readClass_collection k st.registry <;>
      rw [read st rfl] at reads <;> cases reads
    · exact .refl st
    · exact .identified st

/-- The model that functions are given a builder of is the source, unless that is a name. -/
theorem Source.bound (source : Source st v name model after) :
    (Act.sourceModel v).outcome after = (.ok model, after) := by
  rw [Act.outcome_sourceModel, source.registry]
  cases source with
  | name => rfl
  | model gives => rw [if_pos gives]

/-- A text or a model names its collection by a text if whatever is set for one is a text. -/
theorem Source.text (source : Source st v name model after) (texts : st.registry.Texts)
    (known : (∃ s, v = .str s) ∨ ∃ k : ClassRef, v = .cls k ∧ k.isModel) :
    ∃ s, name = .str s ∧ s ≠ "" := by
  cases source with
  | name given => exact ⟨_, rfl, given⟩
  | @model k _ _ gives reads =>
    obtain ⟨s, ⟨⟩⟩ | ⟨_, ⟨⟩, model⟩ := known
    have read : (Act.readClass k "collection").outcome st =
        (st.registry.collection (.cls k), st) := by
      unfold Act.readClass
      rw [model]
      exact (Act.outcome_bind_ok rfl).trans (Act.outcome_ofExcept ..)
    rw [read] at reads
    obtain ⟨found, -⟩ := Prod.mk.inj reads
    rw [Registry.collection_eq] at found
    cases own : st.registry.ownCollection? k with
    | none =>
      rw [own] at found
      cases found
    | some w =>
      rw [own] at found
      obtain ⟨s, rfl⟩ := texts k w own
      obtain ⟨-, truthy⟩ := Option.filter_eq_some_iff.mp own
      refine ⟨s, (Except.ok.inj found).symm, ?_⟩
      rintro rfl
      cases truthy

/-- What is accepted for a pipeline, and what comes of it. -/
theorem outcome_nestedFor_eq_ok (context : String) :
    (Act.nestedFor d c context model v).outcome st = (.ok stages, after) ↔
      Nested d c model st v stages after := by
  constructor
  · intro given
    unfold Act.nestedFor at given
    split at given
    · obtain ⟨k, j, rfl⟩ := Act.isPipeline_iff.mp ‹_›
      exact .builder given
    cases listed : v.listed? with
    | some vs =>
      simp only [listed] at given
      cases checked : Act.checkStages context 0 vs with
      | error e =>
        rw [checked, Act.outcome_bind_error (Act.outcome_ofExcept ..)] at given
        cases given
      | ok =>
        rw [checked, Act.outcome_bind_ok (Act.outcome_ofExcept ..)] at given
        obtain ⟨free, copied⟩ := Act.outcome_copy_eq_ok.mp given
        obtain ⟨rfl, rfl⟩ := Prod.mk.inj copied.symm
        exact .list listed (Act.checkStages_eq_ok.mp checked) free
    | none =>
      simp only [listed] at given
      split at given
      · rename_i callable
        obtain ⟨fresh, mid, spawned, given⟩ := Act.outcome_bind_eq_ok given
        obtain ⟨built, late, returned, given⟩ := Act.outcome_bind_eq_ok given
        split at given
        · obtain ⟨k, j, rfl⟩ := Act.isPipeline_iff.mp ‹_›
          exact .function callable spawned returned given
        · cases given
      · cases given
  · intro nested
    cases nested with
    | builder gives => exact gives
    | @list v vs listed mappings free =>
      rw [Act.nestedFor, if_neg (Value.listed_alone listed).1, listed]
      simp only [Act.checkStages_passes context 0 mappings]
      exact Act.outcome_copy_eq_ok.mpr ⟨free, rfl⟩
    | function callable spawned returned gives =>
      obtain ⟨pipeline, -, listed, -⟩ := Value.callable_alone callable
      rw [Act.nestedFor, if_neg pipeline, listed]
      simp only [callable, if_true]
      rw [Act.askPipeline, Act.outcome_bind_ok spawned, Act.outcome_bind_ok returned]
      exact gives

theorem Offends.refused (offends : Offends d c model st v after) (context : String) :
    ∃ e, (Act.nestedFor d c context model v).outcome st = (.error e, after) := by
  cases offends with
  | @list vs listed other =>
    obtain ⟨e, refuses⟩ := Act.checkStages_refuses context 0 other
    rw [Act.nestedFor, if_neg (Value.listed_alone listed).1, listed]
    simp only [refuses]
    exact ⟨e, rfl⟩
  | function callable spawned returned other =>
    obtain ⟨pipeline, -, listed, -⟩ := Value.callable_alone callable
    rw [Act.nestedFor, if_neg pipeline, listed]
    simp only [callable, if_true]
    rw [Act.askPipeline, Act.outcome_bind_ok spawned, Act.outcome_bind_ok returned, if_neg other]
    exact ⟨_, rfl⟩
  | other pipeline listed callable =>
    rw [Act.nestedFor, if_neg pipeline, listed]
    simp only [callable]
    exact ⟨_, rfl⟩

end Grammar

namespace Act

/-- How a call ends by the stage that was made for it: a copy of the stage is appended, unless no
stage was made or it cannot be copied. -/
inductive Ends (c : ClassRef) (i : Nat) :
    Except Fault Value × Store → Except Fault Value × Store → Prop
  | refused {e : Fault} {mid : Store} : Ends c i (.error e, mid) (.error e, mid)
  | uncopied {s : Value} {e : Fault} {mid : Store} (held : mid.uncopyable? s = some e) :
      Ends c i (.ok s, mid) (.error e, mid)
  | appended {s u : Value} {mid after : Store} {q : Pipeline} (free : mid.uncopyable? s = none)
      (stages : mid.Stages c i q) (copied : s.Copied u) (more : after.Stages c i (q.extended [u])) :
      Ends c i (.ok s, mid) (.ok (.handle (.pipeline c i)), after)

variable {R : Store → Prop} {c : ClassRef} {i : Nat} {names : Names} {n : Nat} {st : Store}
variable {name : String} {args : List Value} {named : Entries} {call : StageCall}

theorem Host.ends (host : Host R c i) (stands : StageCall.of? name args named = some call)
    (guests : call.Asks (Guest (dispatch names n) R c) (Critic (dispatch names n) R))
    (here : R st) :
    Ends c i ((Act.stageOf (dispatch names n) (.handle (.pipeline c i)) call).outcome st.identified)
      (((dispatch names (n + 1)).call .never (.handle (.pipeline c i)) name args named).outcome
        st) := by
  have still := host.retained st _ here (.identified st)
  obtain ⟨p, stages⟩ := host.stages st here
  obtain ⟨p', stages'⟩ := host.stages _ still
  have kept := host.stageOf (host.reads names n) guests st.identified still
  obtain ⟨call', is, called⟩ | ⟨none, -⟩ :=
    outcome_stageMethod names n args named stages.usual (StageCall.isMethod_of_stands stands)
  · obtain rfl : call = call' := Option.some.inj (stands.symm.trans is)
    rcases made : (Act.stageOf (dispatch names n) (.handle (.pipeline c i)) call).outcome
      st.identified with ⟨r, mid⟩
    rw [made] at kept
    obtain ⟨q, usual⟩ := host.stages mid kept
    rw [called, outcome_callPipeline stages'.usual made usual.usual]
    cases r with
    | error e =>
      rw [outcome_bind_error (outcome_ofExcept ..)]
      exact .refused
    | ok s =>
      rw [outcome_bind_ok (outcome_ofExcept ..)]
      obtain ⟨e, refused, -, held⟩ | ⟨u, after, added, copied, more, -, free⟩ :=
        outcome_appendStage (d := dispatch names n) usual s
      · rw [refused]
        exact .uncopied held
      · rw [added]
        exact .appended free usual copied more
  · rw [stands] at none
    cases none

/-- A call is accepted exactly if what it is given is of a form and can be copied; a copy of the
stage that is made of it is appended then. -/
structure Accepts (c : ClassRef) (i : Nat) (operator : String) (form : Value → Store → Prop)
    (ended : Except Fault Value × Store) : Prop where
  returns : ended.1.isOk ↔
    ∃ body mid, form body mid ∧ mid.uncopyable? (Stage.ofOperator operator body) = none
  appended : ended.1.isOk → ∀ body mid, form body mid →
    ended.1 = .ok (.handle (.pipeline c i)) ∧ ∃ q u, mid.Stages c i q ∧
      (Stage.ofOperator operator body).Copied u ∧ ended.2.Stages c i (q.extended [u])

theorem Ends.of_error {e : Fault} {mid : Store} {ended : Except Fault Value × Store}
    (ends : Ends c i (.error e, mid) ended) : ended = (.error e, mid) := by
  cases ends
  rfl

theorem Ends.accepts {operator : String} {form : Value → Store → Prop}
    {made ended : Except Fault Value × Store} (ends : Ends c i made ended)
    (accepted : ∀ s mid, made = (.ok s, mid) ↔
      ∃ body, s = Stage.ofOperator operator body ∧ form body mid) :
    Accepts c i operator form ended := by
  -- what is of the form makes one stage only
  have sole {body : Value} {mid : Store} (fits : form body mid) :
      made = (.ok (Stage.ofOperator operator body), mid) := (accepted _ mid).mpr ⟨body, rfl, fits⟩
  cases ends with
  | refused =>
    refine ⟨⟨nofun, ?_⟩, nofun⟩
    rintro ⟨body, mid, fits, -⟩
    cases sole fits
  | uncopied held =>
    refine ⟨⟨nofun, ?_⟩, nofun⟩
    rintro ⟨body, mid, fits, free⟩
    cases sole fits
    rw [held] at free
    cases free
  | appended free stages copied more =>
    obtain ⟨body, rfl, fits⟩ := (accepted _ _).mp rfl
    refine ⟨⟨fun _ => ⟨body, _, fits, free⟩, fun _ => rfl⟩, ?_⟩
    intro _ body' mid fits'
    obtain ⟨same, rfl⟩ := Prod.mk.inj (sole fits')
    rw [← Except.ok.inj same]
    exact ⟨rfl, _, _, stages, copied, more⟩

end Act

end DocMapper
