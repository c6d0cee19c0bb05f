import DocMapper.Proofs.Agreeing

/-!
The same call made of two pipelines.  Calls that ask for the same append the same stage to both, or
fail on both, whatever stages these had before.
-/

namespace DocMapper

/-- The behalf of a pipeline of a class and a model, where calls lead into calls to a depth. -/
abbrev Names.behalf (names : Names) (n : Nat) (c : ClassRef) (model : Value) : Act.Behalf :=
  ⟨DocMapper.dispatch names n, c, model⟩

namespace Act

/-- A call on a pipeline that changes no other one. -/
structure Adds (σ : Store) (c : ClassRef) (i : Nat) (p : Pipeline) (s : Option Value)
    (ended : Except Fault Value × Store) : Prop extends Appends c i p s ended where
  apart : σ.Allows (· = i) ended.2

/-- A pipeline in what follows a store. -/
structure Behalf.Follows (a : Behalf) (β : Store) (X : Nat → Prop) (σ : Store) (i : Nat)
    (p : Pipeline) : Prop extends a.Is σ i p where
  allows : β.Allows X σ

/-- A pipeline that may be given stages in what follows a store. -/
structure Behalf.Joins (a : Behalf) (β : Store) (X : Nat → Prop) (σ : Store) (i : Nat)
    (p : Pipeline) : Prop extends a.Follows β X σ i p where
  later : X i ∨ β.pipelines.size ≤ i

variable {β σ τ mid after : Store} {X : Nat → Prop} {a b : Behalf} {i j : Nat} {p q : Pipeline}
variable {s : Option Value} {call dall : StageCall} {c k : ClassRef} {model other : Value}
variable {names : Names} {n n' : Nat} {name : String} {args args' : List Value}
variable {named named' : Entries} {ended : Except Fault Value × Store}

theorem Behalf.Joins.adds (h : a.Joins β X σ i p) (adds : Adds σ a.cls i p s ended) :
    a.Joins β X ended.2 i (p.extended s.toList) :=
  ⟨⟨⟨adds.stages, h.bound⟩, h.allows.within adds.apart h.later⟩, h.later⟩

theorem Behalf.Follows.gains (h : a.Follows β X σ i p) (g : σ.Gains after) :
    a.Follows β X after i p :=
  ⟨⟨g.stages h.stages, h.bound⟩, h.allows.trans g⟩

theorem Behalf.Joins.gains (h : a.Joins β X σ i p) (g : σ.Gains after) : a.Joins β X after i p :=
  ⟨h.toFollows.gains g, h.later⟩

theorem Adds.sooner (adds : Adds mid c i p s ended) (g : σ.Gains mid) : Adds σ c i p s ended :=
  { adds with apart := g.wider.within adds.apart (.inl rfl) }

/-- A call that fails before it appends. -/
theorem Adds.failed {e : Fault} (h : σ.Stages c i p) (g : σ.Gains after) :
    Adds σ c i p none (.error e, after) :=
  ⟨⟨rfl, by simpa using g.stages h⟩, g.wider⟩

theorem adds_callPipeline {d : Dispatch} {r : Except Fault Value} (h : σ.Stages c i p)
    (made : (stageOf d (.handle (.pipeline c i)) call).outcome σ = (r, mid))
    (kept : σ.Gains mid) (plain : ∀ s, r = .ok s → s.Plain) :
    Adds σ c i p r.toOption ((callPipeline d (.handle (.pipeline c i)) call).outcome σ) := by
  have stages := kept.stages h
  rw [outcome_callPipeline h.usual made stages.usual]
  cases r with
  | error e =>
    rw [outcome_bind_error (outcome_ofExcept ..)]
    exact .failed h kept
  | ok s =>
    rw [outcome_bind_ok (outcome_ofExcept ..)]
    obtain ⟨e, -, uncopied, -⟩ | ⟨u, after, added, copied, more, changed, -⟩ :=
      outcome_appendStage (d := d) stages s
    · exact absurd (plain s rfl) uncopied
    · obtain rfl := copied.plain (plain s rfl)
      rw [added]
      exact ⟨⟨rfl, more⟩, kept.wider.within (.restaged (changed (plain u rfl))) (.inl rfl)⟩

/-- What a call appends can be told from the pipeline. -/
theorem Adds.unique {t : Option Value} (adds : Adds σ c i p s ended)
    (other : Adds σ c i p t ended) : s = t := by
  have same := adds.stages.pipeline.symm.trans other.stages.pipeline
  simp only [Pipeline.extended, Option.some.injEq, Pipeline.mk.injEq, List.append_cancel_left_eq,
    true_and, and_true] at same
  cases s <;> cases t <;> cases same <;> rfl

/-- Calls that ask for the same append the same stage, or both fail. -/
theorem adds_alike (agree : call.Agree β X a b dall) (left : a.Follows β X σ i p)
    (right : b.Follows β X τ j q) :
    ∃ s, Adds σ a.cls i p s
        ((callPipeline a.dispatch (.handle (.pipeline a.cls i)) call).outcome σ) ∧
      Adds τ b.cls j q s
        ((callPipeline b.dispatch (.handle (.pipeline b.cls j)) dall).outcome τ) ∧
      ∀ v ∈ s, v.Staged := by
  have ended := agree_stageOf left.allows right.allows left.toIs right.toIs agree σ τ (.refl σ)
    (.refl τ)
  generalize made : (stageOf a.dispatch (.handle (.pipeline a.cls i)) call).outcome σ = x at ended
  generalize made' : (stageOf b.dispatch (.handle (.pipeline b.cls j)) dall).outcome τ = y at ended
  cases ended with
  | failed more more' =>
    exact ⟨none, adds_callPipeline left.stages made more nofun,
      adds_callPipeline right.stages made' more' nofun, nofun⟩
  | @gave s _ _ fit more more' =>
    have plain (u : Value) (same : Except.ok s = (.ok u : Except Fault Value)) : u.Plain := by
      cases same
      exact fit.plain
    exact ⟨some s, adds_callPipeline left.stages made more plain,
      adds_callPipeline right.stages made' more' plain, by simpa using fit⟩

/-- Functions of two pipelines append the same stage, or both fail. -/
theorem adds_method (stage : StageCall.isMethod name)
    (agree : Option.Rel (StageCall.Agree β X (names.behalf n c model) (names.behalf n' k other))
      (StageCall.of? name args named) (StageCall.of? name args' named'))
    (left : (names.behalf n c model).Follows β X σ i p)
    (right : (names.behalf n' k other).Follows β X τ j q) :
    ∃ s, Adds σ c i p s (((dispatch names (n + 1)).call .never (.handle (.pipeline c i)) name args
        named).outcome σ) ∧
      Adds τ k j q s (((dispatch names (n' + 1)).call .never (.handle (.pipeline k j)) name args'
        named').outcome τ) ∧ ∀ v ∈ s, v.Staged := by
  have still (ρ : Store) : ρ.Gains ρ.identified := .identified ρ
  obtain ⟨call, is, called⟩ | ⟨is, e, failed⟩ :=
    outcome_stageMethod names n args named left.stages.usual stage
  all_goals
    obtain ⟨dall, is', called'⟩ | ⟨is', e', failed'⟩ :=
      outcome_stageMethod names n' args' named' right.stages.usual stage
  all_goals rw [is, is'] at agree
  case inl.inl =>
    obtain ⟨agree⟩ := agree
    rw [called, called']
    obtain ⟨s, adds, adds', plain⟩ :=
      adds_alike agree (left.gains (still σ)) (right.gains (still τ))
    exact ⟨s, adds.sooner (still σ), adds'.sooner (still τ), plain⟩
  case inr.inr =>
    rw [failed, failed']
    exact ⟨none, .failed left.stages (still σ), .failed right.stages (still τ), nofun⟩
  all_goals cases agree

/-- A function that makes a stage appends it. -/
theorem adds_made {stage : Value} (stands : StageCall.of? name args named = some call)
    (h : σ.Stages c i p)
    (made : (stageOf (dispatch names n) (.handle (.pipeline c i)) call).outcome σ.identified =
      (.ok stage, mid)) (kept : σ.identified.Gains mid) (plain : stage.Plain) :
    Adds σ c i p (some stage) (((dispatch names (n + 1)).call .never (.handle (.pipeline c i)) name
      args named).outcome σ) := by
  obtain ⟨_, is, called⟩ | ⟨is, -⟩ :=
    outcome_stageMethod names n args named h.usual (StageCall.isMethod_of_stands stands)
  · cases is.symm.trans stands
    rw [called]
    have adds := adds_callPipeline h.identified made kept fun s same => by
      cases same
      exact plain
    exact adds.sooner (.identified σ)
  · cases is.symm.trans stands

end Act

end DocMapper
