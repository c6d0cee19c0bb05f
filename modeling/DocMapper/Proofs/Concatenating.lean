import DocMapper.Proofs.Replaying

/-!
Pipelines as concatenations.  Every call that is accepted appends its stage, whatever was appended
before, and a call that is refused appends nothing; so what two runs of calls append one after the
other is what they append to pipelines of their own.
-/

namespace DocMapper

/-- A call that makes the same stage of every pipeline of a class and a model, or fails on all. -/
structure Call.Steady (β : Store) (X : Nat → Prop) (names : Names) (n : Nat) (c : ClassRef)
    (k : Call) : Prop where
  stage : StageCall.isMethod k.method
  steady : ∀ call, StageCall.of? k.method k.args k.named = some call → call.Sound β X ∧
    call.Asks (β.Staging X (dispatch names n) c) (β.Restricting X (dispatch names n))

namespace Act

/-- Calls on a builder one after another; those that fail are passed over. -/
def tryCalls (d : Dispatch) (self : Value) : List Call → Act Unit
  | [] => return
  | k :: ks => do
    tryCatch (do let _ ← d.call .never self k.method k.args k.named) fun _ => return
    tryCalls d self ks

variable {β σ τ : Store} {X : Nat → Prop} {names : Names} {n : Nat} {c : ClassRef} {model : Value}
variable {i j : Nat} {p q : Pipeline}

/-- Whether a call is accepted or not, the others follow. -/
theorem outcome_tryCalls_cons (d : Dispatch) (self : Value) (k : Call) (ks : List Call)
    (st : Store) : (tryCalls d self (k :: ks)).outcome st =
      (tryCalls d self ks).outcome ((d.call .never self k.method k.args k.named).outcome st).2 := by
  rw [tryCalls, outcome_bind, outcome_tryCatch, outcome_bind]
  rcases (d.call .never self k.method k.args k.named).outcome st with ⟨e | v, after⟩ <;> rfl

theorem tryCalls_append (d : Dispatch) (self : Value) (ks ls : List Call) :
    tryCalls d self (ks ++ ls) = (do tryCalls d self ks; tryCalls d self ls) := by
  induction ks with
  | nil => rfl
  | cons k ks ih => simp only [List.cons_append, tryCalls, ih, bind_assoc]

theorem agree_of_steady {k : Call} (steady : k.Steady β X names n c) :
    Option.Rel (StageCall.Agree β X (names.behalf n c model) (names.behalf n c model))
      (StageCall.of? k.method k.args k.named) (StageCall.of? k.method k.args k.named) := by
  cases is : StageCall.of? k.method k.args k.named with
  | none => exact .none
  | some call =>
    obtain ⟨sound, asks⟩ := steady.steady call is
    refine .some ((StageCall.Like.same (P := Eq) call).agree (.inl rfl) Eq.refl sound
      (StageCall.Asks.imp asks ?_ ?_))
    · rintro v staging _ rfl
      exact staging.supplies
    · rintro v restricting _ rfl
      exact restricting.agree_matchStage

/-- Calls that are tried on two pipelines append the same stages. -/
theorem outcome_tryCalls {ks : List Call} (steady : ∀ k ∈ ks, k.Steady β X names n c)
    (left : (names.behalf n c model).Joins β X σ i p)
    (right : (names.behalf n c model).Joins β X τ j q) :
    ∃ ss σ' τ',
      (tryCalls (dispatch names (n + 1)) (.handle (.pipeline c i)) ks).outcome σ = (.ok (), σ') ∧
      (tryCalls (dispatch names (n + 1)) (.handle (.pipeline c j)) ks).outcome τ = (.ok (), τ') ∧
      Runs (names.behalf n c model) β X σ i p ss σ' ∧
      Runs (names.behalf n c model) β X τ j q ss τ' := by
  induction ks generalizing σ τ p q with
  | nil => exact ⟨[], σ, τ, rfl, rfl, .nil left, .nil right⟩
  | cons k ks ih =>
    obtain ⟨here, steady⟩ := List.forall_mem_cons.mp steady
    obtain ⟨s, adds, adds', -⟩ := adds_method here.stage (agree_of_steady here) left.toFollows
      right.toFollows
    obtain ⟨ss, σ', τ', run, run', runs, runs'⟩ :=
      ih steady (left.adds adds) (right.adds adds')
    refine ⟨s.toList ++ ss, σ', τ', ?_, ?_, (Runs.step left adds).append runs,
      (Runs.step right adds').append runs'⟩
    · rw [outcome_tryCalls_cons, run]
    · rw [outcome_tryCalls_cons, run']

end Act

def Call.limiting (n : Int) : Call := ⟨none, "limit", [.int n], []⟩

theorem Call.of?_limiting (n : Int) :
    StageCall.of? (limiting n).method (limiting n).args (limiting n).named =
      some (.limit (.int n)) := rfl

theorem StageCall.sound_limit (β : Store) (X : Nat → Prop) (n : Int) :
    (limit (.int n)).Sound β X := by
  intro s made
  cases n <;> cases made
  exact (Act.staged (.int _)).plain

theorem Call.fixed_limiting (β : Store) (X : Nat → Prop) (names : Names) (depth : Nat)
    (P Q : Value → Prop) (n : Int) : (limiting n).Fixed β X names depth P Q := by
  have literal (d : Dispatch) (st : Store) :
      ((limiting n).written names d).outcome st = (.ok ([.int n], []), st) := rfl
  refine .of_literal rfl rfl literal fun call stands => ?_
  cases (of?_limiting n).symm.trans stands
  exact ⟨StageCall.sound_limit β X n, nofun⟩

/-- A function that takes the first of what there is. -/
def Value.first : Value := .object none (.function [.limiting 1] none)

theorem Value.settled_first (β : Store) (X : Nat → Prop) (names : Names) :
    β.Settled X names 1 first :=
  .inr ⟨none, _, none, rfl, List.forall_mem_singleton.mpr (Call.fixed_limiting ..), nofun⟩

def Call.branching : Call := ⟨none, "facet", [.dict [(.str "first", .first)]], []⟩

/-- Three pipelines, of which one has a stage. -/
def Store.trays : Store where
  pipelines := #[
    { cls := Act.pipelineClass, stages := [.dict [(.str "$skip", .int 3)]], model := .null },
    { cls := Act.pipelineClass, stages := [], model := .null },
    { cls := Act.pipelineClass, stages := [], model := .null }]

theorem Store.clear_trays : trays.Clear :=
  ⟨⟨fun _ _ => rfl, fun _ _ _ => ⟨fun _ => rfl, rfl⟩⟩, fun _ _ _ => ⟨fun _ => rfl, rfl⟩⟩

theorem Store.joins_trays {i : Nat} {p : Pipeline} (there : trays.pipelines[i]? = some p)
    (instead : p.instead = none) (bound : p.model = .null) (n : Nat) :
    (Names.behalf [] n Act.pipelineClass .null).Joins trays (fun _ => True) trays i p where
  stages := .of_bare ⟨fun _ => rfl, rfl⟩ (fun _ _ => rfl) (.inl rfl) there instead
  bound := bound
  allows := .refl _
  later := .inl trivial

end DocMapper
