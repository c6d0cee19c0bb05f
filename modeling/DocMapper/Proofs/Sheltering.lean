import DocMapper.Proofs.Staging

/-!
What a call on a pipeline leaves alone until it appends.  The pipeline stays as it is as long as
those leave it alone that are asked for the stage.
-/

namespace DocMapper

/-- What a call asks for the stages of a pipeline inside its stage. -/
def StageCall.sources : StageCall → List Value
  | .lookup v => (Entries.field? (v.entries?.getD []) "pipeline").toList
  | .facet v => (v.entries?.getD []).map Prod.snd
  | .unionWith v =>
    if Act.isPipeline v then [v] else (Entries.field? (v.entries?.getD []) "pipeline").toList
  | _ => []

/-- A call whose sources are such that stages, or criteria, can be had of them. -/
def StageCall.Asks (staging restricting : Value → Prop) : StageCall → Prop
  | .match v => restricting v
  | call => ∀ v ∈ call.sources, staging v

theorem StageCall.Asks.imp {P P' Q Q' : Value → Prop} {call : StageCall} (asks : call.Asks P Q)
    (staging : ∀ v, P v → P' v) (restricting : ∀ v, Q v → Q' v) : call.Asks P' Q' := by
  cases call with
  | «match» v => exact restricting v asks
  | _ => exact fun v source => staging v (asks v source)

namespace Act

/-- What is so before an action is so after it. -/
def Keeps (R : Store → Prop) (x : Act α) : Prop := ∀ st, R st → R (x.outcome st).2

namespace Keeps

variable {R : Store → Prop} {x : Act α} {f : α → Act β}

theorem pure (a : α) : Keeps R (pure a : Act α) := fun _ => id

theorem throw (e : Fault) : Keeps R (throw e : Act α) := fun _ => id

theorem bind (first : Keeps R x) (later : ∀ a, Keeps R (f a)) : Keeps R (x >>= f) := by
  intro st here
  have kept := first st here
  rcases hx : x.outcome st with ⟨e | a, after⟩ <;> rw [hx] at kept
  · rw [outcome_bind_error hx]
    exact kept
  · rw [outcome_bind_ok hx]
    exact later a after kept

theorem ofExcept {r : Except Fault α} (later : ∀ a, r = .ok a → Keeps R (f a)) :
    Keeps R (ofExcept r >>= f) := by
  intro st here
  cases r with
  | error e => exact here
  | ok a => exact later a rfl st here

end Keeps

/-- What is so as long as nothing is done to a pipeline, and perhaps to other builders. -/
structure Shelter (R : Store → Prop) (c : ClassRef) (i : Nat) (p : Pipeline) : Prop where
  stages : ∀ st, R st → st.Stages c i p
  retained : ∀ st after, R st → st.Retains after → R after

/-- What is so as long as a pipeline has the functions of the library, whatever stages it has. -/
structure Host (R : Store → Prop) (c : ClassRef) (i : Nat) : Prop where
  stages : ∀ st, R st → ∃ p, st.Stages c i p
  retained : ∀ st after, R st → st.Retains after → R after

theorem Shelter.host {R : Store → Prop} {c : ClassRef} {i : Nat} {p : Pipeline}
    (s : Shelter R c i p) : Host R c i :=
  ⟨fun st here => ⟨p, s.stages st here⟩, s.retained⟩

/-- A value that may be asked for stages: whatever it does then, it keeps what is so. -/
structure Guest (d : Dispatch) (R : Store → Prop) (c : ClassRef) (v : Value) : Prop where
  own : isPipeline v → Keeps R (stagesOf d v)
  asked : v.isCallable → ∀ context model, Keeps R (askPipeline d c context model v)

/-- A value that may be asked for criteria. -/
structure Critic (d : Dispatch) (R : Store → Prop) (v : Value) : Prop where
  own : isQuery v → Keeps R (queryJson d v)
  asked : v.isCallable → Keeps R (askQuery d v)

variable {d : Dispatch} {R : Store → Prop} {c : ClassRef} {i : Nat} {p : Pipeline} {v : Value}

theorem Keeps.resolveCollection (reads : ∀ k, Keeps R (d.read (.cls k) "collection")) (v : Value)
    (context : String) : Keeps R (resolveCollection d v context) := by
  unfold Act.resolveCollection
  split
  · exact .throw _
  · exact .pure _
  · intro st here
    rw [outcome_bind_ok (outcome_givesCollection _ st)]
    cases v with
    | cls k =>
      split
      · split
        · refine (Keeps.bind (x := registry) (fun _ => id) fun r => ?_) st here
          exact fun _ => by simp
        · exact reads k st here
      · exact here
    | _ => exact here

theorem Keeps.sourceModel (v : Value) : Keeps R (sourceModel v) := by
  intro st here
  rw [outcome_sourceModel]
  exact here

theorem Critic.matchStage (critic : Critic d R v) : Keeps R (matchStage d v) := by
  by_cases query : isQuery v
  · rw [Act.matchStage, if_pos query]
    exact .bind (critic.own query) fun _ => .pure _
  cases entries : v.entries? with
  | some es =>
    rw [Act.matchStage, if_neg query, entries]
    exact .pure _
  | none =>
    by_cases callable : v.isCallable
    · rw [matchStage_callable query entries callable]
      exact .bind (critic.asked callable) fun _ => .pure _
    · rw [Act.matchStage, if_neg query, entries]
      simp only [callable]
      exact .throw _

/-- A value that keeps what is so when it is asked for the stages of a pipeline inside a stage. -/
structure Spares (d : Dispatch) (R : Store → Prop) (receiver v : Value) : Prop where
  own : isPipeline v → Keeps R (stagesOf d v)
  nested : ∀ context model, Keeps R (nestedStages d receiver context model v)

namespace Keeps

variable {receiver : Value}

theorem lookupStage (reads : ∀ k, Keeps R (d.read (.cls k) "collection"))
    (spares : ∀ u ∈ (StageCall.lookup v).sources, Spares d R receiver u) :
    Keeps R (lookupStage d receiver v) := by
  refine .ofExcept fun es mapped => ?_
  rw [StageCall.sources, Argument.mapping_eq_ok.mp mapped, Option.getD_some] at spares
  split
  · split
    · refine .bind (.resolveCollection reads _ _) fun name => ?_
      split
      · split
        · exact .pure _
        · exact .throw _
      · split
        · rename_i inner nested
          have spare : Spares d R receiver inner := spares inner (by simp [nested])
          refine .bind (.sourceModel _) fun model => ?_
          have stages := spare.nested "lookup() pipeline" model
          dsimp only
          split
          · exact .ofExcept fun ls _ => .bind (.pure _) fun _ => .bind stages fun _ => .pure _
          · exact .bind (.pure _) fun _ => .bind stages fun _ => .pure _
        · exact .throw _
    · exact .throw _
  · exact .throw _

theorem branchModel (c : ClassRef) (i : Nat) :
    Keeps R (branchModel d (.handle (.pipeline c i))) :=
  .bind (.bind (fun _ => id) fun _ => .pure _) fun _ => .pure _

theorem facetBranches {es : Entries}
    (spares : ∀ e ∈ es, Spares d R (.handle (.pipeline c i)) e.2) :
    Keeps R (facetBranches d (.handle (.pipeline c i)) es) := by
  induction es with
  | nil => exact .pure _
  | cons e es ih =>
    obtain ⟨spare, spares⟩ := List.forall_mem_cons.mp spares
    unfold Act.facetBranches
    split
    · exact .throw _
    · refine .bind (.branchModel c i) fun model => ?_
      exact .bind (spare.nested _ model) fun stages => .bind (ih spares) fun _ => .pure _

theorem facetStage
    (spares : ∀ u ∈ (StageCall.facet v).sources, Spares d R (.handle (.pipeline c i)) u) :
    Keeps R (facetStage d (.handle (.pipeline c i)) v) := by
  refine .ofExcept fun es mapped => ?_
  rw [StageCall.sources, Argument.mapping_eq_ok.mp mapped, Option.getD_some,
    List.forall_mem_map] at spares
  split
  · exact .throw _
  · exact .bind (.facetBranches spares) fun _ => .pure _

theorem unionStage (reads : ∀ k, Keeps R (d.read (.cls k) "collection"))
    (spares : ∀ u ∈ (StageCall.unionWith v).sources, Spares d R receiver u) :
    Keeps R (unionStage d receiver v) := by
  unfold Act.unionStage
  dsimp only
  split
  · refine .bind (.bind (fun _ => id) fun _ => .pure _) fun q => ?_
    split
    · exact .throw _
    · refine .bind (.resolveCollection reads _ _) fun name => ?_
      exact .bind ((spares _ List.mem_cons_self).own rfl) fun _ => .pure _
  · split
    · rename_i es entries
      have plain : ¬isPipeline v := fun pipeline => by
        unfold isPipeline at pipeline
        split at pipeline
        · cases entries
        · cases pipeline
      rw [StageCall.sources, if_neg plain, entries, Option.getD_some] at spares
      split
      · refine .bind (.resolveCollection reads _ _) fun name => ?_
        split
        · exact .pure _
        · refine .bind (.sourceModel _) fun model => ?_
          exact .bind ((spares _ (by simp [*])).nested _ model) fun _ => .pure _
      · exact .throw _
    · exact .bind (.resolveCollection reads _ _) fun _ => .pure _

theorem stageOf {call : StageCall} (reads : ∀ k, Keeps R (d.read (.cls k) "collection"))
    (asks : call.Asks (Spares d R (.handle (.pipeline c i))) (Critic d R)) :
    Keeps R (stageOf d (.handle (.pipeline c i)) call) := by
  cases call with
  | «match» v => exact Critic.matchStage asks
  | lookup v => exact .lookupStage reads asks
  | facet v => exact .facetStage asks
  | unionWith v => exact .unionStage reads asks
  | _ => exact fun st here => by rw [Act.stageOf, outcome_ofExcept]; exact here

end Keeps

namespace Host

variable (s : Host R c i)
include s

theorem copy (v : Value) : Keeps R (copy v) := by
  intro st here
  obtain ⟨e, refused, -⟩ | ⟨u, after, made, -, kept, -⟩ := outcome_copy_cases v st
  · rw [refused]
    exact here
  · rw [made]
    exact s.retained st after here kept

theorem nestedStages (guest : Guest d R c v) (context : String) (model : Value) :
    Keeps R (nestedStages d (.handle (.pipeline c i)) context model v) := by
  intro st here
  obtain ⟨p, stages⟩ := s.stages st here
  rw [outcome_nestedStages stages]
  refine (?_ : Keeps R (nestedFor d c context model v)) st here
  unfold nestedFor
  split
  · exact guest.own ‹_›
  · split
    · exact .ofExcept fun _ _ => s.copy _
    · split
      · exact guest.asked ‹_› context model
      · exact .throw _

/-- Whatever a call asks for, it keeps what is so as long as those that are asked do. -/
theorem stageOf {call : StageCall} (reads : ∀ k, Keeps R (d.read (.cls k) "collection"))
    (guests : call.Asks (Guest d R c) (Critic d R)) :
    Keeps R (stageOf d (.handle (.pipeline c i)) call) :=
  .stageOf reads (StageCall.Asks.imp guests (fun _ guest => ⟨guest.own, s.nestedStages guest⟩)
    fun _ => id)

end Host

/-- What a class has for a collection is the same as long as the classes are, unless it is an object
that is made for whoever reads it. -/
theorem readClass_collection (k : ClassRef) (r : Registry) :
    (∃ x, ∀ st : Store, st.registry = r → (readClass k "collection").outcome st = (x, st)) ∨
      ∃ s, ∀ st : Store, st.registry = r → (readClass k "collection").outcome st =
        (.ok (.object (some st.identities) s), st.identified) := by
  have registry {st : Store} (same : st.registry = r) : (registry).outcome st = (.ok r, st) :=
    same ▸ rfl
  cases model : k.isModel with
  | true =>
    refine .inl ⟨r.collection (.cls k), fun st same => ?_⟩
    unfold readClass
    rw [model]
    exact (outcome_bind_ok (registry same)).trans (outcome_ofExcept ..)
  | false =>
    have member {st : Store} (same : st.registry = r) :
        (readClass k "collection").outcome st = (readMember k "collection").outcome st := by
      have common : (commonToClasses k "collection").outcome st = (.ok none, st) :=
        outcome_bind_ok (registry same)
      unfold readClass
      rw [model]
      exact outcome_bind_ok common
    cases found : r.member? k "collection" with
    | some m =>
      obtain ⟨owner, m⟩ := m
      cases m
      case value v =>
        refine .inl ⟨.ok v, fun st same => ?_⟩
        rw [member same, readMember, outcome_bind_ok (registry same), found]
        rfl
      case method | requiring =>
        refine .inl ⟨.ok (.handle (.routine owner "collection")), fun st same => ?_⟩
        rw [member same, readMember, outcome_bind_ok (registry same), found]
        rfl
      case ofClass | hydrating =>
        refine .inr ⟨.bound (.cls k) (.handle (.routine owner "collection")), fun st same => ?_⟩
        rw [member same, readMember, outcome_bind_ok (registry same), found]
        exact outcome_made _ st
      case property =>
        refine .inr ⟨.inert (.known "property"), fun st same => ?_⟩
        rw [member same, readMember, outcome_bind_ok (registry same), found]
        exact outcome_made _ st
    | none =>
      let fault : Fault := if r.classOfClass k = enumeration then .raised .member "collection"
        else .noClassAttribute k "collection"
      cases shared : r.member? (r.classOfClass k) "collection" with
      | none =>
        refine .inl ⟨.error fault, fun st same => ?_⟩
        rw [member same, readMember, outcome_bind_ok (registry same), found]
        dsimp only
        rw [outcome_bind_ok (registry same), shared]
        exact outcome_throw ..
      | some m =>
        obtain ⟨owner, m⟩ := m
        cases m
        case method =>
          refine .inr ⟨.bound (.cls k) (.handle (.routine owner "collection")), fun st same => ?_⟩
          rw [member same, readMember, outcome_bind_ok (registry same), found]
          dsimp only
          rw [outcome_bind_ok (registry same), shared]
          exact outcome_made _ st
        all_goals
          refine .inl ⟨.error fault, fun st same => ?_⟩
          rw [member same, readMember, outcome_bind_ok (registry same), found]
          dsimp only
          rw [outcome_bind_ok (registry same), shared]
          exact outcome_throw ..

end Act

/-- The receiver has no part in how the other arguments are taken. -/
theorem Method.bind_receiver (m : Method) (v w : Value) (args : List Value) (named : Entries) :
    m.bind (v :: args) named =
      (m.bind (w :: args) named).map fun a => { a with values := v :: a.values.tail } := by
  simp only [bind, List.length_cons]
  cases m.checkNamed (args.length + 1) named with
  | error e => rfl
  | ok checked =>
    change (if _ then _ else _) = Except.map _ (if _ then _ else _)
    split
    · rfl
    · split <;> rfl

namespace StageCall

theorem ofMethod?_receiver (name : String) (a : Arguments) (v : Value) :
    ofMethod? name { a with values := v :: a.values.tail } = ofMethod? name a := by
  have other (k : Nat) :
      Arguments.at { a with values := v :: a.values.tail } (k + 1) = a.at (k + 1) := by
    cases values : a.values <;> simp [Arguments.at, values]
  unfold ofMethod?
  simp only [other]

/-- Whether a function under a name appends a stage. -/
def isMethod (name : String) : Bool := (ofMethod? name ⟨[], [], []⟩).isSome

/-- The call that a function stands for when its arguments are in order. -/
def of? (name : String) (args : List Value) (named : Entries) : Option StageCall :=
  match Interface.pipelineMembers.lookup name with
  | some (.method m) => (m.bind (.null :: args) named).toOption.bind (ofMethod? name)
  | _ => none

theorem isMethod_of_stands {name : String} {args : List Value} {named : Entries} {call : StageCall}
    (stands : of? name args named = some call) : isMethod name := by
  unfold of? at stands
  split at stands
  · obtain ⟨a, -, stands⟩ := Option.bind_eq_some_iff.mp stands
    unfold ofMethod? at stands
    split at stands
    all_goals first | rfl | cases stands
  · cases stands

end StageCall

namespace Act

variable {names : Names} {n : Nat} {st : Store} {c : ClassRef} {i : Nat} {p : Pipeline}
variable {name : String} {args : List Value} {named : Entries}

/-- A function that appends a stage does the call that it stands for, if its arguments are in
order. -/
theorem outcome_stageMethod (names : Names) (n : Nat) (args : List Value) (named : Entries)
    (h : st.Furnished c i) (stage : StageCall.isMethod name) :
    (∃ call, StageCall.of? name args named = some call ∧
      ((dispatch names (n + 1)).call .never (.handle (.pipeline c i)) name args named).outcome st =
        (callPipeline (dispatch names n) (.handle (.pipeline c i)) call).outcome st.identified) ∨
    StageCall.of? name args named = none ∧ ∃ e,
      ((dispatch names (n + 1)).call .never (.handle (.pipeline c i)) name args named).outcome st =
        (.error e, st.identified) := by
  obtain ⟨m, found, place, waits, performed, stands⟩ :
      ∃ m, Interface.pipelineMembers.lookup name = some (.method m) ∧
        (readPlace? (.handle (.pipeline c i)) name).outcome st = (.ok none, st) ∧
        m.waits = false ∧
        (∀ a, performMethod (dispatch names n) m a =
          pipelineMethod (dispatch names n) (a.at 0) name a) ∧
        ∀ a, (StageCall.ofMethod? name a).isSome := by
    unfold StageCall.isMethod StageCall.ofMethod? at stage
    split at stage
    all_goals first | exact ⟨_, rfl, rfl, rfl, fun _ => rfl, fun _ => rfl⟩ | cases stage
  obtain ⟨usual, own⟩ := h name m found
  rw [outcome_call_carried (by simp) usual own place, carryOut, StageCall.of?, found,
    m.bind_receiver _ .null]
  simp only
  cases bind : m.bind (.null :: args) named with
  | error e => exact .inr ⟨rfl, e, rfl⟩
  | ok a =>
    obtain ⟨call, is⟩ := Option.isSome_iff_exists.mp (stands a)
    refine .inl ⟨call, is, ?_⟩
    rw [Except.map, outcome_bind_ok (outcome_ofExcept ..), waits]
    simp only
    rw [performed]
    unfold pipelineMethod
    rw [StageCall.ofMethod?_receiver, is]
    rfl

theorem Keeps.reads {R : Store → Prop} (identified : ∀ st, R st → R st.identified) (names : Names)
    (n : Nat) (k : ClassRef) : Keeps R ((dispatch names n).read (.cls k) "collection") := by
  intro st here
  cases n with
  | zero => exact here
  | succ n =>
    change R ((readClass k "collection").outcome st).2
    obtain ⟨x, read⟩ | ⟨x, read⟩ := readClass_collection k st.registry <;> rw [read st rfl]
    · exact here
    · exact identified st here

theorem Host.reads {R : Store → Prop} (s : Host R c i) (names : Names) (n : Nat) (k : ClassRef) :
    Keeps R ((dispatch names n).read (.cls k) "collection") :=
  .reads (fun st here => s.retained st _ here (.identified st)) names n k

namespace Shelter

variable {R : Store → Prop} (s : Shelter R c i p)
include s

/-- A call appends exactly one stage, or fails and appends none. -/
theorem appends (stage : StageCall.isMethod name)
    (guests : ∀ call, StageCall.of? name args named = some call →
      call.Asks (Guest (dispatch names n) R c) (Critic (dispatch names n) R)) (here : R st) :
    ∃ x, Appends c i p x
      (((dispatch names (n + 1)).call .never (.handle (.pipeline c i)) name args named).outcome
        st) := by
  have still := s.retained st _ here (.identified st)
  obtain ⟨call, is, called⟩ | ⟨-, e, failed⟩ :=
    outcome_stageMethod names n args named (s.stages st here).usual stage
  · have kept := s.host.stageOf (s.host.reads names n) (guests call is) st.identified still
    rcases made : (Act.stageOf (dispatch names n) (.handle (.pipeline c i)) call).outcome
      st.identified with ⟨r, mid⟩
    rw [made] at kept
    have stages := s.stages mid kept
    rw [called, outcome_callPipeline (s.stages _ still).usual made stages.usual]
    cases r with
    | error e =>
      rw [outcome_bind_error (outcome_ofExcept ..)]
      exact ⟨none, rfl, by simpa using stages⟩
    | ok v =>
      rw [outcome_bind_ok (outcome_ofExcept ..)]
      obtain ⟨e, refused, -⟩ | ⟨u, after, added, -, more, -⟩ :=
        outcome_appendStage (d := dispatch names n) stages v
      · rw [refused]
        exact ⟨none, rfl, by simpa using stages⟩
      · rw [added]
        exact ⟨some u, rfl, more⟩
  · rw [failed]
    exact ⟨none, rfl, by simpa using s.stages _ still⟩

end Shelter

end Act

end DocMapper
