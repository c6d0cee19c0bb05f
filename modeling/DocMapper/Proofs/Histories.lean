import DocMapper.Proofs.Configuring

/-!
What classes answer after whatever was done to them.  The tables of a history say what is set on
each class itself; a class answers its own collection, and the first connection along its ancestors.
-/

namespace DocMapper

/-- The collections that a history has set on classes themselves and not cleared since. -/
def collectionsGiven (past : List (Passage Change)) : ClassRef → Option Value :=
  past.foldl (fun table p => p.use.collections p.result table) fun _ => none

/-- The connections that a history has set on classes themselves and not cleared since. -/
def connectionsGiven (past : List (Passage Change)) : ClassRef → Option Value :=
  past.foldl (fun table p => p.use.connections p.result table) fun _ => none

/-- What configures no class that was there before: an assignment that was refused, a look at a
record, a class statement, and attaching a model. -/
def Passage.Spares (p : Passage Change) : Prop :=
  match p.use with
  | .connect .. | .place .. => ∃ e, p.result = .error e
  | .clear _ => False
  | .declare .. | .record _ | .bind .. => True

theorem findSome?_congr {α β : Type} {f g : α → Option β} {xs : List α}
    (same : ∀ x ∈ xs, f x = g x) : xs.findSome? f = xs.findSome? g := by
  induction xs with
  | nil => rfl
  | cons x xs ih =>
    rw [List.findSome?_cons, List.findSome?_cons, same x List.mem_cons_self,
      ih fun y member => same y (List.mem_cons_of_mem x member)]

abbrev Configures (d : Dispatch) :=
  Course (Change.act d) Change.Fits

section

variable {d : Dispatch} {st now : Store} {past later : List (Passage Change)} {c ref : ClassRef}

/-- The registry keeps to the tables of its history. -/
structure Kept (st : Store) (past : List (Passage Change)) (now : Store) : Prop where
  collections : now.registry.ownCollection? =
    past.foldl (fun table p => p.use.collections p.result table) st.registry.ownCollection?
  connections : now.registry.ownConnection? =
    past.foldl (fun table p => p.use.connections p.result table) st.registry.ownConnection?
  sound : now.registry.Sound
  texts : now.registry.Texts

theorem kept_of_configures (sound : st.registry.Sound) (texts : st.registry.Texts)
    (run : Configures d st past now) : Kept st past now := by
  induction run with
  | start => exact ⟨rfl, rfl, sound, texts⟩
  | step before u fit ih =>
    have alters := Change.alters_act (d := d) ih.sound ih.texts u fit
    constructor
    · rw [List.foldl_append, ← ih.collections]
      exact alters.collections
    · rw [List.foldl_append, ← ih.connections]
      exact alters.connections
    · exact alters.sound
    · exact alters.texts

/-- What no change touches stays as it is, for a class that is there. -/
theorem constant_of_configures (own : Registry → Option Value) (sound : st.registry.Sound)
    (texts : st.registry.Texts) (there : st.registry.Present ref)
    (run : Configures d st later now)
    (steps : ∀ p ∈ later, p.use.Alters p.result p.before.registry p.after.registry →
      p.before.registry.Present ref → own p.after.registry = own p.before.registry) :
    now.registry.Present ref ∧ own now.registry = own st.registry := by
  induction run with
  | start => exact ⟨there, rfl⟩
  | step before u fit ih =>
    obtain ⟨present, same⟩ := ih fun p member => steps p (List.mem_append_left _ member)
    have kept := kept_of_configures sound texts before
    have alters := Change.alters_act (d := d) kept.sound kept.texts u fit
    refine ⟨alters.present present, Eq.trans ?_ same⟩
    exact steps _ (List.mem_append_right _ (List.mem_singleton.mpr rfl)) alters present

namespace Change

variable {u : Change} {result : Except Fault Value} {r after : Registry}

theorem entered_other {table : ClassRef → Option Value} {v : Option Value} (other : c ≠ ref) :
    entered table c v ref = table ref :=
  if_neg other.symm

theorem Alters.connection_stays (alters : u.Alters result r after) (there : r.Present ref)
    (unset : ∀ x, result = .ok x → u ≠ .clear ref ∧ ∀ v, u ≠ .connect ref v) :
    after.ownConnection? ref = r.ownConnection? ref := by
  rw [alters.connections]
  unfold Change.connections
  split
  · rename_i c v x
    exact entered_other fun same => (unset x rfl).2 v (same ▸ rfl)
  · rename_i c x
    exact entered_other fun same => (unset x rfl).1 (same ▸ rfl)
  · exact entered_other fun same => (alters.bound rfl rfl).2.1 (same ▸ there)
  · rfl

theorem Alters.collection_stays (alters : u.Alters result r after) (there : r.Present ref)
    (unset : ∀ x, result = .ok x → u ≠ .clear ref ∧ ∀ v, u ≠ .place ref v) :
    after.ownCollection? ref = r.ownCollection? ref := by
  rw [alters.collections]
  unfold Change.collections
  split
  · rename_i c v x
    exact entered_other fun same => (unset x rfl).2 v (same ▸ rfl)
  · rename_i c x
    exact entered_other fun same => (unset x rfl).1 (same ▸ rfl)
  · exact entered_other fun same => (alters.bound rfl rfl).2.1 (same ▸ there)
  · rfl

end Change

theorem Passage.Spares.unset {p : Passage Change} (spares : p.Spares) (x : Value)
    (ok : p.result = .ok x) : p.use ≠ .clear c ∧ (∀ v, p.use ≠ .connect c v) ∧
      ∀ v, p.use ≠ .place c v := by
  obtain ⟨u, before, result, after⟩ := p
  cases ok
  cases u <;> simp_all [Passage.Spares]

/-- What spares the classes that are there changes no answer of theirs. -/
theorem Passage.Spares.answer_eq {p : Passage Change} (spares : p.Spares)
    (alters : p.use.Alters p.result p.before.registry p.after.registry)
    (sound : p.before.registry.Sound) (model : c.isModel) (there : p.before.registry.Present c) :
    p.after.answer c "connection" = p.before.answer c "connection" ∧
      p.after.answer c "collection" = p.before.answer c "collection" := by
  have connections : ∀ a ∈ p.before.registry.ancestors c,
      p.after.registry.ownConnection? a = p.before.registry.ownConnection? a :=
    fun a member => alters.connection_stays (sound.ancestors_present there a member)
      fun x ok => ⟨(spares.unset x ok).1, (spares.unset x ok).2.1⟩
  have collection := alters.collection_stays there
    fun x ok => ⟨(spares.unset x ok).1, (spares.unset x ok).2.2⟩
  rw [Store.answer_connection model, Store.answer_connection model, Registry.connection_eq,
    Registry.connection_eq, Store.answer_collection model, Store.answer_collection model,
    Registry.collection_eq, Registry.collection_eq, collection, alters.ancestors there,
    findSome?_congr connections]
  exact ⟨rfl, rfl⟩

namespace Registry

variable {r : Registry}

theorem texts_of_no_configs (fresh : r.configs = []) : r.Texts := by
  intro c v found
  simp [ownCollection?, config?, fresh] at found

theorem own_of_no_configs (fresh : r.configs = []) :
    r.ownCollection? = (fun _ => none) ∧ r.ownConnection? = fun _ => none := by
  constructor <;> funext c <;> simp [ownCollection?, ownConnection?, config?, fresh]

end Registry

theorem Kept.of_fresh (fresh : st.registry.configs = []) (sound : st.registry.Sound)
    (run : Configures d st past now) :
    now.registry.ownCollection? = collectionsGiven past ∧
      now.registry.ownConnection? = connectionsGiven past ∧ now.registry.Sound ∧
      now.registry.Texts := by
  have kept := kept_of_configures sound (Registry.texts_of_no_configs fresh) run
  obtain ⟨collections, connections⟩ := Registry.own_of_no_configs fresh
  exact ⟨kept.collections.trans (by rw [collections]; rfl),
    kept.connections.trans (by rw [connections]; rfl), kept.sound, kept.texts⟩

/-- What a passage of a history did, and where it led. -/
theorem alters_of_split {earlier : List (Passage Change)} {p : Passage Change}
    (fresh : st.registry.configs = []) (sound : st.registry.Sound) (run : Configures d st past now)
    (place : past = earlier ++ p :: later) :
    p.use.Fits p.before ∧ p.before.registry.Sound ∧
      p.use.Alters p.result p.before.registry p.after.registry ∧
      Configures d p.after later now := by
  obtain ⟨first, fit, went, rest⟩ := run.split place
  obtain ⟨-, -, sound, texts⟩ := Kept.of_fresh fresh sound first
  have alters := Change.alters_act (d := d) sound texts p.use fit
  refine ⟨fit, sound, ?_, rest⟩
  rw [went]
  exact alters

/-- Attaching a model sets what the new class answers, until that is set anew or cleared. -/
theorem answers_of_bound {base : ClassRef} {name v : Value} {before after : Store}
    (model : base.isModel)
    (alters : (Change.bind base name v).Alters (.ok (.cls ref)) before.registry after.registry)
    (run : Configures d after later now) :
    ((∀ p ∈ later, ∀ x, p.result = .ok x → p.use ≠ .clear ref ∧ ∀ v, p.use ≠ .connect ref v) →
      now.answer ref "connection" = .ok v) ∧
    ((∀ p ∈ later, ∀ x, p.result = .ok x → p.use ≠ .clear ref ∧ ∀ v, p.use ≠ .place ref v) →
      ∃ name, before.answer base "collection" = .ok name ∧
        now.answer ref "collection" = .ok name) := by
  obtain ⟨refModel, -, there, given⟩ := alters.bound rfl rfl
  have kept := kept_of_configures alters.sound alters.texts run
  constructor <;> intro unset
  · obtain ⟨present, same⟩ := constant_of_configures (fun r => r.ownConnection? ref)
      alters.sound alters.texts there run
      fun p member alters there => alters.connection_stays there (unset p member)
    have set : after.registry.ownConnection? ref = some v := by
      rw [alters.connections]
      exact if_pos rfl
    obtain ⟨rest, lineage⟩ := kept.sound.ancestors_eq_cons present refModel
    rw [Store.answer_connection refModel, Registry.connection_eq, lineage, List.findSome?_cons, same,
      set]
  · obtain ⟨collection, given⟩ := Option.isSome_iff_exists.mp given
    obtain ⟨-, same⟩ := constant_of_configures (fun r => r.ownCollection? ref)
      alters.sound alters.texts there run
      fun p member alters there => alters.collection_stays there (unset p member)
    have set : after.registry.ownCollection? ref = some collection := by
      rw [alters.collections]
      exact (if_pos rfl).trans given
    refine ⟨collection, ?_, ?_⟩
    · rw [Store.answer_collection model, Registry.collection_eq, given]
    · rw [Store.answer_collection refModel, Registry.collection_eq, same, set]

/-- Every class answers as its history tells. -/
theorem configures_answers (fresh : st.registry.configs = []) (sound : st.registry.Sound)
    (run : Configures d st past now) :
    (∀ c, c.isModel → now.answer c "collection" =
      (collectionsGiven past c).elim (.error (.noCollection (.cls c))) .ok) ∧
    (∀ c, c.isModel → now.answer c "connection" =
      ((now.registry.ancestors c).findSome? (connectionsGiven past)).elim
        (.error (.noConnection (.cls c))) .ok) ∧
    (∀ p ∈ past, p.Spares → ∀ c, c.isModel → p.before.registry.Declared c →
      p.after.answer c "connection" = p.before.answer c "connection" ∧
        p.after.answer c "collection" = p.before.answer c "collection") ∧
    (∀ v σ, (Act.writeClass .root "collection" v).outcome σ = (.error .abstractCollection, σ)) ∧
    (∀ earlier base name v before ref after later,
      past = earlier ++ ⟨.bind base name v, before, .ok (.cls ref), after⟩ :: later →
      ((∀ p ∈ later, ∀ x, p.result = .ok x → p.use ≠ .clear ref ∧ ∀ v, p.use ≠ .connect ref v) →
        now.answer ref "connection" = .ok v) ∧
      ((∀ p ∈ later, ∀ x, p.result = .ok x → p.use ≠ .clear ref ∧ ∀ v, p.use ≠ .place ref v) →
        ∃ name, before.answer base "collection" = .ok name ∧
          now.answer ref "collection" = .ok name)) ∧
    ∀ c, (Fault.noCollection c).kind = .configuration ∧ (Fault.noConnection c).kind = .configuration ∧
      Fault.abstractCollection.kind = .configuration := by
  obtain ⟨collections, connections, -, -⟩ := Kept.of_fresh fresh sound run
  refine ⟨fun c model => ?_, fun c model => ?_, fun p member spares c model there => ?_,
    fun v σ => ?_, fun earlier base name v before ref after later place => ?_,
    fun c => ⟨rfl, rfl, rfl⟩⟩
  · rw [Store.answer_collection model, Registry.collection_eq, collections]
    cases collectionsGiven past c <;> rfl
  · rw [Store.answer_connection model, Registry.connection_eq, connections]
    cases (now.registry.ancestors c).findSome? (connectionsGiven past) <;> rfl
  · obtain ⟨earlier, later, place⟩ := List.append_of_mem member
    obtain ⟨-, sound, alters, -⟩ := alters_of_split fresh sound run place
    exact spares.answer_eq alters sound model there.present
  · rw [Act.writeClass_collection rfl]
    rfl
  · obtain ⟨fit, -, alters, rest⟩ := alters_of_split fresh sound run place
    exact answers_of_bound fit.1 alters rest

/-- A history with one change more, which changes the registry alone. -/
theorem configures_next {u : Change} {result : Except Fault Value} {r : Registry}
    {notes : Array Note} (after : Registry) (run : Configures d st past (st.registering r notes))
    (fit : u.Fits (st.registering r notes))
    (done : ∃ notes', (u.act d).outcome (st.registering r notes) =
      (result, st.registering after notes')) :
    ∃ notes', Configures d st (past ++ [⟨u, st.registering r notes, result,
      st.registering after notes'⟩]) (st.registering after notes') :=
  let ⟨notes', done⟩ := done
  ⟨notes', run.next fit done⟩

namespace Registry

def modelDeclared (slot : Nat) (name : String) (bases ancestors : List ClassRef) :
    Declaration :=
  { ref := .model slot, name, bases, ancestors, maker := .known "ModelMeta" }

def oneModel : Registry :=
  initial.extended (modelDeclared 1 "A" [.root] [.model 1, .root, .object]) (Script.withModule [])

def twoModels : Registry :=
  oneModel.extended (modelDeclared 2 "B" [.root] [.model 2, .root, .object]) (Script.withModule [])

/-- Two models, and one under both. -/
def diamond : Registry :=
  twoModels.extended (modelDeclared 3 "C" [.model 1, .model 2]
    [.model 3, .model 1, .model 2, .root, .object]) (Script.withModule [])

/-- The first of the two is looked at, the second is connected, the third has a collection. -/
def diamondPlaced : Registry :=
  ((diamond.connected (.model 2) (.handle (.connection 0))).record (.cls (.model 1))).2.placed
    (.model 3) "cs"

end Registry

/-- Under two bases, one of them connected, a class that is placed, attached and cleared. -/
theorem configures_answers_diamond :
    ∃ past now, Configures (dispatch [] 0) default past now ∧
      past.map Passage.use =
        [.declare "A" [.root] [], .declare "B" [.root] [], .declare "C" [.model 1, .model 2] [],
          .connect (.model 2) (.handle (.connection 0)), .record (.model 1),
          .place (.model 3) (.str "cs"), .bind (.model 3) (.str "D") (.handle (.connection 1)),
          .clear (.model 3)] ∧
      now.answer (.model 3) "collection" = .error (.noCollection (.cls (.model 3))) ∧
      now.answer (.model 3) "connection" = .ok (.handle (.connection 0)) ∧
      now.answer (.model 4) "collection" = .ok (.str "cs") ∧
      now.answer (.model 4) "connection" = .ok (.handle (.connection 1)) := by
  have run : Configures (dispatch [] 0) default [] (Store.registering default .initial #[]) := .start
  obtain ⟨_, run⟩ := configures_next .oneModel run (u := .declare "A" [.root] [])
    (by simpa [Change.Fits] using ⟨_, rfl, rfl⟩)
    ⟨_, Change.outcome_declare
      (Registry.declare_eq_ok (.model 1) (.known "ModelMeta") (by simp) rfl rfl rfl rfl)⟩
  obtain ⟨_, run⟩ := configures_next .twoModels run (u := .declare "B" [.root] [])
    (by simpa [Change.Fits] using ⟨_, rfl, rfl⟩)
    ⟨_, Change.outcome_declare
      (Registry.declare_eq_ok (.model 2) (.known "ModelMeta") (by simp) rfl rfl rfl rfl)⟩
  obtain ⟨_, run⟩ := configures_next .diamond run (u := .declare "C" [.model 1, .model 2] [])
    (by simpa [Change.Fits] using ⟨⟨_, rfl, rfl⟩, ⟨_, rfl, rfl⟩⟩)
    ⟨_, Change.outcome_declare
      (Registry.declare_eq_ok (.model 3) (.known "ModelMeta") (by simp) rfl rfl rfl rfl)⟩
  obtain ⟨_, run⟩ := configures_next (Registry.diamond.connected _ _) run
    (u := .connect (.model 2) (.handle (.connection 0))) ⟨rfl, _, rfl, rfl⟩
    (Change.outcome_connect rfl rfl)
  obtain ⟨_, run⟩ := configures_next _ run (u := .record (.model 1)) ⟨_, rfl, rfl⟩
    ⟨_, Change.outcome_record⟩
  obtain ⟨_, run⟩ := configures_next .diamondPlaced run (u := .place (.model 3) (.str "cs"))
    ⟨rfl, _, rfl, rfl⟩ (Change.outcome_place _ rfl (by decide) (by decide))
  obtain ⟨_, run⟩ := configures_next _ run
    (u := .bind (.model 3) (.str "D") (.handle (.connection 1))) ⟨rfl, _, rfl, rfl⟩
    (Change.outcome_bind (s := "cs") ⟨rfl, _, rfl, rfl⟩ rfl
      (Registry.declare_eq_ok (.model 4) (.known "ModelMeta") (by simp) rfl rfl rfl rfl) rfl)
  obtain ⟨_, run⟩ := configures_next _ run (u := .clear (.model 3)) ⟨_, rfl, rfl⟩
    ⟨_, Change.outcome_clear⟩
  obtain ⟨collections, connections, -, -, attached, -⟩ :=
    configures_answers rfl Registry.sound_initial run
  obtain ⟨connection, -⟩ := attached _ _ _ _ _ _ _ _ (List.append_assoc ..)
  refine ⟨_, _, run, rfl, ?_, ?_, ?_, ?_⟩
  · exact collections _ rfl
  · exact connections _ rfl
  · exact collections _ rfl
  · exact connection (by simp)

end

end DocMapper
