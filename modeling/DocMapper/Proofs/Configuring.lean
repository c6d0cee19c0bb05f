import DocMapper.Proofs.Desk
import DocMapper.Proofs.Lineages
import DocMapper.Proofs.Records
import DocMapper.Script.Step

/-!
Classes that are declared, configured, cleared and attached, in whatever order.  What a class answers
is read off the history: a collection is the last one that was accepted on the class itself and not
cleared since, a connection the last one on the first of its ancestors that has one, and an attached
class starts with what it was attached with.
-/

namespace DocMapper

/-- Something that is done to a class, or that declares one. -/
inductive Change
  | declare (name : String) (bases : List ClassRef) (members : List (String × Member))
  | connect (c : ClassRef) (v : Value)
  | place (c : ClassRef) (v : Value)
  | record (c : ClassRef)
  | clear (c : ClassRef)
  | bind (base : ClassRef) (name connection : Value)

namespace Registry

def connected (r : Registry) (c : ClassRef) (v : Value) : Registry :=
  r.putConfig (.cls c) { r.configOf (.cls c) with connection := v }

def placed (r : Registry) (c : ClassRef) (s : String) : Registry :=
  r.putConfig (.cls c) { r.configOf (.cls c) with collection := .str s }

variable {r : Registry} {c d : ClassRef} {v : Value} {s : String}

theorem ownConnection?_connected (set : isSet v) :
    (r.connected c v).ownConnection? d = if d = c then some v else r.ownConnection? d := by
  rw [connected, ownConnection?_putConfig]
  simp [Option.filter_some, set]

theorem ownCollection?_connected : (r.connected c v).ownCollection? d = r.ownCollection? d := by
  rw [connected, ownCollection?_putConfig]
  dsimp only
  rw [ownCollection?_configOf]
  split <;> simp [*]

theorem ownConnection?_placed : (r.placed c s).ownConnection? d = r.ownConnection? d := by
  rw [placed, ownConnection?_putConfig]
  dsimp only
  rw [ownConnection?_configOf]
  split <;> simp [*]

theorem ownCollection?_placed (some_name : s ≠ "") :
    (r.placed c s).ownCollection? d = if d = c then some (.str s) else r.ownCollection? d := by
  rw [placed, ownCollection?_putConfig]
  simp [Option.filter_some, Value.truthy, some_name]

theorem ne_empty_of_ownCollection? (set : r.ownCollection? c = some (.str s)) : s ≠ "" := by
  have truthy := (Option.filter_eq_some_iff.mp set).2
  simpa [Value.truthy] using truthy

/-- What is taken for a connection is set. -/
theorem isSet_of_isSubclass {st : Store}
    (kind : r.isSubclass (st.classOf v) (.known "BaseConnection")) : isSet v := by
  cases v <;> try rfl
  have unrelated : initial.isSubclass (.known "NoneType") (.known "BaseConnection") = false := by
    decide
  exact absurd (unrelated.symm.trans kind) (by simp)

end Registry

/-- A store with another registry, and with notes about that. -/
def Store.registering (st : Store) (r : Registry) (notes : Array Note) : Store :=
  { st with registry := r, notes }

@[simp] theorem Store.registry_registering (st : Store) (r : Registry) (notes : Array Note) :
    (st.registering r notes).registry = r := rfl

namespace Act

variable {st : Store} {c : ClassRef} {v : Value} {s : String}

@[simp] theorem outcome_registry (st : Store) : registry.outcome st = (.ok st.registry, st) := rfl

@[simp] theorem outcome_setRegistry (r : Registry) (st : Store) :
    (setRegistry r).outcome st = (.ok (), st.registering r st.notes) := rfl

theorem outcome_noteIn_notes (log : String) (level : Level) (message : Store → String)
    (st : Store) : ∃ notes, (noteIn log level message).outcome st = (.ok (), { st with notes }) := by
  rw [outcome_noteIn, Store.noted]
  split
  · exact ⟨_, rfl⟩
  · exact ⟨st.notes, rfl⟩

theorem outcome_configureConnection (st : Store) (c : ClassRef)
    (kind : st.registry.isSubclass (st.classOf v) (.known "BaseConnection")) :
    ∃ notes, (configureConnection (.cls c) v).outcome st =
      (.ok (), st.registering (st.registry.connected c v) notes) := by
  have done : st.registry.setConnection (.cls c) v (st.classOf v) =
      .ok (st.registry.connected c v) := by
    rw [Registry.setConnection, kind, Registry.holderOf_cls]
    rfl
  rw [configureConnection, outcome_bind_ok (outcome_get st), done,
    outcome_bind_ok (outcome_ofExcept _ st), outcome_bind_ok (outcome_setRegistry _ st)]
  exact outcome_noteIn_notes ..

theorem outcome_configureConnection_refused
    (kind : ¬ st.registry.isSubclass (st.classOf v) (.known "BaseConnection")) :
    (configureConnection (.cls c) v).outcome st = (.error (.notConnection (.cls c) v), st) := by
  have done : st.registry.setConnection (.cls c) v (st.classOf v) =
      .error (.notConnection (.cls c) v) := by
    rw [Registry.setConnection, Bool.eq_false_iff.mpr kind]
    rfl
  rw [configureConnection, outcome_bind_ok (outcome_get st), done,
    outcome_bind_error (outcome_ofExcept _ st)]

theorem outcome_configureCollection (st : Store) (c : ClassRef) (some_name : s ≠ "") :
    ∃ notes, (configureCollection false (.cls c) (.str s)).outcome st =
      (.ok (), st.registering (st.registry.placed c s) notes) := by
  have done : st.registry.setCollection false (.cls c) (.str s) = .ok (st.registry.placed c s) := by
    simp only [Registry.setCollection, Bool.false_eq_true, if_false, Registry.holderOf_cls]
    rfl
  rw [configureCollection, outcome_bind_ok (outcome_registry st), done,
    outcome_bind_ok (outcome_ofExcept _ st), outcome_bind_ok (outcome_setRegistry _ st)]
  exact outcome_noteIn_notes ..

/-- A collection that is no name is refused, and so is any by what is abstract. -/
theorem outcome_configureCollection_refused (st : Store) (c : ClassRef) {abstract : Bool}
    (refused : abstract = true ∨ ∀ s, v = .str s → s = "") :
    ∃ e, (configureCollection abstract (.cls c) v).outcome st = (.error e, st) := by
  have done : ∃ e, st.registry.setCollection abstract (.cls c) v = .error e := by
    cases abstract with
    | true => exact ⟨.abstractCollection, rfl⟩
    | false =>
      cases v with
      | str s =>
        obtain rfl := (refused.resolve_left (by simp)) s rfl
        exact ⟨.collectionEmpty (.cls c), rfl⟩
      | _ => exact ⟨_, rfl⟩
  obtain ⟨e, done⟩ := done
  rw [configureCollection, outcome_bind_ok (outcome_registry st), done]
  exact ⟨e, outcome_bind_error (outcome_ofExcept _ st)⟩

theorem writeClass_connection (model : c.isModel) :
    writeClass c "connection" v = configureConnection (.cls c) v := by
  cases c <;> first | contradiction | rfl

theorem writeClass_collection (model : c.isModel) :
    writeClass c "collection" v = configureCollection (c = .root) (.cls c) v := by
  cases c <;> first | contradiction | rfl

theorem outcome_readCollection (st : Store) (model : c.isModel) :
    (readClass c "collection").outcome st = (st.registry.collection (.cls c), st) := by
  cases c with
  | model slot =>
    change (outcome (registry >>= fun r => ofExcept (r.collection _)) st) = _
    rw [outcome_bind_ok (outcome_registry st), outcome_ofExcept]
  | _ => contradiction

theorem outcome_classConnection_answer :
    ((classConnection c).outcome st).1 = st.registry.connection c := by
  rw [classConnection, outcome_bind_ok (outcome_registry st)]
  cases st.registry.connection c with
  | ok v => rfl
  | error e =>
    change (outcome (noteIn _ _ _ >>= fun _ => throw e) st).1 = _
    rw [outcome_bind_ok (outcome_noteIn ..), outcome_throw]

end Act

/-- What is read off a class under a name. -/
def Store.answer (st : Store) (c : ClassRef) (name : String) : Except Fault Value :=
  ((Act.readClass c name).outcome st).1

namespace Store

variable {st : Store} {c : ClassRef}

theorem answer_connection (model : c.isModel) :
    st.answer c "connection" = st.registry.connection c := by
  cases c with
  | model => exact Act.outcome_classConnection_answer
  | _ => contradiction

theorem answer_collection (model : c.isModel) :
    st.answer c "collection" = st.registry.collection (.cls c) := by
  rw [answer, Act.outcome_readCollection st model]

end Store

namespace Change

/-- Changes are made as scripts make them: by class statements, assignments and calls. -/
def act (d : Dispatch) : Change → Act Value
  | .declare name bases members => do
    let (c, r) ← Act.ofExcept
      ((← Act.registry).declare name bases (Script.withModule members))
    Act.setRegistry r
    return .cls c
  | .connect c v => do
    Act.writeClass c "connection" v
    return .null
  | .place c v => do
    Act.writeClass c "collection" v
    return .null
  | .record c => Script.callFunction d "get_config" [] ⟨[.cls c], [], []⟩
  | .clear c => Script.callFunction d "clear_config" [] ⟨[.cls c], [], []⟩
  | .bind base name connection =>
    Script.callFunction d "bind_model" [] ⟨[.cls base, name, connection], [], []⟩

/-- Only what is there is changed, refined or attached, and only models are configured. -/
def Fits (st : Store) : Change → Prop
  | .declare _ bases _ => ∀ b ∈ bases, st.registry.Present b
  | .connect c _ | .place c _ => c.isModel ∧ st.registry.Declared c
  | .record c | .clear c => st.registry.Present c
  | .bind base _ _ => base.isModel ∧ st.registry.Declared base

/-- A table with another entry for a class. -/
def entered (table : ClassRef → Option Value) (c : ClassRef) (v : Option Value) :
    ClassRef → Option Value :=
  fun d => if d = c then v else table d

/-- The connections that are set on classes themselves, after a change with a result. -/
def connections (u : Change) (result : Except Fault Value) (table : ClassRef → Option Value) :
    ClassRef → Option Value :=
  match u, result with
  | .connect c v, .ok _ => entered table c (some v)
  | .clear c, .ok _ => entered table c none
  | .bind _ _ v, .ok (.cls ref) => entered table ref (some v)
  | _, _ => table

/-- The collections that are set on classes themselves, after a change with a result. -/
def collections (u : Change) (result : Except Fault Value) (table : ClassRef → Option Value) :
    ClassRef → Option Value :=
  match u, result with
  | .place c v, .ok _ => entered table c (some v)
  | .clear c, .ok _ => entered table c none
  | .bind base _ _, .ok (.cls ref) => entered table ref (table base)
  | _, _ => table

end Change

namespace Registry

/-- Whatever is set for a collection is a text. -/
def Texts (r : Registry) : Prop :=
  ∀ c v, r.ownCollection? c = some v → ∃ s, v = .str s

end Registry

/-- What a change leaves of a registry, as its result tells. -/
structure Change.Alters (u : Change) (result : Except Fault Value) (r after : Registry) :
    Prop where
  connections : after.ownConnection? = u.connections result r.ownConnection?
  collections : after.ownCollection? = u.collections result r.ownCollection?
  sound : after.Sound
  texts : after.Texts
  present : ∀ {c}, r.Present c → after.Present c
  ancestors : ∀ {c}, r.Present c → after.ancestors c = r.ancestors c
  bound : ∀ {base name v ref}, u = .bind base name v → result = .ok (.cls ref) →
    ref.isModel ∧ ¬ r.Present ref ∧ after.Present ref ∧ (r.ownCollection? base).isSome

namespace Change

variable {d : Dispatch} {st : Store} {r after : Registry} {c : ClassRef} {u : Change}

theorem alters_refl (sound : r.Sound) (texts : r.Texts) (e : Fault) :
    u.Alters (.error e) r r := by
  have connections : r.ownConnection? = u.connections (.error e) r.ownConnection? := by
    cases u <;> rfl
  have collections : r.ownCollection? = u.collections (.error e) r.ownCollection? := by
    cases u <;> rfl
  exact ⟨connections, collections, sound, texts, id, fun _ => rfl, fun _ h => by simp at h⟩

/-- A change that declares nothing, told by what it sets. -/
theorem alters_of_declarations {result : Except Fault Value}
    (connections : after.ownConnection? = u.connections result r.ownConnection?)
    (collections : after.ownCollection? = u.collections result r.ownCollection?)
    (same : after.declarations = r.declarations) (sound : r.Sound) (texts : after.Texts)
    (unbound : ∀ base name v, u ≠ .bind base name v) : u.Alters result r after where
  connections := connections
  collections := collections
  sound := sound.of_declarations same
  texts := texts
  present := Registry.present_of_declarations same
  ancestors {c} _ := Registry.ancestors_of_declarations same c
  bound is := absurd is (unbound _ _ _)

/-- A change that declares one class, told by what it sets then. -/
theorem alters_of_declares {name : String} {bases : List ClassRef}
    {members : List (String × Member)} {ref : ClassRef} {next : Registry}
    {result : Except Fault Value} (new : r.Declares name bases members ref next)
    (connections : after.ownConnection? = u.connections result r.ownConnection?)
    (collections : after.ownCollection? = u.collections result r.ownCollection?)
    (same : after.declarations = next.declarations) (sound : r.Sound) (texts : after.Texts)
    (there : ∀ b ∈ bases, r.Present b)
    (bound : ∀ {base name v found}, u = .bind base name v → result = .ok (.cls found) →
      found = ref ∧ ref.isModel ∧ (r.ownCollection? base).isSome) : u.Alters result r after where
  connections := connections
  collections := collections
  sound := (new.sound sound there).of_declarations same
  texts := texts
  present h := Registry.present_of_declarations same (new.present_mono h)
  ancestors h := (Registry.ancestors_of_declarations same _).trans (new.ancestors_eq h)
  bound is gave := by
    obtain ⟨rfl, model, base⟩ := bound is gave
    have declared := Registry.present_of_declarations same (new.present_new)
    exact ⟨model, new.absent, declared, base⟩

theorem outcome_declare {name : String} {bases : List ClassRef} {members : List (String × Member)}
    {ref : ClassRef}
    (done : st.registry.declare name bases (Script.withModule members) = .ok (ref, r)) :
    ((declare name bases members).act d).outcome st =
      (.ok (.cls ref), st.registering r st.notes) := by
  rw [act, Act.outcome_bind_ok (Act.outcome_registry st), done]
  rfl

theorem alters_declare {name : String} {bases : List ClassRef} {members : List (String × Member)}
    (sound : st.registry.Sound) (texts : st.registry.Texts)
    (fit : (declare name bases members).Fits st) :
    (declare name bases members).Alters (((declare name bases members).act d).outcome st).1
      st.registry (((declare name bases members).act d).outcome st).2.registry := by
  cases done : st.registry.declare name bases (Script.withModule members) with
  | error e =>
    rw [act, Act.outcome_bind_ok (Act.outcome_registry st), done,
      Act.outcome_bind_error (Act.outcome_ofExcept _ st)]
    exact alters_refl sound texts e
  | ok declared =>
    obtain ⟨ref, r⟩ := declared
    have new := Registry.declares_of_declare done
    have collections := Registry.ownCollection?_of_configs _ new.configs
    rw [outcome_declare done]
    exact alters_of_declares new (Registry.ownConnection?_of_configs _ new.configs) collections rfl
      sound (fun c v => collections ▸ texts c v) fit (by simp)

theorem outcome_connect {v : Value} (model : c.isModel)
    (kind : st.registry.isSubclass (st.classOf v) (.known "BaseConnection")) :
    ∃ notes, ((connect c v).act d).outcome st =
      (.ok .null, st.registering (st.registry.connected c v) notes) := by
  obtain ⟨notes, done⟩ := Act.outcome_configureConnection st c kind
  rw [act, Act.writeClass_connection model, Act.outcome_bind_ok done]
  exact ⟨notes, rfl⟩

theorem outcome_connect_refused {v : Value} (model : c.isModel)
    (kind : ¬ st.registry.isSubclass (st.classOf v) (.known "BaseConnection")) :
    ((connect c v).act d).outcome st = (.error (.notConnection (.cls c) v), st) := by
  rw [act, Act.writeClass_connection model]
  exact Act.outcome_bind_error (Act.outcome_configureConnection_refused kind)

theorem outcome_place {s : String} (st : Store) (model : c.isModel) (notRoot : c ≠ .root)
    (named : s ≠ "") :
    ∃ notes, ((place c (.str s)).act d).outcome st =
      (.ok .null, st.registering (st.registry.placed c s) notes) := by
  obtain ⟨notes, done⟩ := Act.outcome_configureCollection st c named
  rw [act, Act.writeClass_collection model, decide_eq_false notRoot, Act.outcome_bind_ok done]
  exact ⟨notes, rfl⟩

theorem outcome_place_refused {v : Value} (st : Store) (model : c.isModel)
    (refused : ¬ (c ≠ .root ∧ ∃ s, v = .str s ∧ s ≠ "")) :
    ∃ e, ((place c v).act d).outcome st = (.error e, st) := by
  have refused : decide (c = .root) = true ∨ ∀ s, v = .str s → s = "" := by
    by_cases root : c = .root
    · exact .inl (by simpa using root)
    · exact .inr fun s is => Classical.byContradiction fun named => refused ⟨root, s, is, named⟩
  obtain ⟨e, done⟩ := Act.outcome_configureCollection_refused st c refused
  exact ⟨e, by rw [act, Act.writeClass_collection model, Act.outcome_bind_error done]⟩

theorem alters_connect {v : Value} (sound : st.registry.Sound) (texts : st.registry.Texts)
    (fit : (connect c v).Fits st) :
    (connect c v).Alters (((connect c v).act d).outcome st).1 st.registry
      (((connect c v).act d).outcome st).2.registry := by
  by_cases kind : st.registry.isSubclass (st.classOf v) (.known "BaseConnection")
  · obtain ⟨notes, done⟩ := outcome_connect (d := d) fit.1 kind
    have collections : (st.registry.connected c v).ownCollection? = st.registry.ownCollection? :=
      funext fun _ => Registry.ownCollection?_connected
    rw [done]
    refine alters_of_declarations ?_ ?_ ?_ sound ?_ (by simp)
    · exact funext fun _ =>
        Registry.ownConnection?_connected (Registry.isSet_of_isSubclass kind)
    · exact collections
    · exact Registry.declarations_putConfig ..
    · exact fun c v => collections ▸ texts c v
  · rw [outcome_connect_refused fit.1 kind]
    exact alters_refl sound texts _

theorem alters_place {v : Value} (sound : st.registry.Sound) (texts : st.registry.Texts)
    (fit : (place c v).Fits st) :
    (place c v).Alters (((place c v).act d).outcome st).1 st.registry
      (((place c v).act d).outcome st).2.registry := by
  by_cases accepted : c ≠ .root ∧ ∃ s, v = .str s ∧ s ≠ ""
  · obtain ⟨notRoot, s, rfl, named⟩ := accepted
    obtain ⟨notes, done⟩ := outcome_place (d := d) st fit.1 notRoot named
    rw [done]
    refine alters_of_declarations ?_ ?_ ?_ sound ?_ (by simp)
    · exact funext fun _ => Registry.ownConnection?_placed
    · exact funext fun _ => Registry.ownCollection?_placed named
    · exact Registry.declarations_putConfig ..
    · intro c v found
      simp only [Store.registry_registering, Registry.ownCollection?_placed named] at found
      split at found
      · exact ⟨s, (Option.some.inj found).symm⟩
      · exact texts c v found
  · obtain ⟨e, done⟩ := outcome_place_refused (d := d) st fit.1 accepted
    rw [done]
    exact alters_refl sound texts e

theorem outcome_record : ((record c).act d).outcome st =
    (.ok (.handle (.config (st.registry.record (.cls c)).1)),
      st.registering (st.registry.record (.cls c)).2 st.notes) := by
  change (Act.outcome (Act.ofExcept (Registry.holderOf (.cls c)) >>= _) st) = _
  rw [Registry.holderOf_cls]
  rfl

theorem outcome_clear : ((clear c).act d).outcome st =
    (.ok .null, st.registering (st.registry.clear (.cls c)) st.notes) := by
  change (Act.outcome (Act.registry >>= fun r => Act.ofExcept (Registry.holderOf (.cls c)) >>= _)
    st) = _
  rw [Registry.holderOf_cls]
  rfl

theorem alters_record (sound : st.registry.Sound) (texts : st.registry.Texts) :
    (record c).Alters (((record c).act d).outcome st).1 st.registry
      (((record c).act d).outcome st).2.registry := by
  rw [outcome_record]
  have collections : (st.registry.record (.cls c)).2.ownCollection? = st.registry.ownCollection? :=
    funext fun _ => Registry.ownCollection?_record ..
  exact alters_of_declarations (funext fun _ => Registry.ownConnection?_record ..) collections
    (Registry.declarations_putConfig ..) sound (fun c v => collections ▸ texts c v) (by simp)

theorem alters_clear (sound : st.registry.Sound) (texts : st.registry.Texts) :
    (clear c).Alters (((clear c).act d).outcome st).1 st.registry
      (((clear c).act d).outcome st).2.registry := by
  rw [outcome_clear]
  refine alters_of_declarations (funext fun _ => Registry.ownConnection?_clear ..)
    (funext fun _ => Registry.ownCollection?_clear ..) rfl sound ?_ (by simp)
  intro c v found
  simp only [Store.registry_registering, Registry.ownCollection?_clear] at found
  split at found
  · cases found
  · exact texts c v found

end Change

namespace Act

variable {d : Dispatch} {st : Store} {base : ClassRef} {name v : Value} {s : String}

/-- What a class has of its own that was attached to a connection. -/
def boundMembers (st : Store) (base : ClassRef) : List (String × Member) :=
  [("__module__", .value (st.moduleOf base)), ("__bound_base__", .value (.cls base))]

/-- What is done with a class that was declared to be attached. -/
def attach (base : ClassRef) (bound : String) (v collection : Value) :
    ClassRef × Registry → Act Value
  | (ref, r) => do
    setRegistry r
    writeClass ref "connection" v
    writeClass ref "collection" collection
    note .debug .model fun st =>
      s!"Bound {st.className base} as {bound} (collection '{st.plainText collection}') " ++
        s!"to {st.text v}"
    return .cls ref

section

variable {bound : String} {ref : ClassRef} {r : Registry}
variable (model : base.isModel) (own : st.registry.ownCollection? base = some (.str s))
include model own

theorem outcome_bindModel_placed :
    (bindModel d (.cls base) name v).outcome st = (className name >>= fun bound =>
      registry >>= fun r => ofExcept (r.declare bound [base] (boundMembers st base)) >>=
        attach base bound v (.str s)).outcome st := by
  have start := (outcome_readCollection st model).trans
    (by rw [Registry.collection_eq, own])
  rw [bindModel, outcome_bind_ok (x := collectionOfBase d (.cls base)) start,
    outcome_bind_ok (outcome_get st)]
  rfl

theorem outcome_bindModel_declared
    (declared : st.registry.declare bound [base] (boundMembers st base) = .ok (ref, r)) :
    (bindModel d (.cls base) (.str bound) v).outcome st =
      (attach base bound v (.str s) (ref, r)).outcome st := by
  rw [outcome_bindModel_placed model own,
    outcome_bind_ok (x := className (.str bound)) (a := bound) rfl,
    outcome_bind_ok (outcome_registry st), declared]
  exact outcome_bind_ok (outcome_ofExcept _ st)

variable (declared : st.registry.declare bound [base] (boundMembers st base) = .ok (ref, r))
include declared

/-- A model with a collection is declared anew, connected, and placed there. -/
theorem outcome_bindModel_attached (there : st.registry.Declared base)
    (kind : r.isSubclass ((st.registering r st.notes).classOf v) (.known "BaseConnection")) :
    ∃ notes, (bindModel d (.cls base) (.str bound) v).outcome st =
      (.ok (.cls ref), st.registering ((r.connected ref v).placed ref s) notes) := by
  have new := Registry.declares_of_declare declared
  have refModel : ref.isModel := by simp [new.isModel, model]
  obtain ⟨_, connected⟩ := outcome_configureConnection (st.registering r st.notes) ref kind
  rw [outcome_bindModel_declared model own declared, attach,
    outcome_bind_ok (outcome_setRegistry r st), writeClass_connection refModel,
    outcome_bind_ok connected, writeClass_collection refModel, decide_eq_false (new.ne_root there)]
  obtain ⟨_, placed⟩ := outcome_configureCollection (Store.registering _ _ _) ref
    (Registry.ne_empty_of_ownCollection? own)
  rw [outcome_bind_ok placed]
  obtain ⟨notes, noted⟩ := outcome_noteIn_notes Part.model.log .debug _ (Store.registering _ _ _)
  rw [outcome_bind_ok (x := note .debug .model _) noted]
  exact ⟨notes, rfl⟩

theorem outcome_bindModel_refused
    (kind : ¬ r.isSubclass ((st.registering r st.notes).classOf v) (.known "BaseConnection")) :
    ∃ e, (bindModel d (.cls base) (.str bound) v).outcome st =
      (.error e, st.registering r st.notes) := by
  have new := Registry.declares_of_declare declared
  have refModel : ref.isModel := by simp [new.isModel, model]
  rw [outcome_bindModel_declared model own declared, attach,
    outcome_bind_ok (outcome_setRegistry r st), writeClass_connection refModel]
  exact ⟨_, outcome_bind_error (outcome_configureConnection_refused kind)⟩

end

/-- Attaching a model fails before it is declared, fails then, or attaches it. -/
theorem outcome_bindModel (d : Dispatch) (name v : Value) (model : base.isModel)
    (there : st.registry.Declared base) (texts : st.registry.Texts) :
    (∃ e, (bindModel d (.cls base) name v).outcome st = (.error e, st)) ∨
    ∃ bound ref r s, st.registry.declare bound [base] (boundMembers st base) = .ok (ref, r) ∧
      st.registry.ownCollection? base = some (.str s) ∧
      ((∃ e, (bindModel d (.cls base) name v).outcome st = (.error e, st.registering r st.notes)) ∨
        Registry.isSet v ∧ ∃ notes, (bindModel d (.cls base) name v).outcome st =
          (.ok (.cls ref), st.registering ((r.connected ref v).placed ref s) notes)) := by
  cases own : st.registry.ownCollection? base with
  | none =>
    have missing := (outcome_readCollection st model).trans
      (by rw [Registry.collection_eq, own])
    exact .inl ⟨_, outcome_bind_error (x := collectionOfBase d (.cls base)) missing⟩
  | some collection =>
    obtain ⟨s, rfl⟩ := texts base collection own
    cases name with
    | str bound =>
      cases declared : st.registry.declare bound [base] (boundMembers st base) with
      | error e =>
        refine .inl ⟨e, ?_⟩
        rw [outcome_bindModel_placed model own,
          outcome_bind_ok (x := className (.str bound)) (a := bound) rfl,
          outcome_bind_ok (outcome_registry st), declared]
        exact outcome_bind_error (outcome_ofExcept _ st)
      | ok made =>
        obtain ⟨ref, r⟩ := made
        refine .inr ⟨bound, ref, r, s, declared, rfl, ?_⟩
        by_cases kind : r.isSubclass ((st.registering r st.notes).classOf v)
            (.known "BaseConnection")
        · exact .inr ⟨Registry.isSet_of_isSubclass kind,
            outcome_bindModel_attached model own declared there kind⟩
        · exact .inl (outcome_bindModel_refused model own declared kind)
    | _ =>
      rw [outcome_bindModel_placed model own]
      exact .inl ⟨_, outcome_bind_error rfl⟩

end Act

namespace Change

variable {d : Dispatch} {st : Store} {base : ClassRef} {name v : Value}

theorem act_bind : (bind base name v).act d = Act.bindModel d (.cls base) name v := rfl

theorem outcome_bind {bound s : String} {ref : ClassRef} {r : Registry}
    (fit : (bind base (.str bound) v).Fits st)
    (own : st.registry.ownCollection? base = some (.str s))
    (declared : st.registry.declare bound [base] (Act.boundMembers st base) = .ok (ref, r))
    (kind : r.isSubclass ((st.registering r st.notes).classOf v) (.known "BaseConnection")) :
    ∃ notes, ((bind base (.str bound) v).act d).outcome st =
      (.ok (.cls ref), st.registering ((r.connected ref v).placed ref s) notes) := by
  rw [act_bind]
  exact Act.outcome_bindModel_attached fit.1 own declared fit.2 kind

theorem alters_bind (sound : st.registry.Sound) (texts : st.registry.Texts)
    (fit : (bind base name v).Fits st) :
    (bind base name v).Alters (((bind base name v).act d).outcome st).1 st.registry
      (((bind base name v).act d).outcome st).2.registry := by
  rw [act_bind]
  have there : ∀ b ∈ [base], st.registry.Present b := by
    simpa using Registry.Declared.present fit.2
  obtain ⟨e, done⟩ | ⟨bound, ref, r, s, declared, named, made⟩ :=
    Act.outcome_bindModel d name v fit.1 fit.2 texts
  · rw [done]
    exact alters_refl sound texts e
  · have new := Registry.declares_of_declare declared
    have collections := Registry.ownCollection?_of_configs _ new.configs
    have connections := Registry.ownConnection?_of_configs _ new.configs
    obtain ⟨e, done⟩ | ⟨set, notes, done⟩ := made
    · rw [done]
      exact alters_of_declares new connections collections rfl sound
        (fun c v => collections ▸ texts c v) there (by simp)
    · rw [done]
      have placed : ((r.connected ref v).placed ref s).ownCollection? =
          entered st.registry.ownCollection? ref (st.registry.ownCollection? base) := by
        funext c
        rw [Registry.ownCollection?_placed (Registry.ne_empty_of_ownCollection? named),
          Registry.ownCollection?_connected, collections, named]
        rfl
      have connected : ((r.connected ref v).placed ref s).ownConnection? =
          entered st.registry.ownConnection? ref (some v) := by
        funext c
        rw [Registry.ownConnection?_placed, Registry.ownConnection?_connected set, connections]
        rfl
      have same : ((r.connected ref v).placed ref s).declarations = r.declarations := by
        rw [Registry.placed, Registry.declarations_putConfig, Registry.connected,
          Registry.declarations_putConfig]
      refine alters_of_declares new connected placed same sound ?_ there ?_
      · intro c w found
        simp only [Store.registry_registering, placed, entered] at found
        split at found
        · exact texts base w found
        · exact texts c w found
      · rintro _ _ _ found is gave
        cases is
        cases gave
        exact ⟨rfl, by simp [new.isModel, fit.1], by simp [named]⟩

/-- Every change does to the tables what its result tells. -/
theorem alters_act (sound : st.registry.Sound) (texts : st.registry.Texts) (u : Change)
    (fit : u.Fits st) :
    u.Alters ((u.act d).outcome st).1 st.registry ((u.act d).outcome st).2.registry :=
  match u with
  | .declare .. => alters_declare sound texts fit
  | .connect .. => alters_connect sound texts fit
  | .place .. => alters_place sound texts fit
  | .record _ => alters_record sound texts
  | .clear _ => alters_clear sound texts
  | .bind .. => alters_bind sound texts fit

end Change

end DocMapper
