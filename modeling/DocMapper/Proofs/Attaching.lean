import DocMapper.Connection.Definition
import DocMapper.Proofs.Inheriting
import DocMapper.Proofs.Recalling

/-!
Classes that are attached to a connection.  Each has the connection and the collection that it was
attached with on itself, and for the rest is what its base is; nothing that is done to classes that
were there before changes it.
-/

namespace DocMapper

/-- A class that was attached, the collection that it took over, and the fields that its instances
need. -/
structure Attached where
  cls : ClassRef
  collection : String
  required : List String

namespace Registry

/-- A model that does what models do by themselves; its instances may need some fields. -/
structure Ordinary (r : Registry) (c : ClassRef) (required : List String) : Prop where
  maker : ∃ m, r.maker? c = some m ∧ m.owner = "Model"
  hydrate : ∃ owner m, r.member? c "hydrate" = some (owner, .ofClass m)
  find : ∃ m, r.member? c "find" = some (.root, .ofClass m)
  handsOut : ∃ m, r.member? c "get_collection" = some (.root, .ofClass m)
  builder : ∃ owner, r.member? c "QueryBuilder" = some (owner, .value (.cls (.known "ModelQuery")))
  json : ∃ m, r.member? c "to_json" = some (.root, .method m)
  placed : r.member? c "collection" = some (.root, .property)
  valid : (∃ owner m, r.member? c "validate" = some (owner, .method m)) ∧ required = [] ∨
    ∃ owner, r.member? c "validate" = some (owner, .requiring required)

theorem Ordinary.of_likens {r after : Registry} {c c' : ClassRef} {required : List String}
    (h : r.Ordinary c required) (likens : r.Likens c after c') : after.Ordinary c' required := by
  have same (name : String) (other : name ∉ ["__module__", "__bound_base__", "__doc__"]) :=
    likens.member name other
  constructor
  case maker => exact likens.maker ▸ h.maker
  all_goals rw [same _ (by decide)]
  case hydrate => exact h.hydrate
  case find => exact h.find
  case handsOut => exact h.handsOut
  case builder => exact h.builder
  case json => exact h.json
  case placed => exact h.placed
  case valid => exact h.valid

end Registry

namespace Store

/-- Classes are kept as they should be, and nothing was set on any object. -/
structure Orderly (st : Store) : Prop where
  sound : st.registry.Sound
  texts : st.registry.Texts
  owned : st.registry.Owned
  pristine : st.registry.Pristine
  bare : ∀ h, st.Bare h

/-- A class that is attached to a connection. -/
structure Hosts (st : Store) (k : Nat) (m : Attached) : Prop where
  model : m.cls.isModel
  present : st.registry.Present m.cls
  ordinary : st.registry.Ordinary m.cls m.required
  connection : st.registry.ownConnection? m.cls = some (.handle (.connection k))
  collection : st.registry.ownCollection? m.cls = some (.str m.collection)

variable {st after : Store} {k : Nat} {m : Attached} {r : Registry} {notes : Array Note}

theorem Orderly.of_setting (o : st.Orderly) (setting : after.setting = st.setting) :
    after.Orderly := by
  have registry : after.registry = st.registry := congrArg Setting.registry setting
  exact ⟨registry ▸ o.sound, registry ▸ o.texts, registry ▸ o.owned, registry ▸ o.pristine,
    fun h => (o.bare h).of_setting setting⟩

theorem Orderly.registering (o : st.Orderly) (widens : st.registry.Widens r) (sound : r.Sound)
    (texts : r.Texts) : (st.registering r notes).Orderly :=
  ⟨sound, texts, widens.owned o.owned, widens.pristine o.pristine,
    fun h => ⟨(o.bare h).extras, (o.bare h).refined⟩⟩

namespace Hosts

theorem of_setting (h : st.Hosts k m) (setting : after.setting = st.setting) : after.Hosts k m := by
  have registry : after.registry = st.registry := congrArg Setting.registry setting
  exact ⟨h.model, registry ▸ h.present, registry ▸ h.ordinary, registry ▸ h.connection,
    registry ▸ h.collection⟩

variable (h : st.Hosts k m)
include h

theorem models : st.Models m.cls where
  makes := ⟨h.ordinary.maker, h.ordinary.hydrate⟩
  finds := by
    obtain ⟨f, found⟩ := h.ordinary.find
    simp [usual, extraOf?, Store.member?, found]
  builder := h.ordinary.builder
  json := h.ordinary.json
  placed := h.ordinary.placed

/-- Its own connection and its own collection are what an attached class uses. -/
theorem configured (o : st.Orderly) : st.Configured m.cls k m.collection where
  pristine := o.pristine
  connection := by
    obtain ⟨rest, ancestors⟩ := o.sound.ancestors_eq_cons h.present h.model
    rw [Registry.connection_eq, ancestors, List.findSome?_cons, h.connection]
  collection := by rw [Registry.collection_eq, h.collection]
  handsOut := by
    obtain ⟨f, found⟩ := h.ordinary.handsOut
    simp [usual, extraOf?, Store.member?, found]
  bare := o.bare _
  fresh _ _ := o.bare _

end Hosts

end Store

namespace Change

variable {st after : Store} {u : Change} {c : ClassRef}

/-- A change that does not configure a class itself. -/
def Avoids (u : Change) (c : ClassRef) : Prop :=
  u ≠ .clear c ∧ (∀ v, u ≠ .connect c v) ∧ ∀ v, u ≠ .place c v

theorem Fits.avoids (fit : u.Fits st) (absent : ¬ st.registry.Present c) : u.Avoids c := by
  refine ⟨?_, fun v => ?_, fun v => ?_⟩ <;> rintro rfl
  · exact absent fit
  · exact absent fit.2.present
  · exact absent fit.2.present

theorem Fits.mono (fit : u.Fits st) (widens : st.registry.Widens after.registry) :
    u.Fits after := by
  have declared {c : ClassRef} (model : c.isModel) (there : st.registry.Declared c) :
      after.registry.Declared c := by
    cases c with
    | model slot => exact widens.present (c := .model slot) there
    | _ => contradiction
  cases u with
  | declare name bases members => exact fun b member => widens.present (fit b member)
  | connect c v => exact ⟨fit.1, declared fit.1 fit.2⟩
  | place c v => exact ⟨fit.1, declared fit.1 fit.2⟩
  | record c => exact widens.present fit
  | clear c => exact widens.present fit
  | bind base name v => exact ⟨fit.1, declared fit.1 fit.2⟩

/-- What a change to other classes does: attached classes stay attached as they are. -/
theorem outcome_avoiding (d : Dispatch) (o : st.Orderly) (fit : u.Fits st) :
    ∃ result r notes, (u.act d).outcome st = (result, st.registering r notes) ∧
      u.Alters result st.registry r ∧ st.registry.Widens r ∧ (st.registering r notes).Orderly ∧
      ∀ k m, st.Hosts k m → u.Avoids m.cls → (st.registering r notes).Hosts k m := by
  obtain ⟨result, r, notes, done, widens⟩ := outcome_widens d o.texts fit
  have alters := alters_act (d := d) o.sound o.texts u fit
  rw [done] at alters
  refine ⟨result, r, notes, done, alters, widens, o.registering widens alters.sound alters.texts,
    fun k m hosts avoids => ?_⟩
  obtain ⟨notCleared, notConnected, notPlaced⟩ := avoids
  exact ⟨hosts.model, widens.present hosts.present,
    hosts.ordinary.of_likens (widens.likens o.sound hosts.present),
    (alters.connection_stays hosts.present fun _ _ => ⟨notCleared, notConnected⟩).trans
      hosts.connection,
    (alters.collection_stays hosts.present fun _ _ => ⟨notCleared, notPlaced⟩).trans
      hosts.collection⟩

end Change

/-- Namespaces have nothing but what they were given. -/
theorem Interface.inherited?_space (name : String) : inherited? "SimpleNamespace" name = none := by
  have unknown (c : String) (own : own c = []) (maker : maker? c = none)
      (writes : writesItself c = false) : Interface.member? (.known c) name = none := by
    unfold Interface.member?
    simp only [Option.bind_some]
    split
    · rw [maker]
      rfl
    · rw [writes]
      rfl
    · rw [own]
      rfl
  have space := unknown "SimpleNamespace" rfl rfl (by decide)
  have object := unknown "object" rfl rfl (by decide)
  have both : lineage "SimpleNamespace" = ["SimpleNamespace", "object"] := rfl
  rw [inherited?, both]
  simp [space, object]

namespace Store

def spaceAt (st : Store) (i : Nat) : Entries := st.spaces.getD i []

/-- A namespace shows the models that were attached to a connection. -/
structure Exposes (st : Store) (k i : Nat) (models : String → Option Attached) : Prop where
  named : ∀ name, (st.spaceAt i).field? name = (models name).map fun m => .cls m.cls
  hosts : ∀ name m, models name = some m → st.Hosts k m

/-- An ordinary model that can be attached. -/
def IsBase (st : Store) (v : Value) : Prop :=
  ∃ c required, v = .cls c ∧ c.isModel ∧ st.registry.Declared c ∧ st.registry.Ordinary c required

/-- What attaching models does: classes are added, and one namespace shows them. -/
structure Defines (st : Store) (i : Nat) (after : Store) : Prop where
  orderly : after.Orderly
  widens : st.registry.Widens after.registry
  hosts : ∀ k m, st.Hosts k m → after.Hosts k m
  ground : after.ground = { st.ground with spaces := after.spaces }
  size : after.spaces.size = st.spaces.size
  others : ∀ j, j ≠ i → after.spaceAt j = st.spaceAt j

theorem IsBase.mono {st after : Store} {v : Value} (base : st.IsBase v) (o : st.Orderly)
    (widens : st.registry.Widens after.registry) : after.IsBase v := by
  obtain ⟨c, required, rfl, model, there, ordinary⟩ := base
  refine ⟨c, required, rfl, model, ?_, ordinary.of_likens (widens.likens o.sound there.present)⟩
  have fits : (Change.bind c .null .null).Fits st := ⟨model, there⟩
  exact (fits.mono widens).2

namespace Defines

variable {st mid after : Store} {i : Nat}

theorem refl (o : st.Orderly) : st.Defines i st :=
  ⟨o, .refl _, fun _ _ h => h, rfl, rfl, fun _ _ => rfl⟩

theorem trans (h : st.Defines i mid) (k : mid.Defines i after) : st.Defines i after where
  orderly := k.orderly
  widens := h.widens.trans k.widens
  hosts c m hosts := k.hosts c m (h.hosts c m hosts)
  ground := by rw [k.ground, h.ground]
  size := k.size.trans h.size
  others j other := (k.others j other).trans (h.others j other)

end Defines

end Store

namespace Act

variable {d : Dispatch} {st after : Store} {base : ClassRef} {required : List String} {k i : Nat}
variable {name v : Value}

/-- What is attached is a new class like its base, with a connection and a collection of its own. -/
theorem outcome_bindModel_hosts (o : st.Orderly) (model : base.isModel)
    (there : st.registry.Declared base) (ordinary : st.registry.Ordinary base required)
    (done : (bindModel d (.cls base) name (.handle (.connection k))).outcome st = (.ok v, after)) :
    ∃ m r notes, v = .cls m.cls ∧ after = st.registering r notes ∧ st.registry.Widens r ∧
      after.Orderly ∧ after.Hosts k m ∧ (∀ k m, st.Hosts k m → after.Hosts k m) ∧
      m.required = required ∧ st.registry.ownCollection? base = some (.str m.collection) ∧
      ¬ st.registry.Present m.cls := by
  obtain ⟨result, r, notes, went, alters, widens, orderly, stays⟩ := Change.outcome_avoiding
    (u := .bind base name (.handle (.connection k))) d o ⟨model, there⟩
  rw [Change.act_bind, done] at went
  cases went
  obtain ⟨e, failed⟩ | ⟨bound, ref, r', s, declared, own, ⟨e, failed⟩ | ⟨-, notes', made⟩⟩ :=
    outcome_bindModel d name (.handle (.connection k)) model there o.texts
  · rw [done] at failed
    cases failed
  · rw [done] at failed
    cases failed
  rw [done] at made
  obtain ⟨answer, same⟩ := Prod.mk.inj made
  cases answer
  have registry : r = (r'.connected ref (.handle (.connection k))).placed ref s :=
    congrArg Store.registry same
  obtain ⟨isModel, absent, present, -⟩ := alters.bound rfl rfl
  have new := Registry.declares_of_declare declared
  -- the class that was declared is like its base, and configuring it changes none of that
  have like : r'.Ordinary ref required :=
    ordinary.of_likens (new.likens o.sound o.owned there)
  have sound : r'.Sound := new.sound o.sound (by simpa using there.present)
  have configured : r'.Widens r := by
    rw [registry]
    exact ((Registry.Widens.refl r').connected ..).placed ..
  refine ⟨⟨ref, s, required⟩, r, notes, rfl, rfl, widens, orderly, ⟨isModel, present, ?_, ?_, ?_⟩,
    fun k m hosts => stays k m hosts ⟨by simp, by simp, by simp⟩, rfl, own, absent⟩
  · exact like.of_likens (configured.likens sound new.present_new)
  · change r.ownConnection? ref = _
    rw [alters.connections]
    exact if_pos rfl
  · change r.ownCollection? ref = _
    rw [alters.collections]
    exact (if_pos rfl).trans own

theorem outcome_writeAttribute_space {name : String} {c : ClassRef} (o : st.Orderly)
    (done : (writeAttribute (.handle (.space i)) name (.cls c)).outcome st = (.ok (), after)) :
    after = { st with
      spaces := st.spaces.setIfInBounds i (Entries.put (st.spaceAt i) (.str name) (.cls c)) } := by
  unfold writeAttribute at done
  split at done
  · contradiction
  · cases done
  · cases done
  · rename_i name _ _ _ _ _ _
    have member : st.member? (.handle (.space i)) name = none := by
      rw [(o.bare (.space i)).member? o.pristine rfl, Interface.inherited?_space]
    have free : (refusal? (.handle (.space i)) name).outcome st = (.ok none, st) := rfl
    rw [outcome_bind_ok free] at done
    dsimp only at done
    rw [outcome_bind_ok (outcome_get st), member] at done
    cases done
    rfl

/-- Models are attached one after another, and are shown under their names. -/
theorem outcome_define {ms : List (Value × Value)} {models : String → Option Attached}
    (o : st.Orderly) (space : (st.connectionAt k).models = .handle (.space i))
    (room : i < st.spaces.size) (exposes : st.Exposes k i models)
    (bases : ∀ e ∈ ms, st.IsBase e.2) (done : (define d k ms).outcome st = (.ok (), after)) :
    st.Defines i after ∧ ∃ models', after.Exposes k i models' ∧
      ∀ name m, models' name = some m → models name = some m ∨ ¬ st.registry.Present m.cls := by
  induction ms generalizing st models with
  | nil =>
    cases done
    exact ⟨.refl o, models, exposes, fun _ _ found => .inl found⟩
  | cons e ms ih =>
    obtain ⟨name, base⟩ := e
    obtain ⟨c, required, rfl, model, there, ordinary⟩ := bases (name, base) List.mem_cons_self
    rw [define, outcome_bind_ok (outcome_connection k st)] at done
    obtain ⟨v, bound, binding, done⟩ := outcome_bind_eq_ok done
    obtain ⟨m, r, notes, rfl, rfl, widens, orderly, hosts, stays, -, -, absent⟩ :=
      outcome_bindModel_hosts o model there ordinary binding
    rw [space] at done
    obtain ⟨_, shown, writing, done⟩ := outcome_bind_eq_ok done
    have wrote := outcome_writeAttribute_space orderly writing
    have setting : shown.setting = (st.registering r notes).setting := wrote ▸ rfl
    have bare : shown.Bare (.connection k) := (orderly.bare _).of_setting setting
    rw [outcome_bind_ok (outcome_noteConnection bare ..)] at done
    generalize noted : shown.noted _ _ _ = mid at done
    have set : mid.setting = (st.registering r notes).setting := by
      rw [← noted, Store.setting_noted, setting]
    have ground : mid.ground = { st.ground with
        spaces := st.spaces.setIfInBounds i
          (Entries.put (st.spaceAt i) (.str (name.name?.getD "")) (.cls m.cls)) } := by
      rw [← noted, Store.ground_noted, wrote]
      rfl
    have spaces : mid.spaces = _ := congrArg Ground.spaces ground
    have defines : st.Defines i mid := by
      refine ⟨orderly.of_setting set, ?_, fun k m hosts => (stays k m hosts).of_setting set, ?_, ?_,
        fun j other => ?_⟩
      · rw [show mid.registry = r from congrArg Setting.registry set]
        exact widens
      · rw [spaces]
        exact ground
      · rw [spaces, Array.size_setIfInBounds]
      · simp [Store.spaceAt, spaces, Array.getD_eq_getD_getElem?, Ne.symm other]
    have shows : mid.spaceAt i =
        Entries.put (st.spaceAt i) (.str (name.name?.getD "")) (.cls m.cls) := by
      simp [Store.spaceAt, spaces, Array.getD_eq_getD_getElem?, room]
    let more : String → Option Attached := fun key =>
      if name.name?.getD "" = key then some m else models key
    have shown : mid.Exposes k i more := by
      constructor
      · intro key
        rw [shows, Entries.field?, Entries.get?_put_text]
        simp only [more]
        split
        · rfl
        · exact exposes.named key
      · intro key found given
        simp only [more] at given
        split at given
        · cases given
          exact hosts.of_setting set
        · exact defines.hosts _ _ (exposes.hosts key found given)
    have models_eq : (mid.connectionAt k).models = .handle (.space i) := by
      rw [← space, Store.connectionAt, Store.connectionAt]
      exact congrArg (fun g : Ground => (g.connections.getD k default).models) ground
    obtain ⟨later, models', exposed, come⟩ := ih defines.orderly models_eq (defines.size ▸ room)
      shown (fun e member => (bases e (List.mem_cons_of_mem _ member)).mono o defines.widens) done
    refine ⟨defines.trans later, models', exposed, fun key found given => ?_⟩
    rcases come key found given with before | new
    · simp only [more] at before
      split at before
      · cases before
        exact .inr absent
      · exact .inl before
    · exact .inr fun there => new (defines.widens.present there)

end Act

end DocMapper
