import DocMapper.Proofs.Attaching
import DocMapper.Proofs.Sheltering

/-!
New classes under one base.  Whatever a class is, a model or not, attaching it declares a class under
it that has the connection and the collection on itself, or is refused for what the class is; and
neither is changed by the classes that were attached before.
-/

namespace DocMapper

namespace Registry

/-- Classes were declared and configured that were not there; those that were there are as they
were. -/
structure Enlarges (r after : Registry) : Prop extends r.Widens after where
  declared : ∀ {c d}, r.declaration? c = some d → after.declaration? c = some d
  configured : ∀ {c}, r.Present c → after.config? (.cls c) = r.config? (.cls c)
  names : after.names = r.names

variable {r mid after : Registry} {c base ref : ClassRef} {name : String}
variable {members : List (String × Member)} {m : Member}

namespace Enlarges

theorem refl (r : Registry) : r.Enlarges r :=
  ⟨.refl r, id, fun _ => rfl, rfl⟩

theorem trans (h : r.Enlarges mid) (k : mid.Enlarges after) : r.Enlarges after where
  toWidens := h.toWidens.trans k.toWidens
  declared found := k.declared (h.declared found)
  configured there := (k.configured (h.present there)).trans (h.configured there)
  names := k.names.trans h.names

/-- A class that was not there is given a record. -/
theorem putConfig (h : r.Enlarges mid) (absent : ¬ r.Present c) (config : Config) :
    r.Enlarges (mid.putConfig (.cls c) config) where
  toWidens := h.toWidens.trans (.of_same (declarations_putConfig ..) (own_putConfig ..))
  declared found := by
    rw [declaration?_of_declarations (declarations_putConfig ..)]
    exact h.declared found
  configured {d} there := by
    have other : Holder.cls d ≠ .cls c := fun same => by
      cases same
      exact absent there
    rw [config?_putConfig, if_neg other]
    exact h.configured there
  names := by
    rw [← h.names]
    unfold Registry.putConfig
    split <;> rfl

/-- A class that was not there is given a member. -/
theorem setMember (h : r.Enlarges mid) (owned : r.Owned) (absent : ¬ r.Present c)
    (there : mid.Present c) (name : String) (m : Member) :
    r.Enlarges (mid.setMember c name m) where
  present known := present_of_declarations rfl (h.present known)
  ancestors {d} known := (ancestors_of_declarations rfl d).trans (h.ancestors known)
  own := by
    obtain ⟨added, own, new⟩ := h.own
    have kept : (r.own.filter fun e => e.1 ≠ (c, name)) = r.own := List.filter_eq_self.mpr
      fun e member => by
        have other : e.1 ≠ (c, name) := by
          intro same
          have known := owned e member
          rw [same] at known
          exact absent known
        simpa using other
    refine ⟨((c, name), m) :: added.filter fun e => e.1 ≠ (c, name), ?_, fun e member => ?_⟩
    · change ((c, name), m) :: mid.own.filter _ = _
      rw [own, List.filter_append, kept, List.cons_append]
    · obtain rfl | member := List.mem_cons.mp member
      · exact ⟨absent, present_of_declarations rfl there⟩
      · obtain ⟨old, known⟩ := new e (List.mem_of_mem_filter member)
        exact ⟨old, present_of_declarations rfl known⟩
  declared found := (congrFun (declaration?_of_declarations rfl) _).trans (h.declared found)
  configured known := h.configured known
  names := h.names

variable (h : r.Enlarges after)
include h

theorem classOfClass (there : r.Present c) : after.classOfClass c = r.classOfClass c := by
  cases c with
  | known n => rfl
  | _ =>
    obtain ⟨d, found, -⟩ := there
    simp [Registry.classOfClass, found, h.declared found]

theorem collection (there : r.Present c) :
    after.collection (.cls c) = r.collection (.cls c) := by
  rw [collection_eq, collection_eq, ownCollection?, ownCollection?, h.configured there]

theorem member? (sound : r.Sound) (there : r.Present c) (name : String) :
    after.member? c name = r.member? c name := by
  rw [Registry.member?, Registry.member?, h.ancestors there]
  exact findSome?_congr fun a member => by
    rw [h.ownMember? (sound.ancestors_present there a member)]

theorem className (there : r.Declared c) : after.className c = r.className c := by
  obtain ⟨d, found, -⟩ := there
  have given : after.givenName c = r.givenName c := by
    cases c with
    | known => rfl
    | _ => simp [givenName, found, h.declared found]
  rw [Registry.className, Registry.className, h.names, given]

theorem bases (there : r.Declared c) : after.bases c = r.bases c := by
  obtain ⟨d, found, -⟩ := there
  simp [Registry.bases, found, h.declared found]

end Enlarges

theorem Declares.enlarges {bases : List ClassRef} (new : r.Declares name bases members ref after) :
    r.Enlarges after where
  toWidens := new.widens
  declared := new.declaration?_of_some
  configured _ := by rw [config?, config?, new.configs]
  names := by
    obtain ⟨d, rfl, -⟩ := new.extended
    rfl

/-- The classes that classes are instances of are there. -/
def Made (r : Registry) : Prop :=
  ∀ c d, r.declaration? c = some d → r.Present d.maker

theorem Made.classOfClass (made : r.Made) (c : ClassRef) : r.Present (r.classOfClass c) := by
  cases found : r.declaration? c with
  | some d =>
    have maker : r.classOfClass c = d.maker := by simp [Registry.classOfClass, found]
    exact maker ▸ made c d found
  | none => cases c <;> simp [Registry.classOfClass, found, Present]

/-- Whether a class can be declared under a base that was there does not depend on others. -/
theorem Enlarges.declare_error (h : r.Enlarges after) (made : r.Made) (there : r.Present c)
    (members members' : List (String × Member)) {e : Fault} :
    after.declare name [c] members = .error e ↔ r.declare name [c] members' = .error e := by
  have maker : after.commonMaker [after.classOfClass c] = r.commonMaker [r.classOfClass c] := by
    have type : after.ancestors (.known "type") = r.ancestors (.known "type") := rfl
    rw [h.classOfClass there]
    simp only [commonMaker, isSubclass, List.foldlM_cons, List.foldlM_nil, type,
      h.ancestors (made.classOfClass c)]
    rfl
  unfold declare
  dsimp only
  simp only [List.map_cons, List.map_nil]
  rw [maker, h.ancestors there]
  simp only [Linearization.ancestors?, bind, Except.bind, pure, Except.pure, throw, throwThe,
    MonadExceptOf.throw]
  cases r.commonMaker [r.classOfClass c] with
  | none => rfl
  | some maker =>
    dsimp only
    split
    · rfl
    · split
      · rfl
      · cases Linearization.merge _ ([r.ancestors c] ++ _) <;> simp

theorem lookup_own_without (own : List ((ClassRef × String) × Member)) (k h : ClassRef × String) :
    (own.filter fun e => e.1 ≠ k).lookup h = if h = k then none else own.lookup h := by
  induction own with
  | nil => simp
  | cons e own ih =>
    by_cases same : e.1 = k
    · rw [List.filter_cons_of_neg (by simpa using same), ih, List.lookup_cons]
      by_cases here : h = k
      · rw [if_pos here, if_pos here]
      · rw [if_neg here, if_neg here, same, beq_eq_false_iff_ne.mpr here]
    · rw [List.filter_cons_of_pos (by simpa using same), List.lookup_cons, List.lookup_cons, ih]
      by_cases here : h = k
      · rw [if_pos here, if_pos here, here, beq_eq_false_iff_ne.mpr (Ne.symm same)]
      · rw [if_neg here, if_neg here]

theorem ownMember?_setMember (r : Registry) (c d : ClassRef) (name name' : String) (m : Member) :
    (r.setMember c name m).ownMember? d name' =
      if (d, name') = (c, name) then some m else r.ownMember? d name' := by
  unfold ownMember? setMember
  dsimp only
  rw [List.lookup_cons, lookup_own_without]
  by_cases same : (d, name') = (c, name)
  · rw [if_pos same, if_pos same, beq_iff_eq.mpr same]
    rfl
  · rw [if_neg same, if_neg same, beq_eq_false_iff_ne.mpr same]

/-- A class has a connection and a collection by itself: models in their records, other classes among
their members. -/
def Has (r : Registry) (c : ClassRef) (connection collection : Value) : Prop :=
  if c.isModel then
    r.ownConnection? c = some connection ∧ r.ownCollection? c = some collection
  else
    r.ownMember? c "connection" = some (.value connection) ∧
      r.ownMember? c "collection" = some (.value collection)

theorem Enlarges.has {connection collection : Value} (h : r.Enlarges after) (there : r.Present c)
    (has : r.Has c connection collection) : after.Has c connection collection := by
  unfold Has at has ⊢
  split at has
  · rename_i model
    rw [if_pos model, ownConnection?, ownCollection?, h.configured there]
    exact has
  · rename_i plain
    rw [if_neg plain, h.ownMember? there, h.ownMember? there]
    exact has

/-- What a class has by itself comes before what its ancestors have. -/
theorem member?_of_own {rest : List ClassRef} (lineage : r.ancestors c = c :: rest)
    (own : r.ownMember? c name = some m) : r.member? c name = some (c, m) := by
  rw [member?, lineage, List.findSome?_cons, own]
  rfl

end Registry

/-- Results that are the same but for the object that was made to be given. -/
inductive Akin : Except Fault Value → Except Fault Value → Prop
  | same (x : Except Fault Value) : Akin x x
  | made (i j : Nat) (s : Shape) : Akin (.ok (.object (some i) s)) (.ok (.object (some j) s))

namespace Akin

variable {x y : Except Fault Value} {e : Fault}

theorem error (akin : Akin x y) : x = .error e ↔ y = .error e := by
  cases akin <;> simp

theorem trans {z : Except Fault Value} (h : Akin x y) (k : Akin y z) : Akin x z := by
  cases h with
  | same => exact k
  | made i j s =>
    cases k with
    | same => exact .made i j s
    | made _ l => exact .made i l s

end Akin

namespace Act

/-- What a class has for a collection is the same in stores that say the same about the class. -/
theorem akin_readClass_collection {st after : Store} {c : ClassRef}
    (collection : after.registry.collection (.cls c) = st.registry.collection (.cls c))
    (cls : after.registry.classOfClass c = st.registry.classOfClass c)
    (member : after.registry.member? c "collection" = st.registry.member? c "collection")
    (shared : after.registry.member? (st.registry.classOfClass c) "collection" =
      st.registry.member? (st.registry.classOfClass c) "collection") :
    Akin ((readClass c "collection").outcome st).1 ((readClass c "collection").outcome after).1 := by
  cases model : c.isModel with
  | true =>
    rw [outcome_readCollection st model, outcome_readCollection after model, collection]
    exact .same _
  | false =>
    have read (st : Store) :
        (readClass c "collection").outcome st = (readMember c "collection").outcome st := by
      have common : (commonToClasses c "collection").outcome st = (.ok none, st) :=
        outcome_bind_ok (outcome_registry st)
      unfold readClass
      rw [model]
      exact outcome_bind_ok common
    rw [read, read, readMember, outcome_bind_ok (outcome_registry st),
      outcome_bind_ok (outcome_registry after), member]
    cases st.registry.member? c "collection" with
    | some m =>
      obtain ⟨owner, m⟩ := m
      cases m with
      | value | method | requiring => exact .same _
      | ofClass | hydrating | property => exact .made ..
    | none =>
      dsimp only
      rw [outcome_bind_ok (outcome_registry st), outcome_bind_ok (outcome_registry after), cls,
        shared]
      cases st.registry.member? (st.registry.classOfClass c) "collection" with
      | none => exact .same _
      | some m =>
        obtain ⟨owner, m⟩ := m
        cases m with
        | method => exact .made ..
        | _ => exact .same _

/-- A class that is no model takes whatever it is given under most names. -/
theorem outcome_writeClass_plain {st : Store} {c : ClassRef} {name : String} {x : Value}
    (plain : c.isModel = false) (apart : Interface.moduleName c ≠ "builtins")
    (free : st.registry.ownMember? c name = none)
    (usual : name = "connection" ∨ name = "collection") :
    (writeClass c name x).outcome st =
      (.ok (), st.registering (st.registry.setMember c name (.value x)) st.notes) := by
  unfold writeClass
  rw [plain]
  obtain rfl | rfl := usual <;>
  · simp only
    rw [outcome_bind_ok (outcome_registry st), if_neg apart, free]
    simp only [Option.isSome_none, Bool.and_false, Bool.false_eq_true, if_false]
    rfl

/-- What is read off a class that is no model, if it has it by itself. -/
theorem outcome_readClass_plain {st : Store} {c : ClassRef} {name : String} {x : Value}
    {rest : List ClassRef} (plain : c.isModel = false)
    (lineage : st.registry.ancestors c = c :: rest)
    (own : st.registry.ownMember? c name = some (.value x))
    (usual : name = "connection" ∨ name = "collection") :
    (readClass c name).outcome st = (.ok x, st) := by
  have member := Registry.member?_of_own lineage own
  have common : (commonToClasses c name).outcome st = (.ok none, st) := by
    obtain rfl | rfl := usual <;> exact outcome_bind_ok (outcome_registry st)
  have read : (readMember c name).outcome st = (.ok x, st) := by
    rw [readMember, outcome_bind_ok (outcome_registry st), member]
    rfl
  unfold readClass
  rw [plain]
  obtain rfl | rfl := usual <;> exact (outcome_bind_ok common).trans read

end Act

/-- A class that was declared, as the registry has it. -/
theorem Registry.Declares.declaration?_made {r after : Registry} {name : String}
    {bases : List ClassRef} {members : List (String × Member)} {ref : ClassRef}
    (new : r.Declares name bases members ref after) :
    ∃ d, after.declaration? ref = some d ∧ d.name = name ∧ d.bases = bases ∧
      Linearization.ancestors? ref (bases.map r.ancestors) = some d.ancestors := by
  obtain ⟨d, rfl, -, named, under, merged⟩ := new.extended
  refine ⟨d, ?_, named, under, merged⟩
  rw [new.ref_eq]
  split <;> simp [Registry.declaration?, Registry.extended]

namespace Store

/-- A store but for its classes, and for notes and the count of objects. -/
def unclassed (st : Store) : Store :=
  { st with registry := .initial, notes := #[], identities := 0 }

/-- Why a class cannot be attached: it has no collection to be read, or none can be declared under
it by that name. -/
def Rejects (st : Store) (c : ClassRef) (name : String) (e : Fault) : Prop :=
  ((Act.readClass c "collection").outcome st).1 = .error e ∨
    (∃ v, ((Act.readClass c "collection").outcome st).1 = .ok v) ∧
      st.registry.declare name [c] (Act.boundMembers st c) = .error e

theorem not_rejects {st : Store} {c : ClassRef} {name : String} {v : Value}
    {made : ClassRef × Registry} (read : ((Act.readClass c "collection").outcome st).1 = .ok v)
    (declared : st.registry.declare name [c] (Act.boundMembers st c) = .ok made) (e : Fault) :
    ¬ st.Rejects c name e := by
  rintro (failed | ⟨-, failed⟩)
  · rw [read] at failed
    cases failed
  · rw [declared] at failed
    cases failed

/-- A new class of the given name under a class, on a connection and with the collection that the
class had. -/
structure Binds (st after : Store) (k : Nat) (c : ClassRef) (name : String) (ref : ClassRef) :
    Prop where
  fresh : ¬ st.registry.Present ref
  there : after.registry.Present ref
  named : after.registry.className ref = name
  under : after.registry.bases ref = [c]
  lineage : after.registry.ancestors ref = ref :: st.registry.ancestors c
  has : ∃ v, Akin ((Act.readClass c "collection").outcome st).1 (.ok v) ∧
    after.registry.Has ref (.handle (.connection k)) v

/-- Classes are kept as they should be, and only those that are there. -/
structure Filed (st : Store) : Prop where
  sound : st.registry.Sound
  texts : st.registry.Texts
  owned : st.registry.Owned
  called : ∀ e ∈ st.registry.names, st.registry.Present e.1

variable {st after : Store} {k : Nat} {c ref : ClassRef} {name : String} {r : Registry}
  {members : List (String × Member)}

theorem Filed.enlarge (filed : st.Filed) (enlarges : st.registry.Enlarges after.registry)
    (sound : after.registry.Sound) (texts : after.registry.Texts) : after.Filed where
  sound := sound
  texts := texts
  owned := enlarges.owned filed.owned
  called e member := enlarges.present (filed.called e (enlarges.names ▸ member))

theorem Binds.of_declares (new : st.registry.Declares name [c] members ref r) (filed : st.Filed)
    (declarations : after.registry.declarations = r.declarations)
    (names : after.registry.names = st.registry.names) {v : Value}
    (collection : Akin ((Act.readClass c "collection").outcome st).1 (.ok v))
    (has : after.registry.Has ref (.handle (.connection k)) v) : st.Binds after k c name ref := by
  obtain ⟨d, found, named, under, merged⟩ := new.declaration?_made
  have found : after.registry.declaration? ref = some d := by
    rw [Registry.declaration?_of_declarations declarations]
    exact found
  have unnamed : after.registry.names.lookup ref = none := by
    rw [names, List.lookup_eq_none_iff]
    intro e member
    exact bne_iff_ne.mpr fun same => new.absent (same ▸ filed.called e member)
  refine ⟨new.absent, Registry.present_of_declarations declarations new.present_new, ?_, ?_, ?_,
    v, collection, has⟩
  · rw [Registry.className, unnamed, Option.getD_none, ← named]
    cases ref with
    | known => cases found
    | _ => simp [Registry.givenName, found]
  · simp [Registry.bases, found, under]
  · rw [Registry.ancestors_of_declaration? found]
    exact Linearization.ancestors?_one merged

end Store

namespace Act

variable {d : Dispatch} {st : Store} {k : Nat} {c : ClassRef} {name : String}

/-- What attaching a class comes to. -/
inductive Attaching (st : Store) (k : Nat) (c : ClassRef) (name : String) :
    Except Fault Value → Store → Prop
  | refused {e : Fault} {after : Store} (why : st.Rejects c name e)
    (registry : after.registry = st.registry) (unclassed : after.unclassed = st.unclassed) :
    Attaching st k c name (.error e) after
  | bound {ref : ClassRef} {after : Store} (free : ∀ e, ¬ st.Rejects c name e)
    (enlarges : st.registry.Enlarges after.registry) (sound : after.registry.Sound)
    (texts : after.registry.Texts) (binds : st.Binds after k c name ref)
    (unclassed : after.unclassed = st.unclassed) :
    Attaching st k c name (.ok (.cls ref)) after

/-- A connection is one, as long as nothing else was made of it. -/
theorem isSubclass_connection (bare : st.Bare (.connection k)) (r : Registry) :
    r.isSubclass (st.classOf (.handle (.connection k))) (.known "BaseConnection") := by
  rw [bare.classOf]
  rfl

theorem outcome_readConnection {v : Value} (model : c.isModel)
    (found : st.registry.connection c = .ok v) :
    (readClass c "connection").outcome st = (.ok v, st) := by
  cases c with
  | model slot =>
    change (classConnection (.model slot)).outcome st = _
    rw [classConnection, outcome_bind_ok (outcome_registry st), found]
    rfl
  | _ => contradiction

theorem attaching_model (filed : st.Filed) (model : c.isModel) (there : st.registry.Declared c)
    (bare : st.Bare (.connection k)) {result : Except Fault Value} {after : Store}
    (done : (bindModel d (.cls c) (.str name) (.handle (.connection k))).outcome st =
      (result, after)) : Attaching st k c name result after := by
  have read := outcome_readCollection st model
  rw [Registry.collection_eq] at read
  cases own : st.registry.ownCollection? c with
  | none =>
    rw [own] at read
    rw [bindModel, outcome_bind_error (x := collectionOfBase d (.cls c)) read] at done
    cases done
    exact .refused (.inl (congrArg Prod.fst read)) rfl rfl
  | some collection =>
    obtain ⟨s, rfl⟩ := filed.texts c collection own
    rw [own] at read
    cases declared : st.registry.declare name [c] (boundMembers st c) with
    | error e =>
      rw [outcome_bindModel_placed model own,
        outcome_bind_ok (x := className (.str name)) (a := name) rfl,
        outcome_bind_ok (outcome_registry st), declared,
        outcome_bind_error (outcome_ofExcept _ st)] at done
      cases done
      exact .refused (.inr ⟨⟨_, congrArg Prod.fst read⟩, declared⟩) rfl rfl
    | ok made =>
      obtain ⟨ref, r⟩ := made
      have new := Registry.declares_of_declare declared
      have refModel : ref.isModel := by simp [new.isModel, model]
      have kind : r.isSubclass ((st.registering r st.notes).classOf (.handle (.connection k)))
          (.known "BaseConnection") := isSubclass_connection ⟨bare.extras, bare.refined⟩ r
      obtain ⟨notes, bound⟩ := outcome_bindModel_attached (d := d) model own declared there kind
      have alters : (Change.bind c (.str name) (.handle (.connection k))).Alters (.ok (.cls ref))
          st.registry ((r.connected ref (.handle (.connection k))).placed ref s) := by
        have alters := Change.alters_bind (d := d) filed.sound filed.texts
          (show (Change.bind c (.str name) (.handle (.connection k))).Fits st from ⟨model, there⟩)
        rwa [Change.act_bind, bound] at alters
      rw [bound] at done
      cases done
      have enlarges : st.registry.Enlarges
          ((r.connected ref (.handle (.connection k))).placed ref s) :=
        (new.enlarges.putConfig new.absent _).putConfig new.absent _
      refine .bound (Store.not_rejects (congrArg Prod.fst read) declared) enlarges alters.sound
        alters.texts (.of_declares new filed ?_ enlarges.names (v := .str s) ?_ ?_) rfl
      · exact (Registry.declarations_putConfig ..).trans (Registry.declarations_putConfig ..)
      · rw [read]
        exact .same _
      · refine (if_pos refModel).mpr ⟨?_, ?_⟩
        · rw [Store.registry_registering, alters.connections]
          exact if_pos rfl
        · rw [Store.registry_registering, alters.collections]
          exact (if_pos rfl).trans own

/-- What a class that is no model has for a collection is read in the store or makes an object. -/
theorem outcome_readClass_collection (c : ClassRef) (st : Store) :
    ∃ x after, (readClass c "collection").outcome st = (x, after) ∧
      (after = st ∨ after = st.identified) := by
  obtain ⟨x, read⟩ | ⟨s, read⟩ := readClass_collection c st.registry
  · exact ⟨_, _, read st rfl, .inl rfl⟩
  · exact ⟨_, _, read st rfl, .inr rfl⟩

theorem attaching_plain (filed : st.Filed) (plain : c.isModel = false)
    (there : st.registry.Present c) {result : Except Fault Value} {after : Store}
    (done : (bindModel d (.cls c) (.str name) (.handle (.connection k))).outcome st =
      (result, after)) : Attaching st k c name result after := by
  obtain ⟨x, mid, read, same⟩ := outcome_readClass_collection c st
  have registry : mid.registry = st.registry := by obtain rfl | rfl := same <;> rfl
  have unclassed : mid.unclassed = st.unclassed := by obtain rfl | rfl := same <;> rfl
  have members : boundMembers mid c = boundMembers st c := by obtain rfl | rfl := same <;> rfl
  cases x with
  | error e =>
    rw [bindModel, outcome_bind_error (x := collectionOfBase d (.cls c)) read] at done
    cases done
    exact .refused (.inl (congrArg Prod.fst read)) registry unclassed
  | ok v =>
    have start : (bindModel d (.cls c) (.str name) (.handle (.connection k))).outcome st =
        (ofExcept (mid.registry.declare name [c] (boundMembers mid c)) >>=
          attach c name (.handle (.connection k)) v).outcome mid := by
      rw [bindModel, outcome_bind_ok (x := collectionOfBase d (.cls c)) read]
      rfl
    rw [start, members, registry] at done
    cases declared : st.registry.declare name [c] (boundMembers st c) with
    | error e =>
      rw [declared, outcome_bind_error (outcome_ofExcept _ mid)] at done
      cases done
      exact .refused (.inr ⟨⟨v, congrArg Prod.fst read⟩, declared⟩) registry unclassed
    | ok made =>
      obtain ⟨ref, r⟩ := made
      have new := Registry.declares_of_declare declared
      have refPlain : ref.isModel = false := by simp [new.isModel, plain]
      have notRoot : ref ≠ .root := by
        rintro rfl
        cases refPlain
      have apart : Interface.moduleName ref ≠ "builtins" := by
        rw [new.ref_eq]
        simp [plain, Interface.moduleName]
      have free (other : String) (usual : other = "connection" ∨ other = "collection") :
          r.ownMember? ref other = none :=
        new.ownMember?_other filed.owned notRoot (by
          obtain rfl | rfl := usual <;> simp [boundMembers, Registry.declare.undocumented])
      let self : Value := .handle (.connection k)
      let connected := r.setMember ref "connection" (.value self)
      let placed := connected.setMember ref "collection" (.value v)
      have own (other : String) : placed.ownMember? ref other =
          if other = "collection" then some (.value v) else
            if other = "connection" then some (.value self) else r.ownMember? ref other := by
        simp only [placed, connected, Registry.ownMember?_setMember, Prod.mk.injEq, true_and]
      have first : (writeClass ref "connection" self).outcome (mid.registering r mid.notes) =
          (.ok (), mid.registering connected mid.notes) :=
        outcome_writeClass_plain refPlain apart (free _ (.inl rfl)) (.inl rfl)
      have second : (writeClass ref "collection" v).outcome (mid.registering connected mid.notes) =
          (.ok (), mid.registering placed mid.notes) := by
        refine outcome_writeClass_plain refPlain apart ?_ (.inr rfl)
        rw [Store.registry_registering, Registry.ownMember?_setMember, if_neg (by simp)]
        exact free _ (.inr rfl)
      obtain ⟨notes, noted⟩ := outcome_noteIn_notes Part.model.log .debug
        (fun st => s!"Bound {st.className c} as {name} (collection '{st.plainText v}') " ++
          s!"to {st.text self}") (mid.registering placed mid.notes)
      rw [declared, outcome_bind_ok (outcome_ofExcept _ mid), attach,
        outcome_bind_ok (outcome_setRegistry r mid), outcome_bind_ok first, outcome_bind_ok second,
        outcome_bind_ok (x := note .debug .model _) noted] at done
      cases done
      have enlarges : st.registry.Enlarges placed :=
        (new.enlarges.setMember filed.owned new.absent new.present_new _ _).setMember filed.owned
          new.absent (Registry.present_of_declarations rfl new.present_new) _ _
      have texts : placed.Texts := by
        have same : placed.ownCollection? = st.registry.ownCollection? :=
          Registry.ownCollection?_of_configs _ new.configs
        exact fun d w => same ▸ filed.texts d w
      have sound : placed.Sound :=
        (new.sound filed.sound (by simpa using there)).of_declarations rfl
      refine .bound (Store.not_rejects (congrArg Prod.fst read) declared) enlarges sound texts
        (.of_declares new filed rfl enlarges.names (v := v) ?_ ?_) unclassed
      · rw [read]
        exact .same _
      · refine (if_neg (by simp [refPlain])).mpr ⟨?_, ?_⟩
        · exact (own _).trans ((if_neg (by simp)).trans (if_pos rfl))
        · exact (own _).trans (if_pos rfl)

/-- A class that is there is attached, or refused for what it is. -/
theorem attaching_bindModel (filed : st.Filed) (there : st.registry.Present c)
    (bare : st.Bare (.connection k)) (name : String) :
    Attaching st k c name
      ((bindModel d (.cls c) (.str name) (.handle (.connection k))).outcome st).1
      ((bindModel d (.cls c) (.str name) (.handle (.connection k))).outcome st).2 := by
  cases model : c.isModel with
  | true =>
    have declared : st.registry.Declared c := by
      cases c with
      | model slot => exact there
      | _ => contradiction
    exact attaching_model (d := d) filed model declared bare rfl
  | false => exact attaching_plain (d := d) filed model there rfl

/-- Two reasons are the same. -/
theorem rejects_unique {e f : Fault} (h : st.Rejects c name e) (k : st.Rejects c name f) :
    e = f := by
  obtain h | ⟨⟨v, read⟩, h⟩ := h <;> obtain k | ⟨⟨w, read'⟩, k⟩ := k
  · exact Except.error.inj (h.symm.trans k)
  · exact absurd (h.symm.trans read') (by simp)
  · exact absurd (k.symm.trans read) (by simp)
  · exact Except.error.inj (h.symm.trans k)

/-- Binding a class fails just for what the class is. -/
theorem bindModel_error (filed : st.Filed) (there : st.registry.Present c)
    (bare : st.Bare (.connection k)) (name : String) (e : Fault) :
    ((bindModel d (.cls c) (.str name) (.handle (.connection k))).outcome st).1 = .error e ↔
      st.Rejects c name e := by
  have attaching := attaching_bindModel (d := d) filed there bare name
  generalize (bindModel d (.cls c) (.str name) (.handle (.connection k))).outcome st = went
    at attaching ⊢
  obtain ⟨result, after⟩ := went
  cases attaching with
  | refused why =>
    exact ⟨fun same => Except.error.inj same ▸ why, fun h => congrArg _ (rejects_unique why h)⟩
  | bound free => exact ⟨nofun, fun h => absurd h (free e)⟩

end Act

namespace Store

variable {origin st after : Store} {k : Nat} {c ref : ClassRef} {name : String} {e : Fault}

/-- What a class has for a collection is not changed by the classes that come later. -/
theorem akin_collection (sound : origin.registry.Sound) (made : origin.registry.Made)
    (there : origin.registry.Present c) (enlarges : origin.registry.Enlarges st.registry) :
    Akin ((Act.readClass c "collection").outcome origin).1
      ((Act.readClass c "collection").outcome st).1 :=
  Act.akin_readClass_collection (enlarges.collection there) (enlarges.classOfClass there)
    (enlarges.member? sound there _) (enlarges.member? sound (made.classOfClass c) _)

/-- A class is refused later for what it is refused at first. -/
theorem rejects_iff (sound : origin.registry.Sound) (made : origin.registry.Made)
    (there : origin.registry.Present c) (enlarges : origin.registry.Enlarges st.registry) :
    st.Rejects c name e ↔ origin.Rejects c name e := by
  have akin := akin_collection sound made there enlarges
  have declared : st.registry.declare name [c] (Act.boundMembers st c) = .error e ↔
      origin.registry.declare name [c] (Act.boundMembers origin c) = .error e :=
    enlarges.declare_error made there _ _
  have read : (∃ v, ((Act.readClass c "collection").outcome st).1 = .ok v) ↔
      ∃ v, ((Act.readClass c "collection").outcome origin).1 = .ok v := by
    generalize ((Act.readClass c "collection").outcome st).1 = y at akin
    generalize ((Act.readClass c "collection").outcome origin).1 = x at akin
    cases akin <;> simp
  rw [Rejects, Rejects, declared, read, akin.error]

namespace Binds

/-- A class that was bound is what it was when others are bound. -/
theorem later {mid : Store} (binds : st.Binds mid k c name ref)
    (enlarges : mid.registry.Enlarges after.registry) : st.Binds after k c name ref := by
  have declared : mid.registry.Declared ref := by
    cases ref with
    | known n => exact absurd (show st.registry.Present (.known n) from trivial) binds.fresh
    | _ => exact binds.there
  obtain ⟨v, akin, has⟩ := binds.has
  exact ⟨binds.fresh, enlarges.present binds.there, (enlarges.className declared).trans binds.named,
    (enlarges.bases declared).trans binds.under,
    (enlarges.ancestors binds.there).trans binds.lineage, v, akin,
    enlarges.has binds.there has⟩

/-- A class that was bound after others is one that was bound at first. -/
theorem earlier (binds : st.Binds after k c name ref) (sound : origin.registry.Sound)
    (made : origin.registry.Made) (there : origin.registry.Present c)
    (enlarges : origin.registry.Enlarges st.registry) : origin.Binds after k c name ref := by
  obtain ⟨v, akin, has⟩ := binds.has
  refine ⟨fun old => binds.fresh (enlarges.present old), binds.there, binds.named, binds.under, ?_,
    v, (akin_collection sound made there enlarges).trans akin, has⟩
  rw [binds.lineage, enlarges.ancestors there]

/-- What is read off a class that was bound. -/
theorem reads (binds : st.Binds after k c name ref) :
    (Act.readClass ref "connection").outcome after = (.ok (.handle (.connection k)), after) ∧
      Akin ((Act.readClass c "collection").outcome st).1
        ((Act.readClass ref "collection").outcome after).1 := by
  obtain ⟨v, akin, has⟩ := binds.has
  have lineage := binds.lineage
  unfold Registry.Has at has
  split at has
  · rename_i model
    obtain ⟨connection, collection⟩ := has
    refine ⟨Act.outcome_readConnection model ?_, ?_⟩
    · rw [Registry.connection_eq, lineage, List.findSome?_cons, connection]
    · rw [Act.outcome_readCollection after model, Registry.collection_eq, collection]
      exact akin
  · rename_i plain
    obtain ⟨connection, collection⟩ := has
    have plain : ref.isModel = false := by simpa using plain
    refine ⟨Act.outcome_readClass_plain plain lineage connection (.inl rfl), ?_⟩
    rw [Act.outcome_readClass_plain plain lineage collection (.inr rfl)]
    exact akin

end Binds

end Store

end DocMapper
