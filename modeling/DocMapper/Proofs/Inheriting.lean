import DocMapper.Proofs.Histories
import DocMapper.Proofs.Usual

/-!
Classes under one base.  A class with no members that matter looks up what its base looks up, and
nothing that is done to other classes changes that.
-/

namespace DocMapper

namespace Linearization

variable {a self : ClassRef} {chain other all merged : List ClassRef} {n : Nat}

/-- A chain gives its head first if the other has no other head. -/
theorem merge_head (little : other = [] ∨ other = [a])
    (done : merge (n + 1) [a :: chain, other] = some merged) :
    ∃ rest, merge n [chain, []] = some rest ∧ merged = a :: rest := by
  rw [merge] at done
  obtain ⟨c, found, done⟩ := Option.bind_eq_some_iff.mp (by simpa using done)
  obtain ⟨rest, next, done⟩ := Option.bind_eq_some_iff.mp done
  cases done
  have head : a = c := by
    simp only [candidate?, List.findSome?_cons, List.findSome?_nil] at found
    obtain rfl | rfl := little <;> split at found <;> simp_all
  subst head
  refine ⟨rest, ?_, rfl⟩
  obtain rfl | rfl := little <;> simpa [removeHead] using next

/-- What is merged with nothing stays what it is. -/
theorem merge_nil (done : merge n [chain, []] = some merged) : merged = chain := by
  induction n generalizing chain merged with
  | zero =>
    rw [merge] at done
    cases chain <;> simp_all
  | succ n ih =>
    cases chain with
    | nil =>
      cases done
      rfl
    | cons a chain =>
      obtain ⟨rest, next, rfl⟩ := merge_head (.inl rfl) done
      rw [ih next]

/-- The ancestors of an only base are the others. -/
theorem ancestors?_one (done : ancestors? self [chain] = some all) : all = self :: chain := by
  obtain ⟨merged, found, rfl⟩ := Option.map_eq_some_iff.mp done
  cases chain with
  | nil => rw [merge_nil found]
  | cons a chain =>
    obtain ⟨rest, next, rfl⟩ := merge_head (n := (chain ++ [a]).length) (.inr rfl) found
    rw [merge_nil next]

end Linearization

namespace Registry

/-- Members are set on classes that are there. -/
def Owned (r : Registry) : Prop := ∀ e ∈ r.own, r.Present e.1.1

/-- Classes were declared at most: those that were there have the members and the ancestors that they
had. -/
structure Widens (r after : Registry) : Prop where
  present : ∀ {c}, r.Present c → after.Present c
  ancestors : ∀ {c}, r.Present c → after.ancestors c = r.ancestors c
  own : ∃ added, after.own = added ++ r.own ∧
    ∀ e ∈ added, ¬ r.Present e.1.1 ∧ after.Present e.1.1

/-- Whatever a class is asked for, but what tells where it is from, is what another is asked for. -/
structure Likens (r : Registry) (c : ClassRef) (after : Registry) (c' : ClassRef) : Prop where
  maker : after.maker? c' = r.maker? c
  member : ∀ name, name ∉ ["__module__", "__bound_base__", "__doc__"] →
    after.member? c' name = r.member? c name

variable {r mid after : Registry} {c base ref : ClassRef} {name : String} {bases : List ClassRef}
variable {members : List (String × Member)}

theorem lookup_own_append {added own : List ((ClassRef × String) × Member)}
    (others : ∀ e ∈ added, e.1.1 ≠ c) (name : String) :
    (added ++ own).lookup (c, name) = own.lookup (c, name) := by
  have none : added.lookup (c, name) = none := by
    rw [List.lookup_eq_none_iff]
    intro e member
    have other := others e member
    exact bne_iff_ne.mpr fun same => other (congrArg Prod.fst same).symm
  rw [List.lookup_append, none, Option.none_or]

namespace Widens

theorem of_same (declarations : after.declarations = r.declarations) (own : after.own = r.own) :
    r.Widens after where
  present := present_of_declarations declarations
  ancestors {c} _ := ancestors_of_declarations declarations c
  own := ⟨[], own, by simp⟩

theorem refl (r : Registry) : r.Widens r := of_same rfl rfl

theorem trans (h : r.Widens mid) (k : mid.Widens after) : r.Widens after where
  present there := k.present (h.present there)
  ancestors there := (k.ancestors (h.present there)).trans (h.ancestors there)
  own := by
    obtain ⟨first, own, added⟩ := h.own
    obtain ⟨second, own', added'⟩ := k.own
    refine ⟨second ++ first, by rw [own', own, List.append_assoc], fun e member => ?_⟩
    rcases List.mem_append.mp member with member | member
    · exact ⟨fun there => (added' e member).1 (h.present there), (added' e member).2⟩
    · exact ⟨(added e member).1, k.present (added e member).2⟩

variable (w : r.Widens after)
include w

theorem owned (owned : r.Owned) : after.Owned := by
  obtain ⟨added, own, new⟩ := w.own
  intro e member
  rw [own] at member
  rcases List.mem_append.mp member with member | member
  · exact (new e member).2
  · exact w.present (owned e member)

theorem ownMember? (there : r.Present c) (name : String) :
    after.ownMember? c name = r.ownMember? c name := by
  obtain ⟨added, own, new⟩ := w.own
  have others : ∀ e ∈ added, e.1.1 ≠ c := fun e member same => (new e member).1 (same ▸ there)
  rw [Registry.ownMember?, Registry.ownMember?, own, lookup_own_append others]

theorem pristine (pristine : r.Pristine) : after.Pristine := by
  obtain ⟨added, own, new⟩ := w.own
  intro n name
  have others : ∀ e ∈ added, e.1.1 ≠ .known n := fun e member same =>
    (new e member).1 (same ▸ (trivial : r.Present (.known n)))
  rw [own, lookup_own_append others]
  exact pristine n name

/-- Classes that are there look up what they did. -/
theorem likens (sound : r.Sound) (there : r.Present c) : r.Likens c after c where
  maker := by rw [maker?, maker?, w.ancestors there]
  member name _ := by
    rw [Registry.member?, Registry.member?, w.ancestors there]
    exact findSome?_congr fun a member => by
      rw [w.ownMember? (sound.ancestors_present there a member)]

end Widens

namespace Declares

variable (new : r.Declares name bases members ref after)
include new

theorem own_eq : after.own =
    ((members ++ declare.undocumented).map fun m => ((ref, m.1), m.2)) ++ r.own := by
  obtain ⟨d, rfl, named, -⟩ := new.extended
  rw [← named]
  rfl

theorem widens : r.Widens after where
  present := new.present_mono
  ancestors := new.ancestors_eq
  own := by
    refine ⟨_, new.own_eq, fun e member => ?_⟩
    obtain ⟨m, -, rfl⟩ := List.mem_map.mp member
    exact ⟨new.absent, new.present_new⟩

/-- A class that is no class of the library has nothing of its own but what it was declared with. -/
theorem ownMember?_other (owned : r.Owned) (notRoot : ref ≠ .root)
    (other : name' ∉ (members ++ declare.undocumented).map Prod.fst) :
    after.ownMember? ref name' = none := by
  have given : ((members ++ declare.undocumented).map fun m => ((ref, m.1), m.2)).lookup
      (ref, name') = none := by
    rw [List.lookup_eq_none_iff]
    intro e member
    obtain ⟨m, there, rfl⟩ := List.mem_map.mp member
    have differs : name' ≠ m.1 := fun same => other (same ▸ List.mem_map_of_mem there)
    simpa using differs
  have before : r.own.lookup (ref, name') = none := by
    rw [List.lookup_eq_none_iff]
    intro e member
    have differs : ref ≠ e.1.1 := fun same => new.absent (same ▸ owned e member)
    exact bne_iff_ne.mpr fun same => differs (congrArg Prod.fst same)
  have apart : Interface.member? ref name' = none := by
    have unknown : ∀ n, ref ≠ .known n := by
      intro n
      rw [new.ref_eq]
      split <;> simp
    unfold Interface.member?
    cases ref with
    | known n => exact absurd rfl (unknown n)
    | _ => simp [notRoot]
  rw [Registry.ownMember?, new.own_eq, List.lookup_append, given, before, apart]
  rfl

end Declares

/-- A class under one base, with nothing of its own but where it is from, is like its base. -/
theorem Declares.likens {place origin : Member}
    (new : r.Declares name [base] [("__module__", place), ("__bound_base__", origin)] ref after)
    (sound : r.Sound) (owned : r.Owned) (there : r.Declared base) :
    r.Likens base after ref := by
  have notRoot := new.ne_root there
  have ancestors : after.ancestors ref = ref :: r.ancestors base := by
    obtain ⟨d, found, -, merged⟩ := new.declaration?_new
    rw [ancestors_of_declaration? found]
    exact Linearization.ancestors?_one merged
  constructor
  · have unknown : ∀ n, ref ≠ .known n := by
      intro n
      rw [new.ref_eq]
      split <;> simp
    rw [maker?, maker?, ancestors, List.findSome?_cons]
    cases ref with
    | known n => exact absurd rfl (unknown n)
    | _ => simp [notRoot]
  · intro name' other
    rw [Registry.member?, Registry.member?, ancestors, List.findSome?_cons,
      new.ownMember?_other owned notRoot (by simpa [declare.undocumented] using other)]
    exact findSome?_congr fun a member => by
      rw [new.widens.ownMember? (sound.ancestors_present there.present a member)]

@[simp] theorem own_putConfig (h : Holder) (config : Config) :
    (r.putConfig h config).own = r.own := by
  unfold putConfig
  split <;> rfl

theorem Widens.connected (w : r.Widens mid) (c : ClassRef) (v : Value) :
    r.Widens (mid.connected c v) :=
  w.trans (.of_same (declarations_putConfig ..) (own_putConfig ..))

theorem Widens.placed (w : r.Widens mid) (c : ClassRef) (s : String) : r.Widens (mid.placed c s) :=
  w.trans (.of_same (declarations_putConfig ..) (own_putConfig ..))

end Registry

namespace Change

variable {st : Store} {u : Change}

/-- A change leaves everything but the registry and the notes, and of the registry all that there was
but what is configured. -/
theorem outcome_widens (d : Dispatch) (texts : st.registry.Texts) (fit : u.Fits st) :
    ∃ result r notes, (u.act d).outcome st = (result, st.registering r notes) ∧
      st.registry.Widens r := by
  have refl := Registry.Widens.refl st.registry
  cases u with
  | declare name bases members =>
    cases done : st.registry.declare name bases (Script.withModule members) with
    | error e =>
      refine ⟨.error e, st.registry, st.notes, ?_, refl⟩
      rw [act, Act.outcome_bind_ok (Act.outcome_registry st), done]
      exact Act.outcome_bind_error (Act.outcome_ofExcept _ st)
    | ok declared =>
      exact ⟨_, _, _, outcome_declare done, (Registry.declares_of_declare done).widens⟩
  | connect c v =>
    by_cases kind : st.registry.isSubclass (st.classOf v) (.known "BaseConnection")
    · obtain ⟨notes, done⟩ := outcome_connect (d := d) fit.1 kind
      exact ⟨_, _, notes, done, refl.connected c v⟩
    · exact ⟨_, st.registry, st.notes, outcome_connect_refused fit.1 kind, refl⟩
  | place c v =>
    by_cases accepted : c ≠ .root ∧ ∃ s, v = .str s ∧ s ≠ ""
    · obtain ⟨notRoot, s, rfl, named⟩ := accepted
      obtain ⟨notes, done⟩ := outcome_place (d := d) st fit.1 notRoot named
      exact ⟨_, _, notes, done, refl.placed c s⟩
    · obtain ⟨e, done⟩ := outcome_place_refused (d := d) st fit.1 accepted
      exact ⟨_, st.registry, st.notes, done, refl⟩
  | record c => exact ⟨_, _, _, outcome_record, .of_same (Registry.declarations_putConfig ..)
      (Registry.own_putConfig ..)⟩
  | clear c => exact ⟨_, _, _, outcome_clear, .of_same rfl rfl⟩
  | bind base name v =>
    rw [act_bind]
    obtain ⟨e, done⟩ | ⟨bound, ref, r, s, declared, -, went⟩ :=
      Act.outcome_bindModel d name v fit.1 fit.2 texts
    · exact ⟨_, st.registry, st.notes, done, refl⟩
    · have widens := (Registry.declares_of_declare declared).widens
      obtain ⟨e, done⟩ | ⟨-, notes, done⟩ := went
      · exact ⟨_, _, _, done, widens⟩
      · exact ⟨_, _, notes, done, (widens.connected ref v).placed ref s⟩

end Change

end DocMapper
