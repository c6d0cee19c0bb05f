import DocMapper.Registry

/-!
Where classes come from.  A class is declared under classes that are there, so that its ancestors,
itself first, never lead to a class that is declared later, and a declaration changes the ancestors
of no class that is there.
-/

namespace DocMapper

namespace Linearization

theorem candidate?_mem {chains : List (List ClassRef)} {c : ClassRef}
    (found : candidate? chains = some c) : c ∈ chains.flatten := by
  obtain ⟨chain, member, head⟩ := List.exists_of_findSome?_eq_some found
  cases chain with
  | nil => simp at head
  | cons d rest =>
    simp only [Option.ite_none_left_eq_some, Option.some.injEq] at head
    exact List.mem_flatten_of_mem member (head.2 ▸ List.mem_cons_self)

theorem removeHead_subset (c : ClassRef) (chain : List ClassRef) : removeHead c chain ⊆ chain := by
  unfold removeHead
  split
  · exact fun _ => List.mem_of_mem_tail
  · exact fun _ => id

/-- Merging adds no class. -/
theorem merge_subset {n : Nat} {chains : List (List ClassRef)} {merged : List ClassRef}
    (done : merge n chains = some merged) : merged ⊆ chains.flatten := by
  induction n generalizing chains merged with
  | zero =>
    rw [merge] at done
    split at done
    · cases done
      exact List.nil_subset _
    · simp at done
  | succ n ih =>
    rw [merge] at done
    split at done
    · cases done
      exact List.nil_subset _
    · obtain ⟨c, found, done⟩ := Option.bind_eq_some_iff.mp done
      obtain ⟨rest, merged', done⟩ := Option.bind_eq_some_iff.mp done
      cases done
      refine List.cons_subset.mpr ⟨candidate?_mem found, fun d member => ?_⟩
      obtain ⟨chain, among, within⟩ := List.mem_flatten.mp (ih merged' member)
      obtain ⟨whole, source, rfl⟩ := List.mem_map.mp among
      exact List.mem_flatten_of_mem source (removeHead_subset _ _ within)

theorem ancestors?_eq_some {self : ClassRef} {bases : List (List ClassRef)} {all : List ClassRef}
    (done : ancestors? self bases = some all) :
    ∃ rest, all = self :: rest ∧ ∀ a ∈ rest, ∃ chain ∈ bases, a ∈ chain := by
  obtain ⟨rest, merged, rfl⟩ := Option.map_eq_some_iff.mp done
  refine ⟨rest, rfl, fun a member => ?_⟩
  obtain ⟨chain, among, within⟩ := List.mem_flatten.mp (merge_subset merged member)
  rcases List.mem_append.mp among with among | among
  · exact ⟨chain, among, within⟩
  · cases List.mem_singleton.mp among
    obtain ⟨chain, among, head⟩ := List.mem_filterMap.mp within
    exact ⟨chain, among, List.mem_of_mem_head? head⟩

end Linearization

namespace Registry

/-- A class that was declared under this very reference. -/
def Declared (r : Registry) (c : ClassRef) : Prop :=
  ∃ d, r.declaration? c = some d ∧ d.ref = c

/-- A class that every program has, or that was declared. -/
def Present (r : Registry) : ClassRef → Prop
  | .known _ => True
  | c => r.Declared c

/-- Each declared class comes first among its ancestors, all of which are there. -/
structure Sound (r : Registry) : Prop where
  first : ∀ {c d}, r.declaration? c = some d → d.ref = c → d.ancestors.head? = some c
  present : ∀ {c d}, r.declaration? c = some d → d.ref = c → ∀ a ∈ d.ancestors, r.Present a

variable {r after : Registry} {c ref : ClassRef} {name : String} {bases : List ClassRef}
variable {members : List (String × Member)}

theorem Declared.present (declared : r.Declared c) : r.Present c := by
  cases c with
  | known => trivial
  | _ => exact declared

theorem ancestors_of_declaration? {d : Declaration} (found : r.declaration? c = some d) :
    r.ancestors c = d.ancestors := by
  simp [ancestors, found]

theorem Sound.ancestors_present (sound : r.Sound) (there : r.Present c) :
    ∀ a ∈ r.ancestors c, r.Present a := by
  cases c with
  | known n =>
    intro a member
    obtain ⟨_, _, rfl⟩ := List.mem_map.mp (by simpa [ancestors, declaration?] using member)
    trivial
  | _ =>
    obtain ⟨d, found, own⟩ := there
    rw [ancestors_of_declaration? found]
    exact sound.present found own

theorem Sound.ancestors_eq_cons (sound : r.Sound) (there : r.Present c) (model : c.isModel) :
    ∃ rest, r.ancestors c = c :: rest := by
  cases c with
  | model slot =>
    obtain ⟨d, found, own⟩ := there
    rw [ancestors_of_declaration? found]
    exact List.head?_eq_some_iff.mp (sound.first found own)
  | _ => contradiction

theorem declaration?_of_declarations (same : after.declarations = r.declarations) :
    after.declaration? = r.declaration? := by
  funext c
  cases c <;> simp only [declaration?, same]

theorem present_of_declarations (same : after.declarations = r.declarations) (there : r.Present c) :
    after.Present c := by
  cases c with
  | known => trivial
  | _ => simpa only [Present, Declared, declaration?_of_declarations same] using there

theorem ancestors_of_declarations (same : after.declarations = r.declarations) (c : ClassRef) :
    after.ancestors c = r.ancestors c := by
  simp only [ancestors, declaration?_of_declarations same]

theorem Sound.of_declarations (sound : r.Sound) (same : after.declarations = r.declarations) :
    after.Sound where
  first found := sound.first (declaration?_of_declarations same ▸ found)
  present found own a member := present_of_declarations same
    (sound.present (declaration?_of_declarations same ▸ found) own a member)

/-- A registry with one class more, which has members of its own. -/
def extended (r : Registry) (d : Declaration) (members : List (String × Member)) : Registry :=
  { r with
    declarations := r.declarations.push d
    own := ((members ++ declare.undocumented).map fun m => ((d.ref, m.1), m.2)) ++ r.own }

/-- What a registry is after a class was declared under bases. -/
structure Declares (r : Registry) (name : String) (bases : List ClassRef)
    (members : List (String × Member)) (ref : ClassRef) (after : Registry) : Prop where
  ref_eq : ref = if bases.any ClassRef.isModel then .model r.declarations.size
    else .plain r.declarations.size
  extended : ∃ d, after = r.extended d members ∧ d.ref = ref ∧ d.name = name ∧ d.bases = bases ∧
    Linearization.ancestors? ref (bases.map r.ancestors) = some d.ancestors

theorem declares_of_declare (done : r.declare name bases members = .ok (ref, after)) :
    r.Declares name bases members ref after := by
  unfold declare at done
  dsimp only at done
  generalize named : (if bases.any ClassRef.isModel then ClassRef.model r.declarations.size
    else .plain r.declarations.size) = own at done
  simp only [bind, Except.bind, pure, Except.pure, throw, throwThe, MonadExceptOf.throw] at done
  repeat' split at done
  all_goals try contradiction
  rename_i merged
  obtain ⟨rfl, rfl⟩ := Prod.mk.inj (Except.ok.inj done)
  exact ⟨named.symm, _, rfl, rfl, rfl, rfl, merged⟩

/-- A class is declared if its name, its bases and their order allow it. -/
theorem declare_eq_ok (ref maker : ClassRef) {all : List ClassRef}
    (named : name.contains '\x00' = false)
    (made : r.commonMaker (bases.map r.classOfClass) = some maker)
    (once : bases.find? (fun b => 1 < bases.count b) = none)
    (ref_eq : ref = if bases.any ClassRef.isModel then .model r.declarations.size
      else .plain r.declarations.size)
    (merged : Linearization.ancestors? ref (bases.map r.ancestors) = some all) :
    r.declare name bases members =
      .ok (ref, r.extended { ref, name, bases, ancestors := all, maker } members) := by
  rw [declare, ← ref_eq]
  simp only [made, named, once, merged]
  rfl

namespace Declares

variable (new : r.Declares name bases members ref after)
include new

theorem configs : after.configs = r.configs := by
  obtain ⟨_, rfl, _⟩ := new.extended
  rfl

theorem isModel : ref.isModel = bases.any ClassRef.isModel := by
  rw [new.ref_eq]
  split <;> simp_all [ClassRef.isModel]

theorem declaration?_of_some {d : Declaration} (found : r.declaration? c = some d) :
    after.declaration? c = some d := by
  obtain ⟨_, rfl, _⟩ := new.extended
  cases c with
  | known => cases found
  | _ slot =>
    simp only [declaration?, Registry.extended] at found ⊢
    obtain ⟨within, rfl⟩ := Array.getElem?_eq_some_iff.mp found
    exact Array.getElem?_push_lt within

theorem declaration?_new : ∃ d, after.declaration? ref = some d ∧ d.ref = ref ∧
    Linearization.ancestors? ref (bases.map r.ancestors) = some d.ancestors := by
  obtain ⟨d, rfl, own, -, -, merged⟩ := new.extended
  refine ⟨d, ?_, own, merged⟩
  rw [new.ref_eq]
  split <;> simp [declaration?, Registry.extended]

theorem declared_mono (declared : r.Declared c) : after.Declared c :=
  let ⟨d, found, own⟩ := declared
  ⟨d, new.declaration?_of_some found, own⟩

theorem present_mono (there : r.Present c) : after.Present c := by
  cases c with
  | known => trivial
  | _ => exact new.declared_mono there

theorem present_new : after.Present ref := by
  obtain ⟨d, found, own, _⟩ := new.declaration?_new
  cases ref with
  | known => trivial
  | _ => exact ⟨d, found, own⟩

/-- A class is new when it is declared. -/
theorem absent : ¬ r.Present ref := by
  rw [new.ref_eq]
  split <;> rintro ⟨d, found, _⟩ <;> simp [declaration?] at found

/-- The root is there before any model is declared. -/
theorem ne_root (there : r.Declared c) : ref ≠ .root := by
  obtain ⟨d, found, _⟩ := there
  have filled : r.declarations.size ≠ 0 := by
    cases c with
    | known => cases found
    | _ slot => exact Nat.ne_of_gt (Nat.zero_lt_of_lt (Array.getElem?_eq_some_iff.mp found).1)
  rw [new.ref_eq]
  split <;> simp [ClassRef.root, filled]

/-- A declaration changes no ancestors. -/
theorem ancestors_eq (there : r.Present c) : after.ancestors c = r.ancestors c := by
  cases c with
  | known => rfl
  | _ =>
    obtain ⟨d, found, _⟩ := there
    rw [ancestors_of_declaration? found, ancestors_of_declaration? (new.declaration?_of_some found)]

theorem declaration?_cases {d : Declaration} (found : after.declaration? c = some d)
    (own : d.ref = c) : r.declaration? c = some d ∨
      c = ref ∧ Linearization.ancestors? ref (bases.map r.ancestors) = some d.ancestors := by
  obtain ⟨e, rfl, named, -, -, merged⟩ := new.extended
  cases c with
  | known => cases found
  | _ slot =>
    simp only [declaration?, Registry.extended, Array.getElem?_push] at found ⊢
    split at found
    · cases found
      exact .inr ⟨own ▸ named, merged⟩
    · exact .inl found

theorem sound (sound : r.Sound) (there : ∀ b ∈ bases, r.Present b) : after.Sound where
  first {c d} found own := by
    obtain old | ⟨rfl, merged⟩ := new.declaration?_cases found own
    · exact sound.first old own
    · obtain ⟨rest, all, _⟩ := Linearization.ancestors?_eq_some merged
      rw [all]
      rfl
  present {c d} found own a member := by
    obtain old | ⟨rfl, merged⟩ := new.declaration?_cases found own
    · exact new.present_mono (sound.present old own a member)
    · obtain ⟨rest, all, from_bases⟩ := Linearization.ancestors?_eq_some merged
      rw [all] at member
      obtain rfl | member := List.mem_cons.mp member
      · exact new.present_new
      · obtain ⟨chain, among, within⟩ := from_bases a member
        obtain ⟨b, base, rfl⟩ := List.mem_map.mp among
        exact new.present_mono (sound.ancestors_present (there b base) a within)

end Declares

theorem declaration?_initial {d : Declaration} (found : initial.declaration? c = some d) :
    d.ref = .root ∧ d.ancestors = [.root, .object] := by
  cases c with
  | known => cases found
  | _ slot =>
    obtain ⟨within, rfl⟩ := Array.getElem?_eq_some_iff.mp found
    obtain rfl : slot = 0 := by simpa [initial] using within
    exact ⟨rfl, rfl⟩

theorem sound_initial : initial.Sound where
  first found own := by
    obtain ⟨named, all⟩ := declaration?_initial found
    rw [all, ← own, named]
    rfl
  present found own a member := by
    rw [(declaration?_initial found).2] at member
    obtain rfl | rfl : a = .root ∨ a = .object := by simpa using member
    · exact ⟨_, rfl, rfl⟩
    · trivial

end Registry

end DocMapper
