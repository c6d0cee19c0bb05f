import DocMapper.Proofs.Members

/-!
Objects that nothing was done to.  As long as nothing is set on the classes of the library, nor on
an object of one of them, its names reach the functions that the library has.
-/

namespace DocMapper

/-- What a class of the library has under a name, or else the first that it refines. -/
def Interface.inherited? (c name : String) : Option (ClassRef × Member) :=
  ((lineage c).map .known).findSome? fun d => (member? d name).map (d, ·)

/-- Nothing was set on the classes of the library. -/
def Registry.Pristine (r : Registry) : Prop :=
  ∀ c name, r.own.lookup (.known c, name) = none

namespace Registry.Pristine

variable {r : Registry} (h : r.Pristine)
include h

theorem ownMember? (c name : String) :
    r.ownMember? (.known c) name = Interface.member? (.known c) name := by
  simp [Registry.ownMember?, h c name]

theorem member? (c name : String) : r.member? (.known c) name = Interface.inherited? c name := by
  simp only [Registry.member?, Registry.ancestors, declaration?, Interface.inherited?,
    List.findSome?_map, Function.comp_def, h.ownMember?]

end Registry.Pristine

namespace Store

/-- Nothing was set on an object, and it is of the class that its handle says. -/
structure Bare (st : Store) (h : Handle) : Prop where
  extras : ∀ name, st.extras.lookup (.handle h, name) = none
  refined : st.refined.lookup h = none

variable {st after : Store} {h : Handle}

theorem Bare.of_setting (bare : st.Bare h) (setting : after.setting = st.setting) :
    after.Bare h := by
  simp only [Store.setting, Setting.mk.injEq] at setting
  constructor
  · intro name
    rw [setting.2.1, bare.extras]
  · rw [setting.2.2, bare.refined]

theorem Bare.extraOf? (bare : st.Bare h) (name : String) : st.extraOf? (.handle h) name = none := by
  simp [Store.extraOf?, Holder.of?, bare.extras]

theorem Bare.classOf (bare : st.Bare h) : st.classOf (.handle h) = h.cls := by
  simp [Store.classOf, bare.refined]

theorem Bare.member? {c : String} (bare : st.Bare h) (pristine : st.registry.Pristine)
    (cls : h.cls = .known c) (name : String) :
    st.member? (.handle h) name = Interface.inherited? c name := by
  change st.registry.member? (st.classOf (.handle h)) name = _
  rw [bare.classOf, cls, pristine.member?]

theorem Bare.usual {c name : String} {owner : ClassRef} {m : Method} (bare : st.Bare h)
    (pristine : st.registry.Pristine) (cls : h.cls = .known c)
    (found : Interface.inherited? c name = some (owner, .method m)) :
    st.usual (.handle h) owner name := by
  simp [Store.usual, bare.extraOf?, bare.member? pristine cls, found]

end Store

namespace Act

variable {names : Names} {n : Nat} {waiting : Waiting} {args : List Value} {named : Entries}
variable {st : Store} {h : Handle} {c owner name : String} {m : Method} {a : Arguments}

/-- A call of a function of the library on an object that nothing was done to. -/
theorem outcome_call_bare (bare : st.Bare h) (pristine : st.registry.Pristine)
    (cls : h.cls = .known c)
    (found : Interface.inherited? c name = some (.known owner, .method m))
    (place : (readPlace? (.handle h) name).outcome st = (.ok none, st))
    (bind : m.bind (.handle h :: args) named = .ok a)
    (fits : m.waits = true ∧ waiting = .always ∨ m.waits = false ∧ waiting = .never) :
    ((dispatch names (n + 1)).call waiting (.handle h) name args named).outcome st =
      (performMethod (dispatch names n) m a).outcome st.identified := by
  have usual := bare.usual pristine cls found
  have own : st.registry.ownMember? (.known owner) name = some (.method m) := by
    have member := bare.member? pristine cls name
    rw [found] at member
    exact Registry.own_of_member member
  exact outcome_call_method (by simp) usual own place bind fits

end Act

end DocMapper
