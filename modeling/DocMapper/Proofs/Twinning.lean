import DocMapper.Method
import DocMapper.Proofs.Retaining
import Mathlib.Tactic.ByContra

/-!
What copies hold.  The copy of an instance, of a builder or of a struct holds a copy of what that
holds, and converts as that does; and what was there before holds what it held.
-/

namespace DocMapper

/-- An object of the same kind and class, in another slot. -/
def Handle.moved (i : Nat) : Handle → Handle
  | .document c _ => .document c i
  | .query k _ => .query k i
  | .pipeline c _ => .pipeline c i
  | .record k c _ => .record k c i
  | h => h

/-- Where a store keeps what an object holds. -/
def Handle.shelf? : Handle → Option (Nat × Nat)
  | .document _ i => some (0, i)
  | .query _ i => some (1, i)
  | .pipeline _ i => some (2, i)
  | .record _ _ i => some (3, i)
  | _ => none

def Holder.shelf? : Holder → Option (Nat × Nat)
  | .handle h => h.shelf?
  | _ => none

namespace Store

/-- What an object holds: its fields, its criteria or its stages. -/
def within? (st : Store) : Handle → Option Value
  | .document _ i => st.documents[i]?.map Document.fields
  | .query _ i => st.queries[i]?.map Query.toJson
  | .pipeline _ i => st.pipelines[i]?.map Pipeline.toJson
  | .record _ _ i => st.records[i]?.map .dict
  | _ => none

/-- Whether an object is converted by the function that the library has for that, and by no other. -/
def convertsAs (st : Store) (h : Handle) (owner : ClassRef) : Bool :=
  (st.extraOf? (.handle h) "model_dump").isNone && (st.member? (.handle h) "model_dump").isNone &&
    st.usual (.handle h) owner "to_json" && (st.registry.own.lookup (owner, "to_json")).isNone

/-- Whether an object is stored as what it holds is: a struct, or an instance or a builder that
converts as those of the library do. -/
def converts (st : Store) (h : Handle) : Bool :=
  match h with
  | .document .. => st.convertsAs h .root
  | .query .. => st.convertsAs h Act.queryClass
  | .pipeline .. => st.convertsAs h Act.pipelineClass
  | .record .struct .. => true
  | _ => false

/-- What is stored in the place of an object. -/
def standIn? (st : Store) : Value → Option Value
  | .handle h => if st.converts h then st.within? h else none
  | _ => none

/-- An object that is still to come. -/
def Ahead (st : Store) (h : Handle) : Prop := h.shelf?.isSome ∧ st.within? h = none

/-- Nothing is set on what is still to come. -/
structure Tidy (st : Store) : Prop where
  extras : ∀ h, st.Ahead h → ∀ name, st.extras.lookup (.handle h, name) = none
  refined : ∀ h, st.Ahead h → st.refined.lookup h = none

variable {st mid now after : Store} {cs ds : Counterparts} {h k l : Handle} {g : Holder} {w : Value}

theorem within?_eq (same : h.shelf? = k.shelf?) (kept : h.shelf?.isSome) :
    st.within? h = st.within? k := by
  cases h <;> cases kept <;> cases k <;> cases same <;> rfl

theorem shelf?_of_within? (holds : st.within? h = some w) : h.shelf?.isSome := by
  cases h <;> first | rfl | cases holds

theorem handle_of_shelf? (same : g.shelf? = h.shelf?) (kept : h.shelf?.isSome) :
    ∃ l, g = .handle l ∧ l.shelf? = h.shelf? := by
  cases g
  case handle l => exact ⟨l, rfl, same⟩
  all_goals
    rw [← same] at kept
    cases kept

theorem standIn?_eq_some {u : Value} :
    st.standIn? u = some w ↔ ∃ h, u = .handle h ∧ st.converts h ∧ st.within? h = some w := by
  cases u
  case handle h => simp [standIn?]
  all_goals simp [standIn?]

theorem convertsAs_of {owner : ClassRef} (converts : st.convertsAs h owner) (cls : k.cls = h.cls)
    (own : after.registry.own = st.registry.own)
    (declarations : after.registry.declarations = st.registry.declarations)
    (refined : after.refined.lookup k = st.refined.lookup h)
    (extras : ∀ name, st.extras.lookup (.handle h, name) = none →
      after.extras.lookup (.handle k, name) = none) : after.convertsAs k owner := by
  have member (name : String) : after.member? (.handle k) name = st.member? (.handle h) name := by
    simp only [Store.member?, classOf, refined, cls, Registry.member?, Registry.ancestors,
      Registry.declaration?, Registry.ownMember?, own, declarations]
  simp only [convertsAs, usual, Store.extraOf?, Holder.of?, Option.bind_some, Bool.and_eq_true,
    Option.isNone_iff_eq_none] at converts ⊢
  rw [member, member, own]
  obtain ⟨⟨⟨dump, plain⟩, json, owned⟩, unset⟩ := converts
  exact ⟨⟨⟨extras _ dump, plain⟩, extras _ json, owned⟩, unset⟩

/-- Objects of one class convert alike as long as nothing gets in the way that is set on them. -/
theorem converts_of (converts : st.converts h) (alike : ∃ i, k = h.moved i)
    (own : after.registry.own = st.registry.own)
    (declarations : after.registry.declarations = st.registry.declarations)
    (refined : after.refined.lookup k = st.refined.lookup h)
    (extras : ∀ name, st.extras.lookup (.handle h, name) = none →
      after.extras.lookup (.handle k, name) = none) : after.converts k := by
  obtain ⟨i, rfl⟩ := alike
  cases h
  case document | query | pipeline =>
    exact convertsAs_of converts rfl own declarations refined extras
  case record k c j => cases k <;> first | rfl | cases converts
  all_goals cases converts

theorem moved_self (h : Handle) : ∃ i, h = h.moved i := by
  cases h <;> first | exact ⟨_, rfl⟩ | exact ⟨0, rfl⟩

section

variable (duplicate : st.duplicate h = some (k, after))
include duplicate

/-- A second record holds what the first one does, in a slot that was free. -/
theorem duplicate_within (holds : st.within? h = some w) :
    (∃ i, k = h.moved i) ∧ after.within? k = some w := by
  cases h
  case document | query | pipeline | record =>
    obtain ⟨x, there, rfl⟩ := Option.map_eq_some_iff.mp holds
    cases duplicate
    exact ⟨⟨_, rfl⟩, by simp [within?, Array.getD_eq_getD_getElem?, there]⟩
  all_goals cases holds

theorem duplicate_fresh (kept : k.shelf?.isSome) : st.within? k = none ∧ after.within? k ≠ none := by
  cases h <;> cases duplicate <;> first | (cases kept; done) | simp [within?]

theorem duplicate_kept (holds : st.within? l = some w) : after.within? l = some w := by
  cases l
  case document | query | pipeline | record =>
    obtain ⟨x, there, rfl⟩ := Option.map_eq_some_iff.mp holds
    obtain ⟨inside, -⟩ := Array.getElem?_eq_some_iff.mp there
    have other := Nat.ne_of_lt inside
    cases h <;> cases duplicate <;> simp [within?, there, Array.getElem?_push, other]
  all_goals cases holds

end

theorem lookup_refineLike (st : Store) (h k : Handle) :
    (st.refineLike h k).refined.lookup k = (st.refined.lookup h).or (st.refined.lookup k) := by
  unfold refineLike
  split
  · rename_i same
    simp [same]
  · rename_i none
    simp [none]

/-- No two counterparts are in one slot. -/
def Distinct (cs : Counterparts) : Prop :=
  cs.Pairwise fun p q => ∀ s, p.2.shelf? = some s → q.2.shelf? ≠ some s

theorem Distinct.eq (apart : Distinct cs) {p q : Holder × Holder} {s : Nat × Nat} (hp : p ∈ cs)
    (hq : q ∈ cs) (left : p.2.shelf? = some s) (right : q.2.shelf? = some s) : p = q := by
  induction apart with
  | nil => cases hp
  | @cons r cs far _ ih =>
    cases List.mem_cons.mp hp with
    | inl first =>
      cases List.mem_cons.mp hq with
      | inl second => rw [first, second]
      | inr later => exact absurd right (far q later s (first ▸ left))
    | inr later =>
      cases List.mem_cons.mp hq with
      | inl first => exact absurd left (far p later s (first ▸ right))
      | inr last => exact ih later last

/-- The counterparts made so far hold what those hold that they are made for, and nothing was done to
what was there. -/
structure Twins (st : Store) (cs : Counterparts) (now : Store) : Prop where
  own : now.registry.own = st.registry.own
  declarations : now.registry.declarations = st.registry.declarations
  extras : now.extras = st.extras
  kept : ∀ g w, st.within? g = some w → now.within? g = some w
  refined : ∀ g, st.within? g ≠ none ∨ now.Ahead g → now.refined.lookup g = st.refined.lookup g
  fresh : ∀ p ∈ cs, ∀ k, p.2 = .handle k → k.shelf?.isSome →
    st.within? k = none ∧ now.within? k ≠ none
  apart : Distinct cs
  twin : ∀ h k w, (.handle h, .handle k) ∈ cs → st.within? h = some w →
    (∃ i, k = h.moved i) ∧ now.within? k = some w ∧
      now.refined.lookup k = st.refined.lookup h

namespace Twins

theorem init (st : Store) : Twins st [] st where
  own := rfl
  declarations := rfl
  extras := rfl
  kept _ _ := id
  refined _ _ := rfl
  fresh _ none := absurd none List.not_mem_nil
  apart := .nil
  twin _ _ _ none := absurd none List.not_mem_nil

section

variable (t : Twins st cs now)
include t

theorem still (holds : st.within? h ≠ none) : now.within? h ≠ none := by
  obtain ⟨w, holds⟩ := Option.ne_none_iff_exists'.mp holds
  rw [t.kept h w holds]
  exact Option.some_ne_none w

theorem ahead (later : now.Ahead h) : st.Ahead h :=
  ⟨later.1, by_contra fun holds => t.still holds later.2⟩

/-- One more counterpart, and the store with it. -/
theorem step (own : after.registry.own = now.registry.own)
    (declarations : after.registry.declarations = now.registry.declarations)
    (extras : after.extras = now.extras)
    (kept : ∀ g w, now.within? g = some w → after.within? g = some w)
    (refined : ∀ g, now.within? g ≠ none ∨ after.Ahead g →
      after.refined.lookup g = now.refined.lookup g) {l : Holder}
    (fresh : ∀ k, l = .handle k → k.shelf?.isSome → now.within? k = none ∧ after.within? k ≠ none)
    (twin : ∀ h k w, g = .handle h → l = .handle k → st.within? h = some w →
      (∃ i, k = h.moved i) ∧ after.within? k = some w ∧
        after.refined.lookup k = st.refined.lookup h) : Twins st ((g, l) :: cs) after := by
  have before {h : Handle} (holds : now.within? h ≠ none) : after.within? h ≠ none := by
    obtain ⟨w, holds⟩ := Option.ne_none_iff_exists'.mp holds
    rw [kept h w holds]
    exact Option.some_ne_none w
  refine ⟨own.trans t.own, declarations.trans t.declarations, extras.trans t.extras,
    fun g w holds => kept g w (t.kept g w holds), fun g there => ?_, ?_, ?_, ?_⟩
  · have early : now.within? g ≠ none ∨ after.Ahead g := there.imp_left t.still
    rw [refined g early]
    exact t.refined g (there.imp_right fun later =>
      ⟨later.1, by_contra fun holds => before holds later.2⟩)
  · intro p member k is kept
    cases List.mem_cons.mp member with
    | inl new =>
      rw [new] at is
      obtain ⟨free, taken⟩ := fresh k is kept
      exact ⟨by_contra fun holds => t.still holds free, taken⟩
    | inr old =>
      obtain ⟨free, taken⟩ := t.fresh p old k is kept
      exact ⟨free, before taken⟩
  · refine .cons (fun q old s new same => ?_) t.apart
    obtain ⟨g', l'⟩ := q
    cases l <;> cases l' <;> first | cases new | cases same | skip
    rename_i k k'
    have kept : k.shelf?.isSome := Option.isSome_of_mem new
    have also : k'.shelf? = k.shelf? := same.trans new.symm
    have taken := (t.fresh _ old k' rfl (also ▸ kept)).2
    rw [within?_eq also (also ▸ kept)] at taken
    exact taken (fresh k rfl kept).1
  · intro h k w member holds
    cases List.mem_cons.mp member with
    | inl new =>
      cases new
      exact twin h k w rfl rfl holds
    | inr old =>
      obtain ⟨moved, there, same⟩ := t.twin h k w old holds
      refine ⟨moved, kept k w there, ?_⟩
      rw [refined k (.inl (by rw [there]; exact Option.some_ne_none w)), same]

/-- A second record, as a counterpart of an object of the class that the object is refined to. -/
theorem duplicated (tidy : st.Tidy) (duplicate : now.duplicate h = some (k, mid)) :
    Twins st ((.handle h, .handle k) :: cs) (mid.refineLike h k) := by
  obtain ⟨r, extras, refined, -⟩ := duplicate_doubles duplicate
  obtain ⟨more, same, others⟩ := refineLike_eq mid h k
  have last := lookup_refineLike mid h k
  rw [same] at last ⊢
  have own : { mid with refined := more }.registry.own = now.registry.own := r.own
  have kept (g : Handle) (w : Value) (holds : now.within? g = some w) : mid.within? g = some w :=
    duplicate_kept duplicate holds
  refine t.step own r.declarations extras kept ?_ ?_ ?_
  · intro g there
    have other : g ≠ k := by
      rintro rfl
      obtain here | later := there
      · obtain ⟨w, holds⟩ := Option.ne_none_iff_exists'.mp here
        exact here (duplicate_fresh duplicate (shelf?_of_within? holds)).1
      · exact (duplicate_fresh duplicate later.1).2 later.2
    exact (others g other).trans (by rw [refined])
  · rintro _ ⟨⟩ kept
    have free := duplicate_fresh duplicate kept
    exact free
  · rintro _ _ w ⟨⟩ ⟨⟩ holds
    obtain ⟨moved, there⟩ := duplicate_within duplicate (t.kept h w holds)
    refine ⟨moved, there, ?_⟩
    have later : now.Ahead k := by
      have kept := shelf?_of_within? there
      exact ⟨kept, (duplicate_fresh duplicate kept).1⟩
    have free : now.refined.lookup k = none := by
      rw [t.refined k (.inr later), tidy.refined k (t.ahead later)]
    have here : now.refined.lookup h = st.refined.lookup h :=
      t.refined h (.inl (by rw [holds]; exact Option.some_ne_none w))
    rw [last, refined, free, Option.or_none, here]

theorem accompany (tidy : st.Tidy) (g : Holder) :
    Twins st (Store.accompany (cs, now) g).1 (Store.accompany (cs, now) g).2 := by
  -- a counterpart that holds nothing, with no record of its own
  have apart {l : Holder} {after : Store} (none : l.shelf? = none) (other : g.shelf? = Option.none)
      (own : after.registry.own = now.registry.own)
      (declarations : after.registry.declarations = now.registry.declarations)
      (extras : after.extras = now.extras)
      (kept : ∀ g w, now.within? g = some w → after.within? g = some w)
      (refined : after.refined = now.refined) : Twins st ((g, l) :: cs) after := by
    refine t.step own declarations extras kept (fun _ _ => by rw [refined]) ?_ ?_
    · rintro k rfl kept
      exact absurd (none ▸ kept : (Option.none : Option (Nat × Nat)).isSome) Bool.false_ne_true
    · rintro h k w rfl rfl holds
      have kept := shelf?_of_within? holds
      exact absurd (other ▸ kept : (Option.none : Option (Nat × Nat)).isSome) Bool.false_ne_true
  unfold Store.accompany
  dsimp only
  split
  · split
    · rename_i found
      obtain ⟨-, -, n, -, rfl⟩ := counterpartOptions_eq found
      exact apart rfl rfl rfl rfl rfl (fun _ _ => id) rfl
    · rename_i duplicate
      obtain ⟨r, extras, refined, -⟩ := duplicate_doubles duplicate
      refine apart ?_ rfl r.own r.declarations extras (fun _ _ => duplicate_kept duplicate) refined
      cases duplicate
      rfl
    · exact t
  · split
    · rename_i duplicate
      exact t.duplicated tidy duplicate
    · exact t
  · exact apart rfl rfl rfl rfl rfl (fun _ _ => id) rfl
  · exact t

omit t in
theorem foldl_accompany (t : Twins st cs now) (tidy : st.Tidy) (gs : List Holder) :
    Twins st (gs.foldl Store.accompany (cs, now)).1 (gs.foldl Store.accompany (cs, now)).2 := by
  induction gs generalizing cs now with
  | nil => exact t
  | cons g gs ih => exact ih (t.accompany tidy g)

end

end Twins

section

theorem mapParts_setting (st : Store) (f : Value → Value) (h : Handle) :
    (st.mapParts f h).registry.own = st.registry.own ∧
      (st.mapParts f h).registry.declarations = st.registry.declarations ∧
      (st.mapParts f h).extras = st.extras ∧ (st.mapParts f h).refined = st.refined := by
  cases h <;> exact ⟨rfl, rfl, rfl, rfl⟩

theorem mapParts_within (st : Store) (cs : Counterparts) (h : Handle) :
    (st.mapParts (renamed cs) h).within? h = (st.within? h).map (renamed cs) := by
  cases h
  case document c i =>
    simp [Store.mapParts, within?, Array.getElem?_modify, Document.mapParts, Function.comp_def]
  case query k i =>
    have json (q : Query) : (q.mapParts (renamed cs)).toJson = renamed cs q.toJson := by
      cases instead : q.instead with
      | none => simp [Query.toJson, Query.mapParts, instead, Value.renamed_dict]
      | some v => simp [Query.toJson, Query.mapParts, instead]
    simp [Store.mapParts, within?, Array.getElem?_modify, Function.comp_def, json]
  case pipeline c i =>
    have json (p : Pipeline) : (p.mapParts (renamed cs)).toJson = renamed cs p.toJson := by
      cases instead : p.instead with
      | none => simp [Pipeline.toJson, Pipeline.mapParts, instead, Value.renamed_list]
      | some v => simp [Pipeline.toJson, Pipeline.mapParts, instead]
    simp [Store.mapParts, within?, Array.getElem?_modify, Function.comp_def, json]
  case record k c i =>
    simp [Store.mapParts, within?, Array.getElem?_modify, Function.comp_def, Value.renamed_dict]
  all_goals rfl

theorem mapParts_other (st : Store) (f : Value → Value) (apart : h.shelf? ≠ k.shelf?) :
    (st.mapParts f h).within? k = st.within? k := by
  cases k
  case document | query | pipeline | record =>
    cases h <;> first | rfl | skip
    simp only [Handle.shelf?, ne_eq, Option.some.injEq, Prod.mk.injEq, true_and] at apart
    simp [Store.mapParts, within?, Array.getElem?_modify, apart]
  all_goals cases h <;> rfl

theorem adapt_other {p : Holder × Holder} (apart : p.2.shelf? ≠ k.shelf?) :
    (adapt cs st p).within? k = st.within? k := by
  obtain ⟨g, l⟩ := p
  cases l
  case handle l => exact mapParts_other st _ apart
  all_goals rfl

theorem foldl_adapt_other (apart : ∀ p ∈ ds, p.2.shelf? ≠ k.shelf?) :
    (ds.foldl (adapt cs) st).within? k = st.within? k := by
  induction ds generalizing st with
  | nil => rfl
  | cons p ds ih =>
    obtain ⟨first, rest⟩ := List.forall_mem_cons.mp apart
    exact (ih rest).trans (adapt_other first)

/-- Each counterpart is adapted once. -/
theorem foldl_adapt_within (distinct : Distinct ds) (there : (g, .handle k) ∈ ds)
    (kept : k.shelf?.isSome) :
    (ds.foldl (adapt cs) st).within? k = (st.within? k).map (renamed cs) := by
  obtain ⟨s, kept⟩ := Option.isSome_iff_exists.mp kept
  induction distinct generalizing st with
  | nil => cases there
  | @cons p ds far _ ih =>
    cases List.mem_cons.mp there with
    | inl first =>
      subst first
      have rest : ∀ q ∈ ds, q.2.shelf? ≠ k.shelf? := fun q later same =>
        far q later s kept (same.trans kept)
      exact (foldl_adapt_other rest).trans (mapParts_within st cs k)
    | inr later =>
      have other : p.2.shelf? ≠ k.shelf? := fun same => far _ later s (same.trans kept) kept
      exact (ih later).trans (congrArg _ (adapt_other other))

theorem foldl_adapt_setting (cs ds : Counterparts) (st : Store) :
    (ds.foldl (adapt cs) st).registry.own = st.registry.own ∧
      (ds.foldl (adapt cs) st).registry.declarations = st.registry.declarations ∧
      (ds.foldl (adapt cs) st).extras = st.extras ∧
      (ds.foldl (adapt cs) st).refined = st.refined := by
  induction ds generalizing st with
  | nil => exact ⟨rfl, rfl, rfl, rfl⟩
  | cons p ds ih =>
    obtain ⟨g, l⟩ := p
    cases l
    case handle l =>
      obtain ⟨own, declarations, extras, refined⟩ := mapParts_setting st (renamed cs) l
      obtain ⟨own', declarations', extras', refined'⟩ := ih (st.mapParts (renamed cs) l)
      exact ⟨own'.trans own, declarations'.trans declarations, extras'.trans extras,
        refined'.trans refined⟩
    all_goals exact ih st

/-- What is set on no object with a counterpart of its own is set on the counterpart of none. -/
theorem lookup_spread {name : String}
    (unset : ∀ e ∈ st.extras, cs.lookup e.1.1 = some (.handle k) → e.1.2 ≠ name) :
    (spread cs st).extras.lookup (.handle k, name) = st.extras.lookup (.handle k, name) := by
  have none : (st.extras.filterMap fun e =>
      (cs.lookup e.1.1).map fun h => ((h, e.1.2), renamed cs e.2)).lookup (.handle k, name) =
      none := by
    rw [List.lookup_eq_none_iff]
    intro p hp
    obtain ⟨e, there, he⟩ := List.mem_filterMap.mp hp
    obtain ⟨l, found, rfl⟩ := Option.map_eq_some_iff.mp he
    have other : ¬(.handle k = l ∧ name = e.1.2) := by
      rintro ⟨rfl, same⟩
      exact unset e there found same.symm
    simpa using other
  rw [spread, List.lookup_append, none, Option.none_or]

theorem mem_of_lookup {l : Holder} (found : cs.lookup g = some l) : (g, l) ∈ cs := by
  obtain ⟨before, behind, split, -⟩ := List.lookup_eq_some_iff.mp found
  exact split ▸ by simp

end

/-- What is stored in the place of an object still is, and a copy of it in the place of the object's
counterpart. -/
structure Mirrors (st : Store) (cs : Counterparts) (after : Store) : Prop where
  tidy : after.Tidy
  stays : ∀ u w, st.standIn? u = some w → after.standIn? u = some w
  mirrors : ∀ h k w, st.standIn? (.handle h) = some w → cs.lookup (.handle h) = some (.handle k) →
    after.standIn? (.handle k) = some (renamed cs w)

/-- The store once every counterpart is adapted. -/
def adapted (cs : Counterparts) (now : Store) : Store := spread cs (cs.foldl (adapt cs) now)

theorem within?_adapted (cs : Counterparts) (now : Store) (h : Handle) :
    (adapted cs now).within? h = (cs.foldl (adapt cs) now).within? h := by
  cases h <;> rfl

theorem adapted_other (apart : ∀ p ∈ cs, p.2.shelf? ≠ h.shelf?) :
    (adapted cs now).within? h = now.within? h := by
  rw [within?_adapted, foldl_adapt_other apart]

theorem adapted_within (distinct : Distinct cs) (there : (g, .handle k) ∈ cs)
    (kept : k.shelf?.isSome) : (adapted cs now).within? k = (now.within? k).map (renamed cs) := by
  rw [within?_adapted, foldl_adapt_within distinct there kept]

namespace Twins

section

variable (t : Twins st cs now)
include t

theorem adapted_setting : (adapted cs now).registry.own = st.registry.own ∧
    (adapted cs now).registry.declarations = st.registry.declarations ∧
    (cs.foldl (adapt cs) now).extras = st.extras ∧ (adapted cs now).refined = now.refined := by
  obtain ⟨own, declarations, extras, refined⟩ := foldl_adapt_setting cs cs now
  exact ⟨own.trans t.own, declarations.trans t.declarations, extras.trans t.extras, refined⟩

/-- A counterpart is in no slot where something was, and every one is filled. -/
theorem counterpart_fresh {p : Holder × Holder} (member : p ∈ cs) (same : p.2.shelf? = h.shelf?)
    (kept : h.shelf?.isSome) : st.within? h = none ∧ now.within? h ≠ none := by
  obtain ⟨l, is, alike⟩ := handle_of_shelf? same kept
  rw [← within?_eq alike (alike ▸ kept), ← within?_eq alike (alike ▸ kept)]
  exact t.fresh p member l is (alike ▸ kept)

theorem apart_of_within (holds : st.within? h = some w) : ∀ p ∈ cs, p.2.shelf? ≠ h.shelf? := by
  intro p member same
  rw [(t.counterpart_fresh member same (shelf?_of_within? holds)).1] at holds
  cases holds

/-- What is still to come in the end was so all along, and is the counterpart of nothing. -/
theorem ahead_adapted (later : (adapted cs now).Ahead h) :
    now.Ahead h ∧ ∀ p ∈ cs, p.2.shelf? ≠ h.shelf? := by
  obtain ⟨kept, free⟩ := later
  have apart : ∀ p ∈ cs, p.2.shelf? ≠ h.shelf? := by
    rintro ⟨g, l⟩ member same
    have taken := (t.counterpart_fresh member same kept).2
    obtain ⟨l, rfl, alike⟩ := handle_of_shelf? same kept
    rw [← within?_eq alike (alike ▸ kept)] at free taken
    rw [adapted_within t.apart member (alike ▸ kept), Option.map_eq_none_iff] at free
    exact taken free
  rw [adapted_other apart] at free
  exact ⟨⟨kept, free⟩, apart⟩

theorem lookup_apart (apart : ∀ p ∈ cs, p.2.shelf? ≠ h.shelf?) (name : String) :
    (adapted cs now).extras.lookup (.handle h, name) = st.extras.lookup (.handle h, name) := by
  rw [adapted, lookup_spread fun e _ found => absurd rfl (apart _ (mem_of_lookup found)),
    t.adapted_setting.2.2.1]

/-- What is not set on an object is not set on its counterpart. -/
theorem lookup_counterpart {name : String} (tidy : st.Tidy) (member : (.handle h, .handle k) ∈ cs)
    (kept : k.shelf?.isSome) (none : st.extras.lookup (.handle h, name) = none) :
    (adapted cs now).extras.lookup (.handle k, name) = Option.none := by
  have extras := t.adapted_setting.2.2.1
  have before : st.Ahead k := ⟨kept, (t.fresh _ member k rfl kept).1⟩
  rw [adapted, lookup_spread fun e set found => ?_, extras, tidy.extras k before]
  rintro rfl
  obtain ⟨s, shelf⟩ := Option.isSome_iff_exists.mp kept
  have one := t.apart.eq (mem_of_lookup found) member shelf shelf
  rw [extras] at set
  have other := List.lookup_eq_none_iff.mp none e set
  have same : (Holder.handle h, e.1.2) = e.1 := Prod.ext (congrArg Prod.fst one).symm rfl
  simp [same] at other

theorem mirrors (tidy : st.Tidy) : st.Mirrors cs (adapted cs now) := by
  obtain ⟨own, declarations, -, refined⟩ := t.adapted_setting
  refine ⟨⟨fun h later name => ?_, fun h later => ?_⟩, fun u w stands => ?_,
    fun h k w stands found => ?_⟩
  · obtain ⟨later, apart⟩ := t.ahead_adapted later
    rw [t.lookup_apart apart, tidy.extras h (t.ahead later)]
  · obtain ⟨later, -⟩ := t.ahead_adapted later
    rw [refined, t.refined h (.inr later), tidy.refined h (t.ahead later)]
  · obtain ⟨h, rfl, converts, holds⟩ := standIn?_eq_some.mp stands
    have here : st.within? h ≠ none := by rw [holds]; exact Option.some_ne_none w
    have apart := t.apart_of_within holds
    refine standIn?_eq_some.mpr ⟨h, rfl, ?_, ?_⟩
    · refine converts_of converts (moved_self h) own declarations ?_ fun name none => ?_
      · rw [refined, t.refined h (.inl here)]
      · rw [t.lookup_apart apart, none]
    · rw [adapted_other apart, t.kept h w holds]
  · obtain ⟨_, ⟨⟩, converts, holds⟩ := standIn?_eq_some.mp stands
    have member := mem_of_lookup found
    obtain ⟨moved, there, same⟩ := t.twin h k w member holds
    have kept := shelf?_of_within? there
    refine standIn?_eq_some.mpr ⟨k, rfl, ?_, ?_⟩
    · refine converts_of converts moved own declarations ?_ fun name =>
        t.lookup_counterpart tidy member kept
      rw [refined, same]
    · rw [adapted_within t.apart member kept, there, Option.map_some]

end

end Twins

/-- A copy of a value mirrors all that the value leads to. -/
theorem cloned_mirrors (tidy : st.Tidy) (v : Value) : st.cloned v = (v, st) ∨
    ∃ cs, (st.cloned v).1 = renamed cs v ∧ st.Mirrors cs (st.cloned v).2 := by
  unfold cloned
  split
  · exact .inl rfl
  · exact .inr ⟨_, rfl, ((Twins.init st).foldl_accompany tidy _).mirrors tidy⟩

end Store

end DocMapper
