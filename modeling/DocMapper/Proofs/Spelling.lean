import DocMapper.Proofs.Places
import DocMapper.Proofs.Twinning
import Mathlib.Data.List.Forall2

/-!
Values spelled out.  An instance gives way to its fields, a builder to its criteria or its stages and
a struct to its fields, however deep they are nested; what that comes to stays the same while copies
are made.
-/

namespace DocMapper

namespace Value

variable {convert : Value → Option Value} {v r : Value} {xs ys : List Value}

theorem storedItems_eq_some : storedItems convert xs = some ys ↔
    List.Forall₂ (fun x y => x.stored convert = some y) xs ys := by
  induction xs generalizing ys with
  | nil =>
    rw [List.forall₂_nil_left_iff]
    exact ⟨fun same => (Option.some.inj same).symm, fun same => by rw [same]; rfl⟩
  | cons x xs ih =>
    rw [List.forall₂_cons_left_iff]
    constructor
    · intro stored
      obtain ⟨y, first, stored⟩ := Option.bind_eq_some_iff.mp stored
      obtain ⟨zs, rest, stored⟩ := Option.bind_eq_some_iff.mp stored
      cases stored
      exact ⟨y, zs, first, ih.mp rest, rfl⟩
    · rintro ⟨y, zs, first, rest, rfl⟩
      exact Option.bind_eq_some_iff.mpr ⟨y, first, Option.bind_eq_some_iff.mpr ⟨zs, ih.mpr rest, rfl⟩⟩

theorem stored_data_eq_some (data : ¬v.isObject) : v.stored convert = some r ↔
    ∃ ys, List.Forall₂ (fun x y => x.stored convert = some y) v.inner ys ∧ v.refilled ys = r := by
  rw [stored_data convert data]
  simp only [Option.map_eq_map, Option.map_eq_some_iff, storedItems_eq_some]

/-- What holds of objects and what they are stored as, and of containers as soon as it holds of all
that stands in them, holds of every value and its stored form. -/
theorem stored_induct {P : Value → Value → Prop}
    (objects : ∀ u r, u.isObject → convert u = some r → P u r)
    (data : ∀ v ys, ¬v.isObject → List.Forall₂ P v.inner ys → P v (v.refilled ys))
    (stored : v.stored convert = some r) : P v r := by
  induction v using inner_induct generalizing r with
  | step v ih =>
    by_cases object : v.isObject
    · rw [stored_object _ object] at stored
      exact objects v r object stored
    · obtain ⟨ys, each, rfl⟩ := (stored_data_eq_some object).mp stored
      refine data v ys object (List.forall₂_iff_get.mpr ?_)
      obtain ⟨size, each⟩ := List.forall₂_iff_get.mp each
      exact ⟨size, fun i hi hj => ih _ (List.get_mem ..) (each i hi hj)⟩

/-- Objects that are stored alike make for values that are. -/
theorem stored_mono {other : Value → Option Value}
    (objects : ∀ u r, u.isObject → convert u = some r → other u = some r)
    (stored : v.stored convert = some r) : v.stored other = some r := by
  refine stored_induct (P := fun v r => v.stored other = some r) (fun u r object same => ?_)
    (fun v ys data each => (stored_data_eq_some data).mpr ⟨ys, each, rfl⟩) stored
  rw [stored_object _ object]
  exact objects u r object same

theorem plain_inner (plain : v.Plain) : ∀ u ∈ v.inner, u.Plain := by
  cases plain
  case list each | tuple each | set each => exact each
  case dict _ each | mapping _ each => exact List.forall_mem_map.mpr each
  all_goals exact fun _ none => absurd none List.not_mem_nil

theorem plain_keys {es : Entries} (size : ys.length = (es.map Prod.snd).length)
    (plain : (Value.dict ((es.map Prod.fst).zip ys)).Plain) : ∀ e ∈ es, e.1.Plain := by
  cases plain with
  | dict _ keys _ =>
    have all := List.forall_mem_map.mpr keys
    rw [List.map_fst_zip (by simp [size])] at all
    exact List.forall_mem_map.mp all

/-- A copy of a container that is stored as plain data is stored as the same, around copies. -/
theorem renamed_data {cs : Store.Counterparts} (data : ¬v.isObject) (size : ys.length = v.inner.length)
    (plain : (v.refilled ys).Plain) : ¬(Store.renamed cs v).isObject ∧
      (Store.renamed cs v).inner = v.inner.map (Store.renamed cs) ∧
      (Store.renamed cs v).refilled ys = v.refilled ys := by
  have same {u : Value} (plain : u.Plain) : Store.renamed cs u = u := renamed_plain plain cs
  cases v
  case cls | handle | object => exact absurd rfl data
  case list xs | tuple xs | set xs =>
    simp [Store.renamed, rebuild, rebuildItems_eq_map, inner, refilled, isObject]
  case frozenSet xs =>
    rw [show Store.renamed cs (.frozenSet xs) = .frozenSet xs from same plain]
    exact ⟨data, rfl, rfl⟩
  case dict es | mapping es =>
    have keys := plain_keys size plain
    have kept : (Entries.mapBoth (Store.renamed cs) es).map Prod.fst = es.map Prod.fst := by
      rw [Entries.mapBoth, List.map_map]
      exact List.map_congr_left fun e there => same (keys e there)
    simp only [renamed_dict, renamed_mapping, inner, refilled, isObject, kept]
    simp [Entries.mapBoth, Function.comp_def]
  all_goals exact ⟨data, rfl, rfl⟩

end Value

namespace Store

/-- A value with what stands in the place of objects, to a depth. -/
def spell (st : Store) : (depth : Nat) → Value → Option Value
  | 0, _ => none
  | n + 1, v => v.stored fun u => (st.standIn? u).bind (st.spell n)

variable {st mid after : Store} {n : Nat} {v u r w : Value} {cs : Counterparts}

theorem spell_object (object : v.isObject) :
    st.spell (n + 1) v = (st.standIn? v).bind (st.spell n) :=
  Value.stored_object _ object

/-- Nothing but data is left in what is spelled out. -/
theorem normal_spell (spelled : st.spell n v = some r) : r.Normal fun _ => False := by
  induction n generalizing v r with
  | zero => cases spelled
  | succ n ih =>
    refine Value.stored_induct (P := fun _ r => r.Normal fun _ => False) ?_ ?_ spelled
    · intro u r _ spelled
      obtain ⟨w, -, spelled⟩ := Option.bind_eq_some_iff.mp spelled
      exact ih spelled
    · intro v ys data each
      have flipped := each.flip.imp fun _ _ normal => And.intro normal trivial
      exact Value.normal_refilled data each.length_eq.symm
        ((List.forall₂_and_left ..).mp flipped).1

theorem spell_more (spelled : st.spell n v = some r) : st.spell (n + 1) v = some r := by
  induction n generalizing v r with
  | zero => cases spelled
  | succ n ih =>
    refine Value.stored_mono (fun u r _ spelled => ?_) spelled
    obtain ⟨w, stands, spelled⟩ := Option.bind_eq_some_iff.mp spelled
    exact Option.bind_eq_some_iff.mpr ⟨w, stands, ih spelled⟩

/-- Copies may have come, but objects give way to what they gave way to before. -/
structure Furthers (st after : Store) : Prop where
  tidy : after.Tidy
  stays : ∀ u w, st.standIn? u = some w → after.standIn? u = some w

theorem Furthers.refl (tidy : st.Tidy) : st.Furthers st := ⟨tidy, fun _ _ => id⟩

theorem Furthers.trans (f : st.Furthers mid) (g : mid.Furthers after) : st.Furthers after :=
  ⟨g.tidy, fun u w stands => g.stays u w (f.stays u w stands)⟩

theorem Furthers.spell (f : st.Furthers after) (spelled : st.spell n v = some r) :
    after.spell n v = some r := by
  induction n generalizing v r with
  | zero => cases spelled
  | succ n ih =>
    refine Value.stored_mono (fun u r _ spelled => ?_) spelled
    obtain ⟨w, stands, spelled⟩ := Option.bind_eq_some_iff.mp spelled
    exact Option.bind_eq_some_iff.mpr ⟨w, f.stays u w stands, ih spelled⟩

theorem Mirrors.furthers (m : st.Mirrors cs after) : st.Furthers after := ⟨m.tidy, m.stays⟩

/-- What comes to plain data comes to the same in a copy. -/
theorem Mirrors.spell (m : st.Mirrors cs after) (spelled : st.spell n v = some r) (plain : r.Plain) :
    after.spell n (renamed cs v) = some r := by
  induction n generalizing v r with
  | zero => cases spelled
  | succ n ih =>
    refine Value.stored_induct (P := fun v r => r.Plain →
      (renamed cs v).stored (fun u => (after.standIn? u).bind (after.spell n)) = some r)
      ?_ ?_ spelled plain
    · intro u r object spelled plain
      obtain ⟨w, stands, comes⟩ := Option.bind_eq_some_iff.mp spelled
      obtain ⟨h, rfl, -, -⟩ := standIn?_eq_some.mp stands
      have same : renamed cs (.handle h) = .handle h ∨
          ∃ k, cs.lookup (.handle h) = some (.handle k) ∧ renamed cs (.handle h) = .handle k := by
        rcases found : cs.lookup (.handle h) with _ | l
        · exact .inl (by simp [renamed, Value.rebuild, found])
        · cases l
          case handle k => exact .inr ⟨k, found, by simp [renamed, Value.rebuild, found]⟩
          all_goals exact .inl (by simp [renamed, Value.rebuild, found])
      obtain same | ⟨k, found, same⟩ := same <;> rw [same, Value.stored_object _ rfl]
      · exact Option.bind_eq_some_iff.mpr ⟨w, m.stays _ w stands, m.furthers.spell comes⟩
      · exact Option.bind_eq_some_iff.mpr ⟨_, m.mirrors h k w stands found, ih comes plain⟩
    · intro v ys data each plain
      have size := each.length_eq.symm
      obtain ⟨still, inner, refilled⟩ := Value.renamed_data data size plain
      have parts := Value.plain_inner plain
      rw [Value.inner_refilled data size] at parts
      rw [Value.stored_data_eq_some still, inner]
      have comes := (List.forall₂_and_left ..).mpr ⟨parts, each.flip⟩
      exact ⟨ys, List.forall₂_map_left_iff.mpr (comes.flip.imp fun _ _ h => h.2 h.1), refilled⟩

/-- Copying a value changes nothing about what values come to. -/
theorem cloned_spell (tidy : st.Tidy) (v : Value) : st.Furthers (st.cloned v).2 ∧
    ∀ n r, st.spell n v = some r → r.Plain → (st.cloned v).2.spell n (st.cloned v).1 = some r := by
  obtain same | ⟨cs, same, mirrors⟩ := cloned_mirrors tidy v
  · rw [same]
    exact ⟨.refl tidy, fun _ _ spelled _ => spelled⟩
  · rw [same]
    exact ⟨mirrors.furthers, fun _ _ => mirrors.spell⟩

theorem furthers_identified (tidy : st.Tidy) : st.Furthers st.identified :=
  ⟨⟨tidy.extras, tidy.refined⟩, fun _ _ => id⟩

end Store

end DocMapper
