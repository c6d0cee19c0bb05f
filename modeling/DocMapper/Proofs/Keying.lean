import DocMapper.Proofs.Merging
import Mathlib.Data.Finset.Card

/-!
Keys.  What can be a key is equal to itself, and what is equal to one and the same key is equal to
each other.  So entries that are put into a dictionary one after another leave every key there once,
where it was first put, with the value that it was last given.
-/

namespace DocMapper

theorem Number.Point.equal_iff {p q : Number.Point} (number : q ≠ .nan) : p.equal q ↔ p = q := by
  cases q with
  | nan => exact absurd rfl number
  | finite n =>
    cases p with
    | finite m => simp [equal_finite]
    | _ => simp [equal, compare]
  | _ => cases p <;> simp [equal, compare]

@[simp] theorem Number.Point.not_equal_nan (p : Number.Point) : p.equal (.ofText "nan") = false := by
  have nan : Number.Point.ofText "nan" = .nan := rfl
  rw [nan]
  cases p <;> rfl

/-- Nothing is equal to an object like this but the object itself. -/
def Shape.Alone (s : Shape) : Prop := ∀ t, Value.equalShape s t = false

namespace Value

/-- Values without parts that are the same as nothing but themselves. -/
def isAtom : Value → Bool
  | .null | .nan _ | .str _ | .bytes _ | .objectId _ | .dateTime _ | .cls _ | .handle _ => true
  | _ => false

/-- What can be a key: texts and the like, numbers, objects with an identity of their own, and tuples
and frozen sets of keys. -/
inductive Key : Value → Prop
  | atom {v : Value} (atom : v.isAtom) : Key v
  | number {v : Value} {p : Number.Point} (point : v.point? = some p) (number : p ≠ .nan) : Key v
  | object (identity : Nat) {s : Shape} (alone : s.Alone) : Key (.object (some identity) s)
  | tuple (xs : List Value) (keys : ∀ x ∈ xs, Key x) : Key (.tuple xs)
  | frozenSet (xs : List Value) (keys : ∀ x ∈ xs, Key x)
      (once : xs.Pairwise fun x y => ¬x.same y) : Key (.frozenSet xs)

variable {a b c : Value} {p q : Number.Point} {xs ys : List Value}

theorem point?_of_whole? {n : Int} (whole : a.whole? = some n) : a.point? = some (.ofInt n) := by
  cases a <;> cases whole <;> rfl

theorem sameNumber_eq (pa : a.point? = some p) (pb : b.point? = some q) :
    sameNumber a b = p.equal q := by
  unfold sameNumber
  split
  · rename_i m n hm hn
    rw [point?_of_whole? hm] at pa
    rw [point?_of_whole? hn] at pb
    cases pa
    cases pb
    rw [Number.Point.equal_ofInt]
    rfl
  · rw [pa, pb]

/-- The same as a number is what is that number, whatever its kind. -/
theorem same_number (point : c.point? = some p) (number : p ≠ .nan) :
    a.same c ↔ a.point? = some p := by
  have counted {q : Number.Point} (pa : a.point? = some q) : sameNumber a c ↔ q = p := by
    rw [sameNumber_eq pa point, Number.Point.equal_iff number]
  cases a with
  | bool | int | float =>
    simp only [same, sameNan, equal, Bool.false_or, counted rfl]
    simp [point?, whole?]
  | nan i =>
    have other : ∀ j, c ≠ .nan j := by
      rintro j rfl
      cases point
      exact number rfl
    have unlike : some (Number.Point.ofText "nan") ≠ some p := fun h =>
      number (Option.some.inj h).symm
    cases c <;> simp_all [same, sameNan, equal, point?]
  | _ => cases c <;> cases point <;> simp [same, sameNan, equal, members?, entries?, point?, whole?]

theorem equalItems_iff : equalItems xs ys ↔ List.Forall₂ (fun x y => x.same y) xs ys := by
  induction xs generalizing ys with
  | nil => cases ys <;> simp [equalItems]
  | cons x xs ih =>
    cases ys with
    | nil => simp [equalItems]
    | cons y ys => rw [equalItems, Bool.and_eq_true, ih, List.forall₂_cons, same]

theorem allAmong_iff : allAmong xs ys ↔ ∀ x ∈ xs, ∃ y ∈ ys, x.same y := by
  induction xs with
  | nil => simp [allAmong]
  | cons x xs ih => rw [allAmong, Bool.and_eq_true, ih, List.any_eq_true, List.forall_mem_cons]; rfl

theorem same_atom (atom : c.isAtom) : a.same c ↔ a = c := by
  constructor
  · intro same
    cases c <;> cases atom <;> cases a <;>
      simp_all [Value.same, sameNan, equal, sameNumber, whole?, point?, members?, entries?]
  · rintro rfl
    cases a <;> cases atom <;> simp [same, sameNan, equal]

theorem same_tuple : a.same (.tuple xs) ↔
    ∃ ys, a = .tuple ys ∧ List.Forall₂ (fun y x => y.same x) ys xs := by
  cases a <;>
    simp [same, sameNan, equal, sameNumber, whole?, point?, members?, entries?, equalItems_iff]

theorem same_frozenSet : (Value.frozenSet ys).same (.frozenSet xs) ↔
    ys.length = xs.length ∧ ∀ y ∈ ys, ∃ x ∈ xs, y.same x := by
  simp only [same, sameNan, equal, members?, Bool.false_or, Bool.and_eq_true, beq_iff_eq,
    allAmong_iff]

namespace Key

/-- A key is equal to itself. -/
theorem refl (key : Key a) : a.same a := by
  induction key with
  | atom atom => exact (same_atom atom).mpr rfl
  | number point number => exact (same_number point number).mpr point
  | object => simp [same, equal]
  | tuple xs _ ih => exact same_tuple.mpr ⟨xs, rfl, List.forall₂_same.mpr ih⟩
  | frozenSet xs _ _ ih => exact same_frozenSet.mpr ⟨rfl, fun x hx => ⟨x, hx, ih x hx⟩⟩

/-- In two sets of one size, each member of the first the same as one of the second, each member of
the second is one that a member of the first is the same as. -/
theorem partner (size : xs.length = ys.length) (once : xs.Pairwise fun x y => ¬x.same y)
    (told : ∀ y ∈ ys, ∀ x ∈ xs, ∀ z ∈ xs, x.same y → z.same y → x.same z)
    (among : ∀ x ∈ xs, ∃ y ∈ ys, x.same y) : ∀ y ∈ ys, ∃ x ∈ xs, x.same y := by
  classical
  choose! f into same using among
  have nodup : xs.Nodup := by
    refine once.imp_of_mem fun {x z} hx _ apart equal => apart ?_
    subst equal
    exact told _ (into x hx) x hx x hx (same x hx) (same x hx)
  have unlike : ∀ x ∈ xs, ∀ z ∈ xs, x.same z ∧ z.same x → x = z :=
    List.Pairwise.forall_of_forall_of_flip (fun _ _ _ => rfl)
      (once.imp fun apart both => absurd both.1 apart)
      (once.imp fun apart both => absurd both.2 apart)
  have injective : Set.InjOn f xs.toFinset := by
    intro x hx z hz agree
    rw [List.coe_toFinset] at hx hz
    refine unlike x hx z hz ⟨?_, ?_⟩
    · exact told _ (into x hx) x hx z hz (same x hx) (agree ▸ same z hz)
    · exact told _ (into x hx) z hz x hx (agree ▸ same z hz) (same x hx)
  have maps : Set.MapsTo f xs.toFinset ys.toFinset := by
    intro x hx
    simpa using into x (by simpa using hx)
  have sizes : ys.toFinset.card ≤ xs.toFinset.card := by
    rw [List.toFinset_card_of_nodup nodup, size]
    exact ys.toFinset_card_le
  intro y hy
  obtain ⟨x, hx, rfl⟩ := Finset.surjOn_of_injOn_of_card_le f maps injective sizes
    (by simpa using hy)
  rw [List.coe_toFinset] at hx
  exact ⟨x, hx, same x hx⟩

theorem items (key : Key (.tuple xs)) : ∀ x ∈ xs, Key x := by
  cases key with
  | atom atom => cases atom
  | number point => cases point
  | tuple _ keys => exact keys

theorem members (key : Key (.frozenSet xs)) :
    (∀ x ∈ xs, Key x) ∧ xs.Pairwise fun x y => ¬x.same y := by
  cases key with
  | atom atom => cases atom
  | number point => cases point
  | frozenSet _ keys once => exact ⟨keys, once⟩

theorem same_object {i : Nat} {s : Shape} (key : Key a) (same : a.same (.object (some i) s)) :
    ∃ t, a = .object (some i) t := by
  cases key with
  | object j alone =>
    simp only [Value.same, sameNan, equal, alone s, Bool.false_or, Bool.or_false, Option.isSome_some,
      Bool.true_and, beq_iff_eq] at same
    exact ⟨_, by rw [same]⟩
  | number point =>
    cases a <;> cases point <;>
      simp [Value.same, sameNan, equal, sameNumber, point?, whole?] at same
  | atom atom => cases a <;> cases atom <;> simp [Value.same, sameNan, equal] at same
  | _ => simp [Value.same, sameNan, equal, members?] at same

theorem frozen (key : Key a) (same : a.same (.frozenSet xs)) : ∃ ys, a = .frozenSet ys := by
  cases key with
  | frozenSet ys => exact ⟨ys, rfl⟩
  | number point =>
    cases a <;> cases point <;>
      simp [Value.same, sameNan, equal, sameNumber, point?, whole?] at same
  | atom atom => cases a <;> cases atom <;> simp [Value.same, sameNan, equal] at same
  | _ => simp [Value.same, sameNan, equal] at same

/-- Keys that are the same as one and the same key are the same as each other. -/
theorem told (key : Key c) : ∀ {a b}, Key a → Key b → a.same c → b.same c → a.same b := by
  induction key with
  | atom atom =>
    intro a b _ kb ac bc
    rw [(same_atom atom).mp ac, ← (same_atom atom).mp bc]
    exact kb.refl
  | number point number =>
    intro a b _ _ ac bc
    exact (same_number ((same_number point number).mp bc) number).mpr
      ((same_number point number).mp ac)
  | object i alone =>
    intro a b ka kb ac bc
    obtain ⟨t, rfl⟩ := ka.same_object ac
    obtain ⟨u, rfl⟩ := kb.same_object bc
    simp [same, equal]
  | tuple xs _ ih =>
    intro a b ka kb ac bc
    obtain ⟨ys, rfl, each⟩ := same_tuple.mp ac
    obtain ⟨zs, rfl, also⟩ := same_tuple.mp bc
    refine same_tuple.mpr ⟨ys, rfl, ?_⟩
    have size : ys.length = zs.length := each.length_eq.trans also.length_eq.symm
    refine List.forall₂_iff_get.mpr ⟨size, fun n hy hz => ?_⟩
    have hx : n < xs.length := each.length_eq ▸ hy
    exact ih _ (List.getElem_mem hx) (ka.items _ (List.getElem_mem hy))
      (kb.items _ (List.getElem_mem hz)) (each.get hy hx) (also.get hz hx)
  | frozenSet xs _ once ih =>
    intro a b ka kb ac bc
    obtain ⟨ys, rfl⟩ := ka.frozen ac
    obtain ⟨zs, rfl⟩ := kb.frozen bc
    obtain ⟨size, each⟩ := same_frozenSet.mp ac
    obtain ⟨sized, also⟩ := same_frozenSet.mp bc
    obtain ⟨here, -⟩ := ka.members
    obtain ⟨there, apart⟩ := kb.members
    refine same_frozenSet.mpr ⟨size.trans sized.symm, fun y hy => ?_⟩
    obtain ⟨x, hx, yx⟩ := each y hy
    obtain ⟨z, hz, zx⟩ := partner sized apart
      (fun x hx z hz w hw => ih x hx (there z hz) (there w hw)) also x hx
    exact ⟨z, hz, ih x hx (here y hy) (there z hz) yx zx⟩

end Key
end Value

namespace Entries

variable {es ps : Entries} {k v : Value} {e : Value × Value}

/-- Entries are put under the key that is there, or else at the end under a new one. -/
theorem keys_merge (es ps : Entries) :
    keys (es.merge ps) =
      List.eraseDupsBy.loop (fun k l => l.same k) (keys ps) (keys es).reverse := by
  induction ps generalizing es with
  | nil => simp [merge, keys, List.eraseDupsBy.loop]
  | cons p ps ih =>
    change keys ((es.put p.1 p.2).merge ps) = _
    have seen : (keys es).reverse.any (fun l => l.same p.1) = has es p.1 := by
      simp [keys, has, Function.comp_def]
    rw [ih, keys_put, show keys (p :: ps) = p.1 :: keys ps from rfl, List.eraseDupsBy.loop, seen]
    cases has es p.1 <;> simp

/-- Keys stand in the order in which they were first put. -/
theorem keys_ofPairs (ps : Entries) :
    keys (ofPairs ps) = (keys ps).eraseDupsBy fun k l => l.same k :=
  keys_merge [] ps

/-- Dictionaries have every key once. -/
def Once (es : Entries) : Prop := (keys es).Pairwise fun k l => ¬k.same l

theorem Once.put (once : es.Once) (k v : Value) : (es.put k v).Once := by
  rw [Once, keys_put]
  split
  · exact once
  · rename_i new
    refine List.pairwise_append.mpr ⟨once, List.pairwise_singleton .., fun l hl m hm same => ?_⟩
    obtain ⟨e, he, rfl⟩ := List.mem_map.mp hl
    rw [List.mem_singleton.mp hm] at same
    exact new (List.any_eq_true.mpr ⟨e, he, same⟩)

theorem once_nil : Once [] := List.Pairwise.nil

theorem Once.merge (once : es.Once) (ps : Entries) : (es.merge ps).Once := by
  induction ps generalizing es with
  | nil => exact once
  | cons p ps ih => exact ih (once.put p.1 p.2)

/-- An entry after another was put is that one, or stands under another key. -/
theorem Once.newest (once : es.Once) (keys : ∀ e ∈ es, e.1.Key) (key : k.Key)
    (there : e ∈ es.put k v) : e.1.same k ∧ e.2 = v ∨ ¬e.1.same k ∧ e ∈ es := by
  induction es with
  | nil =>
    cases List.mem_singleton.mp there
    exact .inl ⟨key.refl, rfl⟩
  | cons f es ih =>
    obtain ⟨l, w⟩ := f
    obtain ⟨apart, once⟩ := List.pairwise_cons.mp once
    obtain ⟨first, keys⟩ := List.forall_mem_cons.mp keys
    by_cases same : l.same k
    · rw [Entries.put, if_pos same] at there
      cases there with
      | head => exact .inl ⟨same, rfl⟩
      | tail _ later =>
        refine .inr ⟨fun agree => ?_, List.mem_cons_of_mem _ later⟩
        exact apart e.1 (List.mem_map_of_mem later) (key.told first (keys e later) same agree)
    · rw [Entries.put, if_neg same] at there
      cases there with
      | head => exact .inr ⟨same, List.mem_cons_self⟩
      | tail _ later => exact (ih once keys later).imp_right (.imp_right (List.mem_cons_of_mem _))

theorem key_of_mem_put (keys : ∀ e ∈ es, e.1.Key) (key : k.Key) (there : e ∈ es.put k v) :
    e.1.Key := by
  have named : e.1 ∈ Entries.keys (es.put k v) := List.mem_map_of_mem there
  rw [keys_put] at named
  have old : e.1 ∈ Entries.keys es → e.1.Key := by
    intro h
    obtain ⟨f, hf, same⟩ := List.mem_map.mp h
    exact same ▸ keys f hf
  split at named
  · exact old named
  · cases List.mem_append.mp named with
    | inl h => exact old h
    | inr h => exact List.mem_singleton.mp h ▸ key

/-- Entries as a dictionary has them that pairs were put into one after another: every key once, in
the order in which they were first named, with the value that it was last given. -/
structure Gathers (es ps : Entries) : Prop where
  once : es.Once
  order : keys es = (keys ps).eraseDupsBy fun k l => l.same k
  last : ∀ e ∈ es, (ps.filter fun p => e.1.same p.1).getLast?.map Prod.snd = some e.2

theorem ofPairs_append (ps qs : Entries) : ofPairs (ps ++ qs) = (ofPairs ps).merge qs :=
  List.foldl_append ..

theorem gathers_ofPairs (keys : ∀ p ∈ ps, p.1.Key) : (ofPairs ps).Gathers ps := by
  refine ⟨once_nil.merge ps, keys_ofPairs ps, ?_⟩
  suffices ∀ e ∈ ofPairs ps, e.1.Key ∧
      (ps.filter fun p => e.1.same p.1).getLast?.map Prod.snd = some e.2 from
    fun e he => (this e he).2
  induction ps using List.reverseRecOn with
  | nil => exact fun e he => absurd he List.not_mem_nil
  | append_singleton ps p ih =>
    intro e he
    have old := ih fun q hq => keys q (List.mem_append_left _ hq)
    have key : p.1.Key := keys p (by simp)
    rw [ofPairs_append] at he
    refine ⟨key_of_mem_put (fun f hf => (old f hf).1) key he, ?_⟩
    rw [List.filter_append]
    have once : (ofPairs ps).Once := once_nil.merge ps
    obtain ⟨same, value⟩ | ⟨apart, there⟩ := once.newest (fun f hf => (old f hf).1) key he
    · simp [same, value]
    · have here := (old e there).2
      simpa [apart] using here

end Entries
end DocMapper
