import DocMapper.Proofs.Converting

/-!
Places in values.  What a container is stored as has the same places, and in each of them stands the
stored form of what stood there; so a stored form is known once it is known what objects are stored
as.
-/

namespace DocMapper

namespace Value

/-- What stands in a container, in order; keys do not. -/
def inner : Value → List Value
  | .list xs | .tuple xs | .set xs => xs
  | .dict es | .mapping es => es.map Prod.snd
  | _ => []

/-- What stands in a place, which is a way from container to container. -/
def at? (v : Value) : List Nat → Option Value
  | [] => some v
  | i :: p => v.inner[i]?.bind fun u => u.at? p

/-- What stands before a place, in order. -/
def before (v : Value) : List Nat → List Value
  | [] => []
  | i :: p => v.inner.take i ++ v.inner[i]?.elim [] fun u => u.before p

/-- Objects and classes are stored as what they convert to. -/
def isObject : Value → Bool
  | .cls _ | .handle _ | .object .. => true
  | _ => false

/-- What a container is stored as, with other values in it. -/
def refilled (v : Value) (ys : List Value) : Value :=
  match v with
  | .list _ | .set _ => .list ys
  | .tuple _ => .tuple ys
  | .dict es | .mapping es => .dict ((es.map Prod.fst).zip ys)
  | v => v

/-- What may stand in a stored form: dictionaries alone of the mappings, no sets, and such objects as
`Leaf` says. -/
def Stands (Leaf : Value → Prop) : Value → Prop
  | .set _ | .mapping _ => False
  | .cls c => Leaf (.cls c)
  | .handle h => Leaf (.handle h)
  | .object i s => Leaf (.object i s)
  | _ => True

/-- Whether a value is a stored form. -/
def Normal (Leaf : Value → Prop) (v : Value) : Prop :=
  ∀ p u, v.at? p = some u → u.Stands Leaf

/-- Every object in a value is such as `W` says. -/
def Within (W : Value → Prop) (v : Value) : Prop :=
  ∀ p u, v.at? p = some u → u.isObject → W u

theorem inner_induct {motive : Value → Prop} (step : ∀ v, (∀ u ∈ v.inner, motive u) → motive v)
    (v : Value) : motive v := by
  have single {u : Value} (empty : u.inner = []) : motive u :=
    step u fun w there => absurd there (empty ▸ List.not_mem_nil)
  have filled {es : Entries} (each : ∀ e ∈ es, motive e.2) : ∀ u ∈ es.map Prod.snd, motive u :=
    List.forall_mem_map.mpr each
  refine Value.stored.induct motive (fun es => ∀ e ∈ es, motive e.2) (fun xs => ∀ x ∈ xs, motive x)
    (fun xs => step (.list xs)) (fun xs => step (.tuple xs)) (fun xs => step (.set xs))
    (fun es each => step (.dict es) (filled each)) (fun es each => step (.mapping es) (filled each))
    (fun _ => single rfl) (fun _ => single rfl) (fun _ _ => single rfl) ?_ ?_ ?_ ?_ ?_ v
  · intro v list tuple set dict mapping _ _ _
    apply single
    unfold inner
    split
    · exact (list _ rfl).elim
    · exact (tuple _ rfl).elim
    · exact (set _ rfl).elim
    · exact (dict _ rfl).elim
    · exact (mapping _ rfl).elim
    · rfl
  · exact fun _ none => absurd none List.not_mem_nil
  · exact fun x xs here later => List.forall_mem_cons.mpr ⟨here, later⟩
  · exact fun _ none => absurd none List.not_mem_nil
  · exact fun k v es here later => List.forall_mem_cons.mpr ⟨here, later⟩

variable {v u : Value} {ys : List Value} {Leaf Other : Value → Prop}

theorem inner_object (object : v.isObject) : v.inner = [] := by
  cases v <;> first | rfl | cases object

theorem normal_iff : v.Normal Leaf ↔ v.Stands Leaf ∧ ∀ u ∈ v.inner, u.Normal Leaf := by
  constructor
  · refine fun normal => ⟨normal [] v rfl, fun u there p w at_p => ?_⟩
    obtain ⟨i, at_i⟩ := List.mem_iff_getElem?.mp there
    exact normal (i :: p) w (by rw [at?, at_i, Option.bind_some, at_p])
  · rintro ⟨here, each⟩ (_ | ⟨i, p⟩) w at_p
    · cases at_p
      exact here
    · obtain ⟨u, at_i, at_p⟩ := Option.bind_eq_some_iff.mp at_p
      exact each u (List.mem_of_getElem? at_i) p w at_p

theorem Normal.imp (normal : v.Normal Leaf) (weaker : ∀ u, Leaf u → Other u) : v.Normal Other := by
  intro p u at_p
  have stands := normal p u at_p
  cases u <;> first | exact stands | exact weaker _ stands

theorem normal_object (object : v.isObject) (leaf : Leaf v) : v.Normal Leaf := by
  refine normal_iff.mpr ⟨?_, fun u there => absurd there (inner_object object ▸ List.not_mem_nil)⟩
  cases v <;> first | exact leaf | cases object

theorem Stands.leaf (stands : v.Stands Leaf) (object : v.isObject) : Leaf v := by
  cases v <;> first | exact stands | cases object

theorem within_iff : v.Within Leaf ↔ (v.isObject → Leaf v) ∧ ∀ u ∈ v.inner, u.Within Leaf := by
  constructor
  · refine fun within => ⟨within [] v rfl, fun u there p w at_p => ?_⟩
    obtain ⟨i, at_i⟩ := List.mem_iff_getElem?.mp there
    exact within (i :: p) w (by rw [at?, at_i, Option.bind_some, at_p])
  · rintro ⟨here, each⟩ (_ | ⟨i, p⟩) w at_p
    · cases at_p
      exact here
    · obtain ⟨u, at_i, at_p⟩ := Option.bind_eq_some_iff.mp at_p
      exact each u (List.mem_of_getElem? at_i) p w at_p

theorem within_object (object : v.isObject) (is : Leaf v) : v.Within Leaf :=
  within_iff.mpr ⟨fun _ => is, fun _ there => absurd there (inner_object object ▸ List.not_mem_nil)⟩

theorem Normal.within (normal : v.Normal Leaf) : v.Within Leaf :=
  fun p _ at_p object => (normal p _ at_p).leaf object

theorem inner_refilled (data : ¬v.isObject) (size : ys.length = v.inner.length) :
    (v.refilled ys).inner = ys := by
  cases v
  case dict es | mapping es =>
    exact List.map_snd_zip (by simpa [inner] using Nat.le_of_eq size)
  case list | tuple | set => rfl
  case cls | handle | object => exact absurd rfl data
  all_goals exact (List.length_eq_zero_iff.mp size).symm

theorem normal_refilled (data : ¬v.isObject) (size : ys.length = v.inner.length)
    (each : ∀ y ∈ ys, y.Normal Leaf) : (v.refilled ys).Normal Leaf := by
  rw [normal_iff, inner_refilled data size]
  refine ⟨?_, each⟩
  cases v <;> first | exact trivial | exact absurd rfl data

/-- A container that may stand in a stored form is stored as what it is. -/
theorem refilled_inner (data : ¬v.isObject) (stands : v.Stands Leaf) : v.refilled v.inner = v := by
  cases v
  case set | mapping => exact stands.elim
  case dict es =>
    rw [refilled, inner, ← List.unzip_fst, ← List.unzip_snd, List.zip_unzip]
  all_goals rfl

section

variable {m : Type → Type} [Monad m] [LawfulMonad m] (convert : Value → m Value)

theorem storedEntries_eq (es : Entries) : storedEntries convert es =
    (es.map Prod.fst).zip <$> storedItems convert (es.map Prod.snd) := by
  induction es with
  | nil => simp [storedEntries, storedItems]
  | cons e es ih => simp [storedEntries, storedItems, ih]

theorem storedItems_append (xs ys : List Value) : storedItems convert (xs ++ ys) =
    (do
      let as ← storedItems convert xs
      let bs ← storedItems convert ys
      return as ++ bs) := by
  induction xs with
  | nil => simp [storedItems]
  | cons x xs ih => simp [storedItems, ih]

/-- A container is stored by storing what stands in it. -/
theorem stored_data (data : ¬v.isObject) :
    v.stored convert = v.refilled <$> storedItems convert v.inner := by
  cases v
  case cls | handle | object => exact absurd rfl data
  case list | tuple | set | dict | mapping =>
    simp only [stored, storedEntries_eq, map_eq_pure_bind, bind_assoc, pure_bind]
    rfl
  all_goals simp [stored, refilled, inner, storedItems]

omit [LawfulMonad m] in
theorem stored_object (object : v.isObject) : v.stored convert = convert v := by
  cases v <;> first | rfl | cases object

end

end Value

namespace Act

open Value

variable {convert : Value → Act Value} {st mid after : Store} {v u r : Value} {xs ys : List Value}
variable {p : List Nat}

theorem outcome_map_eq_ok {f : α → β} {x : Act α} {b : β}
    (done : (f <$> x).outcome st = (.ok b, after)) : ∃ a, x.outcome st = (.ok a, after) ∧ f a = b := by
  rw [outcome_map] at done
  rcases hx : x.outcome st with ⟨e | a, last⟩ <;> rw [hx] at done
  · cases done
  · cases done
    exact ⟨a, rfl, rfl⟩

theorem outcome_storedItems_cons {x : Value} {y : Value}
    (done : (storedItems convert (x :: xs)).outcome st = (.ok (y :: ys), after)) :
    ∃ mid, (x.stored convert).outcome st = (.ok y, mid) ∧
      (storedItems convert xs).outcome mid = (.ok ys, after) := by
  rw [storedItems] at done
  obtain ⟨z, mid, first, done⟩ := outcome_bind_eq_ok done
  obtain ⟨zs, last, rest, done⟩ := outcome_bind_eq_ok done
  cases done
  exact ⟨mid, first, rest⟩

theorem length_storedItems (done : (storedItems convert xs).outcome st = (.ok ys, after)) :
    ys.length = xs.length := by
  induction xs generalizing st ys with
  | nil =>
    cases done
    rfl
  | cons x xs ih =>
    rw [storedItems] at done
    obtain ⟨y, mid, -, done⟩ := outcome_bind_eq_ok done
    obtain ⟨ys, last, rest, done⟩ := outcome_bind_eq_ok done
    cases done
    simp [ih rest]

theorem outcome_stored_data (data : ¬v.isObject)
    (done : (v.stored convert).outcome st = (.ok r, after)) :
    ∃ ys, (storedItems convert v.inner).outcome st = (.ok ys, after) ∧ v.refilled ys = r ∧
      r.inner = ys := by
  rw [stored_data convert data] at done
  obtain ⟨ys, stored, rfl⟩ := outcome_map_eq_ok done
  exact ⟨ys, stored, rfl, inner_refilled data (length_storedItems stored)⟩

/-- In every place stands the stored form of what stood there, and it was stored once all that
stands before it had been stored. -/
theorem outcome_stored_at (done : (v.stored convert).outcome st = (.ok r, after))
    (at_p : v.at? p = some u) : ∃ ws mid w last,
      (storedItems convert (v.before p)).outcome st = (.ok ws, mid) ∧
      (u.stored convert).outcome mid = (.ok w, last) ∧ r.at? p = some w := by
  induction p generalizing v r st after with
  | nil =>
    cases at_p
    exact ⟨[], st, r, after, rfl, done, rfl⟩
  | cons i p ih =>
    obtain ⟨x, at_i, at_p⟩ := Option.bind_eq_some_iff.mp at_p
    have data : ¬v.isObject := fun object => by
      rw [inner_object object] at at_i
      cases at_i
    obtain ⟨ys, stored, -, filled⟩ := outcome_stored_data data done
    obtain ⟨size, is⟩ := List.getElem?_eq_some_iff.mp at_i
    rw [← List.take_append_drop i v.inner, List.drop_eq_getElem_cons size, is,
      storedItems_append] at stored
    obtain ⟨as, mid, first, stored⟩ := outcome_bind_eq_ok stored
    obtain ⟨bs, last, rest, stored⟩ := outcome_bind_eq_ok stored
    cases stored
    cases bs with
    | nil => exact absurd (length_storedItems rest) (by simp)
    | cons y bs =>
      obtain ⟨next, here, -⟩ := outcome_storedItems_cons rest
      obtain ⟨ws, σ, w, τ, before, there, at_w⟩ := ih here at_p
      have length : as.length = i := by
        rw [length_storedItems first, List.length_take]
        omega
      refine ⟨as ++ ws, σ, w, τ, ?_, there, ?_⟩
      · rw [Value.before, at_i, Option.elim_some, storedItems_append, outcome_bind_ok first,
          outcome_bind_ok before]
        rfl
      · rw [at?, filled, List.getElem?_append_right (by omega), length, Nat.sub_self]
        exact at_w

end Act

end DocMapper
