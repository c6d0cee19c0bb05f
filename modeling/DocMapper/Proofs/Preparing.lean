import DocMapper.Proofs.Saving
import Mathlib.Data.List.Forall2

/-!
The stored form of a mapping, whatever its values are.  Each key stays in its place and holds the
stored form of what it held; data that is stored as it is stays as it is.
-/

namespace DocMapper

namespace Value

/-- Data that is stored as it is. -/
inductive Settled : Value → Prop
  | null : Settled .null
  | bool (b) : Settled (.bool b)
  | int (n) : Settled (.int n)
  | float (t) : Settled (.float t)
  | nan (i) : Settled (.nan i)
  | str (s) : Settled (.str s)
  | bytes (bs) : Settled (.bytes bs)
  | objectId (hex) : Settled (.objectId hex)
  | dateTime (iso) : Settled (.dateTime iso)
  | frozenSet (xs) : (∀ x ∈ xs, Settled x) → Settled (.frozenSet xs)
  | list (xs) : (∀ x ∈ xs, Settled x) → Settled (.list xs)
  | tuple (xs) : (∀ x ∈ xs, Settled x) → Settled (.tuple xs)
  | dict (es) : (∀ e ∈ es, Settled e.1) → (∀ e ∈ es, Settled e.2) → Settled (.dict es)

namespace Settled

variable {v : Value} (h : v.Settled)
include h

theorem plain : v.Plain := by
  induction h with
  | null => exact .null
  | bool b => exact .bool b
  | int n => exact .int n
  | float t => exact .float t
  | nan i => exact .nan i
  | str s => exact .str s
  | bytes bs => exact .bytes bs
  | objectId hex => exact .objectId hex
  | dateTime iso => exact .dateTime iso
  | frozenSet xs _ ih => exact .frozenSet xs ih
  | list xs _ ih => exact .list xs ih
  | tuple xs _ ih => exact .tuple xs ih
  | dict es _ _ keys values => exact .dict es keys values

theorem data : v.Data := by
  induction h with
  | null => exact .null
  | bool b => exact .bool b
  | int n => exact .int n
  | float t => exact .float t
  | nan i => exact .nan i
  | str s => exact .str s
  | bytes bs => exact .bytes bs
  | objectId hex => exact .objectId hex
  | dateTime iso => exact .dateTime iso
  | frozenSet xs => exact .frozenSet xs
  | list xs _ ih => exact .list xs ih
  | tuple xs _ ih => exact .tuple xs ih
  | dict es _ _ _ values => exact .dict es values

theorem flat : v.flat = v := by
  have items {xs : List Value} (ih : ∀ x ∈ xs, x.flat = x) : xs.map Value.flat = xs :=
    (List.map_congr_left ih).trans (List.map_id _)
  have entries {es : Entries} (ih : ∀ e ∈ es, e.2.flat = e.2) :
      es.map (fun e => (e.1, e.2.flat)) = es :=
    (List.map_congr_left fun e he => by rw [ih e he]; rfl).trans (List.map_id _)
  induction h with
  | list xs _ ih => rw [flat_list, items ih]
  | tuple xs _ ih => rw [flat_tuple, items ih]
  | dict es _ _ _ values => rw [flat_dict, entries values]
  | _ => rfl

theorem stored {m : Type → Type} [Monad m] [LawfulMonad m] (convert : Value → m Value) :
    v.stored convert = pure v := by
  rw [h.data.stored, h.flat]

end Settled

theorem storedEntries_append {m : Type → Type} [Monad m] [LawfulMonad m] (convert : Value → m Value)
    (es fs : Entries) : storedEntries convert (es ++ fs) = do
      let a ← storedEntries convert es
      let b ← storedEntries convert fs
      return a ++ b := by
  induction es with
  | nil => simp [storedEntries]
  | cons e es ih => simp [storedEntries, ih]

end Value

/-- Entries under the same keys, with related values. -/
abbrev Entries.Related (R : Value → Value → Prop) : Entries → Entries → Prop :=
  List.Forall₂ fun e f => e.1 = f.1 ∧ R e.2 f.2

namespace Entries.Related

variable {R : Value → Value → Prop} {es fs : Entries} (h : Related R es fs)
include h

theorem keys_eq : keys es = keys fs := by
  induction h with
  | nil => rfl
  | cons same _ ih => exact congrArg₂ List.cons same.1 ih

theorem field?_rel (name : String) : Option.Rel R (es.field? name) (fs.field? name) := by
  induction h with
  | nil => exact .none
  | @cons e f es fs same _ ih =>
    simp only [field?, get?, List.find?_cons] at ih ⊢
    rw [← same.1]
    cases e.1.same (.str name) with
    | true => exact .some same.2
    | false => exact ih

theorem field?_some {name : String} {v : Value} (found : es.field? name = some v) :
    ∃ w, fs.field? name = some w ∧ R v w := by
  have rel := h.field?_rel name
  rw [found] at rel
  generalize fs.field? name = x at rel
  cases rel with
  | some holds => exact ⟨_, rfl, holds⟩

theorem field?_none {name : String} (absent : es.field? name = none) : fs.field? name = none := by
  have rel := h.field?_rel name
  rw [absent] at rel
  generalize fs.field? name = x at rel
  cases rel
  rfl

theorem texts (texts : es.Texts) : fs.Texts := by
  intro f there
  have key : f.1 ∈ keys es := h.keys_eq ▸ List.mem_map_of_mem there
  obtain ⟨e, old, same⟩ := List.mem_map.mp key
  obtain ⟨s, text⟩ := texts e old
  exact ⟨s, same ▸ text⟩

end Entries.Related

namespace Act

variable {d : Dispatch} {st after : Store} {es fs : Entries} {v key : Value}

/-- A value gave another when it was stored, whatever else was going on. -/
def Stores (convert : Value → Act Value) (v w : Value) : Prop :=
  ∃ st after, (v.stored convert).outcome st = (.ok w, after)

theorem outcome_storedEntries {convert : Value → Act Value}
    (done : (Value.storedEntries convert fs).outcome st = (.ok es, after)) :
    Entries.Related (Stores convert) fs es := by
  induction fs generalizing st es with
  | nil =>
    cases done
    exact .nil
  | cons f fs ih =>
    obtain ⟨k, u⟩ := f
    rw [Value.storedEntries] at done
    obtain ⟨w, mid, first, done⟩ := outcome_bind_eq_ok done
    obtain ⟨rest, last, second, done⟩ := outcome_bind_eq_ok done
    cases done
    exact .cons ⟨rfl, st, mid, first⟩ (ih second)

/-- A mapping is stored by storing its entries. -/
theorem prepare_dict (d : Dispatch) : ∃ convert : Value → Act Value,
    ∀ fs, prepare d (.dict fs) = do return .dict (← Value.storedEntries convert fs) :=
  ⟨_, fun _ => rfl⟩

/-- Keys stay, and so does what is stored as it is. -/
theorem outcome_prepare (done : (prepare d (.dict fs)).outcome st = (.ok (.dict es), after)) :
    Entries.keys es = Entries.keys fs ∧
      (∀ name, fs.field? name = none → es.field? name = none) ∧
      ∀ name v, fs.field? name = some v → v.Settled → es.field? name = some v := by
  obtain ⟨convert, stored⟩ := prepare_dict d
  rw [stored] at done
  obtain ⟨es, mid, done, last⟩ := outcome_bind_eq_ok done
  cases last
  have related := outcome_storedEntries done
  refine ⟨related.keys_eq.symm, fun name => related.field?_none, fun name v here settled => ?_⟩
  obtain ⟨w, found, σ, σ', stored⟩ := related.field?_some here
  rw [settled.stored] at stored
  cases stored
  exact found

/-- An entry that comes last, of data that is stored as it is, comes last in what is stored. -/
theorem outcome_prepare_append (settled : v.Settled)
    (done : (prepare d (.dict fs)).outcome st = (.ok (.dict es), after)) :
    (prepare d (.dict (fs ++ [(key, v)]))).outcome st = (.ok (.dict (es ++ [(key, v)])), after) := by
  obtain ⟨convert, stored⟩ := prepare_dict d
  rw [stored] at done ⊢
  obtain ⟨es, mid, done, last⟩ := outcome_bind_eq_ok done
  cases last
  have one : Value.storedEntries convert [(key, v)] = pure [(key, v)] := by
    simp [Value.storedEntries, settled.stored]
  rw [Value.storedEntries_append, one, bind_assoc, outcome_bind_ok done]
  rfl

end Act

end DocMapper
