import DocMapper.Proofs.Places
import DocMapper.Proofs.Sheltering

/-!
Stored forms are normal.  Whatever conversions a value leads to, its stored form holds plain data, and
of objects only such as offered no conversion when they were met; what is normal is stored as it is.
-/

namespace DocMapper

/-- The fields of a struct. -/
def Store.struct? (st : Store) : Value → Option Entries
  | .handle (.record .struct _ i) => some (st.records.getD i [])
  | .handle (.config serial) =>
    let c := (st.registry.recordWith? serial).getD { serial }
    some [(.str "connection", c.connection), (.str "collection", c.collection)]
  | .handle h => (st.optionsAt? h).map Options.entries
  | _ => none

namespace Dispatch

variable (d : Dispatch)

/-- Storing leaves an object as it is: it is no struct, nor a list or mapping that several share, and
it is found to offer neither conversion. -/
structure Passes (u : Value) (st mid after : Store) : Prop where
  data : st.struct? u = none
  alone : ∀ now : Store, now.current u = u
  dump : (Act.offersCall d u "model_dump").outcome st = (.ok false, mid)
  json : (Act.offersCall d u "to_json").outcome mid = (.ok false, after)

/-- What a store becomes while values are stored: members are read, conversions are called, structs
are copied, and what fails is noted. -/
inductive Reaches (st : Store) : Store → Prop
  | refl : Reaches st st
  | read {now} (here : Reaches st now) (v : Value) (name : String) :
      Reaches st ((d.read v name).outcome now).2
  | call {now} (here : Reaches st now) (v : Value) (name : String) (named : Entries) :
      Reaches st ((d.call .never v name [] named).outcome now).2
  | copy {now} (here : Reaches st now) (v : Value) : Reaches st ((Act.copy v).outcome now).2
  | note {now} (here : Reaches st now) (message : Store → String) :
      Reaches st ((Act.note .debug .storedForm message).outcome now).2

/-- An object that was left as it was somewhere on the way. -/
def Left (st : Store) (u : Value) : Prop :=
  ∃ now mid after, d.Reaches st now ∧ d.Passes u now mid after

end Dispatch

namespace Act

open Value

/-- What is so before an action is so after it, and its answer is as it should be. -/
def Brings (R : Store → Prop) (P : α → Prop) (x : Act α) : Prop :=
  ∀ st, R st → R (x.outcome st).2 ∧ ∀ a, (x.outcome st).1 = .ok a → P a

section

variable {R : Store → Prop} {P : α → Prop} {Q : β → Prop} {x : Act α} {f : α → Act β}

theorem Brings.pure {a : α} (is : P a) : Brings R P (pure a : Act α) :=
  fun _ here => ⟨here, fun _ same => Except.ok.inj same ▸ is⟩

theorem Brings.throw (e : Fault) : Brings R P (throw e : Act α) :=
  fun _ here => ⟨here, fun _ same => by cases same⟩

theorem Brings.bind (first : Brings R P x) (later : ∀ a, P a → Brings R Q (f a)) :
    Brings R Q (x >>= f) := by
  intro st here
  obtain ⟨kept, is⟩ := first st here
  rcases hx : x.outcome st with ⟨e | a, after⟩ <;> rw [hx] at kept is
  · rw [outcome_bind_error hx]
    exact ⟨kept, fun _ same => by cases same⟩
  · rw [outcome_bind_ok hx]
    exact later a (is a rfl) after kept

theorem Brings.tryCatch {handle : Fault → Act α} (first : Brings R P x)
    (later : ∀ e, Brings R P (handle e)) : Brings R P (tryCatch x handle) := by
  intro st here
  obtain ⟨kept, is⟩ := first st here
  rw [outcome_tryCatch]
  rcases hx : x.outcome st with ⟨e | a, after⟩ <;> rw [hx] at kept is
  · exact later e after kept
  · exact ⟨kept, is⟩

theorem Keeps.brings (keeps : Keeps R x) : Brings R (fun _ => True) x :=
  fun st here => ⟨keeps st here, fun _ _ => trivial⟩

theorem Brings.keeps (brings : Brings R P x) : Keeps R x :=
  fun st here => (brings st here).1

theorem Keeps.tryCatch {handle : Fault → Act α} (first : Keeps R x)
    (later : ∀ e, Keeps R (handle e)) : Keeps R (tryCatch x handle) :=
  (first.brings.tryCatch fun e => (later e).brings).keeps

theorem Keeps.get (f : Store → Act β) (later : ∀ st, Keeps R (f st)) : Keeps R (get >>= f) :=
  .bind (fun _ here => here) later

theorem Keeps.takenOut {convert : Value → Act Value} (keeps : ∀ u, Keeps R (convert u)) (v : Value) :
    Keeps R (v.takenOut convert) := by
  have items {xs : List Value} {c : List Value → Value} (each : Keeps R (takenOutItems convert xs)) :
      Keeps R (do return c (← takenOutItems convert xs)) := each.bind fun _ => .pure _
  refine Value.takenOut.induct (fun v => Keeps R (v.takenOut convert))
    (fun es => Keeps R (takenOutEntries convert es)) (fun xs => Keeps R (takenOutItems convert xs))
    (fun xs each => items each) (fun xs each => items each) (fun es each => each.bind fun _ => .pure _)
    ?_ (.pure _) (fun x xs here later => here.bind fun _ => later.bind fun _ => .pure _) (.pure _)
    (fun k v es key here later => key.bind fun _ => here.bind fun _ => later.bind fun _ => .pure _) v
  intro v list tuple dict
  unfold Value.takenOut
  split
  · exact (list _ rfl).elim
  · exact (tuple _ rfl).elim
  · exact (dict _ rfl).elim
  · exact keeps v

end

section

variable {R : Store → Prop} {Leaf : Value → Prop} {convert : Value → Act Value}

theorem Brings.storedItems {P : Value → Prop} {xs : List Value}
    (each : ∀ x ∈ xs, Brings R P (x.stored convert)) :
    Brings R (fun ys => ∀ y ∈ ys, P y) (storedItems convert xs) := by
  induction xs with
  | nil => exact .pure fun _ none => absurd none List.not_mem_nil
  | cons x xs ih =>
    obtain ⟨here, later⟩ := List.forall_mem_cons.mp each
    exact here.bind fun y is => (ih later).bind fun ys are =>
      .pure (List.forall_mem_cons.mpr ⟨is, are⟩)

/-- A value is stored in normal form if the objects in it are. -/
theorem Brings.stored_within {W : Value → Prop}
    (objects : ∀ u, W u → u.isObject → Brings R (Normal Leaf) (convert u)) (v : Value)
    (within : v.Within W) : Brings R (Normal Leaf) (v.stored convert) := by
  induction v using inner_induct with
  | step v ih =>
    obtain ⟨own, each⟩ := within_iff.mp within
    by_cases object : v.isObject
    · rw [stored_object convert object]
      exact objects v (own object) object
    · intro st here
      obtain ⟨kept, are⟩ := Brings.storedItems (fun u there => ih u there (each u there)) st here
      rw [stored_data convert object, outcome_map]
      refine ⟨kept, fun r same => ?_⟩
      rcases hx : (Value.storedItems convert v.inner).outcome st with ⟨e | ys, after⟩ <;>
        rw [hx] at same are
      · cases same
      · cases same
        exact normal_refilled object (length_storedItems hx) (are ys rfl)

/-- If objects are stored in normal form, so is every value. -/
theorem Brings.stored (objects : ∀ u, u.isObject → Brings R (Normal Leaf) (convert u)) (v : Value) :
    Brings R (Normal Leaf) (v.stored convert) :=
  .stored_within (W := fun _ => True) (fun u _ => objects u) v fun _ _ _ _ => trivial

end

theorem outcome_structFields? (v : Value) (st : Store) :
    (structFields? v).outcome st = (.ok (st.struct? v), st) := by
  cases v
  case handle h =>
    cases h
    case record k c i => cases k <;> rfl
    all_goals rfl
  all_goals rfl

/-- What an object is stored as, to a depth. -/
def convertTo (d : Dispatch) (n : Nat) (u : Value) : Act Value := do
  match ← structFields? u with
  | some _ => prepareTo d n (← asEntries deepest u)
  | none => storeObject d (prepareTo d n) u

theorem prepareTo_succ (d : Dispatch) (n : Nat) (v : Value) :
    prepareTo d (n + 1) v = v.stored (convertTo d n) := rfl

theorem Keeps.offersCall_of {d : Dispatch} {R : Store → Prop} {v : Value} {name : String}
    (reads : Keeps R (d.read v name)) : Keeps R (offersCall d v name) := by
  have offered : Keeps R (offered? d v name) := by
    refine .get _ fun now => ?_
    split
    · refine .tryCatch (.bind reads fun _ => .pure _) fun e => ?_
      split
      · exact .pure none
      · exact .throw e
    · exact .pure none
  exact offered.bind fun _ => .pure _

section

variable {d : Dispatch} {st : Store} {n : Nat} {u : Value} {store : Value → Act Value}

theorem outcome_convertTo_struct {es : Entries} (data : st.struct? u = some es) :
    (convertTo d n u).outcome st =
      (do prepareTo d n (← asEntries deepest u) : Act Value).outcome st := by
  rw [convertTo, outcome_bind_ok (outcome_structFields? u st), data]

theorem outcome_convertTo_object (data : st.struct? u = none) :
    (convertTo d n u).outcome st = (storeObject d (prepareTo d n) u).outcome st := by
  rw [convertTo, outcome_bind_ok (outcome_structFields? u st), data]

theorem Keeps.read (v : Value) (name : String) : Keeps (d.Reaches st) (d.read v name) :=
  fun _ here => here.read v name

theorem Keeps.copy (v : Value) : Keeps (d.Reaches st) (copy v) :=
  fun _ here => here.copy v

theorem Keeps.offersCall (v : Value) (name : String) : Keeps (d.Reaches st) (offersCall d v name) :=
  .offersCall_of (.read v name)

theorem Keeps.structFields? (v : Value) : Keeps (d.Reaches st) (structFields? v) := by
  intro now here
  rwa [outcome_structFields?]

theorem Keeps.asEntries (m : Nat) (v : Value) : Keeps (d.Reaches st) (asEntries m v) := by
  induction m generalizing v with
  | zero => exact .throw _
  | succ m ih =>
    refine .takenOut (fun u => .bind (.structFields? u) fun es => ?_) v
    cases es with
    | none => exact .copy u
    | some es => exact ((Keeps.takenOut ih (.dict es)) : _)

section

variable (stores : ∀ v, Brings (d.Reaches st) (Normal (d.Left st)) (store v))
include stores

theorem Brings.converted (v : Value) (name : String) (named : Entries) :
    Brings (d.Reaches st) (Normal (d.Left st)) (converted d store v name named) :=
  .bind (P := fun _ => True) (Keeps.brings fun _ here => here.call v name named) fun w _ => stores w

theorem Brings.storeDump (v : Value) :
    Brings (d.Reaches st) (Normal (d.Left st)) (storeDump d store v) := by
  refine .tryCatch (.converted stores v _ _) fun e => ?_
  split
  · exact .bind (P := fun _ => True) (Keeps.brings fun _ here => here.note _)
      fun _ _ => .converted stores v _ _
  · exact .throw e

theorem Brings.storeJson (v : Value) :
    Brings (d.Reaches st) (Normal (d.Left st)) (storeJson d store v) := by
  refine .bind (P := fun _ => True) (Keeps.brings fun _ here => here) fun now _ => ?_
  split
  · split
    · refine .bind (P := fun _ => True) (Keeps.brings fun _ here => here) fun x _ => ?_
      exact .bind (stores x.fields) fun w _ => stores w
    · exact .converted stores _ _ _
  · exact .converted stores _ _ _

/-- An object is stored as what it converts to, or else it is left as it is. -/
theorem Brings.storeObject {now : Store} (here : d.Reaches st now) (object : u.isObject)
    (data : now.struct? u = none) :
    d.Reaches st ((storeObject d store u).outcome now).2 ∧
      ∀ r, ((storeObject d store u).outcome now).1 = .ok r → r.Normal (d.Left st) := by
  unfold Act.storeObject
  have there := Keeps.offersCall (d := d) u "model_dump" now here
  rcases dump : (offersCall d u "model_dump").outcome now with ⟨e | b, mid⟩ <;> rw [dump] at there
  · rw [outcome_bind_error dump]
    exact ⟨there, fun _ same => by cases same⟩
  rw [outcome_bind_ok dump]
  cases b with
  | true => exact Brings.storeDump stores u mid there
  | false =>
    have beyond := Keeps.offersCall (d := d) u "to_json" mid there
    rw [if_neg Bool.false_ne_true]
    rcases json : (offersCall d u "to_json").outcome mid with ⟨e | b, after⟩ <;> rw [json] at beyond
    · rw [outcome_bind_error json]
      exact ⟨beyond, fun _ same => by cases same⟩
    rw [outcome_bind_ok json]
    cases b with
    | true => exact Brings.storeJson stores u after beyond
    | false =>
      rw [if_neg Bool.false_ne_true]
      -- what is offered by nobody is a list or a mapping that several share, or it is left
      have left (alone : ∀ now : Store, now.current u = u) : u.Normal (d.Left st) :=
        normal_object object ⟨now, mid, after, here, data, alone, dump, json⟩
      have shared : Brings (d.Reaches st) (Normal (d.Left st))
          (do store ((← get).current u)) :=
        .bind (P := fun _ => True) (Keeps.brings fun _ here => here) fun _ _ => stores _
      split
      · exact shared after beyond
      · exact shared after beyond
      · exact shared after beyond
      · rename_i journal shelf stock
        refine Brings.pure (left fun now => ?_) after beyond
        unfold Store.current
        split
        · exact (journal _ rfl).elim
        · exact (shelf _ rfl).elim
        · exact (stock _ rfl).elim
        · rfl

end

theorem Brings.prepareTo (d : Dispatch) (st : Store) (n : Nat) (v : Value) :
    Brings (d.Reaches st) (Normal (d.Left st)) (prepareTo d n v) := by
  induction n generalizing v with
  | zero => exact .throw _
  | succ n ih =>
    rw [prepareTo_succ]
    refine .stored (fun u object now here => ?_) v
    cases data : now.struct? u with
    | none =>
      rw [outcome_convertTo_object data]
      exact Brings.storeObject ih here object data
    | some es =>
      rw [outcome_convertTo_struct data]
      exact Brings.bind (P := fun _ => True) (Keeps.asEntries _ _).brings (fun w _ => ih w) now here

end

section

variable {d : Dispatch} {st after : Store} {convert : Value → Act Value} {n : Nat} {r v : Value}
variable {xs : List Value}

/-- The stored form of a value is normal, and what is left in it was met on the way. -/
theorem normal_prepare (done : (prepare d v).outcome st = (.ok r, after)) :
    r.Normal (d.Left st) ∧ d.Reaches st after := by
  obtain ⟨reached, normal⟩ := Brings.prepareTo d st deepest v st .refl
  rw [prepare] at done
  rw [done] at reached normal
  exact ⟨normal r rfl, reached⟩

theorem outcome_storedItems_self (each : ∀ x ∈ xs, (x.stored convert).outcome st = (.ok x, st)) :
    (storedItems convert xs).outcome st = (.ok xs, st) := by
  induction xs with
  | nil => rfl
  | cons x xs ih =>
    obtain ⟨here, later⟩ := List.forall_mem_cons.mp each
    rw [storedItems, outcome_bind_ok here, outcome_bind_ok (ih later)]
    rfl

theorem outcome_convertTo_left (passes : d.Passes v st st st) (object : v.isObject) :
    (convertTo d n v).outcome st = (.ok v, st) := by
  rw [outcome_convertTo_object passes.data]
  unfold storeObject
  rw [outcome_bind_ok passes.dump, if_neg Bool.false_ne_true,
    outcome_bind_ok passes.json, if_neg Bool.false_ne_true]
  split
  · exact absurd (passes.alone st) (by simp [Store.current])
  · exact absurd (passes.alone { st with shelves := #[] }) (by simp [Store.current])
  · exact absurd (passes.alone st) (by simp [Store.current])
  · rfl

/-- What is normal is stored as it is, and nothing else happens, as long as what is left in it offers
no conversion. -/
theorem outcome_prepareTo_normal (normal : r.Normal fun u => d.Passes u st st st) :
    (prepareTo d (n + 1) r).outcome st = (.ok r, st) := by
  rw [prepareTo_succ]
  induction r using inner_induct with
  | step r ih =>
    obtain ⟨stands, each⟩ := normal_iff.mp normal
    by_cases object : r.isObject
    · rw [stored_object _ object]
      exact outcome_convertTo_left (stands.leaf object) object
    · have same := outcome_storedItems_self fun u there => ih u there (each u there)
      rw [stored_data _ object, outcome_map, same]
      exact congrArg (fun r => (Except.ok r, st)) (refilled_inner object stands)

end

end Act

end DocMapper
