import DocMapper.Proofs.Offering

/-!
Faults of storing.  Storing a value leads to storing others: what stands in its places, and what
stands in for its objects.  A value fails to be stored exactly if a fault is raised where one of
these ways ends, and is not hidden: a fault of type is, by an object on the way that is being stored
as its dump by aliases.
-/

namespace DocMapper

/-- A value that is to be stored, in a store and to a depth. -/
structure Task where
  depth : Nat
  value : Value
  store : Store

def Task.outcome (d : Dispatch) (t : Task) : Except Fault Value × Store :=
  (Act.prepareTo d t.depth t.value).outcome t.store

/-- What is stored next: what stands in a place of a container, the dump by aliases of an object,
the fields of an instance, which are stored once more afterwards, or whatever else stands in for an
object. -/
inductive Descent
  | place (i : Nat)
  | aliases
  | fields
  | standIn

namespace Descent

def place? : Descent → Option Nat
  | place i => some i
  | _ => none

/-- Whether what is stored next is part of the result as it is.  A dump by aliases may be given up,
and fields are stored once more. -/
def stays : Descent → Bool
  | place _ | standIn => true
  | aliases | fields => false

end Descent

/-- The fields of an instance that is converted as those of the library are. -/
def Store.ownFields? (st : Store) (u : Value) : Option Value :=
  if st.usual u .root "to_json" then
    match u with
    | .handle (.document _ i) => some (st.documents.getD i default).fields
    | _ => none
  else none

/-- Data that several share. -/
def Value.isShared : Value → Bool
  | .handle (.journal _) | .handle (.shelf _) | .handle (.stock _) => true
  | _ => false

/-- The note that a dump by aliases was given up. -/
def Store.givenUp (st : Store) (e : Fault) : Store :=
  st.noted Part.storedForm.log .debug fun st =>
    s!"model_dump(by_alias=True) failed, retrying without alias: {st.message e}"

namespace Act

def byAliases : Entries := [(.str "by_alias", .bool true)]

/-- What an object gives when it is asked to convert itself. -/
def asked (d : Dispatch) (u : Value) (name : String) (named : Entries) : Act Value :=
  d.call .never u name [] named

/-- The attempt to store an object as its dump by aliases. -/
def attempt (d : Dispatch) (n : Nat) (u : Value) : Act Value := do
  prepareTo d n (← asked d u "model_dump" byAliases)

/-- An object stored as its dump by names. -/
def storeNamed (d : Dispatch) (n : Nat) (u : Value) : Act Value := do
  prepareTo d n (← asked d u "model_dump" [])

/-- An object stored without a dump. -/
def storeUndumped (d : Dispatch) (store : Value → Act Value) (u : Value) : Act Value := do
  if ← offersCall d u "to_json" then storeJson d store u
  else if u.isShared then store ((← get).current u)
  else return u

end Act

namespace Value

theorem at?_append (v : Value) (p q : List Nat) :
    v.at? (p ++ q) = (v.at? p).bind fun u => u.at? q := by
  induction p generalizing v with
  | nil => rfl
  | cons i p ih => simp only [List.cons_append, at?, ih, Option.bind_assoc]

theorem not_isObject_of_inner {v u : Value} {i : Nat} (stands : v.inner[i]? = some u) :
    ¬v.isObject := by
  intro object
  rw [inner_object object] at stands
  cases stands

end Value

namespace Dispatch

open Act

variable (d : Dispatch)

/-- An object, and no struct, that is found to offer a dump, or none. -/
structure Dumps (u : Value) (st : Store) (offered : Bool) (begun : Store) : Prop where
  object : u.isObject
  data : st.struct? u = none
  offers : (offersCall d u "model_dump").outcome st = (.ok offered, begun)

/-- An object gives up its dump by aliases for a fault of type. -/
inductive GivesUp (n : Nat) (u : Value) (st : Store) : Store → Prop
  | intro {begun last : Store} {e : Fault} (dumps : d.Dumps u st true begun)
      (failed : (attempt d n u).outcome begun = (.error e, last)) (type : e.kind.isType) :
      GivesUp n u st (last.givenUp e)

/-- An object that offers a conversion but no dump. -/
inductive Converts (u : Value) (st : Store) : Store → Prop
  | intro {mid begun : Store} (dumps : d.Dumps u st false mid)
      (offers : (offersCall d u "to_json").outcome mid = (.ok true, begun)) : Converts u st begun

/-- Storing one value leads to storing another. -/
inductive Enters : Task → Descent → Task → Prop
  | place {n : Nat} {v u : Value} {st mid : Store} {i : Nat} {ws : List Value}
      (stands : v.inner[i]? = some u)
      (before : (Value.storedItems (convertTo d n) (v.inner.take i)).outcome st = (.ok ws, mid)) :
      Enters ⟨n + 1, v, st⟩ (.place i) ⟨n + 1, u, mid⟩
  | aliases {n : Nat} {u x : Value} {st begun mid : Store} (dumps : d.Dumps u st true begun)
      (gives : (asked d u "model_dump" byAliases).outcome begun = (.ok x, mid)) :
      Enters ⟨n + 1, u, st⟩ .aliases ⟨n, x, mid⟩
  | names {n : Nat} {u x : Value} {st begun mid : Store} (up : d.GivesUp n u st begun)
      (gives : (asked d u "model_dump" []).outcome begun = (.ok x, mid)) :
      Enters ⟨n + 1, u, st⟩ .standIn ⟨n, x, mid⟩
  | struct {n : Nat} {u x : Value} {es : Entries} {st mid : Store} (data : st.struct? u = some es)
      (taken : (asEntries deepest u).outcome st = (.ok x, mid)) :
      Enters ⟨n + 1, u, st⟩ .standIn ⟨n, x, mid⟩
  | fields {n : Nat} {u x : Value} {st begun : Store} (converts : d.Converts u st begun)
      (own : begun.ownFields? u = some x) : Enters ⟨n + 1, u, st⟩ .fields ⟨n, x, begun⟩
  | again {n : Nat} {u x w : Value} {st begun mid : Store} (converts : d.Converts u st begun)
      (own : begun.ownFields? u = some x)
      (stored : (prepareTo d n x).outcome begun = (.ok w, mid)) :
      Enters ⟨n + 1, u, st⟩ .standIn ⟨n, w, mid⟩
  | json {n : Nat} {u x : Value} {st begun mid : Store} (converts : d.Converts u st begun)
      (foreign : begun.ownFields? u = none)
      (gives : (asked d u "to_json" []).outcome begun = (.ok x, mid)) :
      Enters ⟨n + 1, u, st⟩ .standIn ⟨n, x, mid⟩
  | current {n : Nat} {u : Value} {st mid begun : Store} (dumps : d.Dumps u st false mid)
      (offers : (offersCall d u "to_json").outcome mid = (.ok false, begun)) (shared : u.isShared) :
      Enters ⟨n + 1, u, st⟩ .standIn ⟨n, begun.current u, begun⟩

/-- A fault is raised by what is to be stored, before anything else is. -/
inductive Raises : Task → Fault → Store → Prop
  | deep {v : Value} {st : Store} : Raises ⟨0, v, st⟩ tooDeep st
  | struct {n : Nat} {u : Value} {es : Entries} {st last : Store} {e : Fault}
      (data : st.struct? u = some es)
      (failed : (asEntries deepest u).outcome st = (.error e, last)) :
      Raises ⟨n + 1, u, st⟩ e last
  | offer {n : Nat} {u : Value} {st last : Store} {e : Fault} (object : u.isObject)
      (data : st.struct? u = none)
      (failed : (offersCall d u "model_dump").outcome st = (.error e, last)) :
      Raises ⟨n + 1, u, st⟩ e last
  | aliases {n : Nat} {u : Value} {st begun last : Store} {e : Fault}
      (dumps : d.Dumps u st true begun)
      (failed : (asked d u "model_dump" byAliases).outcome begun = (.error e, last))
      (other : ¬e.kind.isType) : Raises ⟨n + 1, u, st⟩ e last
  | names {n : Nat} {u : Value} {st begun last : Store} {e : Fault} (up : d.GivesUp n u st begun)
      (failed : (asked d u "model_dump" []).outcome begun = (.error e, last)) :
      Raises ⟨n + 1, u, st⟩ e last
  | offerJson {n : Nat} {u : Value} {st mid last : Store} {e : Fault}
      (dumps : d.Dumps u st false mid)
      (failed : (offersCall d u "to_json").outcome mid = (.error e, last)) :
      Raises ⟨n + 1, u, st⟩ e last
  | json {n : Nat} {u : Value} {st begun last : Store} {e : Fault}
      (converts : d.Converts u st begun) (foreign : begun.ownFields? u = none)
      (failed : (asked d u "to_json" []).outcome begun = (.error e, last)) :
      Raises ⟨n + 1, u, st⟩ e last

/-- Storing one value leads to storing another, one step after the other. -/
inductive Descends : Task → List Descent → Task → Prop
  | nil (t : Task) : Descends t [] t
  | cons {t s r : Task} {l : Descent} {way : List Descent} (first : d.Enters t l s)
      (rest : Descends s way r) : Descends t (l :: way) r

/-- A fault is raised somewhere, and no dump by aliases on the way there is given up for it. -/
def Surfaces (t : Task) (e : Fault) (last : Store) : Prop :=
  ∃ way s, d.Descends t way s ∧ (e.kind.isType → .aliases ∉ way) ∧ d.Raises s e last

end Dispatch

namespace Act

open Value

section

variable {d : Dispatch} {n : Nat} {u : Value} {st mid begun : Store} {x : Value} {es : Entries}

theorem outcome_task_object (object : u.isObject) :
    Task.outcome d ⟨n + 1, u, st⟩ = (convertTo d n u).outcome st := by
  rw [Task.outcome, prepareTo_succ, Value.stored_object _ object]

theorem isObject_of_struct? (data : st.struct? u = some es) : u.isObject := by
  cases u <;> first | rfl | cases data

theorem outcome_task_struct (data : st.struct? u = some es) : Task.outcome d ⟨n + 1, u, st⟩ =
    (do prepareTo d n (← asEntries deepest u) : Act Value).outcome st := by
  rw [outcome_task_object (isObject_of_struct? data), outcome_convertTo_struct data]

theorem outcome_task_dumps (dumps : d.Dumps u st true begun) : Task.outcome d ⟨n + 1, u, st⟩ =
    match (attempt d n u).outcome begun with
    | (.error e, last) =>
      if e.kind.isType then (storeNamed d n u).outcome (last.givenUp e) else (.error e, last)
    | done => done := by
  have tried : converted d (prepareTo d n) u "model_dump" [(.str "by_alias", .bool true)] =
      attempt d n u := rfl
  rw [outcome_task_object dumps.object, outcome_convertTo_object dumps.data]
  unfold storeObject
  rw [outcome_bind_ok dumps.offers, if_pos rfl, storeDump, outcome_tryCatch, tried]
  rcases (attempt d n u).outcome begun with ⟨e | a, last⟩
  · cases type : e.kind.isType
    · simp only [type, if_false, Bool.false_eq_true, outcome_throw]
    · simp only [type, if_true]
      exact outcome_bind_ok (outcome_noteIn ..)
  · rfl

theorem outcome_task_undumped (dumps : d.Dumps u st false mid) :
    Task.outcome d ⟨n + 1, u, st⟩ = (storeUndumped d (prepareTo d n) u).outcome mid := by
  rw [outcome_task_object dumps.object, outcome_convertTo_object dumps.data]
  unfold storeObject storeUndumped
  rw [outcome_bind_ok dumps.offers, if_neg Bool.false_ne_true]
  rcases json : (offersCall d u "to_json").outcome mid with ⟨e | _ | _, begun⟩
  · rw [outcome_bind_error json, outcome_bind_error json]
  · rw [outcome_bind_ok json, outcome_bind_ok json, if_neg Bool.false_ne_true,
      if_neg Bool.false_ne_true]
    -- three kinds of handles lead to data that several share
    cases u
    case handle h => cases h <;> rfl
    all_goals rfl
  · rw [outcome_bind_ok json, outcome_bind_ok json, if_pos rfl, if_pos rfl]

theorem outcome_task_left (dumps : d.Dumps u st false mid)
    (offers : (offersCall d u "to_json").outcome mid = (.ok false, begun)) :
    Task.outcome d ⟨n + 1, u, st⟩ =
      if u.isShared then Task.outcome d ⟨n, begun.current u, begun⟩ else (.ok u, begun) := by
  rw [outcome_task_undumped dumps, storeUndumped, outcome_bind_ok offers,
    if_neg Bool.false_ne_true]
  split <;> rfl

/-- An instance is stored as what its fields are stored as, and whatever else converts itself as
what it gives. -/
theorem outcome_storeJson {store : Value → Act Value} : (storeJson d store u).outcome st =
    match st.ownFields? u with
    | some x => (do store (← store x) : Act Value).outcome st
    | none => (do store (← asked d u "to_json" []) : Act Value).outcome st := by
  unfold storeJson Store.ownFields?
  rw [outcome_bind_ok (outcome_get st)]
  cases usual : st.usual u .root "to_json" with
  | false => rfl
  | true =>
    rw [if_pos rfl, if_pos rfl]
    cases u
    case handle h =>
      cases h
      case document c i => exact outcome_bind_ok (outcome_document i st)
      all_goals rfl
    all_goals rfl

theorem outcome_task_converts (converts : d.Converts u st begun) : Task.outcome d ⟨n + 1, u, st⟩ =
    match begun.ownFields? u with
    | some x => (do prepareTo d n (← prepareTo d n x) : Act Value).outcome begun
    | none => (do prepareTo d n (← asked d u "to_json" []) : Act Value).outcome begun := by
  obtain ⟨dumps, offers⟩ := converts
  rw [outcome_task_undumped dumps, storeUndumped, outcome_bind_ok offers, if_pos rfl,
    outcome_storeJson]

end

section

variable {convert : Value → Act Value} {st mid last : Store} {v u : Value} {xs ws : List Value}
variable {i : Nat} {e : Fault}

/-- Storing a container goes on with what stands in a place once all before it is stored. -/
theorem outcome_stored_resumed (stands : v.inner[i]? = some u)
    (before : (storedItems convert (v.inner.take i)).outcome st = (.ok ws, mid)) :
    (v.stored convert).outcome st =
      (do
        let w ← u.stored convert
        let rest ← storedItems convert (v.inner.drop (i + 1))
        return v.refilled (ws ++ w :: rest) : Act Value).outcome mid := by
  obtain ⟨size, is⟩ := List.getElem?_eq_some_iff.mp stands
  have parts : v.inner = v.inner.take i ++ u :: v.inner.drop (i + 1) := by
    rw [← is, ← List.drop_eq_getElem_cons size, List.take_append_drop]
  have items : storedItems convert v.inner = do
      let ys ← storedItems convert (v.inner.take i)
      let zs ← storedItems convert (u :: v.inner.drop (i + 1))
      return ys ++ zs := by
    rw [← storedItems_append, ← parts]
  rw [stored_data convert (not_isObject_of_inner stands), map_eq_pure_bind, items, bind_assoc,
    outcome_bind_ok before, storedItems]
  simp only [bind_assoc, pure_bind]

/-- What fails to be stored fails in the first place that cannot be stored. -/
theorem outcome_storedItems_eq_error
    (failed : (storedItems convert xs).outcome st = (.error e, last)) : ∃ i u ws mid,
      xs[i]? = some u ∧ (storedItems convert (xs.take i)).outcome st = (.ok ws, mid) ∧
        (u.stored convert).outcome mid = (.error e, last) := by
  induction xs generalizing st with
  | nil => cases failed
  | cons x xs ih =>
    rw [storedItems] at failed
    rcases first : (x.stored convert).outcome st with ⟨e | w, mid⟩
    · rw [outcome_bind_error first] at failed
      cases failed
      exact ⟨0, x, [], st, rfl, rfl, first⟩
    · rw [outcome_bind_ok first] at failed
      rcases rest : (storedItems convert xs).outcome mid with ⟨e | ys, after⟩
      · rw [outcome_bind_error rest] at failed
        cases failed
        obtain ⟨i, u, ws, σ, stands, before, raised⟩ := ih rest
        refine ⟨i + 1, u, w :: ws, σ, stands, ?_, raised⟩
        rw [List.take_succ_cons, storedItems, outcome_bind_ok first, outcome_bind_ok before]
        rfl
      · rw [outcome_bind_ok rest] at failed
        cases failed

end

end Act

namespace Dispatch

open Act Value

section

variable {d : Dispatch} {t s : Task} {l : Descent} {way : List Descent} {e : Fault} {r : Value}
variable {last after : Store}

section

variable {n : Nat} {u : Value} {st begun : Store}

theorem GivesUp.outcome (up : d.GivesUp n u st after) :
    Task.outcome d ⟨n + 1, u, st⟩ = (storeNamed d n u).outcome after := by
  obtain ⟨dumps, failed, type⟩ := up
  rw [outcome_task_dumps dumps, failed]
  simp only [type, if_true]

/-- A dump by aliases that is not given up is what counts, or fails the object. -/
theorem Dumps.kept {ended : Except Fault Value} (dumps : d.Dumps u st true begun)
    (tried : (attempt d n u).outcome begun = (ended, last))
    (other : ∀ e, ended = .error e → ¬e.kind.isType) :
    Task.outcome d ⟨n + 1, u, st⟩ = (ended, last) := by
  rw [outcome_task_dumps dumps, tried]
  cases ended with
  | ok w => rfl
  | error e => exact if_neg (other e rfl)

end

theorem Enters.standIn (enters : d.Enters t .standIn s) : t.outcome d = s.outcome d := by
  cases enters with
  | names up gives =>
    rw [up.outcome]
    exact outcome_bind_ok gives
  | struct data taken =>
    rw [outcome_task_struct data]
    exact outcome_bind_ok taken
  | again converts own stored =>
    rw [outcome_task_converts converts, own]
    exact outcome_bind_ok stored
  | json converts foreign gives =>
    rw [outcome_task_converts converts, foreign]
    exact outcome_bind_ok gives
  | current dumps offers shared =>
    rw [outcome_task_left dumps offers, if_pos shared]

/-- What fails to be stored on the way fails the whole, unless it is given up. -/
theorem Enters.fails (enters : d.Enters t l s) (failed : s.outcome d = (.error e, last))
    (passes : e.kind.isType → l ≠ .aliases) : t.outcome d = (.error e, last) := by
  cases l with
  | standIn => rw [enters.standIn, failed]
  | place i =>
    cases enters with
    | place stands before =>
      rw [Task.outcome, prepareTo_succ, outcome_stored_resumed stands before]
      exact outcome_bind_error failed
  | aliases =>
    cases enters with
    | aliases dumps gives =>
      refine dumps.kept ((outcome_bind_ok gives).trans failed) fun e same type => ?_
      cases same
      exact passes type rfl
  | fields =>
    cases enters with
    | fields converts own =>
      rw [outcome_task_converts converts, own]
      exact outcome_bind_error failed

/-- What is stored on the way is part of the result, if it stays. -/
theorem Enters.stays (enters : d.Enters t l s) (stays : l.stays)
    (done : t.outcome d = (.ok r, after)) :
    ∃ w last, s.outcome d = (.ok w, last) ∧ r.at? l.place?.toList = some w := by
  cases l with
  | standIn => exact ⟨r, after, enters.standIn ▸ done, rfl⟩
  | place i =>
    cases enters with
    | @place n v u st mid i ws stands before =>
      rw [Task.outcome, prepareTo_succ, outcome_stored_resumed stands before] at done
      obtain ⟨w, last, there, done⟩ := outcome_bind_eq_ok done
      obtain ⟨rest, final, others, done⟩ := outcome_bind_eq_ok done
      cases done
      refine ⟨w, last, there, ?_⟩
      obtain ⟨size, -⟩ := List.getElem?_eq_some_iff.mp stands
      have length : ws.length = i := by
        rw [length_storedItems before, List.length_take]
        omega
      have full : (ws ++ w :: rest).length = v.inner.length := by
        rw [List.length_append, List.length_cons, length, length_storedItems others,
          List.length_drop]
        omega
      change ((v.refilled _).inner[i]?).bind _ = _
      rw [inner_refilled (not_isObject_of_inner stands) full,
        List.getElem?_append_right (by omega), length, Nat.sub_self]
      rfl
  | aliases | fields => cases stays

theorem Raises.outcome (raises : d.Raises t e last) : t.outcome d = (.error e, last) := by
  cases raises with
  | deep => rfl
  | struct data failed =>
    rw [outcome_task_struct data]
    exact outcome_bind_error failed
  | offer object data failed =>
    rw [outcome_task_object object, outcome_convertTo_object data]
    exact outcome_bind_error failed
  | aliases dumps failed other =>
    exact dumps.kept (outcome_bind_error failed) fun e same => by cases same; exact other
  | names up failed =>
    rw [up.outcome]
    exact outcome_bind_error failed
  | offerJson dumps failed =>
    rw [outcome_task_undumped dumps]
    exact outcome_bind_error failed
  | json converts foreign failed =>
    rw [outcome_task_converts converts, foreign]
    exact outcome_bind_error failed

theorem Descends.fails (descends : d.Descends t way s) (failed : s.outcome d = (.error e, last))
    (passes : e.kind.isType → .aliases ∉ way) : t.outcome d = (.error e, last) := by
  induction descends with
  | nil => exact failed
  | cons first rest ih =>
    refine first.fails (ih failed fun type there => passes type (.tail _ there)) fun type same => ?_
    exact passes type (same ▸ .head _)

theorem Descends.stays (descends : d.Descends t way s) (stays : ∀ l ∈ way, l.stays)
    (done : t.outcome d = (.ok r, after)) :
    ∃ w last, s.outcome d = (.ok w, last) ∧ r.at? (way.filterMap Descent.place?) = some w := by
  induction descends generalizing r after with
  | nil => exact ⟨r, after, done, rfl⟩
  | @cons t s _ l way first rest ih =>
    obtain ⟨here, later⟩ := List.forall_mem_cons.mp stays
    obtain ⟨w, last, there, at_l⟩ := first.stays here done
    obtain ⟨x, final, reached, at_way⟩ := ih later there
    refine ⟨x, final, reached, ?_⟩
    have places : (l :: way).filterMap Descent.place? =
        l.place?.toList ++ way.filterMap Descent.place? := by
      cases l <;> rfl
    rw [places, at?_append, at_l]
    exact at_way

theorem Descends.depth_le (descends : d.Descends t way s) : s.depth ≤ t.depth := by
  induction descends with
  | nil => exact Nat.le_refl _
  | cons first _ ih =>
    refine Nat.le_trans ih ?_
    cases first <;> simp

theorem Surfaces.of_enters (enters : d.Enters t l s) (passes : e.kind.isType → l ≠ .aliases)
    (surfaces : d.Surfaces s e last) : d.Surfaces t e last := by
  obtain ⟨way, r, descends, clear, raises⟩ := surfaces
  refine ⟨l :: way, r, .cons enters descends, fun type there => ?_, raises⟩
  rcases List.mem_cons.mp there with same | there
  · exact passes type same.symm
  · exact clear type there

theorem Surfaces.of_raises (raises : d.Raises t e last) : d.Surfaces t e last :=
  ⟨[], t, .nil t, fun _ => List.not_mem_nil, raises⟩

section

variable {n : Nat} {u : Value} {st mid : Store}

/-- Whatever fails to be stored on the way fails by a fault that surfaces. -/
def Deeper (d : Dispatch) (n : Nat) : Prop :=
  ∀ {v σ e last}, Task.outcome d ⟨n, v, σ⟩ = (.error e, last) → d.Surfaces ⟨n, v, σ⟩ e last

variable (deeper : d.Deeper n)
include deeper

/-- Either nothing is given to be stored, or what is given cannot be. -/
theorem Deeper.split {act : Act Value}
    (failed : (act >>= prepareTo d n).outcome st = (.error e, last)) :
    act.outcome st = (.error e, last) ∨
      ∃ x mid, act.outcome st = (.ok x, mid) ∧ d.Surfaces ⟨n, x, mid⟩ e last := by
  rcases first : act.outcome st with ⟨e | x, mid⟩
  · rw [outcome_bind_error first] at failed
    exact .inl failed
  · rw [outcome_bind_ok first] at failed
    exact .inr ⟨x, mid, rfl, deeper failed⟩

theorem Deeper.surfaces_struct {es : Entries} (data : st.struct? u = some es)
    (failed : Task.outcome d ⟨n + 1, u, st⟩ = (.error e, last)) :
    d.Surfaces ⟨n + 1, u, st⟩ e last := by
  rw [outcome_task_struct data] at failed
  obtain raised | ⟨x, mid, taken, surfaces⟩ := deeper.split failed
  · exact .of_raises (.struct data raised)
  · exact surfaces.of_enters (.struct data taken) fun _ => nofun

theorem Deeper.surfaces_dumps (dumps : d.Dumps u st true mid)
    (failed : Task.outcome d ⟨n + 1, u, st⟩ = (.error e, last)) :
    d.Surfaces ⟨n + 1, u, st⟩ e last := by
  rcases tried : (attempt d n u).outcome mid with ⟨e' | w, after⟩
  · by_cases type : e'.kind.isType
    · have up : d.GivesUp n u st (after.givenUp e') := .intro dumps tried type
      rw [up.outcome] at failed
      obtain raised | ⟨x, begun, gives, surfaces⟩ := deeper.split failed
      · exact .of_raises (.names up raised)
      · exact surfaces.of_enters (.names up gives) fun _ => nofun
    · rw [dumps.kept tried fun e same => by cases same; exact type] at failed
      cases failed
      obtain raised | ⟨x, begun, gives, surfaces⟩ := deeper.split tried
      · exact .of_raises (.aliases dumps raised type)
      · exact surfaces.of_enters (.aliases dumps gives) fun is => absurd is type
  · rw [dumps.kept tried fun e => nofun] at failed
    cases failed

theorem Deeper.surfaces_undumped (dumps : d.Dumps u st false mid)
    (failed : Task.outcome d ⟨n + 1, u, st⟩ = (.error e, last)) :
    d.Surfaces ⟨n + 1, u, st⟩ e last := by
  rcases json : (offersCall d u "to_json").outcome mid with ⟨e' | _ | _, begun⟩
  · have raises : d.Raises ⟨n + 1, u, st⟩ e' begun := .offerJson dumps json
    cases failed.symm.trans raises.outcome
    exact .of_raises raises
  · rw [outcome_task_left dumps json] at failed
    split at failed
    · exact (deeper failed).of_enters (.current dumps json ‹_›) fun _ => nofun
    · cases failed
  · have converts : d.Converts u st begun := .intro dumps json
    rw [outcome_task_converts converts] at failed
    split at failed
    · rename_i x own
      obtain raised | ⟨w, after, stored, surfaces⟩ := deeper.split failed
      · exact (deeper raised).of_enters (.fields converts own) fun _ => nofun
      · exact surfaces.of_enters (.again converts own stored) fun _ => nofun
    · rename_i foreign
      obtain raised | ⟨x, after, gives, surfaces⟩ := deeper.split failed
      · exact .of_raises (.json converts foreign raised)
      · exact surfaces.of_enters (.json converts foreign gives) fun _ => nofun

theorem Deeper.surfaces_object (object : u.isObject)
    (failed : Task.outcome d ⟨n + 1, u, st⟩ = (.error e, last)) :
    d.Surfaces ⟨n + 1, u, st⟩ e last := by
  cases data : st.struct? u with
  | some es => exact deeper.surfaces_struct data failed
  | none =>
    rcases offers : (offersCall d u "model_dump").outcome st with ⟨e' | _ | _, mid⟩
    · have raises : d.Raises ⟨n + 1, u, st⟩ e' mid := .offer object data offers
      cases failed.symm.trans raises.outcome
      exact .of_raises raises
    · exact deeper.surfaces_undumped ⟨object, data, offers⟩ failed
    · exact deeper.surfaces_dumps ⟨object, data, offers⟩ failed

end

theorem surfaces_of_error (failed : t.outcome d = (.error e, last)) : d.Surfaces t e last := by
  obtain ⟨n, v, st⟩ := t
  induction n generalizing v st e last with
  | zero =>
    cases failed
    exact .of_raises .deep
  | succ n deeper =>
    -- what stands in for objects is less deep; a container fails in one of its places
    induction v using inner_induct generalizing st with
    | step v ih =>
      by_cases object : v.isObject
      · exact Deeper.surfaces_object (fun failed => deeper _ _ failed) object failed
      · rw [Task.outcome, prepareTo_succ, stored_data _ object, outcome_map] at failed
        rcases items : (storedItems (convertTo d n) v.inner).outcome st with ⟨e' | ys, after⟩ <;>
          rw [items] at failed <;> cases failed
        obtain ⟨i, u, ws, mid, stands, before, raised⟩ := outcome_storedItems_eq_error items
        exact (ih u (List.mem_of_getElem? stands) mid raised).of_enters (.place stands before)
          fun _ => nofun

/-- A value fails to be stored exactly by the fault that surfaces. -/
theorem outcome_eq_error_iff : t.outcome d = (.error e, last) ↔ d.Surfaces t e last := by
  constructor
  · exact surfaces_of_error
  · rintro ⟨way, s, descends, clear, raises⟩
    exact descends.fails raises.outcome clear

end

end Dispatch

end DocMapper
