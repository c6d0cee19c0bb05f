import Mathlib.Algebra.BigOperators.Fin
import Mathlib.Algebra.Order.BigOperators.Group.Finset
import Mathlib.Data.List.FinRange
import DocMapper.Proofs.Stops

/-!
Readers of one cursor at the same time.  What each of them gets, and what is left at the end, is what
the same calls would give one after another, in the order in which they took the lock.
-/

namespace DocMapper

/-- Calls one after another: what each gives, and the store at the end. -/
def inTurn (d : Dispatch) (i : Nat) : List Reading → Store → List (Except Fault Value) × Store
  | [], st => ([], st)
  | r :: rs, st =>
    let first := (r.act d i).outcome st
    let rest := inTurn d i rs first.2
    (first.1 :: rest.1, rest.2)

section

variable {d : Dispatch} {st : Store} {i s : Nat}

theorem inTurn_append_one (rs : List Reading) (r : Reading) (st : Store) :
    inTurn d i (rs ++ [r]) st =
      ((inTurn d i rs st).1 ++ [((r.act d i).outcome (inTurn d i rs st).2).1],
        ((r.act d i).outcome (inTurn d i rs st).2).2) := by
  induction rs generalizing st with
  | nil => rfl
  | cons q rs ih =>
    simp only [List.cons_append, inTurn, ih]

theorem length_inTurn (rs : List Reading) (st : Store) :
    (inTurn d i rs st).1.length = rs.length := by
  induction rs generalizing st with
  | nil => rfl
  | cons r rs ih =>
    rw [inTurn]
    simp only [List.length_cons, ih]

theorem serves_inTurn (h : st.Serves d i s) (rs : List Reading) :
    (inTurn d i rs st).2.Serves d i s ∧ st.Follows (inTurn d i rs st).2 i s := by
  induction rs generalizing st with
  | nil => exact ⟨h, h.reads.follows h.unspent⟩
  | cons r rs ih =>
    have first := Reading.ends_act (r := r) h
    have rest := ih (first.serves h)
    exact ⟨rest.1, first.follows.trans rest.2⟩

theorem lock_inTurn (h : st.Serves d i s) (rs : List Reading) :
    (((inTurn d i rs st).2.locked i).cursorAt i).lock = ((st.locked i).cursorAt i).lock := by
  induction rs generalizing st with
  | nil => rfl
  | cons r rs ih =>
    have first := Reading.ends_act (r := r) h
    rw [inTurn, ih (first.serves h), h.reads.locked_of_lock first.lock, first.lock]

theorem closed_act (h : st.Serves d i s) {r : Reading} :
    ((r.act d i).outcome st).2.locked i = ((r.act d i).outcome st).2 :=
  h.reads.locked_of_lock (Reading.ends_act h).lock

end

/-- The lock that a call waits for, or has. -/
def Stage.lock? : Stage → Option Value
  | waiting lock => some lock
  | inside lock _ => some lock
  | _ => none

def Stage.past : Stage → Bool
  | inside .. => true
  | finished _ => true
  | _ => false

structure Readers (n : Nat) where
  store : Store
  stages : Fin n → Stage

namespace Readers

variable {n : Nat}

def gathered (st : Store) : Readers n := ⟨st, fun _ => .ready⟩

/-- Nobody has a lock. -/
def Free (c : Readers n) (lock : Value) : Prop := ∀ t p, c.stages t ≠ .inside lock p

/-- A reader may go on: it is not finished, and the lock that it waits for is free. -/
structure May (c : Readers n) (t : Fin n) : Prop where
  unfinished : ∀ x, c.stages t ≠ .finished x
  free : ∀ lock, c.stages t = .waiting lock → c.Free lock

def go (c : Readers n) (d : Dispatch) (i : Nat) (calls : Fin n → Reading) (t : Fin n) : Readers n where
  store := ((calls t).moved d i (c.stages t) c.store).2
  stages := Function.update c.stages t ((calls t).moved d i (c.stages t) c.store).1

/-- What happened: who went on, and from which stop. -/
abbrev History (n : Nat) := List (Fin n × Stage)

/-- A run of readers, in any order in which they may go on. -/
inductive Run (d : Dispatch) (i : Nat) (calls : Fin n → Reading) (c : Readers n) :
    History n → Readers n → Prop
  | start : Run d i calls c [] c
  | step {past : History n} {now : Readers n} {t : Fin n} (before : Run d i calls c past now)
      (may : now.May t) : Run d i calls c (past ++ [(t, now.stages t)]) (now.go d i calls t)

namespace History

/-- The readers in the order in which they took the lock. -/
def order (past : History n) : List (Fin n) :=
  past.filterMap fun e =>
    match e.2 with
    | .waiting _ => some e.1
    | _ => none

def awaits (past : History n) : Nat :=
  past.countP fun e => e.2 matches .inside _ (.awaiting _)

theorem order_append_one (past : History n) (t : Fin n) (g : Stage) :
    order (past ++ [(t, g)]) = order past ++ (if g matches .waiting _ then [t] else []) := by
  rw [order, List.filterMap_append, order]
  cases g <;> rfl

theorem awaits_append_one (past : History n) (t : Fin n) (g : Stage) :
    awaits (past ++ [(t, g)]) = awaits past + (if g matches .inside _ (.awaiting _) then 1 else 0) := by
  rw [awaits, List.countP_append, awaits, List.countP_singleton]

/-- What the calls give one after another, in the order in which they took the lock. -/
def given (past : History n) (d : Dispatch) (i : Nat) (calls : Fin n → Reading) (st : Store) :
    List (Except Fault Value) × Store :=
  inTurn d i (past.order.map calls) st

end History

section

variable {d : Dispatch} {i s : Nat} {calls : Fin n → Reading} {st : Store} {past : History n}
variable {c : Readers n} {t u : Fin n}

theorem stages_go_self : (c.go d i calls t).stages t =
    ((calls t).moved d i (c.stages t) c.store).1 :=
  Function.update_self ..

theorem stages_go_other (h : u ≠ t) : (c.go d i calls t).stages u = c.stages u :=
  Function.update_of_ne h ..

theorem stays {past : History n} (e : Fin n × Stage) {k : Nat} {u : Fin n} {x : Except Fault Value}
    (order : past.order[k]? = some u) (given : (past.given d i calls st).1[k]? = some x) :
    (History.order (past ++ [e]))[k]? = some u ∧
      (History.given (past ++ [e]) d i calls st).1[k]? = some x := by
  rw [History.given, History.order_append_one]
  split
  · rw [if_pos rfl, List.map_append, List.map_singleton, inTurn_append_one]
    exact ⟨List.getElem?_append_left (List.getElem?_eq_some_iff.mp order).1 ▸ order,
      List.getElem?_append_left (List.getElem?_eq_some_iff.mp given).1 ▸ given⟩
  · rw [if_neg Bool.false_ne_true, List.append_nil]
    exact ⟨order, given⟩

/-- What the readers do now: nobody is inside, or the last that took the lock is. -/
inductive Now (d : Dispatch) (i s : Nat) (calls : Fin n → Reading) (st : Store) (past : History n)
    (c : Readers n) : Prop
  | idle (outside : ∀ t lock p, c.stages t ≠ .inside lock p)
      (store : (c.store = st ∧ ∀ t, c.stages t = .ready) ∨
        c.store = (past.given d i calls st).2.locked i)
  | busy {before : List (Fin n)} {t : Fin n} {lock : Value} {p : Point}
      (order : past.order = before ++ [t]) (stage : c.stages t = .inside lock p)
      (only : ∀ u lock p, c.stages u = .inside lock p → u = t)
      (enters : (calls t).Enters ((inTurn d i (before.map calls) st).2.cursorAt i).state)
      (midway : (calls t).Midway i s (inTurn d i (before.map calls) st).2 p c.store)

/-- What every run of readers keeps. -/
structure Agrees (d : Dispatch) (i s : Nat) (calls : Fin n → Reading) (st : Store)
    (past : History n) (c : Readers n) : Prop where
  nodup : past.order.Nodup
  took : ∀ t, t ∈ past.order ↔ (c.stages t).past
  locks : ∀ t lock, (c.stages t).lock? = some lock → lock = ((st.locked i).cursorAt i).lock
  results : ∀ t x, c.stages t = .finished x →
    ∃ k : Nat, past.order[k]? = some t ∧ (past.given d i calls st).1[k]? = some x
  once : past.awaits = 0 ∨ past.awaits = 1 ∧
    ((c.store.cursorAt i).source = .handle (.source s) ∨
      ∃ t lock v, c.stages t = .inside lock (.resolving v))
  now : Now d i s calls st past c

theorem agrees_gathered : Agrees d i s calls st [] (gathered st) where
  nodup := List.nodup_nil
  took t := by simp [History.order, gathered, Stage.past]
  locks t lock h := by simp [gathered, Stage.lock?] at h
  results t x h := by simp [gathered] at h
  once := .inl rfl
  now := .idle (fun _ _ _ h => by simp [gathered] at h) (.inl ⟨rfl, fun _ => rfl⟩)

/-- Once any reader began, the cursor has the one lock that all of them use. -/
theorem Agrees.lock (h : st.Serves d i s) (a : Agrees d i s calls st past c) :
    (c.store = st ∧ ∀ t, c.stages t = .ready) ∨
      (c.store.cursorAt i).lock = ((st.locked i).cursorAt i).lock := by
  cases a.now with
  | idle outside store =>
    cases store with
    | inl untouched => exact .inl untouched
    | inr store =>
      right
      rw [store]
      exact lock_inTurn h _
  | busy order stage only enters midway =>
    right
    rw [midway.same_lock (serves_inTurn h _).1.reads, lock_inTurn h]

theorem moved_first (h : st.Serves d i s) (a : Agrees d i s calls st past c) (r : Reading) :
    r.moved d i .ready c.store = (.waiting ((st.locked i).cursorAt i).lock, c.store.locked i) := by
  rcases a.lock h with ⟨untouched, -⟩ | lock
  · rw [untouched]
    exact Reading.moved_ready h.reads
  · rw [h.reads.locked_of_lock lock]
    obtain ⟨m, hc⟩ := h.reads.cursorAt_locked
    rw [hc] at lock ⊢
    apply Reading.moved_eq_of_ok
    rw [Reading.move, Act.lockOf]
    simp only [Act.outcome_bind, Act.outcome_cursor]
    rw [lock]
    rfl

theorem source_of_locked (h : st.Serves d i s) (a : Agrees d i s calls st past c) :
    ((c.store.locked i).cursorAt i).source = (c.store.cursorAt i).source := by
  rcases a.lock h with ⟨untouched, -⟩ | lock
  · rw [untouched]
    exact (Reading.cursorAt_locked_eq h.reads).2.2
  · rw [h.reads.locked_of_lock lock]

theorem order_ready (past : History n) (t : Fin n) :
    History.order (past ++ [(t, .ready)]) = past.order := by
  rw [History.order_append_one]
  simp

theorem given_ready (past : History n) (t : Fin n) :
    History.given (past ++ [(t, .ready)]) d i calls st = past.given d i calls st := by
  rw [History.given, order_ready, History.given]

section
variable (h : st.Serves d i s) (a : Agrees d i s calls st past c) (ht : c.stages t = .ready)
include h a ht

theorem go_ready :
    (c.go d i calls t).stages t = .waiting ((st.locked i).cursorAt i).lock ∧
      (c.go d i calls t).store = c.store.locked i := by
  refine ⟨?_, ?_⟩
  · rw [stages_go_self, ht, moved_first h a]
  · rw [go, ht, moved_first h a]

theorem ne_of_go_ready {u : Fin n} {g : Stage}
    (hu : (c.go d i calls t).stages u = g) (other : ∀ lock, g ≠ .waiting lock) :
    u ≠ t ∧ c.stages u = g := by
  have hut : u ≠ t := by
    rintro rfl
    exact other _ (hu.symm.trans (go_ready h a ht).1)
  exact ⟨hut, (stages_go_other hut).symm.trans hu⟩

/-- A reader that begins does not change who is inside. -/
theorem now_ready : Now d i s calls st (past ++ [(t, .ready)]) (c.go d i calls t) := by
  have store := (go_ready h a ht).2
  have still : ∀ u lock p, (c.go d i calls t).stages u = .inside lock p →
      u ≠ t ∧ c.stages u = .inside lock p :=
    fun u lock p hu => ne_of_go_ready h a ht hu (fun _ => by simp)
  cases a.now with
  | idle outside place =>
    refine .idle (fun u lock p hu => outside u lock p (still u lock p hu).2) (.inr ?_)
    rw [given_ready, store]
    cases place with
    | inl first =>
      obtain ⟨untouched, ready⟩ := first
      -- the first reader of all: no call was made yet
      have none : past.order = [] := List.eq_nil_iff_forall_not_mem.mpr fun u hu => by
        have := (a.took u).mp hu
        rw [ready u] at this
        exact absurd this (by decide)
      rw [untouched, History.given, none]
      rfl
    | inr place =>
      rw [place]
      exact (serves_inTurn h _).1.reads.locked_locked
  | @busy before v lock p last stage only enters midway =>
    have hvt : v ≠ t := by
      rintro rfl
      exact absurd (stage.symm.trans ht) (by simp)
    refine .busy ((order_ready past t).trans last) ((stages_go_other hvt).trans stage)
      (fun u lock p hu => only u lock p (still u lock p hu).2) enters ?_
    -- somebody is inside, so the lock was made before and is found
    have begun : c.store.locked i = c.store := by
      rcases a.lock h with ⟨-, ready⟩ | lock
      · exact absurd ((ready v).symm.trans stage) (by simp)
      · exact h.reads.locked_of_lock lock
    rw [store, begun]
    exact midway

theorem agrees_ready :
    Agrees d i s calls st (past ++ [(t, .ready)]) (c.go d i calls t) := by
  have awaits : History.awaits (past ++ [(t, .ready)]) = past.awaits := by
    rw [History.awaits_append_one]
    simp
  have self := (go_ready h a ht).1
  have other : ∀ u, u ≠ t → (c.go d i calls t).stages u = c.stages u := fun u => stages_go_other
  refine ⟨order_ready past t ▸ a.nodup, fun u => ?_, fun u lock hu => ?_, fun u x hu => ?_, ?_,
    now_ready h a ht⟩
  · rw [order_ready, a.took u]
    by_cases hut : u = t
    · rw [hut, self, ht]
      rfl
    · rw [other u hut]
  · by_cases hut : u = t
    · rw [hut, self] at hu
      exact (Option.some.inj hu).symm
    · rw [other u hut] at hu
      exact a.locks u lock hu
  · rw [order_ready, given_ready]
    exact a.results u x (ne_of_go_ready h a ht hu (fun _ => by simp)).2
  · rw [awaits, (go_ready h a ht).2, source_of_locked h a]
    refine a.once.imp_right (And.imp_right (Or.imp_right ?_))
    rintro ⟨u, lock, v, hu⟩
    refine ⟨u, lock, v, ?_⟩
    rw [other u ?_, hu]
    rintro rfl
    exact absurd (hu.symm.trans ht) (by simp)

end

/-- The last that took the lock goes on: it stops again with the lock, or it is finished. -/
theorem agrees_holder (h : st.Serves d i s) (a : Agrees d i s calls st past c)
    {before : List (Fin n)} (lock : (c.stages t).lock? = some ((st.locked i).cursorAt i).lock)
    (order : History.order (past ++ [(t, c.stages t)]) = before ++ [t])
    (nodup : (before ++ [t]).Nodup) (took : ∀ u, u ≠ t → (u ∈ before ++ [t] ↔ u ∈ past.order))
    (only : ∀ u lock p, c.stages u = .inside lock p → u = t)
    (once : History.awaits (past ++ [(t, c.stages t)]) = 0 ∨
      History.awaits (past ++ [(t, c.stages t)]) = 1 ∧
        (((c.go d i calls t).store.cursorAt i).source = .handle (.source s) ∨
          ∃ u lock v, (c.go d i calls t).stages u = .inside lock (.resolving v)))
    (goes : (calls t).moved d i (c.stages t) c.store =
        (.finished (((calls t).act d i).outcome (inTurn d i (before.map calls) st).2).1,
          (((calls t).act d i).outcome (inTurn d i (before.map calls) st).2).2) ∨
      (calls t).Enters ((inTurn d i (before.map calls) st).2.cursorAt i).state ∧ ∃ p σ,
        (calls t).moved d i (c.stages t) c.store =
            (.inside ((st.locked i).cursorAt i).lock p, σ) ∧
          (calls t).Midway i s (inTurn d i (before.map calls) st).2 p σ) :
    Agrees d i s calls st (past ++ [(t, c.stages t)]) (c.go d i calls t) := by
  have other : ∀ u, u ≠ t → (c.go d i calls t).stages u = c.stages u := fun u => stages_go_other
  have given : History.given (past ++ [(t, c.stages t)]) d i calls st =
      inTurn d i (before.map calls ++ [calls t]) st := by
    rw [History.given, order, List.map_append, List.map_singleton]
  have stage : (c.go d i calls t).stages t = ((calls t).moved d i (c.stages t) c.store).1 :=
    stages_go_self
  have past_t : ((c.go d i calls t).stages t).past = true := by
    rw [stage]
    rcases goes with hm | ⟨-, p, σ, hm, -⟩ <;> rw [hm] <;> rfl
  have elsewhere : ∀ u lock p, u ≠ t → (c.go d i calls t).stages u ≠ .inside lock p :=
    fun u lock p hut hu => hut (only u lock p (other u hut ▸ hu))
  refine ⟨order ▸ nodup, fun u => ?_, fun u l hu => ?_, fun u x hu => ?_, once, ?_⟩
  · rw [order]
    by_cases hut : u = t
    · subst hut
      simp [past_t]
    · rw [took u hut, a.took u, other u hut]
  · by_cases hut : u = t
    · subst hut
      rw [stage] at hu
      rcases goes with hm | ⟨-, p, σ, hm, -⟩ <;> rw [hm] at hu
      · exact absurd hu (by simp [Stage.lock?])
      · exact (Option.some.inj hu).symm
    · exact a.locks u l (other u hut ▸ hu)
  · by_cases hut : u = t
    · subst hut
      rw [stage] at hu
      rcases goes with hm | ⟨-, p, σ, hm, -⟩ <;> rw [hm] at hu
      · cases hu
        refine ⟨before.length, ?_, ?_⟩
        · rw [order, List.getElem?_concat_length]
        · rw [given, inTurn_append_one,
            List.getElem?_append_right (by rw [length_inTurn, List.length_map]), length_inTurn,
            List.length_map, Nat.sub_self]
          rfl
      · exact absurd hu (by simp)
    · obtain ⟨k, hk, hx⟩ := a.results u x (other u hut ▸ hu)
      exact ⟨k, stays _ hk hx⟩
  · cases goes with
    | inl hm =>
      refine .idle (fun u lock p hu => ?_) (.inr ?_)
      · by_cases hut : u = t
        · subst hut
          rw [stage, hm] at hu
          exact absurd hu (by simp)
        · exact elsewhere u lock p hut hu
      · rw [given, inTurn_append_one, go, hm]
        exact (closed_act (serves_inTurn h _).1).symm
    | inr further =>
      obtain ⟨enters, p, σ, hm, midway⟩ := further
      have here : (c.go d i calls t).stages t = .inside ((st.locked i).cursorAt i).lock p := by
        rw [stage, hm]
      refine .busy order here ?_ enters ?_
      · intro u lock p hu
        by_contra hut
        exact elsewhere u lock p hut hu
      · rw [go, hm]
        exact midway

theorem agrees_waiting (h : st.Serves d i s) (a : Agrees d i s calls st past c) {lock : Value}
    (ht : c.stages t = .waiting lock) (free : c.Free lock) :
    Agrees d i s calls st (past ++ [(t, c.stages t)]) (c.go d i calls t) := by
  have here : (c.stages t).lock? = some lock := by
    rw [ht]
    rfl
  obtain rfl := a.locks t lock here
  -- all readers use one lock, so a reader that may take it finds nobody inside
  have outside : ∀ u lock p, c.stages u ≠ .inside lock p := by
    intro u lock p hu
    obtain rfl := a.locks u lock (by rw [hu]; rfl)
    exact free u p hu
  -- this reader began, so the store is not the untouched one
  have place : c.store = (past.given d i calls st).2.locked i := by
    cases a.now with
    | idle _ place =>
      refine place.resolve_left fun untouched => ?_
      exact absurd ((untouched.2 t).symm.trans ht) (by simp)
    | busy _ stage => exact absurd stage (outside _ _ _)
  obtain ⟨serves, follows⟩ := serves_inTurn h (past.order.map calls)
  have goes := Reading.moved_waiting (d := d) (r := calls t) ((st.locked i).cursorAt i).lock
    serves.reads serves.unspent
  have unseen : t ∉ past.order := by
    rw [a.took t, ht]
    exact Bool.false_ne_true
  have awaits : History.awaits (past ++ [(t, c.stages t)]) = past.awaits := by
    rw [History.awaits_append_one, ht]
    rfl
  have order : History.order (past ++ [(t, c.stages t)]) = past.order ++ [t] := by
    rw [History.order_append_one, ht]
    rfl
  rw [← History.given, ← place, ← ht] at goes
  refine agrees_holder h a here order ?_ ?_ (fun u lock p hu => absurd hu (outside u lock p)) ?_ ?_
  · exact List.nodup_append.mpr ⟨a.nodup, List.nodup_singleton t, fun u hu v hv huv =>
      unseen (List.mem_singleton.mp hv ▸ huv ▸ hu)⟩
  · intro u hut
    simp [hut]
  · rw [awaits]
    refine a.once.imp_right (And.imp_right fun opened => .inl ?_)
    have native : (c.store.cursorAt i).source = .handle (.source s) := by
      refine opened.resolve_right ?_
      rintro ⟨u, lock, v, hu⟩
      exact outside u lock _ hu
    rcases goes with hm | ⟨-, p, hm, -⟩
    · rw [go, hm]
      refine (Reading.ends_act serves).follows.native ?_
      rw [← (Reading.cursorAt_locked_eq serves.reads).2.2, ← History.given, ← place, native]
    · rw [go, hm]
      exact native
  · refine goes.imp_right fun ⟨enters, p, hm, midway⟩ => ⟨enters, p, _, hm, ?_⟩
    exact place ▸ midway

theorem agrees_inside (h : st.Serves d i s) (a : Agrees d i s calls st past c) {lock : Value}
    {p : Point} (ht : c.stages t = .inside lock p) :
    Agrees d i s calls st (past ++ [(t, c.stages t)]) (c.go d i calls t) := by
  have here : (c.stages t).lock? = some lock := by
    rw [ht]
    rfl
  obtain rfl := a.locks t lock here
  cases a.now with
  | idle outside => exact absurd ht (outside t _ p)
  | @busy before v lock q last stage only enters midway =>
    obtain rfl := only t _ p ht
    obtain ⟨rfl, rfl⟩ : lock = ((st.locked i).cursorAt i).lock ∧ q = p := by
      simpa using stage.symm.trans ht
    obtain ⟨serves, follows⟩ := serves_inTurn h (before.map calls)
    have goes := Reading.moved_inside (d := d) ((st.locked i).cursorAt i).lock serves.reads
      serves.unspent enters midway
    have order : History.order (past ++ [(t, c.stages t)]) = before ++ [t] := by
      rw [History.order_append_one, ht, ← last]
      simp
    have unresolved : past.awaits ≤ 1 := by
      rcases a.once with none | ⟨one, -⟩ <;> omega
    have awaits : History.awaits (past ++ [(t, c.stages t)]) ≤ 1 := by
      rw [History.awaits_append_one, ht]
      cases q with
      | awaiting native =>
        -- the promise is still there, so nobody has waited for it
        have none : past.awaits = 0 := by
          refine a.once.resolve_right fun ⟨_, opened⟩ => ?_
          rcases opened with opened | ⟨u, lock, v, hu⟩
          · exact midway.unopened serves.reads opened
          · obtain rfl := only u _ _ hu
            exact absurd (hu.symm.trans ht) (by simp)
        simp [none]
      | _ => exact unresolved
    rw [← ht] at goes
    refine agrees_holder h a here order (last ▸ a.nodup) (fun u _ => by rw [last]) only ?_ ?_
    · refine (Nat.le_one_iff_eq_zero_or_eq_one.mp awaits).imp_right fun one => ⟨one, ?_⟩
      rcases goes with ⟨-, hm⟩ | ⟨p', σ, hm, further, later⟩
      · left
        rw [go, hm]
        exact (Reading.ends_act serves).native enters
      · refine (further.opened serves.reads later).imp (fun opened => ?_) fun ⟨v, hv⟩ => ?_
        · rw [go, hm]
          exact opened
        · exact ⟨t, _, v, by rw [stages_go_self, hm, hv]⟩
    · exact goes.imp And.right fun ⟨p', σ, hm, further, _⟩ => ⟨enters, p', σ, hm, further⟩

theorem agrees_step (h : st.Serves d i s) (a : Agrees d i s calls st past c) (may : c.May t) :
    Agrees d i s calls st (past ++ [(t, c.stages t)]) (c.go d i calls t) := by
  cases ht : c.stages t with
  | ready => exact agrees_ready h a ht
  | waiting lock => exact ht ▸ agrees_waiting h a ht (may.free lock ht)
  | inside lock p => exact ht ▸ agrees_inside h a ht
  | finished x => exact absurd ht (may.unfinished x)

theorem agrees_run (h : st.Serves d i s) (run : Run d i calls (gathered st) past c) :
    Agrees d i s calls st past c := by
  induction run with
  | start => exact agrees_gathered
  | step before may ih => exact agrees_step h ih may

theorem goes_on (c : Readers n) : (∀ t, ∃ x, c.stages t = .finished x) ∨ ∃ t, c.May t := by
  by_cases inside : ∃ t lock p, c.stages t = .inside lock p
  · obtain ⟨t, lock, p, ht⟩ := inside
    exact .inr ⟨t, fun x hx => absurd (ht.symm.trans hx) (by simp),
      fun l hl => absurd (ht.symm.trans hl) (by simp)⟩
  by_cases ended : ∀ t, ∃ x, c.stages t = .finished x
  · exact .inl ended
  · obtain ⟨t, ht⟩ := not_forall.mp ended
    exact .inr ⟨t, fun x hx => ht ⟨x, hx⟩, fun _ _ u p hu => inside ⟨u, _, p, hu⟩⟩

/-- A reader may go on, as far as that can be told from where all of them stand. -/
def mayGo (c : Readers n) (t : Fin n) : Bool :=
  match c.stages t with
  | .finished _ => false
  | .waiting _ => (List.finRange n).all fun u => !(c.stages u matches .inside ..)
  | _ => true

theorem may_of_mayGo (h : c.mayGo t = true) : c.May t := by
  rw [mayGo] at h
  refine ⟨fun x hx => ?_, fun lock hl u p hu => ?_⟩
  · rw [hx] at h
    exact absurd h (by simp)
  · rw [hl] at h
    have := List.all_eq_true.mp h u (List.mem_finRange u)
    rw [hu] at this
    exact absurd this (by simp)

/-- Readers go on in a given order, as far as they may. -/
def play (d : Dispatch) (i : Nat) (calls : Fin n → Reading) :
    List (Fin n) → History n → Readers n → History n × Readers n
  | [], past, c => (past, c)
  | t :: ts, past, c =>
    if c.mayGo t then play d i calls ts (past ++ [(t, c.stages t)]) (c.go d i calls t)
    else play d i calls ts past c

theorem run_play {c₀ : Readers n} {ts : List (Fin n)} (run : Run d i calls c₀ past c) :
    Run d i calls c₀ (play d i calls ts past c).1 (play d i calls ts past c).2 := by
  induction ts generalizing past c with
  | nil => exact run
  | cons t ts ih =>
    rw [play]
    split
    · exact ih (run.step (may_of_mayGo ‹_›))
    · exact ih run

def left (c : Readers n) : Nat := ∑ t, (c.stages t).rank

theorem left_go (d : Dispatch) (i : Nat) (calls : Fin n → Reading) (may : c.May t) :
    (c.go d i calls t).left < c.left := by
  have first : ((c.go d i calls t).stages t).rank < (c.stages t).rank := by
    rw [stages_go_self]
    exact Reading.rank_moved may.unfinished
  refine Finset.sum_lt_sum (fun u _ => ?_) ⟨t, Finset.mem_univ t, first⟩
  by_cases hut : u = t
  · exact hut ▸ first.le
  · rw [stages_go_other hut]

theorem length_run (run : Run d i calls (gathered st) past c) : past.length + c.left ≤ 6 * n := by
  induction run with
  | start => simp [left, gathered, Stage.rank, Nat.mul_comm]
  | step before may ih =>
    have := left_go d i calls may
    rw [List.length_append, List.length_singleton]
    omega

/-- One after another, calls share out the documents. -/
theorem shares_inTurn (calls : Fin n → Reading) (h : st.Serves d i s)
    (docs : ∀ v ∈ (st.sourceAt s).pending, v ≠ .null)
    {order : List (Fin n)} (nodup : order.Nodup) :
    ∃ share : Fin n → List Value,
      order.flatMap share ++ ((inTurn d i (order.map calls) st).2.sourceAt s).pending =
          (st.sourceAt s).pending ∧
        ((inTurn d i (order.map calls) st).2.sourceAt s).failure = (st.sourceAt s).failure ∧
        ∀ (k : Nat) t x, order[k]? = some t → (inTurn d i (order.map calls) st).1[k]? = some x →
          (calls t).Answers d i s st (share t) x := by
  induction order using List.reverseRecOn with
  | nil => exact ⟨fun _ => [], rfl, rfl, fun k t x hk => by simp at hk⟩
  | append_singleton order t ih =>
    obtain ⟨fresh, -, unseen⟩ := List.nodup_append.mp nodup
    have unseen : t ∉ order := fun ht => unseen t ht t (List.mem_singleton_self t) rfl
    obtain ⟨share, split, failure, answers⟩ := ih fresh
    obtain ⟨serves, follows⟩ := serves_inTurn h (order.map calls)
    rw [List.map_append, List.map_singleton, inTurn_append_one]
    have ends := Reading.ends_act (r := calls t) serves
    generalize hb : (inTurn d i (order.map calls) st).2 = before at *
    let mine := (calls t).taken (before.classOf (before.reader i)) (before.cursorAt i)
      (before.sourceAt s)
    -- the call that comes last takes its share of what the others left
    have mine_split := Reading.take_split (calls t) (before.classOf (before.reader i))
      (c := before.cursorAt i) (x := before.sourceAt s)
      (fun v hv => docs v (split ▸ List.mem_append_right _ hv))
    have same : ∀ u ∈ order, Function.update share t mine u = share u := fun u hu =>
      Function.update_of_ne (ne_of_mem_of_not_mem hu unseen) ..
    refine ⟨Function.update share t mine, ?_, ?_, ?_⟩
    · rw [List.flatMap_append, List.flatMap_congr same, List.flatMap_singleton,
        Function.update_self, List.append_assoc, ends.source, mine_split, split]
    · rw [ends.source, Reading.take_failure, failure]
    · intro k u x hu hx
      rcases lt_trichotomy k order.length with hk | hk | hk
      · rw [List.getElem?_append_left hk] at hu
        rw [List.getElem?_append_left (by rw [length_inTurn, List.length_map]; exact hk)] at hx
        rw [same u (List.mem_of_getElem? hu)]
        exact answers k u x hu hx
      · subst hk
        rw [List.getElem?_concat_length] at hu
        cases hu
        rw [List.getElem?_append_right (by rw [length_inTurn, List.length_map]), length_inTurn,
          List.length_map, Nat.sub_self] at hx
        cases hx
        rw [Function.update_self]
        exact (ends.taken_answers).follows follows failure
      · rw [List.getElem?_eq_none (by rw [List.length_append, List.length_singleton]; omega)] at hu
        cases hu

/-- Readers fared as the same calls do one after another, in the order in which they took the lock. -/
structure Serial (d : Dispatch) (i s : Nat) (calls : Fin n → Reading) (st : Store)
    (past : History n) (c : Readers n) : Prop where
  nodup : past.order.Nodup
  results : ∀ t x, c.stages t = .finished x →
    ∃ k : Nat, past.order[k]? = some t ∧ (past.given d i calls st).1[k]? = some x
  ending : (∀ t, ∃ x, c.stages t = .finished x) →
    past.order.Perm (List.finRange n) ∧ c.store = (past.given d i calls st).2
  alone : ∀ t u lock lock' p q, c.stages t = .inside lock p → c.stages u = .inside lock' q → t = u
  once : past.awaits ≤ 1
  shares : ∃ share : Fin n → List Value,
    past.order.flatMap share ++ ((past.given d i calls st).2.sourceAt s).pending =
        (st.sourceAt s).pending ∧
      ∀ t x, c.stages t = .finished x → (calls t).Answers d i s st (share t) x
  goes_on : (∀ t, ∃ x, c.stages t = .finished x) ∨ ∃ t, c.May t
  short : past.length ≤ 6 * n

theorem Agrees.alone (a : Agrees d i s calls st past c) {lock lock' : Value} {p q : Point}
    (ht : c.stages t = .inside lock p) (hu : c.stages u = .inside lock' q) : t = u := by
  cases a.now with
  | idle outside => exact absurd ht (outside _ _ _)
  | busy _ _ only => exact (only t _ _ ht).trans (only u _ _ hu).symm

theorem Agrees.store_finished (h : st.Serves d i s) (a : Agrees d i s calls st past c)
    (finished : ∀ t, ∃ x, c.stages t = .finished x) (someone : past.order ≠ []) :
    c.store = (past.given d i calls st).2 := by
  cases a.now with
  | busy _ stage =>
    obtain ⟨x, hx⟩ := finished _
    exact absurd (stage.symm.trans hx) (by simp)
  | idle outside place =>
    obtain ⟨before, t, order⟩ := (List.eq_nil_or_concat past.order).resolve_left someone
    have closed : (past.given d i calls st).2.locked i = (past.given d i calls st).2 := by
      rw [History.given, order, List.concat_eq_append, List.map_append, List.map_singleton,
        inTurn_append_one]
      exact closed_act (serves_inTurn h _).1
    rcases place with ⟨-, ready⟩ | place
    · obtain ⟨x, hx⟩ := finished t
      exact absurd ((ready t).symm.trans hx) (by simp)
    · rw [place, closed]

theorem run_serial (h : st.Serves d i s) (docs : ∀ v ∈ (st.sourceAt s).pending, v ≠ .null)
    (run : Run d i calls (gathered st) past c) : Serial d i s calls st past c := by
  have a := agrees_run h run
  refine ⟨a.nodup, a.results, fun finished => ?_, fun t u _ _ _ _ => a.alone, ?_, ?_, goes_on c, ?_⟩
  · have all : ∀ t, t ∈ past.order := fun t => by
      obtain ⟨x, hx⟩ := finished t
      rw [a.took t, hx]
      rfl
    refine ⟨(List.perm_ext_iff_of_nodup a.nodup (List.nodup_finRange n)).mpr fun t => ?_, ?_⟩
    · simp [all t]
    · cases run with
      | start => rfl
      | @step past now t before may => exact a.store_finished h finished (List.ne_nil_of_mem (all t))
  · rcases a.once with none | ⟨one, -⟩ <;> omega
  · obtain ⟨share, split, -, answers⟩ := shares_inTurn calls h docs a.nodup
    refine ⟨share, split, fun t x hx => ?_⟩
    obtain ⟨k, hk, hr⟩ := a.results t x hx
    exact answers k t x hk hr
  · have := length_run run
    omega

/-- The second reader begins last and takes the lock first. -/
theorem run_serial_overtaken :
    let calls : Fin 2 → Reading := ![.next, .wait]
    let d : Dispatch := ⟨fun _ _ => pure .null, fun _ _ _ _ => pure .null, pure⟩
    let played := play d 0 calls [0, 1, 1, 1, 0, 1, 1, 1, 0] [] (gathered .promisedPair)
    played.1.order = [1, 0] ∧ played.1.awaits = 1 ∧
      Serial d 0 0 calls .promisedPair played.1 played.2 :=
  ⟨by rfl, by rfl,
    run_serial (Store.serves_promisedPair _) (by simp [Store.promisedPair, Store.sourceAt])
      (run_play .start)⟩

end

end Readers

end DocMapper
