import DocMapper.Results

/-!
How actions end.  The outcome of an action in a store is its answer, or its fault, and the store
after it; the outcome of a composed action is read off the outcomes of its parts.
-/

namespace DocMapper.Act

/-- How an action ends, and the store after it. -/
def outcome (x : Act α) (st : Store) : Except Fault α × Store := ExceptT.run x st

@[simp] theorem outcome_pure (a : α) (st : Store) : (pure a : Act α).outcome st = (.ok a, st) := rfl

@[simp] theorem outcome_throw (e : Fault) (st : Store) :
    (throw e : Act α).outcome st = (.error e, st) := rfl

theorem outcome_bind (x : Act α) (f : α → Act β) (st : Store) :
    (x >>= f).outcome st =
      match x.outcome st with
      | (.ok a, st) => (f a).outcome st
      | (.error e, st) => (.error e, st) := by
  change (ExceptT.bindCont f (ExceptT.run x st).1) (ExceptT.run x st).2 = _
  rcases h : ExceptT.run x st with ⟨_ | a, after⟩ <;> simp only [outcome, h, ExceptT.bindCont] <;> rfl

theorem outcome_bind_ok {x : Act α} {f : α → Act β} {st after : Store} {a : α}
    (h : x.outcome st = (.ok a, after)) : (x >>= f).outcome st = (f a).outcome after := by
  rw [outcome_bind, h]

theorem outcome_bind_error {x : Act α} {f : α → Act β} {st after : Store} {e : Fault}
    (h : x.outcome st = (.error e, after)) : (x >>= f).outcome st = (.error e, after) := by
  rw [outcome_bind, h]

theorem outcome_bind_eq_ok {x : Act α} {f : α → Act β} {st last : Store} {b : β}
    (h : (x >>= f).outcome st = (.ok b, last)) :
    ∃ a after, x.outcome st = (.ok a, after) ∧ (f a).outcome after = (.ok b, last) := by
  rw [outcome_bind] at h
  rcases hx : x.outcome st with ⟨e | a, after⟩ <;> rw [hx] at h
  · exact absurd (congrArg Prod.fst h) (by simp)
  · exact ⟨a, after, rfl, h⟩

theorem outcome_map (f : α → β) (x : Act α) (st : Store) :
    (f <$> x).outcome st = ((x.outcome st).1.map f, (x.outcome st).2) := by
  rw [← bind_pure_comp, outcome_bind]
  rcases x.outcome st with ⟨_ | a, after⟩ <;> rfl

theorem outcome_tryCatch (x : Act α) (handle : Fault → Act α) (st : Store) :
    (tryCatch x handle : Act α).outcome st =
      match x.outcome st with
      | (.ok a, st) => (.ok a, st)
      | (.error e, st) => (handle e).outcome st := by
  simp only [tryCatch, tryCatchThe, MonadExceptOf.tryCatch, ExceptT.tryCatch, outcome, ExceptT.run,
    ExceptT.mk, bind, StateT.bind]
  rcases x st with ⟨_ | a, after⟩ <;> rfl

@[simp] theorem outcome_get (st : Store) : (get : Act Store).outcome st = (.ok st, st) := rfl

@[simp] theorem outcome_set (s st : Store) : (set s : Act Unit).outcome st = (.ok (), s) := rfl

@[simp] theorem outcome_modify (f : Store → Store) (st : Store) :
    (modify f : Act Unit).outcome st = (.ok (), f st) := rfl

@[simp] theorem outcome_modifyGet (f : Store → α × Store) (st : Store) :
    (modifyGet f : Act α).outcome st = (.ok (f st).1, (f st).2) := rfl

@[simp] theorem outcome_ofExcept (r : Except Fault α) (st : Store) :
    (ofExcept r).outcome st = (r, st) := by
  cases r <;> rfl

/-- What follows an action goes on with its result. -/
theorem outcome_bind_result (x : Act α) (f : α → Act β) (st : Store) :
    (x >>= f).outcome st = (ofExcept (x.outcome st).1 >>= f).outcome (x.outcome st).2 := by
  rw [outcome_bind]
  rcases x.outcome st with ⟨e | a, after⟩ <;> rfl

end DocMapper.Act

namespace DocMapper

/-- Something that was done in a store, as it went. -/
structure Passage (α : Type) where
  use : α
  before : Store
  result : Except Fault Value
  after : Store

/-- What is done in a store one after another. -/
inductive Course {α : Type} (act : α → Act Value) (fits : Store → α → Prop) (st : Store) :
    List (Passage α) → Store → Prop
  | start : Course act fits st [] st
  | step {past : List (Passage α)} {now : Store} (before : Course act fits st past now) (u : α)
      (fit : fits now u) :
      Course act fits st
        (past ++ [⟨u, now, ((act u).outcome now).1, ((act u).outcome now).2⟩])
        ((act u).outcome now).2

theorem Course.next {α : Type} {act : α → Act Value} {fits : Store → α → Prop} {st now after : Store}
    {past : List (Passage α)} {u : α} {result : Except Fault Value}
    (before : Course act fits st past now) (fit : fits now u)
    (done : (act u).outcome now = (result, after)) :
    Course act fits st (past ++ [⟨u, now, result, after⟩]) after := by
  have step := before.step u fit
  rwa [done] at step

/-- What is done after a passage starts where that passage ended. -/
theorem Course.split {α : Type} {act : α → Act Value} {fits : Store → α → Prop} {st now : Store}
    {past earlier later : List (Passage α)} {p : Passage α} (run : Course act fits st past now)
    (place : past = earlier ++ p :: later) :
    Course act fits st earlier p.before ∧ fits p.before p.use ∧
      p = ⟨p.use, p.before, ((act p.use).outcome p.before).1, ((act p.use).outcome p.before).2⟩ ∧
      Course act fits p.after later now := by
  induction run generalizing later with
  | start => simp at place
  | step before u fit ih =>
    obtain rfl | ⟨later, last, rfl⟩ := List.eq_nil_or_concat later
    · obtain ⟨rfl, last⟩ := List.append_inj' place rfl
      cases List.singleton_inj.mp last
      exact ⟨before, fit, rfl, .start⟩
    · rw [List.concat_eq_append, ← List.cons_append, ← List.append_assoc] at place
      obtain ⟨shorter, last⟩ := List.append_inj' place rfl
      cases List.singleton_inj.mp last
      obtain ⟨first, fitted, went, rest⟩ := ih shorter
      rw [List.concat_eq_append]
      exact ⟨first, fitted, went, rest.step u fit⟩

end DocMapper
