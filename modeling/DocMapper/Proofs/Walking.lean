import DocMapper.Proofs.Lasting
import DocMapper.Proofs.Streams

/-!
Cursors that are read, whatever their documents are.  Hydrating a document makes an instance or
fails, and reading a cursor moves it and its source; handles and what they depend on stay as they
are.
-/

namespace DocMapper

/-- What a cursor delivers stays as it is, or becomes an instance of a class that makes its own as
models do. -/
def Registry.Fills (r : Registry) (cur : Cursor) : Prop :=
  cur.kind.hydrates → ∃ c owner m,
    cur.hydrate = .object none (.bound (.cls c) (.handle (.routine owner "hydrate"))) ∧
      r.maker? c = some m ∧ m.owner = "Model"

namespace Act

variable {d : Dispatch} {st : Store} {c : ClassRef} {m : Method} {cur : Cursor}

theorem outcome_createDocument_any (c : ClassRef) (x : Value) (st : Store) :
    ∃ r documents, (createDocument c x).outcome st = (r, { st with documents }) ∧
      ∀ v, r = .ok v → ∃ i, v = .handle (.document c i) := by
  have walked : (entriesOf x).outcome st = ((st.walkedTwice x).toEntries, st) := by
    rw [entriesOf, outcome_bind_ok (outcome_get st), outcome_ofExcept]
  have made (es : Entries) : ∃ r documents,
      (newDocument { model := c, fields := .dict es, isNew := .bool true }).outcome st =
        (r, { st with documents }) ∧ ∀ v, r = .ok v → ∃ i, v = .handle (.document c i) := by
    refine ⟨_, _, rfl, ?_⟩
    rintro _ ⟨⟩
    exact ⟨_, rfl⟩
  rw [createDocument]
  split
  · cases read : (st.walkedTwice x).toEntries with
    | error e =>
      rw [outcome_bind_error (walked.trans (by rw [read]))]
      exact ⟨_, st.documents, rfl, fun _ same => by cases same⟩
    | ok es =>
      rw [outcome_bind_ok (walked.trans (by rw [read]))]
      exact made es
  · exact made []

/-- Wrapping a document makes an instance, or fails. -/
theorem outcome_hydrate_any (maker : st.registry.maker? c = some m) (owner : m.owner = "Model")
    (x : Value) :
    ∃ r documents, (hydrate d c x).outcome st = (r, { st with documents }) := by
  have asked : (registry).outcome st = (.ok st.registry, st) := rfl
  obtain ⟨r, documents, created, is⟩ := outcome_createDocument_any c x st
  have made : (instantiate d c x).outcome st = (r, { st with documents }) := by
    rw [instantiate, outcome_bind_ok asked, maker]
    simp only [owner, if_true]
    exact created
  rw [hydrate]
  cases r with
  | error e => exact ⟨_, documents, outcome_bind_error made⟩
  | ok v =>
    obtain ⟨i, rfl⟩ := is v rfl
    rw [outcome_bind_ok made]
    exact ⟨_, _, rfl⟩

theorem outcome_deliver_any (fills : st.registry.Fills cur) (x : Value) :
    ∃ r documents, (deliver d cur x).outcome st = (r, { st with documents }) := by
  have asked : (registry).outcome st = (.ok st.registry, st) := rfl
  rw [deliver]
  by_cases hydrates : cur.kind.hydrates
  · obtain ⟨c, owner, m, bound, maker, model⟩ := fills hydrates
    rw [if_pos hydrates, bound, applyHydration, hydrateAs, outcome_bind_ok asked]
    split <;> exact outcome_hydrate_any maker model _
  · rw [if_neg hydrates]
    exact ⟨_, st.documents, rfl⟩

theorem quiet_fills {w : Setting} (fills : w.registry.Fills cur) (xs : List Value) :
    Quiet d cur w xs := by
  intro x _ σ same
  have registry : σ.registry = w.registry := congrArg Setting.registry same
  obtain ⟨r, documents, done⟩ := outcome_deliver_any (d := d) (registry ▸ fills) x
  rw [done]
  exact ⟨same, rfl⟩

theorem outcome_deliverEach_any (fills : st.registry.Fills cur) (xs : List Value) :
    ∃ r documents, (deliverEach d cur xs).outcome st = (r, { st with documents }) := by
  induction xs generalizing st with
  | nil => exact ⟨_, st.documents, rfl⟩
  | cons x xs ih =>
    obtain ⟨r, documents, first⟩ := outcome_deliver_any (d := d) fills x
    rw [deliverEach]
    cases r with
    | error e => exact ⟨_, documents, outcome_bind_error first⟩
    | ok y =>
      obtain ⟨r, documents, rest⟩ := @ih { st with documents } fills
      rw [outcome_bind_ok first]
      cases r with
      | error e => exact ⟨_, documents, outcome_bind_error rest⟩
      | ok ys => exact ⟨_, documents, outcome_bind_ok rest⟩

end Act

namespace Store

/-- A cursor of this kind that can be read, over a source of the library. -/
structure Tends (st : Store) (d : Dispatch) (kind : CursorKind) (i s : Nat) : Prop where
  serves : st.Serves d i s
  kind : (st.cursorAt i).kind = kind
  fills : st.registry.Fills (st.cursorAt i)

variable {st : Store} {d : Dispatch} {kind : CursorKind} {i s : Nat}

/-- Reading a cursor leaves everything alone that handles depend on. -/
theorem Tends.read (tends : st.Tends d kind i s) (r : Reading) :
    ((r.act d i).outcome st).2.Tends d kind i s ∧
      ((r.act d i).outcome st).2.footing = st.footing := by
  obtain ⟨serves, hkind, fills⟩ := tends
  have ends := Reading.ends_act (r := r) serves
  generalize (r.act d i).outcome st = went at ends
  obtain ⟨result, after⟩ := went
  have follows := ends.follows
  have registry : after.registry = st.registry := congrArg Setting.registry follows.setting
  refine ⟨⟨ends.serves serves, follows.kind.trans hkind, ?_⟩, ?_⟩
  · rw [registry, Registry.Fills, follows.kind, follows.hydrate]
    exact fills
  · obtain ⟨σ, beyond, answers⟩ := ends.answers
    have footing {a b : Store} (same : a.beyond = b.beyond) : a.footing = b.footing :=
      (congrArg Store.footing same :)
    unfold Reading.Hydrates at answers
    split at answers
    · exact footing (answers.2.trans beyond)
    · have setting : σ.registry = st.registry :=
        congrArg Setting.registry (setting_of_beyond beyond)
      obtain ⟨r, documents, each⟩ :=
        Act.outcome_deliverEach_any (d := d) (setting ▸ fills) ‹_›
      rw [each] at answers
      have hydrated : after.footing = σ.footing :=
        footing (b := { σ with documents }) answers.2
      exact hydrated.trans (footing beyond)

end Store

/-- A cursor of a kind that is there to be read. -/
def Store.IsCursor (st : Store) (d : Dispatch) (kind : CursorKind) (v : Value) : Prop :=
  ∃ i s, v = .handle (.cursor kind i) ∧ st.Tends d kind i s

theorem Store.Ordinary.tends {st : Store} {d : Dispatch} {cur : Cursor} {i s : Nat}
    (ordinary : st.Ordinary) (cursor : st.cursorAt i = cur) (here : i < st.cursors.size)
    (there : s < st.sources.size) (source : cur.source = .handle (.source s))
    (lock : cur.lock = .null) (kind : cur.kind = .query ∨ cur.kind = .aggregate)
    (fills : st.registry.Fills cur) : st.Tends d cur.kind i s := by
  subst cursor
  have reads : st.Reads i s := by
    refine ⟨here, there, .inl lock, .inl source, ?_, ?_, ?_, ?_⟩
    · intro name known
      simp only [List.mem_cons, List.not_mem_nil, or_false] at known
      rw [Store.reader]
      rcases kind with is | is <;> rw [is] <;> rcases known with rfl | rfl | rfl | rfl <;>
        exact ordinary.usual rfl rfl rfl
    · rw [Store.reader, Store.hydrator]
      rcases kind with is | is <;> rw [is] <;> exact ordinary.usual rfl rfl rfl
    · intro name known
      simp only [List.mem_cons, List.not_mem_nil, or_false] at known
      rcases known with rfl | rfl <;> exact ordinary.usual rfl rfl rfl
    · exact (ordinary.bare (.source s) rfl).extraOf? "results"
  refine ⟨⟨reads, ?_, Act.quiet_fills fills _⟩, rfl, fills⟩
  intro p promised
  rw [source] at promised
  cases promised

namespace Lasts

variable {R : Store → Prop} (l : Lasts R) {d : Dispatch} {kind : CursorKind} {i s : Nat}
include l

/-- A new cursor over a source can be read. -/
theorem newCursor (cur : Cursor) (lock : cur.lock = .null)
    (kind : cur.kind = .query ∨ cur.kind = .aggregate)
    (fills : ∀ st, R st → st.registry.Fills cur) :
    Act.Leads (fun st => R st ∧ st.IsSource cur.source) (fun v st => st.IsCursor d cur.kind v)
      (Act.newCursor cur) := by
  rintro st ⟨here, s, source, there⟩
  have made : (Act.newCursor cur).outcome st = (.ok (.handle (.cursor cur.kind st.cursors.size)),
      { st with cursors := st.cursors.push cur }) := rfl
  have still : R { st with cursors := st.cursors.push cur } := l.accrues st _ here (.of_footing rfl)
  rw [made]
  refine ⟨⟨still, s, source, there⟩, ?_⟩
  rintro _ ⟨⟩
  refine ⟨_, s, rfl, (l.ordinary _ still).tends ?_ ?_ there source lock kind (fills _ still)⟩
  · simp [Store.cursorAt, Array.getD_eq_getD_getElem?]
  · simp

/-- A search becomes a cursor that hydrates documents as the model does. -/
theorem startCursor_query {c : ClassRef}
    (models : ∀ st, R st → (∃ m, st.registry.maker? c = some m ∧ m.owner = "Model") ∧
      ∃ owner m, st.registry.member? c "hydrate" = some (owner, m) ∧
        ((∃ f, m = .ofClass f) ∨ ∃ key, m = .hydrating key)) (v : Value) :
    Act.Leads (fun st => R st ∧ st.IsSource v) (fun u st => st.IsCursor d .query u)
      (Act.startCursor d .query (.cls c) v) := by
  rintro st ⟨here, source⟩
  obtain ⟨-, owner, m, member, form⟩ := models st here
  have found : (Act.hydration d (.cls c)).outcome st =
      (.ok (.object none (.bound (.cls c) (.handle (.routine owner "hydrate")))), st) := by
    have member : st.member? (.cls c) "hydrate" = some (owner, m) := member
    rw [Act.hydration, Act.outcome_bind_ok (Act.outcome_get st), member]
    rcases form with ⟨f, rfl⟩ | ⟨key, rfl⟩ <;> rfl
  rw [Act.startCursor, if_pos (show CursorKind.query.hydrates = true from rfl),
    Act.outcome_bind_ok found]
  refine l.newCursor { kind := .query, source := v, model := .cls c, hydrate := _ } rfl (.inl rfl)
    ?_ st ⟨here, source⟩
  intro σ there _
  obtain ⟨⟨f, maker, model⟩, -⟩ := models σ there
  exact ⟨c, owner, f, rfl, maker, model⟩

/-- A pipeline becomes a cursor that gives documents as they are. -/
theorem startCursor_aggregate (model v : Value) :
    Act.Leads (fun st => R st ∧ st.IsSource v) (fun u st => st.IsCursor d .aggregate u)
      (Act.startCursor d .aggregate model v) :=
  l.newCursor { kind := .aggregate, source := v } rfl (.inr rfl)
    fun _ _ hydrates => by cases hydrates

/-- Reading a cursor keeps what lasts, and the cursor can be read further. -/
theorem reading (r : Reading) {x : Act α}
    (same : ∀ st, st.Tends d kind i s → (x.outcome st).2 = ((r.act d i).outcome st).2) :
    Act.Keeps (fun st => R st ∧ st.Tends d kind i s) x := by
  rintro st ⟨here, tends⟩
  obtain ⟨still, footing⟩ := tends.read r
  rw [same st tends]
  exact ⟨l.accrues st _ here (.of_footing footing), still⟩

theorem nextItem :
    Act.Keeps (fun st => R st ∧ st.Tends d kind i s)
      (Act.nextItem d (.handle (.cursor kind i))) := by
  refine l.reading .next fun st tends => ?_
  have reader : st.reader i = .handle (.cursor kind i) := by rw [Store.reader, tends.kind]
  rw [← reader, Act.outcome_nextItem tends.serves.reads]
  rfl

theorem readUpTo (n : Nat) (limit : Option Nat) :
    Act.Keeps (fun st => R st ∧ st.Tends d kind i s)
      (Act.readUpTo d (.handle (.cursor kind i)) n limit) := by
  induction n generalizing limit with
  | zero => exact .pure _
  | succ n ih =>
    by_cases full : limit = some 0
    · subst full
      exact .of_read fun st => by rw [Act.outcome_readUpTo_zero]
    · rw [Act.readUpTo.eq_3 _ _ _ _ full]
      refine .bind l.nextItem fun v => ?_
      split
      · exact .pure _
      · exact .bind (ih _) fun _ => .pure _

theorem readSome (limit : Option Nat) :
    Act.Keeps (fun st => R st ∧ st.Tends d kind i s)
      (Act.readSome d (.handle (.cursor kind i)) limit) :=
  .get _ fun _ => l.readUpTo _ _

theorem collected :
    Act.Keeps (fun st => R st ∧ st.Tends d kind i s)
      (Act.collected d (.handle (.cursor kind i))) := by
  refine l.reading .collectAll fun st tends => ?_
  have reader : st.reader i = .handle (.cursor kind i) := by rw [Store.reader, tends.kind]
  have usual := tends.serves.reads.functions "collect_all" (by simp)
  rw [reader] at usual
  rw [Act.collected, Act.outcome_bind_ok (Act.outcome_get st), if_pos usual]
  rfl

end Lasts

end DocMapper
