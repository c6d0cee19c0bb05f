import DocMapper.Proofs.Walking

/-!
How operations of models come to a handle.  Each prepares what it needs, asks the connection for the
handle of the model's collection, and goes on through that; it touches no other handle.
-/

namespace DocMapper

/-- The class of queries that can be run, or the one that refines it without adding anything. -/
def ClassRef.IsModelQuery (c : ClassRef) : Prop :=
  c = .known "ModelQuery" ∨ c = .known "TracingQuery"

/-- A query or a pipeline. -/
inductive Builder
  | query (kind : QueryKind) (i : Nat)
  | pipeline (cls : ClassRef) (i : Nat)

namespace Builder

def value : Builder → Value
  | query kind i => .handle (.query kind i)
  | pipeline cls i => .handle (.pipeline cls i)

/-- The kind of cursor that comes of it. -/
def opens : Builder → CursorKind
  | query .. => .query
  | pipeline .. => .aggregate

def execute (d : Dispatch) (builder : Builder) (options : Entries) : Act Value :=
  match builder with
  | query kind i => Act.execute d (.handle (.query kind i)) options
  | pipeline cls i => Act.executePipeline d (.handle (.pipeline cls i)) options

/-- A builder of the library that is bound to a class; a query is over options of its own. -/
def Of (st : Store) (c : ClassRef) : Builder → Prop
  | query kind i => kind.cls.IsModelQuery ∧ kind.bindable ∧
      ∃ q, st.queries[i]? = some q ∧ q.model = .cls c ∧ q.held = .null
  | pipeline cls i => cls.IsPipeline ∧ ∃ p, st.pipelines[i]? = some p ∧ p.model = .cls c

end Builder

namespace Store

/-- An operation of a model is on its way: the connection keeps a pool, and no handle but those that
are said was touched. -/
structure Underway (st : Store) (k b : Nat) (before : List Value) (c : ClassRef) (name : String)
    (p : Pool) (touched : Nat → Prop) (now : Store) : Prop where
  caches : now.Caches k b before p
  employs : now.Employs k c name
  more : st.collections.size ≤ now.collections.size
  others : ∀ j < st.collections.size, ¬touched j → now.collectionAt j = st.collectionAt j

/-- How an operation ends: it fails before it comes to a handle, or it comes to the one of the
model's collection. -/
inductive Uses (st : Store) (k b : Nat) (before : List Value) (c : ClassRef) (name : String)
    (p : Pool) (P : α → Store → Prop) : Except Fault α × Store → Prop
  | barred {e : Fault} {after : Store}
      (underway : st.Underway k b before c name p (fun _ => False) after) :
      Uses st k b before c name p P (.error e, after)
  | served {r : Except Fault α} {after : Store} {j : Nat} {q : Pool} (gives : p.Gives name j q)
      (underway : st.Underway k b before c name q (· = j) after)
      (given : ∀ a, r = .ok a → P a after) : Uses st k b before c name p P (r, after)

variable {st now : Store} {k b : Nat} {before : List Value} {c : ClassRef} {name : String}
  {p q : Pool} {touched : Nat → Prop} {P : α → Store → Prop} {Q : β → Store → Prop}
  {x : Act α} {f : α → Act β} {d : Dispatch}

theorem Caches.called (caches : st.Caches k b before p) (j : Nat) (v : Value) :
    (st.called j v).Caches k b before p :=
  ⟨caches.ordinary.of_setting rfl, caches.connected, caches.present, caches.selected,
    caches.handles, caches.data, caches.requests, caches.names, caches.slots,
    fun e member => by simpa [Store.called] using caches.there e member⟩

namespace Underway

theorem start (caches : st.Caches k b before p) (employs : st.Employs k c name) :
    st.Underway k b before c name p (fun _ => False) st :=
  ⟨caches, employs, Nat.le_refl _, fun _ _ _ => rfl⟩

theorem lasts : Lasts (st.Underway k b before c name p touched) where
  ordinary _ h := h.caches.ordinary
  accrues _ _ h accrues :=
    ⟨h.caches.accrues accrues, h.employs.accrues accrues,
      Nat.le_trans h.more accrues.collections.length_le, fun j there other =>
        (getD_prefix_eq accrues.collections (Nat.lt_of_lt_of_le there h.more) _).trans
          (h.others j there other)⟩

theorem bears (j : Nat) : Bears (st.Underway k b before c name p (· = j)) j where
  toLasts := lasts
  called σ v h := by
    refine ⟨h.caches.called j v, h.employs.of_setting rfl, ?_, fun i there other => ?_⟩
    · simpa [Store.called] using h.more
    · rw [← h.others i there other]
      simp [Store.called, Store.collectionAt, Array.getD_eq_getD_getElem?, Ne.symm other]

/-- The handle, and what comes after it. -/
theorem handle {f : Value → Act β} (underway : st.Underway k b before c name p (fun _ => False) now)
    (back : ∀ j q, Act.Leads (st.Underway k b before c name q (· = j)) Q
      (f (.handle (.collection j)))) :
    st.Uses k b before c name p Q ((Act.handleOf d k (.str name) >>= f).outcome now) := by
  obtain ⟨j, q, after, done, gives, caches, setting, more⟩ :=
    Act.outcome_handleOf_caches (d := d) underway.caches name
  have there : st.Underway k b before c name q (· = j) after :=
    ⟨caches, underway.employs.of_setting setting, Nat.le_trans underway.more more.length_le,
      fun i here _ => (getD_prefix_eq more (Nat.lt_of_lt_of_le here underway.more) _).trans
        (underway.others i here id)⟩
  rw [Act.outcome_bind_ok done]
  obtain ⟨still, given⟩ := back j q after there
  exact .served gives still given

theorem collectionFor {f : Value → Act β}
    (underway : st.Underway k b before c name p (fun _ => False) now)
    (back : ∀ j q, Act.Leads (st.Underway k b before c name q (· = j)) Q
      (f (.handle (.collection j)))) :
    st.Uses k b before c name p Q ((Act.collectionFor d (.cls c) >>= f).outcome now) := by
  have configured := underway.employs.configured underway.caches.ordinary
  have same := Act.outcome_collectionFor (d := d) configured
  rw [Act.outcome_bind, same, ← Act.outcome_bind]
  exact underway.handle back

end Underway

/-- What comes before the handle. -/
theorem Uses.front (kept : st.Underway k b before c name p (fun _ => False) (x.outcome now).2)
    (later : ∀ a σ, x.outcome now = (.ok a, σ) →
      st.Underway k b before c name p (fun _ => False) σ →
      st.Uses k b before c name p Q ((f a).outcome σ)) :
    st.Uses k b before c name p Q ((x >>= f).outcome now) := by
  rcases hx : x.outcome now with ⟨e | a, after⟩ <;> rw [hx] at kept
  · rw [Act.outcome_bind_error hx]
    exact .barred kept
  · rw [Act.outcome_bind_ok hx]
    exact later a after hx kept

/-- What is done with an answer goes through the same handle. -/
theorem Uses.bind (uses : st.Uses k b before c name p P (x.outcome now))
    (later : ∀ a j q,
      Act.Leads (fun σ => st.Underway k b before c name q (· = j) σ ∧ P a σ) Q (f a)) :
    st.Uses k b before c name p Q ((x >>= f).outcome now) := by
  generalize hx : x.outcome now = went at uses
  cases uses with
  | barred underway =>
    rw [Act.outcome_bind_error hx]
    exact .barred underway
  | @served r after j q gives underway given =>
    cases r with
    | error e =>
      rw [Act.outcome_bind_error hx]
      exact .served gives underway fun _ same => by cases same
    | ok a =>
      rw [Act.outcome_bind_ok hx]
      obtain ⟨⟨still, -⟩, given⟩ := later a j q after ⟨underway, given a rfl⟩
      exact .served gives still given

theorem Uses.forget {went : Except Fault α × Store}
    (uses : st.Uses k b before c name p P went) :
    st.Uses k b before c name p (fun _ _ => True) went := by
  cases uses with
  | barred underway => exact .barred underway
  | served gives underway => exact .served gives underway fun _ _ => trivial

theorem Ordinary.usual_query {kind : QueryKind} {m : Method} {owner name : String}
    (ordinary : st.Ordinary) (query : kind.cls.IsModelQuery) (i : Nat)
    (found : Interface.inherited? "ModelQuery" name = some (.known owner, .method m))
    (tracing : Interface.inherited? "TracingQuery" name = some (.known owner, .method m)) :
    st.usual (.handle (.query kind i)) (.known owner) name := by
  rcases query with is | is
  · exact ordinary.usual rfl is found
  · exact ordinary.usual rfl is tracing

theorem Ordinary.usual_pipeline {cls : ClassRef} {m : Method} {name : String}
    (ordinary : st.Ordinary) (known : cls.IsPipeline) (i : Nat)
    (found : Interface.pipelineMembers.lookup name = some (.method m)) :
    st.usual (.handle (.pipeline cls i)) Act.pipelineClass name := by
  rcases known with rfl | rfl
  · exact ordinary.usual rfl rfl (Interface.inherited?_pipeline (.inl rfl) found)
  · exact ordinary.usual rfl rfl (Interface.inherited?_pipeline (.inr rfl) found)

end Store

end DocMapper
