import DocMapper.Proofs.Caching
import DocMapper.Proofs.Normalizing
import DocMapper.Proofs.Searching

/-!
What lasts as objects come.  What the library does by itself makes objects, writes notes and records
calls; it leaves classes, connections and databases as they are.
-/

namespace DocMapper

/-- What is so of a ordinary store, and stays so as objects come. -/
structure Lasts (R : Store → Prop) : Prop where
  ordinary : ∀ st, R st → st.Ordinary
  accrues : ∀ st after, R st → st.Accrues after → R after

/-- What also stays so as a handle records calls. -/
structure Bears (R : Store → Prop) (j : Nat) : Prop extends Lasts R where
  called : ∀ st v, R st → R (st.called j v)

namespace Store

/-- A source that is there. -/
def IsSource (st : Store) (v : Value) : Prop := ∃ i, v = .handle (.source i) ∧ i < st.sources.size

variable {st : Store} {h : Handle} {c owner name : String} {m : Method}

theorem Ordinary.usual (ordinary : st.Ordinary) (own : h.isOwn) (cls : h.cls = .known c)
    (found : Interface.inherited? c name = some (.known owner, .method m)) :
    st.usual (.handle h) (.known owner) name :=
  (ordinary.bare h own).usual ordinary.pristine cls found

end Store

namespace Act

/-- What is so stays so, and an answer has more to it in the store that it comes with. -/
def Leads (R : Store → Prop) (P : α → Store → Prop) (x : Act α) : Prop :=
  ∀ st, R st → R (x.outcome st).2 ∧ ∀ a, (x.outcome st).1 = .ok a → P a (x.outcome st).2

variable {R : Store → Prop} {P : α → Store → Prop} {Q : β → Store → Prop} {x : Act α}
  {f : α → Act β}

theorem Leads.bind (first : Leads R P x) (later : ∀ a, Leads (fun st => R st ∧ P a st) Q (f a)) :
    Leads R Q (x >>= f) := by
  intro st here
  obtain ⟨kept, is⟩ := first st here
  rcases hx : x.outcome st with ⟨e | a, after⟩ <;> rw [hx] at kept is
  · rw [outcome_bind_error hx]
    exact ⟨kept, fun _ same => by cases same⟩
  · rw [outcome_bind_ok hx]
    obtain ⟨still, given⟩ := later a after ⟨kept, is a rfl⟩
    exact ⟨still.1, given⟩

theorem Keeps.leads (keeps : Keeps R x) (later : ∀ a, Leads R Q (f a)) : Leads R Q (x >>= f) := by
  intro st here
  have kept := keeps st here
  rcases hx : x.outcome st with ⟨e | a, after⟩ <;> rw [hx] at kept
  · rw [outcome_bind_error hx]
    exact ⟨kept, fun _ same => by cases same⟩
  · rw [outcome_bind_ok hx]
    exact later a after kept

theorem Leads.keeps (leads : Leads R P x) : Keeps R x :=
  fun st here => (leads st here).1

theorem Keeps.leads_any (keeps : Keeps R x) : Leads R (fun _ _ => True) x := keeps.brings

namespace Keeps

/-- What only reads keeps everything. -/
theorem of_read (reads : ∀ st, (x.outcome st).2 = st) : Keeps R x := by
  intro st here
  rw [reads st]
  exact here

theorem ofExcept_any (r : Except Fault α) : Keeps R (Act.ofExcept r) :=
  of_read fun st => by rw [outcome_ofExcept]

theorem collection (j : Nat) : Keeps R (collection j) :=
  of_read fun st => by rw [outcome_collection]

theorem shelf (i : Nat) : Keeps R (shelf i) :=
  of_read fun st => by rw [outcome_shelf]

theorem document (i : Nat) : Keeps R (document i) :=
  of_read fun st => by rw [outcome_document]

theorem itemsOf (v : Value) : Keeps R (itemsOf v) :=
  .get _ fun _ => ofExcept_any _

theorem isIn (x v : Value) : Keeps R (isIn x v) :=
  .get _ fun _ => ofExcept_any _

theorem matching (j : Nat) (filter : Value) : Keeps R (matching j filter) :=
  .bind (.collection j) fun _ => .bind (.shelf _) fun _ => .bind (.itemsOf _) fun _ =>
    .get _ fun _ => .ofExcept fun _ _ => .pure _

end Keeps

end Act

namespace Lasts

variable {R : Store → Prop} (s : Lasts R)
include s

theorem keeps {x : Act α} (same : ∀ st, (x.outcome st).2.footing = st.footing) : Act.Keeps R x :=
  fun st here => s.accrues st _ here (.of_footing (same st))

theorem note (level : Level) (part : Part) (message : Store → String) :
    Act.Keeps R (Act.note level part message) :=
  s.keeps fun st => Store.footing_noted st ..

theorem noteOf (self : Value) (level : Level) (message : Store → String) :
    Act.Keeps R (Act.noteOf self level message) := by
  refine .get _ fun st => ?_
  split
  · exact s.keeps fun st => Store.footing_noted st ..
  · exact .throw _
  · exact s.keeps fun st => Store.footing_noted st ..
  · exact .throw _

theorem copy (v : Value) : Act.Keeps R (Act.copy v) := by
  intro st here
  rw [Act.copy, Act.outcome_bind_ok (Act.outcome_get st)]
  cases st.uncopyable? v with
  | some e => exact here
  | none => exact s.accrues st _ here (.cloned (s.ordinary st here) v)

theorem copies (vs : List Value) : Act.Keeps R (Act.copies vs) := by
  induction vs with
  | nil => exact .pure _
  | cons v vs ih =>
    rw [Act.copies, List.mapM_cons]
    exact .bind (s.copy v) fun _ => .bind ih fun _ => .pure _

theorem sourceOf (vs : List Value) :
    Act.Leads R (fun v st => st.IsSource v)
      (Act.sourceOf vs) := by
  refine (s.copies vs).leads fun ds st here => ?_
  have made : (Act.newSource { pending := ds }).outcome st =
      (.ok st.sources.size, { st with sources := st.sources.push { pending := ds } }) := rfl
  rw [Act.outcome_bind_ok made]
  refine ⟨s.accrues st _ here (.of_footing rfl), ?_⟩
  rintro _ ⟨⟩
  exact ⟨_, rfl, by simp⟩

end Lasts

namespace Bears

variable {R : Store → Prop} {j : Nat} {d : Dispatch} (s : Bears R j)
include s

theorem recordCall (method : String) (args : List Value) :
    Act.Keeps R (Act.recordCall j method args) := by
  intro st here
  rw [Act.recordCall, Act.outcome_bind_ok (Act.outcome_collection j st)]
  cases appended (st.collectionAt j).calls (.tuple (.str method :: args)) with
  | error e => exact here
  | ok calls =>
    rw [Act.outcome_bind_ok (Act.outcome_ofExcept ..)]
    exact s.called st calls here

theorem find (filter : Value) (args : Entries) :
    Act.Leads R (fun v st => st.IsSource v)
      (Act.find j filter args) := by
  refine (s.recordCall _ _).leads fun _ => (Act.Keeps.matching j filter).leads fun ds => ?_
  refine Act.Keeps.leads (.ofExcept_any _) fun xs => ?_
  exact s.toLasts.sourceOf xs

theorem aggregate (stages : Value) (args : Entries) :
    Act.Leads R (fun v st => st.IsSource v)
      (Act.aggregate j stages args) := by
  refine (s.recordCall _ _).leads fun _ => ?_
  refine Act.Keeps.leads (.collection j) fun c => ?_
  exact (Act.Keeps.itemsOf _).leads fun xs => s.toLasts.sourceOf xs

theorem countDocuments (filter : Value) (args : Entries) :
    Act.Keeps R (Act.countDocuments j filter args) :=
  .bind (s.recordCall _ _) fun _ => .bind (.matching j filter) fun _ =>
    .ofExcept fun _ _ => .pure _

theorem insertOne (document : Value) : Act.Keeps R (Act.insertOne j document) := by
  refine .bind (s.recordCall _ _) fun _ => .bind (s.toLasts.copy document) fun copied => ?_
  split
  · exact .throw _
  · refine .bind (s.toLasts.keeps fun _ => rfl) fun fresh => ?_
    refine .bind (.collection j) fun c => ?_
    refine .bind (.shelf _) fun v => .ofExcept fun ds _ => ?_
    exact .bind (s.toLasts.keeps fun _ => rfl) fun _ => .pure _

theorem updateOne (filter update : Value) : Act.Keeps R (Act.updateOne j filter update) := by
  refine .bind (s.recordCall _ _) fun _ => ?_
  refine .bind (.collection j) fun c => ?_
  refine .bind (.shelf _) fun v => .bind (.itemsOf v) fun ds => ?_
  refine .get _ fun st => .ofExcept fun found _ => ?_
  split
  · exact .pure _
  · refine .ofExcept fun changed _ => .bind (s.toLasts.keeps fun _ => rfl) fun _ => ?_
    split
    · exact .throw _
    · exact .pure _

/-- What a handle does by itself is reached by the name of the function. -/
theorem callOr {name : String} {m : Method} (waiting : Waiting) (args : List Value)
    (named : Entries)
    (found : Interface.inherited? "MockCollection" name = some (.known "MockCollection", .method m))
    {P : Value → Store → Prop} {direct : Act Value} (leads : Act.Leads R P direct) :
    Act.Leads R P (Act.callOr d waiting (.handle (.collection j)) (.known "MockCollection") name
      args named direct) := by
  intro st here
  rw [Act.outcome_callOr_usual ((s.ordinary st here).usual rfl rfl found)]
  exact leads st here

theorem findThrough (criteria : Value) (args : Entries) :
    Act.Leads R (fun v st => st.IsSource v)
      (Act.findThrough d (.handle (.collection j)) criteria args) :=
  s.callOr .never [criteria] args rfl
    ((Act.Keeps.ofExcept_any _).leads fun _ => s.find criteria args)

theorem aggregateThrough (stages : Value) (args : Entries) :
    Act.Leads R (fun v st => st.IsSource v)
      (Act.aggregateThrough d (.handle (.collection j)) stages args) :=
  s.callOr .never [stages] args rfl
    ((Act.Keeps.ofExcept_any _).leads fun _ => s.aggregate stages args)

theorem countThrough (criteria : Value) (args : Entries) :
    Act.Keeps R (Act.countThrough d (.handle (.collection j)) criteria args) := by
  have direct : Act.Keeps R (do
      let _ ← Act.ofExcept (Act.findThrough.passedOn "count_documents" "filter" args)
      return Value.int (← Act.countDocuments j criteria args)) :=
    .bind (.ofExcept_any _) fun _ => .bind (s.countDocuments criteria args) fun _ => .pure _
  exact (s.callOr .always [criteria] args rfl direct.leads_any).keeps

theorem updateThrough (filter update : Value) :
    Act.Keeps R (Act.updateThrough d (.handle (.collection j)) filter update) := by
  have direct : Act.Keeps R (do return Value.bool (← Act.updateOne j filter update)) :=
    .bind (s.updateOne filter update) fun _ => .pure _
  exact .bind (s.callOr .always [filter, update] [] rfl direct.leads_any).keeps fun _ => .pure _

theorem insertThrough (document : Value) :
    Act.Keeps R (Act.insertThrough d (.handle (.collection j)) document) := by
  intro st here
  have usual := (s.ordinary st here).usual (h := .collection j) rfl rfl
    (show Interface.inherited? "MockCollection" "insert_one" = some (.known "MockCollection", _)
      from rfl)
  rw [Act.insertThrough, Act.outcome_bind_ok (Act.outcome_get st), if_pos usual]
  exact s.insertOne document st here

end Bears

end DocMapper
