import DocMapper.Proofs.Outcome

/-!
What readers of a cursor share: the cursor with its lock, the source that it reads from, and the
promise that the source may still be.  Which function a name reaches is settled elsewhere, by the
classes and by what was set on objects.
-/

namespace DocMapper

/-- What decides which function a name reaches. -/
structure Setting where
  registry : Registry
  extras : List ((Holder × String) × Value)
  refined : List (Handle × ClassRef)

structure Desk where
  cursors : Array Cursor
  sources : Array Source
  promises : Array Promise

namespace Store

def setting (st : Store) : Setting := ⟨st.registry, st.extras, st.refined⟩

def desk (st : Store) : Desk := ⟨st.cursors, st.sources, st.promises⟩

/-- A store but for what cursors are read by, and for streams, notes and identities. -/
def beyond (st : Store) : Store :=
  { st with
    cursors := #[], sources := #[], promises := #[], streams := #[], notes := #[], identities := 0 }

theorem setting_of_beyond {st after : Store} (h : after.beyond = st.beyond) :
    after.setting = st.setting := by
  change after.beyond.setting = st.beyond.setting
  rw [h]

theorem classOf_congr {st after : Store} (h : after.setting = st.setting) (v : Value) :
    after.classOf v = st.classOf v := by
  simp only [setting, Setting.mk.injEq] at h
  obtain ⟨hr, _, hf⟩ := h
  cases v <;> simp only [classOf, hr, hf]

theorem extraOf?_congr {st after : Store} (h : after.setting = st.setting) (v : Value)
    (name : String) : after.extraOf? v name = st.extraOf? v name := by
  simp only [setting, Setting.mk.injEq] at h
  cases v <;> simp only [extraOf?, h.2.1]

theorem member?_congr {st after : Store} (h : after.setting = st.setting) (v : Value)
    (name : String) : after.member? v name = st.member? v name := by
  have hc := classOf_congr h v
  simp only [setting, Setting.mk.injEq] at h
  cases v <;> simp only [member?, h.1, hc]

theorem usual_congr {st after : Store} (h : after.setting = st.setting) (v : Value)
    (owner : ClassRef) (name : String) : after.usual v owner name = st.usual v owner name := by
  simp only [usual, extraOf?_congr h, member?_congr h]

def cursorAt (st : Store) (i : Nat) : Cursor := st.cursors.getD i default

def documentAt (st : Store) (i : Nat) : Document := st.documents.getD i default

def sourceAt (st : Store) (s : Nat) : Source := st.sources.getD s default

def putCursor (st : Store) (i : Nat) (c : Cursor) : Store :=
  { st with cursors := st.cursors.setIfInBounds i c }

def putSource (st : Store) (s : Nat) (x : Source) : Store :=
  { st with sources := st.sources.setIfInBounds s x }

def putPromise (st : Store) (p : Nat) (x : Promise) : Store :=
  { st with promises := st.promises.setIfInBounds p x }

def identified (st : Store) : Store := { st with identities := st.identities + 1 }

def noted (st : Store) (log : String) (level : Level) (message : Store → String) : Store :=
  if st.noting then
    { st with notes := st.notes.push { level, log, message := message st } }
  else st

section

variable (st : Store) (i s p : Nat) (c : Cursor) (x : Source) (y : Promise)

@[simp] theorem setting_putCursor : (st.putCursor i c).setting = st.setting := rfl

@[simp] theorem setting_putSource : (st.putSource s x).setting = st.setting := rfl

@[simp] theorem setting_putPromise : (st.putPromise p y).setting = st.setting := rfl

@[simp] theorem setting_identified : st.identified.setting = st.setting := rfl

@[simp] theorem desk_identified : st.identified.desk = st.desk := rfl

@[simp] theorem cursorAt_identified : st.identified.cursorAt i = st.cursorAt i := rfl

@[simp] theorem sourceAt_identified : st.identified.sourceAt s = st.sourceAt s := rfl

@[simp] theorem cursors_identified : st.identified.cursors = st.cursors := rfl

@[simp] theorem sources_identified : st.identified.sources = st.sources := rfl

@[simp] theorem promises_identified : st.identified.promises = st.promises := rfl

@[simp] theorem setting_noted (log : String) (level : Level) (message : Store → String) :
    (st.noted log level message).setting = st.setting := by
  unfold noted
  split <;> rfl

@[simp] theorem desk_noted (log : String) (level : Level) (message : Store → String) :
    (st.noted log level message).desk = st.desk := by
  unfold noted
  split <;> rfl

@[simp] theorem beyond_noted (log : String) (level : Level) (message : Store → String) :
    (st.noted log level message).beyond = st.beyond := by
  unfold noted
  split <;> rfl

@[simp] theorem beyond_putCursor : (st.putCursor i c).beyond = st.beyond := rfl

@[simp] theorem beyond_putSource : (st.putSource s x).beyond = st.beyond := rfl

@[simp] theorem beyond_putPromise : (st.putPromise p y).beyond = st.beyond := rfl

@[simp] theorem beyond_identified : st.identified.beyond = st.beyond := rfl

@[simp] theorem cursorAt_putSource : (st.putSource s x).cursorAt i = st.cursorAt i := rfl

@[simp] theorem cursorAt_putPromise : (st.putPromise p y).cursorAt i = st.cursorAt i := rfl

@[simp] theorem sourceAt_putCursor : (st.putCursor i c).sourceAt s = st.sourceAt s := rfl

@[simp] theorem sourceAt_putPromise : (st.putPromise p y).sourceAt s = st.sourceAt s := rfl

@[simp] theorem cursors_putSource : (st.putSource s x).cursors = st.cursors := rfl

@[simp] theorem cursors_putPromise : (st.putPromise p y).cursors = st.cursors := rfl

@[simp] theorem sources_putCursor : (st.putCursor i c).sources = st.sources := rfl

@[simp] theorem sources_putPromise : (st.putPromise p y).sources = st.sources := rfl

@[simp] theorem promises_putCursor : (st.putCursor i c).promises = st.promises := rfl

@[simp] theorem promises_putSource : (st.putSource s x).promises = st.promises := rfl

@[simp] theorem size_putCursor : (st.putCursor i c).cursors.size = st.cursors.size := by
  simp [putCursor]

@[simp] theorem size_putSource : (st.putSource s x).sources.size = st.sources.size := by
  simp [putSource]

end

variable {st : Store} {i s : Nat}

@[simp] theorem cursorAt_putCursor (h : i < st.cursors.size) (c : Cursor) :
    (st.putCursor i c).cursorAt i = c := by
  simp [putCursor, cursorAt, Array.getD_eq_getD_getElem?, h]

@[simp] theorem sourceAt_putSource (h : s < st.sources.size) (x : Source) :
    (st.putSource s x).sourceAt s = x := by
  simp [putSource, sourceAt, Array.getD_eq_getD_getElem?, h]

theorem cursorAt_congr {after : Store} (h : after.desk = st.desk) (i : Nat) :
    after.cursorAt i = st.cursorAt i := by
  simp only [desk, Desk.mk.injEq] at h
  simp only [cursorAt, h.1]

theorem sourceAt_congr {after : Store} (h : after.desk = st.desk) (s : Nat) :
    after.sourceAt s = st.sourceAt s := by
  simp only [desk, Desk.mk.injEq] at h
  simp only [sourceAt, h.2.1]

end Store

namespace Act

theorem outcome_cursor (i : Nat) (st : Store) :
    (cursor i).outcome st = (.ok (st.cursorAt i), st) := by
  rw [cursor, bind_pure_comp, outcome_map]
  rfl

theorem outcome_source (s : Nat) (st : Store) :
    (source s).outcome st = (.ok (st.sourceAt s), st) := by
  rw [source, bind_pure_comp, outcome_map]
  rfl

@[simp] theorem outcome_setCursor (i : Nat) (c : Cursor) (st : Store) :
    (setCursor i c).outcome st = (.ok (), st.putCursor i c) := rfl

@[simp] theorem outcome_setSource (s : Nat) (x : Source) (st : Store) :
    (setSource s x).outcome st = (.ok (), st.putSource s x) := rfl

@[simp] theorem outcome_setPromise (p : Nat) (x : Promise) (st : Store) :
    (setPromise p x).outcome st = (.ok (), st.putPromise p x) := rfl

@[simp] theorem outcome_made (x : Shape) (st : Store) :
    (made x).outcome st = (.ok (.object (some st.identities) x), st.identified) := by
  simp only [made, freshIdentity, outcome_bind, outcome_modifyGet, outcome_pure, Store.identified]

@[simp] theorem outcome_noteIn (log : String) (level : Level) (message : Store → String)
    (st : Store) : (noteIn log level message).outcome st = (.ok (), st.noted log level message) := by
  simp only [noteIn, outcome_modify, Store.noted]

theorem outcome_document (i : Nat) (st : Store) :
    (document i).outcome st = (.ok (st.documentAt i), st) := by
  rw [document, bind_pure_comp, outcome_map]
  rfl

theorem outcome_callOr_usual {d : Dispatch} {waiting : Waiting} {target : Value} {owner : ClassRef}
    {name : String} {args : List Value} {named : Entries} {direct : Act Value} {st : Store}
    (h : st.usual target owner name) :
    (callOr d waiting target owner name args named direct).outcome st = direct.outcome st := by
  rw [callOr, outcome_bind_ok (outcome_get st), if_pos h]

end Act

end DocMapper
