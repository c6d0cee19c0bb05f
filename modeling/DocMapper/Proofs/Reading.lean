import DocMapper.Proofs.Desk

/-!
A cursor read over and over.  What one call does to the cursor and its source is the transition of
the pair alone, once the lock is there and the promise is kept.
-/

namespace DocMapper

namespace Cursor

def under (c : Cursor) (lock : Value) : Cursor := { c with lock }

def onto (c : Cursor) (source : Value) : Cursor := { c with source }

def moved (c : Cursor) (state : CursorState) : Cursor := { c with state }

theorem under_self {c : Cursor} {v : Value} (h : c.lock = v) : c.under v = c := by
  subst h
  rfl

theorem onto_self {c : Cursor} {v : Value} (h : c.source = v) : c.onto v = c := by
  subst h
  rfl

variable {c c' : Cursor} (x : Source)

theorem pull_moved (c : Cursor) :
    c.pull x = ((c.moved (c.pull x).1.1.state, (c.pull x).1.2), (c.pull x).2) := by
  rcases c with ⟨kind, state, _⟩
  rcases x with ⟨_ | ⟨_ | _, _⟩, _ | _, _⟩ <;> cases state <;> rfl

theorem drain_moved (c : Cursor) :
    c.drain x = ((c.moved (c.drain x).1.1.state, (c.drain x).1.2), (c.drain x).2) := by
  rcases c with ⟨kind, state, _⟩
  rcases x with ⟨_, _ | _, _⟩ <;> cases state <;> rfl

theorem pull_alike (state : c'.state = c.state) :
    (c'.pull x).1.1.state = (c.pull x).1.1.state ∧ (c'.pull x).1.2 = (c.pull x).1.2 ∧
      (c'.pull x).2 = (c.pull x).2 := by
  rcases c with ⟨kind, state, _⟩
  rcases c' with ⟨kind', state', _⟩
  subst state
  rcases x with ⟨_ | ⟨_ | _, _⟩, _ | _, _⟩ <;> cases state' <;> exact ⟨rfl, rfl, rfl⟩

theorem drain_alike (state : c'.state = c.state) (kind : c'.kind = c.kind) :
    (c'.drain x).1.1.state = (c.drain x).1.1.state ∧ (c'.drain x).1.2 = (c.drain x).1.2 ∧
      (c'.drain x).2 = (c.drain x).2 := by
  rcases c with ⟨kind, state, _⟩
  rcases c' with ⟨kind', state', _⟩
  subst state kind
  rcases x with ⟨_, _ | _, _⟩ <;> cases state' <;> exact ⟨rfl, rfl, rfl⟩

theorem pull_open {c : Cursor} (h : c.state ≠ .exhausted) (x : Source) :
    c.pull x =
      match x.pull with
      | (x, .error e) => ((c, x), .error e)
      | (x, .ok none) => ((c.moved .exhausted, x), .ok none)
      | (x, .ok (some .null)) => ((c.moved .exhausted, x), .ok none)
      | (x, .ok (some v)) => ((c.moved .streaming, x), .ok (some v)) := by
  rcases c with ⟨kind, state, _⟩
  cases state
  case exhausted => exact absurd rfl h
  all_goals rfl

theorem pull_some {c : Cursor} (h : c.state ≠ .exhausted) {x after : Source} {v : Value}
    (hx : x.pull = (after, .ok (some v))) (hv : v ≠ .null) :
    c.pull x = ((c.moved .streaming, after), .ok (some v)) := by
  rw [pull_open h, hx]
  cases v
  case null => exact absurd rfl hv
  all_goals rfl

theorem drain_idle {c : Cursor} (h : c.state = .idle) (x : Source) :
    c.drain x =
      match x.drain with
      | (x, .error e) => ((c, x), .error e)
      | (x, .ok vs) => ((c.moved .exhausted, x), .ok vs) := by
  simp only [drain, h]
  rfl

end Cursor

namespace Store

def reader (st : Store) (i : Nat) : Value := .handle (.cursor (st.cursorAt i).kind i)

def hydrator (c : Cursor) : ClassRef := .known (if c.kind.hydrates then "QueryCursor" else "BaseCursor")

/-- A cursor reads from a source by the functions of the library; the source may still be promised. -/
structure Reads (st : Store) (i s : Nat) : Prop where
  cursor_lt : i < st.cursors.size
  source_lt : s < st.sources.size
  lock : (st.cursorAt i).lock = .null ∨
    ∃ n, (st.cursorAt i).lock = .object n (.inert (.known "Lock"))
  native : (st.cursorAt i).source = .handle (.source s) ∨
    ∃ p, (st.cursorAt i).source = .handle (.promise p) ∧
      (st.promises.getD p default).promised = .source s
  functions : ∀ name ∈ ["_pull_lock", "_handle", "next", "collect_all"],
    st.usual (st.reader i) (.known "BaseCursor") name
  hydrates : st.usual (st.reader i) (hydrator (st.cursorAt i)) "_hydrate"
  requests : ∀ name ∈ ["next", "to_list"],
    st.usual (.handle (.source s)) (.known "MockCursor") name
  results : st.extraOf? (.handle (.source s)) "results" = none

/-- Nobody has waited for what a cursor reads from. -/
def Unspent (st : Store) (i : Nat) : Prop :=
  ∀ p, (st.cursorAt i).source = .handle (.promise p) → (st.promises.getD p default).spent = false

def locked (st : Store) (i : Nat) : Store :=
  match (st.cursorAt i).lock with
  | .null =>
    let lock := .object (some st.identities) (.inert (.known "Lock"))
    st.identified.putCursor i ((st.cursorAt i).under lock)
  | _ => st

def exhaustedBy (st : Store) (self : Value) : Store :=
  st.noted Part.cursor.log .debug fun st => s!"{st.typeName self} exhausted"

def drainedBy (st : Store) (self : Value) (number : Nat) : Store :=
  st.noted Part.cursor.log .debug fun st => s!"{st.typeName self} drained {number} document(s)"

def resolved (st : Store) (i s : Nat) : Store :=
  match (st.cursorAt i).source with
  | .handle (.promise p) =>
    (st.putPromise p { promised := .source s, spent := true }).putCursor i
      ((st.cursorAt i).onto (.handle (.source s)))
  | _ => st

/-- The store once a call that holds the lock has moved the pair of cursor and source. -/
def stepped (st : Store) (i s : Nat) (state : CursorState) (x : Source) : Store :=
  let ready := (st.locked i).resolved i s
  (ready.putCursor i ((ready.cursorAt i).moved state)).putSource s x

section

variable (st : Store) (i s : Nat)

@[simp] theorem setting_locked : (st.locked i).setting = st.setting := by
  unfold locked
  split <;> rfl

@[simp] theorem beyond_locked : (st.locked i).beyond = st.beyond := by
  unfold locked
  split <;> rfl

@[simp] theorem sources_locked : (st.locked i).sources = st.sources := by
  unfold locked
  split <;> rfl

@[simp] theorem promises_locked : (st.locked i).promises = st.promises := by
  unfold locked
  split <;> rfl

@[simp] theorem size_locked : (st.locked i).cursors.size = st.cursors.size := by
  unfold locked
  split <;> simp

@[simp] theorem setting_resolved : (st.resolved i s).setting = st.setting := by
  unfold resolved
  split <;> rfl

@[simp] theorem beyond_resolved : (st.resolved i s).beyond = st.beyond := by
  unfold resolved
  split <;> rfl

@[simp] theorem sources_resolved : (st.resolved i s).sources = st.sources := by
  unfold resolved
  split <;> rfl

@[simp] theorem size_resolved : (st.resolved i s).cursors.size = st.cursors.size := by
  unfold resolved
  split <;> simp

@[simp] theorem setting_stepped (state : CursorState) (x : Source) :
    (st.stepped i s state x).setting = st.setting := by
  simp [stepped]

@[simp] theorem beyond_stepped (state : CursorState) (x : Source) :
    (st.stepped i s state x).beyond = st.beyond := by
  simp [stepped]

theorem sourceAt_ready : ((st.locked i).resolved i s).sourceAt s = st.sourceAt s := by
  simp only [sourceAt, sources_resolved, sources_locked]

end

namespace Reads

variable {st after : Store} {i s : Nat}

/-- Readers notice no change of anything else. -/
theorem of_alike (h : st.Reads i s) (setting : after.setting = st.setting)
    (cursors : after.cursors.size = st.cursors.size) (sources : after.sources.size = st.sources.size)
    (kind : (after.cursorAt i).kind = (st.cursorAt i).kind)
    (lock : (after.cursorAt i).lock = .null ∨
      ∃ n, (after.cursorAt i).lock = .object n (.inert (.known "Lock")))
    (native : (after.cursorAt i).source = .handle (.source s) ∨
      ∃ p, (after.cursorAt i).source = .handle (.promise p) ∧
        (after.promises.getD p default).promised = .source s) : after.Reads i s where
  cursor_lt := cursors ▸ h.cursor_lt
  source_lt := sources ▸ h.source_lt
  lock := lock
  native := native
  functions name hn := by
    rw [usual_congr setting, reader, kind]
    exact h.functions name hn
  hydrates := by
    rw [usual_congr setting, reader, hydrator, kind]
    exact h.hydrates
  requests name hn := by
    rw [usual_congr setting]
    exact h.requests name hn
  results := by rw [extraOf?_congr setting, h.results]

theorem cursorAt_locked (h : st.Reads i s) :
    ∃ n, (st.locked i).cursorAt i = (st.cursorAt i).under (.object n (.inert (.known "Lock"))) := by
  rcases h.lock with hl | ⟨n, hl⟩
  · have present : i < st.identified.cursors.size := h.cursor_lt
    exact ⟨some st.identities, by simp only [Store.locked, hl, cursorAt_putCursor present]⟩
  · exact ⟨n, by simp only [Store.locked, hl, Cursor.under_self hl]⟩

theorem cursorAt_resolved (h : st.Reads i s) :
    (st.resolved i s).cursorAt i = (st.cursorAt i).onto (.handle (.source s)) := by
  rcases h.native with hs | ⟨p, hp, -⟩
  · simp only [Store.resolved, hs, Cursor.onto_self hs]
  · simp only [Store.resolved, hp]
    rw [cursorAt_putCursor (by exact h.cursor_lt)]

theorem locked (h : st.Reads i s) : (st.locked i).Reads i s := by
  obtain ⟨n, hc⟩ := h.cursorAt_locked
  refine h.of_alike (setting_locked st i) (size_locked st i) (by rw [sources_locked]) ?_ ?_ ?_
  · rw [hc]
    rfl
  · exact .inr ⟨n, by rw [hc]; rfl⟩
  · rw [hc, promises_locked]
    exact h.native

theorem resolved (h : st.Reads i s) : (st.resolved i s).Reads i s := by
  refine h.of_alike (setting_resolved st i s) (size_resolved st i s) (by rw [sources_resolved])
    ?_ ?_ ?_
  all_goals rw [h.cursorAt_resolved]
  · rfl
  · exact h.lock
  · exact .inl rfl

theorem unspent_locked (h : st.Reads i s) (unspent : st.Unspent i) : (st.locked i).Unspent i := by
  obtain ⟨n, hc⟩ := h.cursorAt_locked
  intro p hp
  rw [hc] at hp
  rw [promises_locked]
  exact unspent p hp

theorem cursorAt_ready (h : st.Reads i s) :
    ∃ n, ((st.locked i).resolved i s).cursorAt i =
      ((st.cursorAt i).under (.object n (.inert (.known "Lock")))).onto (.handle (.source s)) := by
  obtain ⟨n, hc⟩ := h.cursorAt_locked
  exact ⟨n, by rw [h.locked.cursorAt_resolved, hc]⟩

end Reads

end Store

namespace Act

variable {d : Dispatch} {st : Store} {i s : Nat}

theorem outcome_lockOf (h : st.Reads i s) :
    (lockOf i).outcome st = (.ok ((st.locked i).cursorAt i).lock, st.locked i) := by
  rw [lockOf, outcome_bind_ok (outcome_cursor i st), Store.locked]
  rcases h.lock with hl | ⟨n, hl⟩
  · have present : i < st.identified.cursors.size := h.cursor_lt
    simp only [hl, outcome_bind_ok (outcome_made _ st), outcome_bind, outcome_setCursor]
    rw [Store.cursorAt_putCursor present]
    rfl
  · simp only [hl, outcome_pure]

theorem outcome_takeLock (h : st.Reads i s) :
    (takeLock d (st.reader i) i).outcome st = (.ok (), st.locked i) := by
  have usual := h.functions "_pull_lock" (by simp)
  obtain ⟨n, hn⟩ := h.cursorAt_locked
  rw [takeLock, outcome_bind, outcome_callOr_usual usual, outcome_lockOf h, hn]
  rfl

theorem outcome_awaited_promise {p : Nat} (h : (st.promises.getD p default).promised = .source s)
    (unspent : (st.promises.getD p default).spent = false) :
    (awaited d (.handle (.promise p))).outcome st =
      (.ok (.handle (.source s)), st.putPromise p { promised := .source s, spent := true }) := by
  have hp : (promise p).outcome st = (.ok (st.promises.getD p default), st) := by
    rw [promise, bind_pure_comp, outcome_map]
    rfl
  have hs : (spend p).outcome st =
      (.ok (.source s), st.putPromise p { promised := .source s, spent := true }) := by
    simp only [spend, outcome_bind, hp, unspent, Bool.false_eq_true, if_false, outcome_pure,
      outcome_setPromise, h]
  simp only [awaited, keepPromise, outcome_bind, hs, outcome_pure]

theorem outcome_openSource (h : st.Reads i s) (unspent : st.Unspent i) :
    (openSource d i).outcome st = (.ok (.handle (.source s)), st.resolved i s) := by
  rw [openSource, outcome_bind_ok (outcome_cursor i st), Store.resolved]
  rcases h.native with hs | ⟨p, hp, promised⟩
  · simp only [hs, Value.isAwaitable, Bool.false_eq_true, if_false, outcome_pure]
  · simp only [hp, Value.isAwaitable, if_true, outcome_bind,
      outcome_awaited_promise promised (unspent p hp), outcome_cursor, outcome_setCursor,
      outcome_pure, Store.cursorAt_putPromise]
    rfl

theorem outcome_handleOfCursor (h : st.Reads i s) (unspent : st.Unspent i) :
    (handleOfCursor d (st.reader i) i).outcome st =
      (.ok (.handle (.source s)), st.resolved i s) := by
  rw [handleOfCursor, outcome_callOr_usual (h.functions "_handle" (by simp)),
    outcome_openSource h unspent]

theorem outcome_asksPlainly (h : st.Reads i s) {name : String} (hn : name ∈ ["next", "to_list"]) :
    (asksPlainly (.handle (.source s)) name).outcome st = (.ok true, st) := by
  rw [asksPlainly, outcome_bind_ok (outcome_get st), h.requests name hn, h.results]
  rfl

theorem deliver_alike {c c' : Cursor} (kind : c'.kind = c.kind) (hydrate : c'.hydrate = c.hydrate)
    (x : Value) : deliver d c' x = deliver d c x := by
  rw [deliver, deliver, kind, hydrate]

theorem outcome_delivered (h : st.Reads i s) {c : Cursor} {σ : Store}
    (kind : c.kind = (st.cursorAt i).kind) (hydrate : c.hydrate = (st.cursorAt i).hydrate)
    (hw : σ.setting = st.setting) (x : Value) :
    (delivered d (st.reader i) c x).outcome σ = (deliver d (st.cursorAt i) x).outcome σ := by
  have usual := h.hydrates
  rw [← Store.usual_congr hw, Store.hydrator, ← kind] at usual
  rw [delivered, outcome_callOr_usual usual, deliver_alike kind hydrate]

theorem deliverAll_alike {c c' : Cursor} (kind : c'.kind = c.kind) (hydrate : c'.hydrate = c.hydrate)
    (self : Value) (xs : List Value) : deliverAll d self c' xs = deliverAll d self c xs := by
  induction xs with
  | nil => rfl
  | cons x xs ih =>
    have first : delivered d self c' x = delivered d self c x := by
      rw [delivered, delivered, deliver_alike kind hydrate, kind]
    rw [deliverAll, deliverAll, first, ih]

theorem outcome_handleOfCursor_locked (h : st.Reads i s) (unspent : st.Unspent i) :
    (handleOfCursor d (st.reader i) i).outcome (st.locked i) =
      (.ok (.handle (.source s)), (st.locked i).resolved i s) := by
  obtain ⟨n, hc⟩ := h.cursorAt_locked
  have reader : (st.locked i).reader i = st.reader i := by rw [Store.reader, hc]; rfl
  rw [← reader]
  exact outcome_handleOfCursor h.locked (h.unspent_locked unspent)

/-- A call of `next` pulls the pair of cursor and source, and hydrates what that gives. -/
theorem outcome_next (h : st.Reads i s) (unspent : st.Unspent i) :
    (next d i).outcome st =
      if (st.cursorAt i).state = .exhausted then (.ok .null, st.locked i)
      else
        let pulled := (st.cursorAt i).pull (st.sourceAt s)
        let after := st.stepped i s pulled.1.1.state pulled.1.2
        match pulled.2 with
        | .error e => (.error e, after)
        | .ok (some v) => (deliver d (st.cursorAt i) v).outcome after
        | .ok none => (.ok .null, after.exhaustedBy (st.reader i)) := by
  obtain ⟨n, hc⟩ := h.cursorAt_locked
  have state : ((st.locked i).cursorAt i).state = (st.cursorAt i).state := by rw [hc]; rfl
  rw [next, outcome_bind_ok (outcome_cursor i st)]
  dsimp only
  rw [← Store.reader, outcome_bind_ok (outcome_takeLock h), outcome_bind_ok (outcome_cursor i _),
    state]
  obtain ⟨m, hr⟩ := h.cursorAt_ready
  have alike := Cursor.pull_alike (st.sourceAt s)
    (show (((st.locked i).resolved i s).cursorAt i).state = (st.cursorAt i).state by rw [hr]; rfl)
  cases hs : (st.cursorAt i).state with
  | exhausted => simp only [if_true, outcome_pure]
  | _ =>
    simp only [reduceCtorEq, if_false]
    rw [outcome_bind_ok (outcome_handleOfCursor_locked h unspent),
      outcome_bind_ok (outcome_cursor i _),
      outcome_bind_ok (outcome_asksPlainly h.locked.resolved (by simp))]
    simp only [outcome_bind_ok (outcome_source s _)]
    rw [Cursor.pull_moved, Store.sourceAt_ready, alike.1, alike.2.1, alike.2.2]
    rcases (st.cursorAt i).pull (st.sourceAt s) with ⟨⟨c, x⟩, _ | _ | v⟩ <;>
      simp only [outcome_bind, outcome_setCursor, outcome_setSource, outcome_ofExcept,
        noteExhausted, note, outcome_noteIn, outcome_pure]
    · rfl
    · rfl
    · exact outcome_delivered h (by rw [hr]; rfl) (by rw [hr]; rfl) (Store.setting_stepped ..) v

/-- A call of `collectAll` drains the pair of cursor and source, and hydrates what that gives. -/
theorem outcome_collectAll (h : st.Reads i s) (unspent : st.Unspent i) :
    (collectAll d i).outcome st =
      match (st.cursorAt i).state with
      | .exhausted => (.ok [], st.locked i)
      | .streaming => (.error (.partlyStreamed (st.classOf (st.reader i))), st.locked i)
      | .idle =>
        let drained := (st.cursorAt i).drain (st.sourceAt s)
        let after := st.stepped i s drained.1.1.state drained.1.2
        match drained.2 with
        | .error e => (.error e, after)
        | .ok vs =>
          (deliverAll d (st.reader i) (st.cursorAt i) vs).outcome
            (after.drainedBy (st.reader i) vs.length) := by
  obtain ⟨n, hc⟩ := h.cursorAt_locked
  have state : ((st.locked i).cursorAt i).state = (st.cursorAt i).state := by rw [hc]; rfl
  rw [collectAll, outcome_bind_ok (outcome_cursor i st)]
  dsimp only
  rw [← Store.reader, outcome_bind_ok (outcome_takeLock h), outcome_bind_ok (outcome_cursor i _),
    state]
  obtain ⟨m, hr⟩ := h.cursorAt_ready
  have alike := Cursor.drain_alike (st.sourceAt s)
    (show (((st.locked i).resolved i s).cursorAt i).state = (st.cursorAt i).state by rw [hr]; rfl)
    (show (((st.locked i).resolved i s).cursorAt i).kind = (st.cursorAt i).kind by rw [hr]; rfl)
  cases hs : (st.cursorAt i).state with
  | exhausted => simp only [outcome_pure]
  | streaming =>
    simp only [outcome_bind_ok (outcome_get _), outcome_throw,
      Store.classOf_congr (Store.setting_locked st i)]
  | idle =>
    simp only
    rw [outcome_bind_ok (outcome_handleOfCursor_locked h unspent),
      outcome_bind_ok (outcome_cursor i _),
      outcome_bind_ok (outcome_asksPlainly h.locked.resolved (by simp))]
    simp only [outcome_bind_ok (outcome_source s _)]
    rw [Cursor.drain_moved, Store.sourceAt_ready, alike.1, alike.2.1, alike.2.2]
    rcases (st.cursorAt i).drain (st.sourceAt s) with ⟨⟨c, x⟩, _ | vs⟩ <;>
      simp only [outcome_bind, outcome_setCursor, outcome_setSource, outcome_ofExcept, noteDrained,
        note, outcome_noteIn]
    · rfl
    · rw [deliverAll_alike (c := st.cursorAt i) (by rw [hr]; rfl) (by rw [hr]; rfl)]
      rfl

end Act

end DocMapper
