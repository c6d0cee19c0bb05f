import DocMapper.Proofs.Reading

/-!
The calls that read a cursor.  Each takes documents from the source as the pair of cursor and source
says, and answers with what they are hydrated to.
-/

namespace DocMapper

/-- A call that reads a cursor. -/
inductive Reading
  | next
  | collectAll
  | wait
  deriving DecidableEq, Repr

namespace Reading

def act (d : Dispatch) (i : Nat) : Reading → Act Value
  | next => Act.next d i
  | collectAll => .list <$> Act.collectAll d i
  | wait => do Act.wait d ((← get).reader i)

def take (r : Reading) (cls : ClassRef) (c : Cursor) (x : Source) :
    (Cursor × Source) × Except Fault (List Value) :=
  match r, c.state with
  | next, _ => ((c.pull x).1, (c.pull x).2.map Option.toList)
  | _, .streaming => ((c, x), .error (.partlyStreamed cls))
  | _, _ => c.drain x

def answer : Reading → List Value → Value
  | next, vs => vs.headD .null
  | _, vs => .list vs

/-- The state of a cursor lets a call go on to its source. -/
def Enters (r : Reading) (state : CursorState) : Prop :=
  state = .idle ∨ r = next ∧ state = .streaming

variable (r : Reading) (cls : ClassRef) {c : Cursor} {x : Source}

theorem not_enters_exhausted {r : Reading} (h : c.state = .exhausted) : ¬r.Enters c.state := by
  simp [Enters, h]

theorem not_enters_streaming {r : Reading} (h : c.state = .streaming) (hr : r ≠ .next) :
    ¬r.Enters c.state := by
  simp [Enters, h, hr]

theorem take_exhausted (h : c.state = .exhausted) : r.take cls c x = ((c, x), .ok []) := by
  cases r
  case next => rw [take, Cursor.pull_exhausted h]; rfl
  all_goals simp only [take, h, Cursor.drain_exhausted h]

theorem take_streaming (h : c.state = .streaming) (hr : r ≠ .next) :
    r.take cls c x = ((c, x), .error (.partlyStreamed cls)) := by
  cases r
  case next => exact absurd rfl hr
  all_goals simp only [take, h]

theorem take_subset {xs : List Value} (h : (r.take cls c x).2 = .ok xs) : xs ⊆ x.pending := by
  rcases c with ⟨kind, state, _⟩
  rcases x with ⟨_ | ⟨_ | _, _⟩, _ | _, _⟩ <;> cases r <;> cases state <;>
    cases h <;> simp [Option.toList]

theorem take_left_subset : (r.take cls c x).1.2.pending ⊆ x.pending := by
  rcases c with ⟨kind, state, _⟩
  rcases x with ⟨_ | ⟨_ | _, _⟩, _ | _, _⟩ <;> cases r <;> cases state <;>
    simp [take, Cursor.pull, Cursor.drain, Source.pull, Source.drain]

theorem take_failure : (r.take cls c x).1.2.failure = x.failure := by
  rcases c with ⟨kind, state, _⟩
  rcases x with ⟨_ | ⟨_ | _, _⟩, _ | _, _⟩ <;> cases r <;> cases state <;> rfl

theorem take_error {e : Fault} (h : (r.take cls c x).2 = .error e) :
    r ≠ .next ∧ e = .partlyStreamed cls ∨ x.failure = some e := by
  rcases c with ⟨kind, state, _⟩
  rcases x with ⟨_ | ⟨_ | _, _⟩, _ | _, _⟩ <;> cases r <;> cases state <;> cases h <;>
    first | exact .inr rfl | exact .inl ⟨by simp, rfl⟩

def taken (cls : ClassRef) (c : Cursor) (x : Source) : List Value :=
  (r.take cls c x).2.toOption.getD []

theorem take_split (docs : ∀ v ∈ x.pending, v ≠ .null) :
    r.taken cls c x ++ (r.take cls c x).1.2.pending = x.pending := by
  rcases c with ⟨kind, state, _⟩
  rcases x with ⟨_ | ⟨v, _⟩, _ | _, _⟩
  case cons.none =>
    have hv : v ≠ .null := docs v (by simp)
    cases r <;> cases state <;> cases v <;>
      simp_all [taken, take, Cursor.pull, Cursor.drain, Source.pull, Source.drain, Except.toOption,
        Except.map]
  all_goals cases r <;> cases state <;>
    simp [taken, take, Cursor.pull, Cursor.drain, Source.pull, Source.drain, Except.toOption,
      Except.map]

end Reading

namespace Act

def deliverEach (d : Dispatch) (c : Cursor) : List Value → Act (List Value)
  | [] => return []
  | x :: xs => do
    let y ← deliver d c x
    return y :: (← deliverEach d c xs)

theorem deliverEach_alike {d : Dispatch} {c c' : Cursor} (kind : c'.kind = c.kind)
    (hydrate : c'.hydrate = c.hydrate) (xs : List Value) :
    deliverEach d c' xs = deliverEach d c xs := by
  induction xs with
  | nil => rfl
  | cons x xs ih => rw [deliverEach, deliverEach, ih, deliver_alike kind hydrate]

/-- Hydrating these documents leaves cursors and sources alone, and which function a name reaches. -/
def Quiet (d : Dispatch) (c : Cursor) (w : Setting) (xs : List Value) : Prop :=
  ∀ x ∈ xs, ∀ st : Store, st.setting = w →
    ((deliver d c x).outcome st).2.setting = w ∧ ((deliver d c x).outcome st).2.desk = st.desk

namespace Quiet

variable {d : Dispatch} {c : Cursor} {w : Setting} {xs ys : List Value}

theorem subset (h : Quiet d c w xs) (hs : ys ⊆ xs) : Quiet d c w ys :=
  fun x hx => h x (hs hx)

theorem each (h : Quiet d c w xs) {st : Store} (hw : st.setting = w) :
    ((deliverEach d c xs).outcome st).2.setting = w ∧
      ((deliverEach d c xs).outcome st).2.desk = st.desk := by
  induction xs generalizing st with
  | nil => exact ⟨hw, rfl⟩
  | cons x xs ih =>
    have first := h x (by simp) st hw
    rw [deliverEach, outcome_bind]
    rcases hx : (deliver d c x).outcome st with ⟨_ | y, after⟩
    all_goals rw [hx] at first
    · exact first
    · have rest := ih (h.subset (by simp)) first.1
      simp only [bind_pure_comp, outcome_map]
      exact ⟨rest.1, rest.2.trans first.2⟩

end Quiet

theorem quiet_plain {d : Dispatch} {c : Cursor} {w : Setting} {xs : List Value}
    (h : c.kind.hydrates = false) : Quiet d c w xs := by
  intro x _ st hw
  rw [deliver, h]
  exact ⟨hw, rfl⟩

theorem outcome_deliverAll {d : Dispatch} {st σ : Store} {i s : Nat} {c : Cursor}
    {xs : List Value} (h : st.Reads i s) (kind : c.kind = (st.cursorAt i).kind)
    (hydrate : c.hydrate = (st.cursorAt i).hydrate)
    (quiet : Quiet d (st.cursorAt i) st.setting xs) (hw : σ.setting = st.setting) :
    (deliverAll d (st.reader i) c xs).outcome σ = (deliverEach d (st.cursorAt i) xs).outcome σ := by
  induction xs generalizing σ with
  | nil => rfl
  | cons x xs ih =>
    have first := quiet x (by simp) σ hw
    rw [deliverAll, deliverEach, outcome_bind, outcome_bind, outcome_delivered h kind hydrate hw]
    rcases hx : (deliver d (st.cursorAt i) x).outcome σ with ⟨_ | y, after⟩
    · rfl
    · rw [hx] at first
      simp only [bind_pure_comp, outcome_map]
      rw [ih (quiet.subset (by simp)) first.1]

theorem outcome_deliverEach_one (d : Dispatch) (c : Cursor) (x : Value) (st : Store) :
    ((deliverEach d c [x]).outcome st) =
      (((deliver d c x).outcome st).1.map fun y => [y], ((deliver d c x).outcome st).2) := by
  rw [deliverEach, outcome_bind]
  rcases (deliver d c x).outcome st with ⟨_ | y, after⟩ <;> rfl

end Act

namespace Store

/-- What reading a cursor leaves as it was. -/
structure Follows (st after : Store) (i s : Nat) : Prop where
  reads : after.Reads i s
  unspent : after.Unspent i
  setting : after.setting = st.setting
  kind : (after.cursorAt i).kind = (st.cursorAt i).kind
  hydrate : (after.cursorAt i).hydrate = (st.cursorAt i).hydrate
  native : (st.cursorAt i).source = .handle (.source s) →
    (after.cursorAt i).source = .handle (.source s)

section

variable {st after : Store} {i s : Nat}

theorem Reads.follows (h : st.Reads i s) (unspent : st.Unspent i) : st.Follows st i s :=
  ⟨h, unspent, rfl, rfl, rfl, id⟩

theorem Follows.trans {last : Store} (f : st.Follows after i s) (g : after.Follows last i s) :
    st.Follows last i s :=
  ⟨g.reads, g.unspent, g.setting.trans f.setting, g.kind.trans f.kind, g.hydrate.trans f.hydrate,
    fun h => g.native (f.native h)⟩

theorem locked_eq_self {n : Option Nat} {x : Shape} (h : (st.cursorAt i).lock = .object n x) :
    st.locked i = st := by
  rw [locked, h]

theorem Reads.locked_of_lock (h : st.Reads i s)
    (lock : (after.cursorAt i).lock = ((st.locked i).cursorAt i).lock) :
    after.locked i = after := by
  obtain ⟨n, hc⟩ := h.cursorAt_locked
  rw [hc] at lock
  exact locked_eq_self lock

theorem Reads.locked_locked (h : st.Reads i s) : (st.locked i).locked i = st.locked i :=
  h.locked_of_lock rfl

theorem Reads.follows_locked (h : st.Reads i s) (unspent : st.Unspent i) :
    st.Follows (st.locked i) i s := by
  obtain ⟨n, hc⟩ := h.cursorAt_locked
  refine ⟨h.locked, h.unspent_locked unspent, setting_locked st i, ?_, ?_, fun hs => ?_⟩
  · rw [hc]
    rfl
  · rw [hc]
    rfl
  · rw [hc]
    exact hs

theorem Follows.quiet {d : Dispatch} {xs ys : List Value} (f : st.Follows after i s)
    (h : Act.Quiet d (st.cursorAt i) st.setting xs) (hs : ys ⊆ xs) :
    Act.Quiet d (after.cursorAt i) after.setting ys := by
  intro x hx σ hσ
  rw [Act.deliver_alike f.kind f.hydrate, f.setting]
  exact h x (hs hx) σ (hσ.trans f.setting)

/-- A cursor that nobody waits for, over documents that are hydrated without touching cursors. -/
structure Serves (st : Store) (d : Dispatch) (i s : Nat) : Prop where
  reads : st.Reads i s
  unspent : st.Unspent i
  quiet : Act.Quiet d (st.cursorAt i) st.setting (st.sourceAt s).pending

theorem Reads.cursorAt_stepped (h : st.Reads i s) (state : CursorState) (x : Source) :
    (st.stepped i s state x).cursorAt i = (((st.locked i).resolved i s).cursorAt i).moved state := by
  have present : i < ((st.locked i).resolved i s).cursors.size := by
    simpa only [size_resolved, size_locked] using h.cursor_lt
  rw [stepped, cursorAt_putSource, cursorAt_putCursor present]

theorem Reads.sourceAt_stepped (h : st.Reads i s) (state : CursorState) (x : Source) :
    (st.stepped i s state x).sourceAt s = x := by
  have present : s < ((st.locked i).resolved i s).sources.size := by
    simpa only [sources_resolved, sources_locked] using h.source_lt
  rw [stepped, sourceAt_putSource (by rw [sources_putCursor]; exact present)]

theorem Reads.of_stepped (h : st.Reads i s) {state : CursorState} {x : Source}
    (setting : after.setting = st.setting) (desk : after.desk = (st.stepped i s state x).desk) :
    st.Follows after i s ∧ (after.cursorAt i).state = state ∧ after.sourceAt s = x ∧
      (after.cursorAt i).lock = ((st.locked i).cursorAt i).lock ∧
      (after.cursorAt i).source = .handle (.source s) := by
  obtain ⟨n, hc⟩ := h.cursorAt_locked
  have cursor := (cursorAt_congr desk i).trans (h.cursorAt_stepped state x)
  rw [h.locked.cursorAt_resolved, hc] at cursor
  have source := (sourceAt_congr desk s).trans (h.sourceAt_stepped state x)
  simp only [Store.desk, Desk.mk.injEq] at desk
  have reads : after.Reads i s := by
    refine h.of_alike setting ?_ ?_ ?_ ?_ ?_
    · rw [desk.1]
      simp [stepped]
    · rw [desk.2.1]
      simp [stepped]
    · rw [cursor]
      rfl
    · exact .inr ⟨n, by rw [cursor]; rfl⟩
    · exact .inl (by rw [cursor]; rfl)
  have unspent : after.Unspent i := by
    intro p hp
    rw [cursor] at hp
    exact absurd hp (by simp [Cursor.moved, Cursor.onto])
  have native : (after.cursorAt i).source = .handle (.source s) := by
    rw [cursor]
    rfl
  refine ⟨⟨reads, unspent, setting, ?_, ?_, fun _ => native⟩, ?_, source, ?_, native⟩
  · rw [cursor]
    rfl
  · rw [cursor]
    rfl
  · rw [cursor]
    rfl
  · rw [cursor, hc]
    rfl

end

end Store

namespace Reading

/-- What a call answers that found these documents, hydrated from a store on, and what it leaves. -/
def Hydrates (r : Reading) (d : Dispatch) (c : Cursor) (st : Store)
    (found : Except Fault (List Value)) (result : Except Fault Value) (after : Store) : Prop :=
  match found with
  | .error e => result = .error e ∧ after.beyond = st.beyond
  | .ok xs =>
    result = ((Act.deliverEach d c xs).outcome st).1.map r.answer ∧
      after.beyond = ((Act.deliverEach d c xs).outcome st).2.beyond

/-- How a call ends.  The pair of cursor and source moved, and the documents that this took were
hydrated. -/
structure Ends (r : Reading) (d : Dispatch) (i s : Nat) (st : Store) (result : Except Fault Value)
    (after : Store) : Prop where
  answers : ∃ σ : Store, σ.beyond = st.beyond ∧ r.Hydrates d (st.cursorAt i) σ
    (r.take (st.classOf (st.reader i)) (st.cursorAt i) (st.sourceAt s)).2 result after
  follows : st.Follows after i s
  state : (after.cursorAt i).state =
    (r.take (st.classOf (st.reader i)) (st.cursorAt i) (st.sourceAt s)).1.1.state
  source : after.sourceAt s =
    (r.take (st.classOf (st.reader i)) (st.cursorAt i) (st.sourceAt s)).1.2
  lock : (after.cursorAt i).lock = ((st.locked i).cursorAt i).lock
  native : r.Enters (st.cursorAt i).state → (after.cursorAt i).source = .handle (.source s)

variable {d : Dispatch} {st : Store} {i s : Nat} {r : Reading}

theorem ends_locked (h : st.Reads i s) (unspent : st.Unspent i)
    (closed : ¬r.Enters (st.cursorAt i).state) {found : Except Fault (List Value)}
    (still : r.take (st.classOf (st.reader i)) (st.cursorAt i) (st.sourceAt s) =
      ((st.cursorAt i, st.sourceAt s), found))
    {result : Except Fault Value}
    (answers : r.Hydrates d (st.cursorAt i) st found result (st.locked i)) :
    r.Ends d i s st result (st.locked i) := by
  obtain ⟨n, hc⟩ := h.cursorAt_locked
  refine ⟨⟨st, rfl, ?_⟩, h.follows_locked unspent, ?_, ?_, rfl, fun he => absurd he closed⟩
  · rw [still]
    exact answers
  · rw [still, hc]
    rfl
  · rw [still]
    simp only [Store.sourceAt, Store.sources_locked]

/-- A call that takes something moves the pair, and may do more that leaves it alone. -/
theorem ends_stepped (h : st.Reads i s) {c : Cursor} {x : Source}
    {found : Except Fault (List Value)}
    (moved : r.take (st.classOf (st.reader i)) (st.cursorAt i) (st.sourceAt s) = ((c, x), found))
    {result : Except Fault Value} {after σ : Store} (beyond : σ.beyond = st.beyond)
    (answers : r.Hydrates d (st.cursorAt i) σ found result after)
    (setting : after.setting = st.setting) (desk : after.desk = (st.stepped i s c.state x).desk) :
    r.Ends d i s st result after := by
  obtain ⟨follows, state, source, lock, native⟩ := h.of_stepped setting desk
  refine ⟨⟨σ, beyond, ?_⟩, follows, ?_, ?_, lock, fun _ => native⟩ <;> rw [moved]
  · exact answers
  · exact state
  · exact source

theorem ends_next (h : st.Reads i s) (unspent : st.Unspent i)
    (quiet : Act.Quiet d (st.cursorAt i) st.setting (st.sourceAt s).pending) :
    next.Ends d i s st ((Act.next d i).outcome st).1 ((Act.next d i).outcome st).2 := by
  rw [Act.outcome_next h unspent]
  by_cases ended : (st.cursorAt i).state = .exhausted
  · rw [if_pos ended]
    exact ends_locked h unspent (not_enters_exhausted ended) (take_exhausted _ _ ended)
      ⟨rfl, Store.beyond_locked ..⟩
  rw [if_neg ended]
  dsimp only
  rcases hp : (st.cursorAt i).pull (st.sourceAt s) with ⟨⟨c, x⟩, e | _ | v⟩
  · have found : next.take (st.classOf (st.reader i)) (st.cursorAt i) (st.sourceAt s) =
        ((c, x), .error e) := by
      rw [take, hp]
      rfl
    exact ends_stepped h found (Store.beyond_stepped ..) ⟨rfl, rfl⟩ (Store.setting_stepped ..) rfl
  · have found : next.take (st.classOf (st.reader i)) (st.cursorAt i) (st.sourceAt s) =
        ((c, x), .ok []) := by
      rw [take, hp]
      rfl
    refine ends_stepped h found (Store.beyond_stepped ..) ⟨rfl, Store.beyond_noted ..⟩ ?_ ?_
    all_goals simp only [Store.exhaustedBy, Store.setting_noted, Store.desk_noted]
    exact Store.setting_stepped ..
  · have found : next.take (st.classOf (st.reader i)) (st.cursorAt i) (st.sourceAt s) =
        ((c, x), .ok [v]) := by
      rw [take, hp]
      rfl
    have member : v ∈ (st.sourceAt s).pending := take_subset .next _ (by rw [found]) (by simp)
    have left := quiet v member _ (Store.setting_stepped st i s c.state x)
    refine ends_stepped h found (Store.beyond_stepped st i s c.state x) ?_ left.1 left.2
    rw [Hydrates, Act.outcome_deliverEach_one]
    refine ⟨?_, rfl⟩
    rcases ((Act.deliver d (st.cursorAt i) v).outcome (st.stepped i s c.state x)).1 with _ | _ <;> rfl

theorem ends_collectAll (h : st.Reads i s) (unspent : st.Unspent i) (hr : r ≠ .next)
    (quiet : Act.Quiet d (st.cursorAt i) st.setting (st.sourceAt s).pending) :
    r.Ends d i s st (((Act.collectAll d i).outcome st).1.map .list)
      ((Act.collectAll d i).outcome st).2 := by
  have answer : r.answer = .list := by
    cases r
    case next => exact absurd rfl hr
    all_goals rfl
  rw [Act.outcome_collectAll h unspent]
  cases hs : (st.cursorAt i).state with
  | exhausted =>
    refine ends_locked h unspent (not_enters_exhausted hs) (take_exhausted _ _ hs) ⟨?_, ?_⟩
    · rw [answer]
      rfl
    · exact Store.beyond_locked ..
  | streaming =>
    exact ends_locked h unspent (not_enters_streaming hs hr) (take_streaming _ _ hs hr)
      ⟨rfl, Store.beyond_locked ..⟩
  | idle =>
    have take : r.take (st.classOf (st.reader i)) (st.cursorAt i) (st.sourceAt s) =
        (st.cursorAt i).drain (st.sourceAt s) := by
      cases r
      case next => exact absurd rfl hr
      all_goals simp only [Reading.take, hs]
    dsimp only
    rcases hp : (st.cursorAt i).drain (st.sourceAt s) with ⟨⟨c, x⟩, e | vs⟩
    · exact ends_stepped h (take.trans hp) (Store.beyond_stepped ..) ⟨rfl, rfl⟩
        (Store.setting_stepped ..) rfl
    · have found := take.trans hp
      have quiet := quiet.subset (take_subset r _ (by rw [found]))
      have beyond : ((st.stepped i s c.state x).drainedBy (st.reader i) vs.length).beyond =
          st.beyond := by
        simp only [Store.drainedBy, Store.beyond_noted, Store.beyond_stepped]
      have hw := Store.setting_of_beyond beyond
      have left := quiet.each hw
      dsimp only
      rw [Act.outcome_deliverAll h rfl rfl quiet hw]
      refine ends_stepped h found beyond ⟨by rw [answer], rfl⟩ left.1 (left.2.trans ?_)
      simp only [Store.drainedBy, Store.desk_noted]

theorem outcome_wait (h : st.Reads i s) :
    (wait.act d i).outcome st = (collectAll.act d i).outcome st := by
  have usual := h.functions "collect_all" (by simp)
  rw [Store.reader] at usual
  simp only [act, Store.reader, Act.wait, Act.collected, Act.outcome_bind_ok (Act.outcome_get st),
    usual, if_true, bind_pure_comp]

theorem outcome_exhausted (h : st.Reads i s) (unspent : st.Unspent i)
    (ended : (st.cursorAt i).state = .exhausted) :
    (r.act d i).outcome st = (.ok (r.answer []), st.locked i) := by
  have all : (collectAll.act d i).outcome st = (.ok (.list []), st.locked i) := by
    rw [act, Act.outcome_map, Act.outcome_collectAll h unspent, ended]
    rfl
  cases r with
  | next =>
    rw [act, Act.outcome_next h unspent, if_pos ended]
    rfl
  | collectAll => exact all
  | wait => exact (outcome_wait h).trans all

theorem outcome_refused (h : st.Reads i s) (unspent : st.Unspent i) (hr : r ≠ .next)
    (started : (st.cursorAt i).state = .streaming) :
    (r.act d i).outcome st = (.error (.partlyStreamed (st.classOf (st.reader i))), st.locked i) := by
  have all : (collectAll.act d i).outcome st =
      (.error (.partlyStreamed (st.classOf (st.reader i))), st.locked i) := by
    rw [act, Act.outcome_map, Act.outcome_collectAll h unspent, started]
    rfl
  cases r with
  | next => exact absurd rfl hr
  | collectAll => exact all
  | wait => exact (outcome_wait h).trans all

/-- Every call moves the pair of cursor and source as it says, and answers with what it took. -/
theorem ends_act (h : st.Serves d i s) :
    r.Ends d i s st ((r.act d i).outcome st).1 ((r.act d i).outcome st).2 := by
  obtain ⟨reads, unspent, quiet⟩ := h
  cases r with
  | next => exact ends_next reads unspent quiet
  | collectAll =>
    rw [act, Act.outcome_map]
    exact ends_collectAll reads unspent (by decide) quiet
  | wait =>
    rw [outcome_wait reads, act, Act.outcome_map]
    exact ends_collectAll reads unspent (by decide) quiet

/-- What a call answers that took these documents: what they are hydrated to, or why it took none. -/
def Answers (r : Reading) (d : Dispatch) (i s : Nat) (st : Store) (xs : List Value)
    (result : Except Fault Value) : Prop :=
  (∃ σ : Store, σ.setting = st.setting ∧
    result = ((Act.deliverEach d (st.cursorAt i) xs).outcome σ).1.map r.answer) ∨
  xs = [] ∧ ∃ e, result = .error e ∧
    (r ≠ .next ∧ e = .partlyStreamed (st.classOf (st.reader i)) ∨ (st.sourceAt s).failure = some e)

theorem Ends.taken_answers {result : Except Fault Value} {after : Store}
    (e : r.Ends d i s st result after) :
    r.Answers d i s st (r.taken (st.classOf (st.reader i)) (st.cursorAt i) (st.sourceAt s)) result := by
  obtain ⟨σ, beyond, answers⟩ := e.answers
  rcases ht : (r.take (st.classOf (st.reader i)) (st.cursorAt i) (st.sourceAt s)).2 with f | xs
  all_goals rw [ht] at answers
  · refine .inr ⟨?_, f, answers.1, take_error r _ ht⟩
    rw [taken, ht]
    rfl
  · refine .inl ⟨σ, Store.setting_of_beyond beyond, ?_⟩
    rw [taken, ht]
    exact answers.1

theorem Answers.follows {before : Store} {xs : List Value} {result : Except Fault Value}
    (f : before.Follows st i s) (failure : (st.sourceAt s).failure = (before.sourceAt s).failure)
    (h : r.Answers d i s st xs result) : r.Answers d i s before xs result := by
  have reader : st.reader i = before.reader i := by rw [Store.reader, f.kind, Store.reader]
  rw [Answers, Act.deliverEach_alike f.kind f.hydrate, f.setting, reader,
    Store.classOf_congr f.setting, failure] at h
  exact h

theorem Ends.serves {result : Except Fault Value} {after : Store} (h : st.Serves d i s)
    (e : r.Ends d i s st result after) : after.Serves d i s := by
  refine ⟨e.follows.reads, e.follows.unspent, e.follows.quiet h.quiet ?_⟩
  rw [e.source]
  exact take_left_subset ..

end Reading

def Store.promisedPair : Store where
  cursors := #[{ kind := .aggregate, source := .handle (.promise 0) }]
  sources := #[{ pending := [.dict [(.str "n", .int 1)], .dict [(.str "n", .int 2)]] }]
  promises := #[{ promised := .source 0 }]

theorem Store.reads_promisedPair : promisedPair.Reads 0 0 where
  cursor_lt := by decide
  source_lt := by decide
  lock := .inl rfl
  native := .inr ⟨0, rfl, rfl⟩
  functions := by decide +kernel
  hydrates := by decide +kernel
  requests := by decide +kernel
  results := rfl

theorem Store.serves_promisedPair (d : Dispatch) : promisedPair.Serves d 0 0 :=
  ⟨reads_promisedPair, fun p hp => by cases hp; rfl, Act.quiet_plain rfl⟩

end DocMapper
