import DocMapper.Proofs.Calls

/-!
Where a call that reads a cursor stops: it waits for the lock, and then, with the lock, for the
promise of the source and for the source.  From stop to stop it does what the whole call does.
-/

namespace DocMapper

/-- Where a call stops while it has the lock. -/
inductive Point
  | awaiting (native : Value)
  | resolving (source : Value)
  | asking (native : Value)
  | answered (found : Except Fault (List Value))

inductive Stage
  | ready
  | waiting (lock : Value)
  | inside (lock : Value) (point : Point)
  | finished (result : Except Fault Value)

def Stage.rank : Stage → Nat
  | ready => 6
  | waiting _ => 5
  | inside _ (.awaiting _) => 4
  | inside _ (.resolving _) => 3
  | inside _ (.asking _) => 2
  | inside _ (.answered _) => 1
  | finished _ => 0

namespace Reading

def ask (r : Reading) (x : Source) : Source × Except Fault (List Value) :=
  match r with
  | next => (x.pull.1, x.pull.2.map Option.toList)
  | _ => x.drain

/-- Asks what a cursor reads from; only sources answer. -/
def request (r : Reading) (native : Value) : Act (Except Fault (List Value)) := do
  match native with
  | .handle (.source s) =>
    let (after, found) := r.ask (← Act.source s)
    Act.setSource s after
    return found
  | native => throw (native.lacks "next")

/-- What a call does once its source has answered. -/
def settle (d : Dispatch) (i : Nat) (r : Reading) (vs : List Value) : Act Value := do
  let c ← Act.cursor i
  let self := Value.handle (.cursor c.kind i)
  match r, vs with
  | next, [] | next, .null :: _ =>
    Act.setCursor i (c.moved .exhausted)
    Act.noteExhausted self
    return .null
  | next, v :: _ =>
    Act.setCursor i (c.moved .streaming)
    Act.delivered d self c v
  | _, vs =>
    Act.setCursor i (c.moved .exhausted)
    Act.noteDrained self vs.length
    return .list (← Act.deliverAll d self c vs)

/-- What a call does once it has the lock of a cursor. -/
def enter (i : Nat) (r : Reading) (lock : Value) (c : Cursor) : Act Stage := do
  match r, c.state with
  | _, .exhausted => return .finished (.ok (r.answer []))
  | collectAll, .streaming | wait, .streaming =>
    throw (.partlyStreamed ((← get).classOf (.handle (.cursor c.kind i))))
  | _, _ =>
    return .inside lock (if c.source.isAwaitable then .awaiting c.source else .asking c.source)

/-- How a call goes on from one stop to the next. -/
def move (d : Dispatch) (i : Nat) (r : Reading) : Stage → Act Stage
  | .ready => return .waiting (← Act.lockOf i)
  | .waiting lock => do r.enter i lock (← Act.cursor i)
  | .inside lock (.awaiting native) => return .inside lock (.resolving (← Act.awaited d native))
  | .inside lock (.resolving source) => do
    Act.setCursor i ((← Act.cursor i).onto source)
    return .inside lock (.asking source)
  | .inside lock (.asking native) => return .inside lock (.answered (← r.request native))
  | .inside _ (.answered found) => do
    return .finished (.ok (← r.settle d i (← Act.ofExcept found)))
  | .finished result => return .finished result

/-- Where a call stands after it went on; it is finished by what it raises. -/
def moved (d : Dispatch) (i : Nat) (r : Reading) (g : Stage) (st : Store) : Stage × Store :=
  match (r.move d i g).outcome st with
  | (.ok g, after) => (g, after)
  | (.error e, after) => (.finished (.error e), after)

/-- A call in progress that began in a store: where it stops, and the store at that time. -/
inductive Midway (r : Reading) (i s : Nat) (st : Store) : Point → Store → Prop
  | awaiting {p : Nat} (native : (st.cursorAt i).source = .handle (.promise p)) :
      r.Midway i s st (.awaiting (.handle (.promise p))) (st.locked i)
  | resolving {p : Nat} (native : (st.cursorAt i).source = .handle (.promise p)) :
      r.Midway i s st (.resolving (.handle (.source s)))
        ((st.locked i).putPromise p { promised := .source s, spent := true })
  | asking : r.Midway i s st (.asking (.handle (.source s))) ((st.locked i).resolved i s)
  | answered : r.Midway i s st (.answered (r.ask (st.sourceAt s)).2)
      (((st.locked i).resolved i s).putSource s (r.ask (st.sourceAt s)).1)

section

variable {d : Dispatch} {r : Reading} {st σ : Store} {i s : Nat} {p : Point} {lock : Value}

theorem moved_eq_of_ok {g g' : Stage} {after : Store}
    (h : (r.move d i g).outcome st = (.ok g', after)) :
    r.moved d i g st = (g', after) := by
  rw [moved, h]

theorem moved_eq_of_error {g : Stage} {e : Fault} {after : Store}
    (h : (r.move d i g).outcome st = (.error e, after)) :
    r.moved d i g st = (.finished (.error e), after) := by
  rw [moved, h]

theorem rank_move {g g' : Stage} {after : Store} (unfinished : ∀ x, g ≠ .finished x)
    (h : (r.move d i g).outcome st = (.ok g', after)) : g'.rank < g.rank := by
  cases g with
  | ready =>
    obtain ⟨lock, mid, -, h⟩ := Act.outcome_bind_eq_ok h
    cases h
    simp [Stage.rank]
  | waiting lock =>
    obtain ⟨c, mid, -, h⟩ := Act.outcome_bind_eq_ok h
    unfold enter at h
    split at h
    · cases h
      simp [Stage.rank]
    · cases h
    · cases h
    · cases h
      split <;> simp [Stage.rank]
  | inside lock p =>
    cases p with
    | awaiting native =>
      obtain ⟨source, mid, -, h⟩ := Act.outcome_bind_eq_ok h
      cases h
      simp [Stage.rank]
    | resolving source =>
      obtain ⟨c, mid, -, h⟩ := Act.outcome_bind_eq_ok h
      cases h
      simp [Stage.rank]
    | asking native =>
      obtain ⟨found, mid, -, h⟩ := Act.outcome_bind_eq_ok h
      cases h
      simp [Stage.rank]
    | answered found =>
      obtain ⟨vs, mid, -, h⟩ := Act.outcome_bind_eq_ok h
      obtain ⟨v, last, -, h⟩ := Act.outcome_bind_eq_ok h
      cases h
      exact Nat.zero_lt_one
  | finished x => exact absurd rfl (unfinished x)

theorem rank_moved {g : Stage} (unfinished : ∀ x, g ≠ .finished x) :
    (r.moved d i g st).1.rank < g.rank := by
  rw [moved]
  rcases h : (r.move d i g).outcome st with ⟨e | g', after⟩
  · cases g with
    | ready => exact Nat.zero_lt_succ _
    | waiting lock => exact Nat.zero_lt_succ _
    | inside lock p => cases p <;> exact Nat.zero_lt_succ _
    | finished x => exact absurd rfl (unfinished x)
  · exact rank_move unfinished h

theorem moved_ready (h : st.Reads i s) :
    r.moved d i .ready st = (.waiting ((st.locked i).cursorAt i).lock, st.locked i) := by
  apply moved_eq_of_ok
  rw [move, Act.outcome_bind_ok (Act.outcome_lockOf h), Act.outcome_pure]

theorem cursorAt_locked_eq (h : st.Reads i s) :
    ((st.locked i).cursorAt i).state = (st.cursorAt i).state ∧
      ((st.locked i).cursorAt i).kind = (st.cursorAt i).kind ∧
      ((st.locked i).cursorAt i).source = (st.cursorAt i).source := by
  obtain ⟨n, hc⟩ := h.cursorAt_locked
  rw [hc]
  exact ⟨rfl, rfl, rfl⟩

theorem resolved_eq_self (h : (st.cursorAt i).source = .handle (.source s)) :
    st.resolved i s = st := by
  rw [Store.resolved, h]

theorem midway_entered (h : st.Reads i s) :
    r.Midway i s st
      (if ((st.locked i).cursorAt i).source.isAwaitable then
        .awaiting ((st.locked i).cursorAt i).source
      else .asking ((st.locked i).cursorAt i).source)
      (st.locked i) := by
  rw [(cursorAt_locked_eq h).2.2]
  rcases h.native with hs | ⟨p, hp, -⟩
  · have here := resolved_eq_self ((cursorAt_locked_eq h).2.2.trans hs)
    have there : r.Midway i s st (.asking (.handle (.source s))) ((st.locked i).resolved i s) :=
      .asking
    rw [here] at there
    rw [hs]
    exact there
  · rw [hp]
    exact .awaiting hp

/-- Once it has the lock a call ends at once, or it goes on to what the cursor reads from. -/
theorem moved_waiting (lock : Value) (h : st.Reads i s) (unspent : st.Unspent i) :
    r.moved d i (.waiting lock) (st.locked i) =
        (.finished ((r.act d i).outcome st).1, ((r.act d i).outcome st).2) ∨
      r.Enters (st.cursorAt i).state ∧ ∃ p,
        r.moved d i (.waiting lock) (st.locked i) = (.inside lock p, st.locked i) ∧
          r.Midway i s st p (st.locked i) := by
  obtain ⟨state, kind, -⟩ := cursorAt_locked_eq h
  have started : (r.move d i (.waiting lock)).outcome (st.locked i) =
      (r.enter i lock ((st.locked i).cursorAt i)).outcome (st.locked i) := by
    rw [move, Act.outcome_bind_ok (Act.outcome_cursor i _)]
  unfold enter at started
  rw [state] at started
  cases hs : (st.cursorAt i).state with
  | exhausted =>
    left
    rw [hs] at started
    rw [outcome_exhausted h unspent hs]
    exact moved_eq_of_ok started
  | idle =>
    refine .inr ⟨.inl rfl, _, moved_eq_of_ok ?_, midway_entered h⟩
    rw [started, hs]
    cases r <;> rfl
  | streaming =>
    by_cases hr : r = next
    · refine .inr ⟨.inr ⟨hr, rfl⟩, _, moved_eq_of_ok ?_, midway_entered h⟩
      rw [started, hs, hr]
      rfl
    · left
      rw [outcome_refused h unspent hr hs]
      apply moved_eq_of_error
      rw [started, hs, ← Store.classOf_congr (Store.setting_locked st i), Store.reader, ← kind]
      cases r
      case next => exact absurd rfl hr
      all_goals rfl

theorem Midway.same_lock (h : st.Reads i s) (m : r.Midway i s st p σ) :
    (σ.cursorAt i).lock = ((st.locked i).cursorAt i).lock := by
  have ready : (((st.locked i).resolved i s).cursorAt i).lock = ((st.locked i).cursorAt i).lock := by
    rw [h.locked.cursorAt_resolved]
    rfl
  cases m with
  | awaiting native => rfl
  | resolving native => rfl
  | asking => exact ready
  | answered => exact ready

/-- Past the wait for the promise, the cursor reads from the source, or is about to. -/
theorem Midway.opened (h : st.Reads i s) (m : r.Midway i s st p σ)
    (hp : ∀ native, p ≠ .awaiting native) :
    (σ.cursorAt i).source = .handle (.source s) ∨ ∃ v, p = .resolving v := by
  have ready : (((st.locked i).resolved i s).cursorAt i).source = .handle (.source s) := by
    rw [h.locked.cursorAt_resolved]
    rfl
  cases m with
  | awaiting native => exact absurd rfl (hp _)
  | resolving native => exact .inr ⟨_, rfl⟩
  | asking => exact .inl ready
  | answered => exact .inl ready

theorem Midway.unopened (h : st.Reads i s) {native : Value}
    (m : r.Midway i s st (.awaiting native) σ) : (σ.cursorAt i).source ≠ .handle (.source s) := by
  cases m with
  | awaiting native =>
    rw [(cursorAt_locked_eq h).2.2, native]
    simp

theorem putCursor_cursorAt (st : Store) (i : Nat) : st.putCursor i (st.cursorAt i) = st := by
  have same : st.cursors.setIfInBounds i (st.cursors.getD i default) = st.cursors := by
    by_cases h : i < st.cursors.size
    · simp only [Array.setIfInBounds, Array.getD, h, dif_pos, Array.getInternal_eq_getElem,
        Array.set_getElem_self]
    · simp only [Array.setIfInBounds, h, dif_neg, not_false_eq_true]
  rw [Store.putCursor, Store.cursorAt, same]

theorem stepped_same (h : st.Reads i s) (x : Source) :
    st.stepped i s (st.cursorAt i).state x = ((st.locked i).resolved i s).putSource s x := by
  obtain ⟨n, hc⟩ := h.cursorAt_ready
  have still : (((st.locked i).resolved i s).cursorAt i).moved (st.cursorAt i).state =
      ((st.locked i).resolved i s).cursorAt i := by
    rw [hc]
    rfl
  rw [Store.stepped, still, putCursor_cursorAt]

theorem settle_one {v : Value} (hv : v ≠ .null) :
    next.settle d i [v] =
      (do
        let c ← Act.cursor i
        Act.setCursor i (c.moved .streaming)
        Act.delivered d (.handle (.cursor c.kind i)) c v) := by
  cases v
  case null => exact absurd rfl hv
  all_goals rfl

theorem outcome_settle_next (h : st.Reads i s) (unspent : st.Unspent i)
    (before : (st.cursorAt i).state ≠ .exhausted) :
    (do next.settle d i (← Act.ofExcept (next.ask (st.sourceAt s)).2) : Act Value).outcome
        (((st.locked i).resolved i s).putSource s (next.ask (st.sourceAt s)).1) =
      (Act.next d i).outcome st := by
  obtain ⟨n, hc⟩ := h.cursorAt_ready
  have self : Value.handle (.cursor (((st.locked i).resolved i s).cursorAt i).kind i) =
      st.reader i := by
    rw [hc]
    rfl
  rw [Act.outcome_next h unspent, if_neg before, ask]
  rcases hx : (st.sourceAt s).pull with ⟨x, e | _ | v⟩
  · simp only [Cursor.pull_open before, hx, stepped_same h]
    rfl
  · simp only [Cursor.pull_open before, hx, Except.map, Option.toList, Act.ofExcept, pure_bind,
      settle]
    rw [Act.outcome_bind_ok (Act.outcome_cursor i _)]
    simp only [Store.cursorAt_putSource, self, Act.noteExhausted, Act.note, Act.outcome_bind,
      Act.outcome_setCursor, Act.outcome_noteIn, Act.outcome_pure]
    rfl
  · by_cases hv : v = .null
    · subst hv
      simp only [Cursor.pull_open before, hx, Except.map, Option.toList, Act.ofExcept, pure_bind,
        settle]
      rw [Act.outcome_bind_ok (Act.outcome_cursor i _)]
      simp only [Store.cursorAt_putSource, self, Act.noteExhausted, Act.note, Act.outcome_bind,
        Act.outcome_setCursor, Act.outcome_noteIn, Act.outcome_pure]
      rfl
    · simp only [Cursor.pull_some before hx hv, Except.map, Option.toList, Act.ofExcept, pure_bind,
        settle_one hv]
      rw [Act.outcome_bind_ok (Act.outcome_cursor i _)]
      simp only [Store.cursorAt_putSource, self, Act.outcome_bind, Act.outcome_setCursor]
      exact Act.outcome_delivered h (by rw [hc]; rfl) (by rw [hc]; rfl)
        (Store.setting_stepped st i s .streaming x) v

theorem outcome_settle_all (h : st.Reads i s) (unspent : st.Unspent i) (hr : r ≠ next)
    (idle : (st.cursorAt i).state = .idle) :
    (do r.settle d i (← Act.ofExcept (r.ask (st.sourceAt s)).2) : Act Value).outcome
        (((st.locked i).resolved i s).putSource s (r.ask (st.sourceAt s)).1) =
      (.list <$> Act.collectAll d i : Act Value).outcome st := by
  obtain ⟨n, hc⟩ := h.cursorAt_ready
  have self : Value.handle (.cursor (((st.locked i).resolved i s).cursorAt i).kind i) =
      st.reader i := by
    rw [hc]
    rfl
  have ask : r.ask (st.sourceAt s) = (st.sourceAt s).drain := by
    cases r
    case next => exact absurd rfl hr
    all_goals rfl
  have settle : ∀ vs, r.settle d i vs = collectAll.settle d i vs := by
    cases r
    case next => exact absurd rfl hr
    all_goals exact fun _ => rfl
  rw [Act.outcome_map, Act.outcome_collectAll h unspent, idle, ask, Cursor.drain_idle idle]
  simp only [settle]
  rcases (st.sourceAt s).drain with ⟨x, e | vs⟩
  · simp only [stepped_same h]
    rfl
  · have alike : Act.deliverAll d (st.reader i) (((st.locked i).resolved i s).cursorAt i) vs =
        Act.deliverAll d (st.reader i) (st.cursorAt i) vs :=
      Act.deliverAll_alike (by rw [hc]; rfl) (by rw [hc]; rfl) ..
    simp only [Act.ofExcept, pure_bind, Reading.settle]
    rw [Act.outcome_bind_ok (Act.outcome_cursor i _)]
    simp only [Store.cursorAt_putSource, self, alike, Act.noteDrained, Act.note, Act.outcome_bind,
      Act.outcome_setCursor, Act.outcome_noteIn, bind_pure_comp, Act.outcome_map]
    rfl

/-- Having asked the source, a call ends as the whole call does. -/
theorem outcome_settle (h : st.Reads i s) (unspent : st.Unspent i)
    (enters : r.Enters (st.cursorAt i).state) :
    (do r.settle d i (← Act.ofExcept (r.ask (st.sourceAt s)).2) : Act Value).outcome
        (((st.locked i).resolved i s).putSource s (r.ask (st.sourceAt s)).1) =
      (r.act d i).outcome st := by
  by_cases hr : r = next
  · subst hr
    refine outcome_settle_next h unspent ?_
    rcases enters with hs | ⟨-, hs⟩ <;> rw [hs] <;> simp
  · have idle : (st.cursorAt i).state = .idle := enters.resolve_right fun he => hr he.1
    rw [outcome_settle_all h unspent hr idle]
    cases r with
    | next => exact absurd rfl hr
    | collectAll => rfl
    | wait => exact (outcome_wait h).symm

/-- With the lock a call goes on to its next stop, and ends as the whole call does after the last. -/
theorem moved_inside (lock : Value) (h : st.Reads i s) (unspent : st.Unspent i)
    (enters : r.Enters (st.cursorAt i).state) (m : r.Midway i s st p σ) :
    (∃ found, p = .answered found) ∧
        r.moved d i (.inside lock p) σ =
          (.finished ((r.act d i).outcome st).1, ((r.act d i).outcome st).2) ∨
      ∃ p' σ', r.moved d i (.inside lock p) σ = (.inside lock p', σ') ∧
        r.Midway i s st p' σ' ∧ ∀ native, p' ≠ .awaiting native := by
  -- by where the call stops: each stop leads to the next, the last one to the end
  cases m with
  | @awaiting p native =>
    refine .inr ⟨_, _, moved_eq_of_ok ?_, .resolving native, by simp⟩
    have promised : (st.promises.getD p default).promised = .source s := by
      rcases h.native with hs | ⟨q, hq, kept⟩
      · exact absurd (hs.symm.trans native) (by simp)
      · obtain rfl : p = q := by simpa using native.symm.trans hq
        exact kept
    rw [← Store.promises_locked st i] at promised
    have fresh := unspent p native
    rw [← Store.promises_locked st i] at fresh
    rw [move, Act.outcome_bind_ok (Act.outcome_awaited_promise promised fresh), Act.outcome_pure]
  | @resolving p native =>
    refine .inr ⟨_, _, moved_eq_of_ok ?_, .asking, by simp⟩
    have source := (cursorAt_locked_eq h).2.2.trans native
    rw [move, Act.outcome_bind_ok (Act.outcome_cursor i _), Store.resolved, source]
    rfl
  | asking =>
    refine .inr ⟨_, _, moved_eq_of_ok ?_, .answered, by simp⟩
    have asked : (r.request (.handle (.source s))).outcome ((st.locked i).resolved i s) =
        (.ok (r.ask (st.sourceAt s)).2,
          ((st.locked i).resolved i s).putSource s (r.ask (st.sourceAt s)).1) := by
      rw [request, Act.outcome_bind_ok (Act.outcome_source s _), Store.sourceAt_ready]
      rfl
    rw [move, Act.outcome_bind_ok asked, Act.outcome_pure]
  | answered =>
    refine .inl ⟨⟨_, rfl⟩, ?_⟩
    have ended := outcome_settle (d := d) h unspent enters
    have last : (r.move d i (.inside lock (.answered (r.ask (st.sourceAt s)).2))).outcome
        (((st.locked i).resolved i s).putSource s (r.ask (st.sourceAt s)).1) =
        (((r.act d i).outcome st).1.map fun v => .finished (.ok v), ((r.act d i).outcome st).2) := by
      rw [← ended, ← Act.outcome_map]
      simp only [move, map_bind, bind_pure_comp]
    rcases ho : (r.act d i).outcome st with ⟨e | v, after⟩ <;> rw [ho] at last
    · exact moved_eq_of_error last
    · exact moved_eq_of_ok last

end

end Reading

end DocMapper
