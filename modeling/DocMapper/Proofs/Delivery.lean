import DocMapper.Proofs.Calls

/-!
What a cursor delivers.  Each way of reading it takes the documents that come first of those that
are left, and delivers what they are hydrated to.
-/

namespace DocMapper

def CursorState.rank : CursorState → Nat
  | idle => 0
  | streaming => 1
  | exhausted => 2

theorem CursorState.eq_exhausted {a : CursorState} (h : exhausted.rank ≤ a.rank) : a = exhausted := by
  cases a with
  | idle => exact absurd h (by decide)
  | streaming => exact absurd h (by decide)
  | exhausted => rfl

namespace Reading

/-- How a call takes documents from a source that does not fail. -/
inductive Takes (r : Reading) (cls : ClassRef) (c : Cursor) (x : Source) :
    (Cursor × Source) × Except Fault (List Value) → Prop
  | nothing (ended : c.state = .exhausted) : r.Takes cls c x ((c, x), .ok [])
  | refused (bulk : r ≠ next) (started : c.state = .streaming) :
      r.Takes cls c x ((c, x), .error (.partlyStreamed cls))
  | last (single : r = next) (before : c.state ≠ .exhausted) (none : x.pending = []) :
      r.Takes cls c x ((c.moved .exhausted, { x with pulls := x.pulls + 1 }), .ok [])
  | one {v : Value} {xs : List Value} (single : r = next) (before : c.state ≠ .exhausted)
      (first : x.pending = v :: xs) :
      r.Takes cls c x
        ((c.moved .streaming, { x with pulls := x.pulls + 1, pending := xs }), .ok [v])
  | all (bulk : r ≠ next) (before : c.state = .idle) :
      r.Takes cls c x
        ((c.moved .exhausted, { x with drains := x.drains + 1, pending := [] }), .ok x.pending)

theorem takes (r : Reading) (cls : ClassRef) (c : Cursor) {x : Source} (works : x.failure = none)
    (docs : ∀ v ∈ x.pending, v ≠ .null) : r.Takes cls c x (r.take cls c x) := by
  by_cases ended : c.state = .exhausted
  · rw [take_exhausted r cls ended]
    exact .nothing ended
  by_cases hr : r = next
  · subst hr
    rw [take]
    rcases hp : x.pending with _ | ⟨v, xs⟩
    · have pull : x.pull = ({ x with pulls := x.pulls + 1 }, .ok none) := by
        simp only [Source.pull, works, hp]
      rw [Cursor.pull_open ended, pull]
      exact .last rfl ended hp
    · have pull : x.pull = ({ x with pulls := x.pulls + 1, pending := xs }, .ok (some v)) := by
        simp only [Source.pull, works, hp]
      rw [Cursor.pull_some ended pull (docs v (by rw [hp]; exact List.mem_cons_self))]
      exact .one rfl ended hp
  · cases hs : c.state with
    | exhausted => exact absurd hs ended
    | streaming =>
      rw [take_streaming r cls hs hr]
      exact .refused hr hs
    | idle =>
      have drain : r.take cls c x = c.drain x := by
        cases r
        case next => exact absurd rfl hr
        all_goals simp only [take, hs]
      have drained : x.drain = ({ x with drains := x.drains + 1, pending := [] }, .ok x.pending) := by
        simp only [Source.drain, works]
      rw [drain, Cursor.drain_idle hs, drained]
      exact .all hr hs

end Reading

/-- What hydrating documents one after another does: from a store on, these documents became these
values, up to another store. -/
abbrev Effect := Store → List Value → List Value → Store → Prop

namespace Effect

/-- An effect that adds up, and does not mind what cursors are read by. -/
structure Adds (E : Effect) : Prop where
  none : ∀ {st after : Store}, after.beyond = st.beyond → E st [] [] after
  append : ∀ {st mid after : Store} {xs ys vs ws : List Value},
    E st xs vs mid → E mid ys ws after → E st (xs ++ ys) (vs ++ ws) after
  length : ∀ {st after : Store} {xs vs : List Value}, E st xs vs after → vs.length = xs.length

variable {E : Effect} {st mid last after : Store} {xs vs : List Value}

theorem Adds.between (adds : E.Adds) (before : mid.beyond = st.beyond) (h : E mid xs vs last)
    (behind : after.beyond = last.beyond) : E st xs vs after := by
  have both := adds.append (adds.none before) (adds.append h (adds.none behind))
  rwa [List.append_nil, List.append_nil] at both

end Effect

namespace Store

/-- A cursor that works: its source does not fail, and every document is hydrated to something. -/
structure Yields (st : Store) (E : Effect) (d : Dispatch) (i s : Nat) : Prop
    extends st.Serves d i s where
  works : (st.sourceAt s).failure = none
  docs : ∀ x ∈ (st.sourceAt s).pending, x ≠ .null
  total : ∀ x ∈ (st.sourceAt s).pending, ∀ σ : Store, σ.setting = st.setting →
    ∃ v after, (Act.deliver d (st.cursorAt i) x).outcome σ = (.ok v, after) ∧ v ≠ .null ∧
      E σ [x] [v] after
  ended : (st.cursorAt i).state = .exhausted → (st.sourceAt s).pending = []

/-- From one store to another, a cursor delivered these values for the documents that are not left
any more. -/
structure Delivers (E : Effect) (d : Dispatch) (i s : Nat) (st after : Store) (vs : List Value) :
    Prop where
  follows : st.Follows after i s
  yields : after.Yields E d i s
  forward : (st.cursorAt i).state.rank ≤ (after.cursorAt i).state.rank
  kept : (st.cursorAt i).state = .exhausted → after.sourceAt s = st.sourceAt s
  share : ∃ xs, (st.sourceAt s).pending = xs ++ (after.sourceAt s).pending ∧ E st xs vs after

variable {E : Effect} {d : Dispatch} {i s : Nat} {st mid after : Store} {vs ws : List Value}

namespace Delivers

theorem refl (adds : E.Adds) (h : st.Yields E d i s) : Delivers E d i s st st [] :=
  ⟨h.reads.follows h.unspent, h, Nat.le_refl _, fun _ => rfl, [], rfl, adds.none rfl⟩

theorem closed (h : Delivers E d i s st after vs) (ended : (st.cursorAt i).state = .exhausted) :
    (after.cursorAt i).state = .exhausted := by
  apply CursorState.eq_exhausted
  rw [← ended]
  exact h.forward

theorem trans (adds : E.Adds) (h : Delivers E d i s st mid vs) (k : Delivers E d i s mid after ws) :
    Delivers E d i s st after (vs ++ ws) := by
  obtain ⟨xs, split, each⟩ := h.share
  obtain ⟨ys, split', each'⟩ := k.share
  refine ⟨h.follows.trans k.follows, k.yields, Nat.le_trans h.forward k.forward, fun ended => ?_,
    xs ++ ys, by rw [split, split', List.append_assoc], adds.append each each'⟩
  rw [k.kept (h.closed ended), h.kept ended]

/-- What is delivered are the documents that were left before and are not any more. -/
theorem each (h : Delivers E d i s st after vs) {xs : List Value}
    (split : (st.sourceAt s).pending = xs ++ (after.sourceAt s).pending) : E st xs vs after := by
  obtain ⟨ys, split', each⟩ := h.share
  obtain rfl : xs = ys := List.append_cancel_right (split.symm.trans split')
  exact each

theorem none_left (adds : E.Adds) (h : Delivers E d i s st after vs)
    (none : (st.sourceAt s).pending = []) : vs = [] := by
  obtain ⟨xs, split, each⟩ := h.share
  rw [none] at split
  have length := adds.length each
  rw [(List.append_eq_nil_iff.mp split.symm).1] at length
  exact List.length_eq_zero_iff.mp length

end Delivers

theorem Yields.delivers_none (adds : E.Adds) (h : st.Yields E d i s)
    (beyond : after.beyond = st.beyond) (desk : after.desk = st.desk) :
    Delivers E d i s st after [] := by
  have setting := setting_of_beyond beyond
  have cursor := cursorAt_congr desk i
  have source := sourceAt_congr desk s
  have promises : after.promises = st.promises := congrArg Desk.promises desk
  have reads : after.Reads i s := by
    refine h.reads.of_alike setting (congrArg (·.cursors.size) desk) (congrArg (·.sources.size) desk)
      (by rw [cursor]) ?_ ?_
    · rw [cursor]
      exact h.reads.lock
    · rw [cursor, promises]
      exact h.reads.native
  have unspent : after.Unspent i := by
    intro p hp
    rw [cursor] at hp
    rw [promises]
    exact h.unspent p hp
  have follows : st.Follows after i s :=
    ⟨reads, unspent, setting, by rw [cursor], by rw [cursor], fun hs => by rw [cursor, hs]⟩
  refine ⟨follows, ⟨⟨reads, unspent, ?_⟩, ?_, ?_, ?_, ?_⟩, ?_, fun _ => source, [], ?_,
    adds.none beyond⟩
  · exact follows.quiet h.quiet (by rw [source]; exact List.Subset.refl _)
  · rw [source, h.works]
  · rw [source]
    exact h.docs
  · rw [source, cursor, setting]
    exact h.total
  · rw [source, cursor]
    exact h.ended
  · exact Nat.le_of_eq (by rw [cursor])
  · exact (congrArg Source.pending source).symm

theorem Yields.each (adds : E.Adds) (h : st.Yields E d i s) {xs : List Value}
    (sub : xs ⊆ (st.sourceAt s).pending) {σ : Store} (hw : σ.setting = st.setting) :
    ∃ vs after, (Act.deliverEach d (st.cursorAt i) xs).outcome σ = (.ok vs, after) ∧
      E σ xs vs after ∧ ∀ v ∈ vs, v ≠ .null := by
  induction xs generalizing σ with
  | nil => exact ⟨[], σ, rfl, adds.none rfl, by simp⟩
  | cons x xs ih =>
    have member := sub List.mem_cons_self
    obtain ⟨v, mid, hv, something, one⟩ := h.total x member σ hw
    have left := (h.quiet x member σ hw).1
    rw [hv] at left
    obtain ⟨vs, after, hvs, rest, some⟩ :=
      ih (fun y hy => sub (List.mem_cons_of_mem x hy)) left
    refine ⟨v :: vs, after, ?_, adds.append one rest, by simpa using ⟨something, some⟩⟩
    rw [Act.deliverEach, Act.outcome_bind_ok hv, bind_pure_comp, Act.outcome_map, hvs]
    rfl

theorem Yields.delivers (h : st.Yields E d i s) {r : Reading} {result : Except Fault Value}
    (e : r.Ends d i s st result after) {c : Cursor} {x : Source} {found : Except Fault (List Value)}
    (moved : r.take (st.classOf (st.reader i)) (st.cursorAt i) (st.sourceAt s) = ((c, x), found))
    {xs : List Value} (split : (st.sourceAt s).pending = xs ++ x.pending)
    (forward : (st.cursorAt i).state.rank ≤ c.state.rank)
    (ended : c.state = .exhausted → x.pending = [])
    (kept : (st.cursorAt i).state = .exhausted → x = st.sourceAt s) (each : E st xs vs after) :
    Delivers E d i s st after vs := by
  have state := e.state
  have source := e.source
  have failure := r.take_failure (st.classOf (st.reader i)) (c := st.cursorAt i) (x := st.sourceAt s)
  rw [moved] at state source failure
  have fewer : (after.sourceAt s).pending ⊆ (st.sourceAt s).pending := by
    rw [source, split]
    exact List.subset_append_right ..
  refine ⟨e.follows, ⟨e.serves h.toServes, ?_, fun v hv => h.docs v (fewer hv), ?_, ?_⟩, ?_,
    fun closed => ?_, xs, ?_, each⟩
  · rw [source, failure, h.works]
  · intro v hv σ hσ
    rw [Act.deliver_alike e.follows.kind e.follows.hydrate]
    exact h.total v (fewer hv) σ (hσ.trans e.follows.setting)
  · rw [state, source]
    exact ended
  · rw [state]
    exact forward
  · rw [source, kept closed]
  · rw [source, split]

theorem Yields.delivers_nothing (adds : E.Adds) (h : st.Yields E d i s) {r : Reading}
    {result : Except Fault Value} (e : r.Ends d i s st result after) {c : Cursor} {x : Source}
    {found : Except Fault (List Value)}
    (moved : r.take (st.classOf (st.reader i)) (st.cursorAt i) (st.sourceAt s) = ((c, x), found))
    (none : found = .ok [] ∨ ∃ e, found = .error e) (still : x.pending = (st.sourceAt s).pending)
    (forward : (st.cursorAt i).state.rank ≤ c.state.rank)
    (ended : c.state = .exhausted → x.pending = [])
    (kept : (st.cursorAt i).state = .exhausted → x = st.sourceAt s) :
    Delivers E d i s st after [] := by
  obtain ⟨σ, beyond, answers⟩ := e.answers
  rw [moved] at answers
  have still' : after.beyond = st.beyond := by
    rcases none with rfl | ⟨f, rfl⟩
    · exact answers.2.trans beyond
    · exact answers.2.trans beyond
  refine h.delivers e moved ?_ forward ended kept (adds.none still')
  rw [still]
  rfl

section

variable (adds : E.Adds) (h : st.Yields E d i s)
include adds h

theorem Yields.delivers_next :
    ((st.sourceAt s).pending = [] ∧ ((Act.next d i).outcome st).1 = .ok .null ∧
        Delivers E d i s st ((Act.next d i).outcome st).2 [] ∧
        (((Act.next d i).outcome st).2.cursorAt i).state = .exhausted) ∨
      ∃ x xs v, (st.sourceAt s).pending = x :: xs ∧ ((Act.next d i).outcome st).1 = .ok v ∧
        v ≠ .null ∧ Delivers E d i s st ((Act.next d i).outcome st).2 [v] ∧
        (((Act.next d i).outcome st).2.sourceAt s).pending = xs := by
  have e := Reading.ends_act (r := .next) h.toServes
  change Reading.next.Ends d i s st ((Act.next d i).outcome st).1 ((Act.next d i).outcome st).2 at e
  have t := Reading.takes .next (st.classOf (st.reader i)) (st.cursorAt i) h.works h.docs
  obtain ⟨σ, beyond, answers⟩ := e.answers
  -- the call moved cursor and source as `took` says; what it delivers follows from that alone
  generalize ht : Reading.next.take (st.classOf (st.reader i)) (st.cursorAt i) (st.sourceAt s) = took
    at t
  rw [ht] at answers
  cases t with
  | nothing closed =>
    refine .inl ⟨h.ended closed, answers.1, h.delivers_nothing adds e ht (.inl rfl) rfl
      (Nat.le_refl _) h.ended (fun _ => rfl), ?_⟩
    rw [e.state, ht]
    exact closed
  | refused bulk => exact absurd rfl bulk
  | last _ before none =>
    refine .inl ⟨none, answers.1, h.delivers_nothing adds e ht (.inl rfl) rfl ?_ (fun _ => none)
      (fun closed => absurd closed before), ?_⟩
    · cases (st.cursorAt i).state <;> simp [Cursor.moved, CursorState.rank]
    · rw [e.state, ht]
      rfl
  | @one x xs _ before first =>
    have only : [x] ⊆ (st.sourceAt s).pending := by
      rw [first]
      simp
    obtain ⟨vs, after, hvs, each, some⟩ := h.each adds only (setting_of_beyond beyond)
    obtain ⟨v, rfl⟩ := List.length_eq_one_iff.mp (adds.length each)
    rw [Reading.Hydrates, hvs] at answers
    refine .inr ⟨x, xs, v, first, answers.1, some v (by simp),
      h.delivers e ht (show (st.sourceAt s).pending = [x] ++ xs from first) ?_ ?_
      (fun closed => absurd closed before) (adds.between beyond each answers.2), ?_⟩
    · revert before
      cases (st.cursorAt i).state <;> simp [Cursor.moved, CursorState.rank]
    · intro impossible
      cases impossible
    · rw [e.source, ht]
  | all bulk => exact absurd rfl bulk

theorem Yields.delivers_bulk {r : Reading} (bulk : r ≠ .next)
    (before : (st.cursorAt i).state ≠ .streaming) :
    ∃ vs, ((r.act d i).outcome st).1 = .ok (.list vs) ∧
      Delivers E d i s st ((r.act d i).outcome st).2 vs ∧
      (((r.act d i).outcome st).2.sourceAt s).pending = [] ∧
      (((r.act d i).outcome st).2.cursorAt i).state = .exhausted := by
  have e := Reading.ends_act (r := r) h.toServes
  have t := Reading.takes r (st.classOf (st.reader i)) (st.cursorAt i) h.works h.docs
  have answer : ∀ vs, r.answer vs = .list vs := by
    cases r
    case next => exact absurd rfl bulk
    all_goals exact fun _ => rfl
  obtain ⟨σ, beyond, answers⟩ := e.answers
  generalize ht : r.take (st.classOf (st.reader i)) (st.cursorAt i) (st.sourceAt s) = took at t
  rw [ht] at answers
  cases t with
  | nothing closed =>
    refine ⟨[], ?_, h.delivers_nothing adds e ht (.inl rfl) rfl (Nat.le_refl _) h.ended
      (fun _ => rfl), ?_, ?_⟩
    · rw [answers.1, ← answer]
      rfl
    · rw [e.source, ht, h.ended closed]
    · rw [e.state, ht]
      exact closed
  | refused _ started => exact absurd started before
  | last single => exact absurd single bulk
  | one single => exact absurd single bulk
  | all _ idle =>
    obtain ⟨vs, after, hvs, each, some⟩ :=
      h.each adds (List.Subset.refl _) (setting_of_beyond beyond)
    rw [Reading.Hydrates, hvs] at answers
    refine ⟨vs, ?_, h.delivers e ht (List.append_nil _).symm ?_ (fun _ => rfl) (fun closed => ?_)
      (adds.between beyond each answers.2), ?_, ?_⟩
    · rw [answers.1, ← answer]
      rfl
    · rw [idle]
      exact Nat.zero_le _
    · exact absurd (closed.symm.trans idle) (by simp)
    · rw [e.source, ht]
    · rw [e.state, ht]
      rfl

/-- Bulk calls on a cursor that gave some documents are refused, and nothing is asked. -/
theorem Yields.refused {r : Reading} (bulk : r ≠ .next)
    (started : (st.cursorAt i).state = .streaming) :
    ((r.act d i).outcome st).1 = .error (.partlyStreamed (st.classOf (st.reader i))) ∧
      Delivers E d i s st ((r.act d i).outcome st).2 [] ∧
      (((r.act d i).outcome st).2.cursorAt i).state = .streaming ∧
      ((r.act d i).outcome st).2.sourceAt s = st.sourceAt s := by
  have e := Reading.ends_act (r := r) h.toServes
  have ht := r.take_streaming (st.classOf (st.reader i)) (x := st.sourceAt s) started bulk
  refine ⟨?_, h.delivers_nothing adds e ht (.inr ⟨_, rfl⟩) rfl (Nat.le_refl _) h.ended
    (fun _ => rfl), ?_, ?_⟩
  · rw [Reading.outcome_refused h.reads h.unspent bulk started]
  · rw [e.state, ht]
    exact started
  · rw [e.source, ht]

end

end Store

end DocMapper
