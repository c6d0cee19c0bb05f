import DocMapper.Proofs.Searching
import DocMapper.Proofs.SinglePass

/-!
The ways to get at the documents of a query.  Waiting for it, walking over it, and reading a cursor of
it in whatever way give the same documents, and the first is the first of them.
-/

namespace DocMapper

inductive Way
  | wait
  | walk
  | stream
  | collectAll
  | nexts (times : Nat)
  | first

namespace Way

/-- The next items of a cursor, asked for one by one. -/
def pulled (d : Dispatch) (cursor : Value) : (times : Nat) → Act (List Value)
  | 0 => return []
  | n + 1 => do
    let v ← d.call .always cursor "next" [] []
    return v :: (← pulled d cursor n)

def act (names : Names) (n : Nat) (query : Value) : Way → Act Value
  | wait => Act.wait (dispatch names n) query
  | walk => Act.iterate (dispatch names n) query none
  | stream => do
    let cursor ← (dispatch names (n + 1)).call .never query "execute" [] []
    let g ← (dispatch names (n + 1)).call .never cursor "stream" [] []
    Act.iterate (dispatch names n) g none
  | collectAll => do
    let cursor ← (dispatch names (n + 1)).call .never query "execute" [] []
    (dispatch names (n + 1)).call .always cursor "collect_all" [] []
  | nexts times => do
    let cursor ← (dispatch names (n + 1)).call .never query "execute" [] []
    .list <$> pulled (dispatch names (n + 1)) cursor times
  | first => (dispatch names (n + 1)).call .always query "first" [] []

/-- What each way does with the cursor that the query makes for it. -/
def read (names : Names) (n : Nat) (cursor : Value) : Way → Act Value
  | wait => Act.collected (dispatch names n) cursor
  | walk => .list <$> Act.readSome (dispatch names n) cursor none
  | stream => do
    let g ← (dispatch names (n + 1)).call .never cursor "stream" [] []
    Act.iterate (dispatch names n) g none
  | collectAll => (dispatch names (n + 1)).call .always cursor "collect_all" [] []
  | nexts times => .list <$> pulled (dispatch names (n + 1)) cursor times
  | first => Act.nextItem (dispatch names n) cursor

/-- What each way asks for besides: the first is all that is wanted. -/
def extra : Way → Entries
  | first => [(.str "limit", .int 1)]
  | _ => []

/-- The store in which a way runs the query; calling a function by its name binds it first. -/
def entry (st : Store) : Way → Store
  | wait | walk => st
  | _ => st.identified

/-- How many documents each way asks a query for. -/
def limit (q : Query) : Way → Value
  | first => .int 1
  | _ => q.options.limit

/-- What each way answers that finds these documents: instances of the class for them, in their
order. -/
def Answers (c : ClassRef) (xs : List Value) (st : Store) (result : Except Fault Value)
    (after : Store) : Way → Prop
  | first => ∃ vs, result = .ok (vs.headD .null) ∧ st.Wraps c (xs.take 1) vs after
  | nexts times => ∃ vs, result = .ok (.list (vs ++ List.replicate (times - xs.length) .null)) ∧
    st.Wraps c (xs.take times) vs after
  | _ => ∃ vs, result = .ok (.list vs) ∧ st.Wraps c xs vs after

/-- What a way asks for is as good to it as all that the query is for. -/
theorem answers_limit {c : ClassRef} {q : Query} {xs : List Value} {st after : Store}
    {result : Except Fault Value} (w : Way) :
    w.Answers c (windowed q.options.skip (w.limit q) xs) st result after ↔
      w.Answers c (q.part xs) st result after := by
  cases w
  case first =>
    rw [limit, windowed_one _ q.options.limit]
    simp only [Answers, Query.part, List.take_take, Nat.min_self]
  all_goals rfl

end Way

namespace Store

variable {st opened after : Store} {d : Dispatch} {c : ClassRef} {k i : Nat} {name : String}
variable {q : Query} {ds xs ys vs : List Value}

/-- What comes of reading a cursor that a query opened. -/
theorem Opens.delivered (h : st.Opens d c k name i q ds xs opened)
    (delivers : Delivers (.wraps c) d st.cursors.size st.sources.size opened after vs) :
    after.Runs c k name i q ds ∧ after.setting = st.setting ∧
      ∀ ys, xs = ys ++ (after.sourceAt st.sources.size).pending → st.Wraps c ys vs after := by
  obtain ⟨zs, split, wraps, beyond⟩ := delivers.share
  have setting := delivers.follows.setting
  have queries : after.queries = opened.queries := by
    change after.beyond.queries = opened.queries
    rw [beyond]
    rfl
  have ground : after.ground = opened.ground := by
    change after.beyond.ground = opened.ground
    rw [beyond]
    rfl
  have collections : after.collections = opened.collections := congrArg Ground.collections ground
  refine ⟨?_, setting.trans h.setting, fun ys same => ?_⟩
  · apply h.runs.of_setting setting queries (h.runs.connected.of_ground setting ground)
    · exact collections ▸ Nat.le_refl _
    · rw [h.one.1]
      exact delivers.follows.reads.cursor_lt
    · rw [h.one.2]
      exact delivers.follows.reads.source_lt
  · rw [← h.pending] at same
    have wraps := (delivers.each same).1
    exact ⟨h.documents ▸ wraps.documents, h.documents ▸ wraps.instances⟩

theorem Opens.offers (h : st.Opens d c k name i q ds xs opened) :
    opened.Offers st.cursors.size := by
  intro name hn
  have pristine := h.runs.configured.pristine
  refine ⟨?_, pristine.ownMember? "BaseCursor" name⟩
  rw [h.reader]
  simp only [List.mem_cons, List.not_mem_nil, or_false] at hn
  rcases hn with rfl | rfl | rfl <;> exact h.bare.usual pristine rfl rfl

theorem Opens.identified (h : st.Opens d c k name i q ds xs opened) :
    st.Opens d c k name i q ds xs opened.identified := by
  have made : Delivers (.wraps c) d st.cursors.size st.sources.size opened opened.identified [] :=
    h.yields.delivers_none (Effect.adds_wraps c) rfl rfl
  exact ⟨(h.delivered made).1, made.yields, h.pending, h.idle, h.reader, h.bare.of_setting rfl,
    h.documents, h.setting, h.one⟩

theorem Opens.collected (h : st.Opens d c k name i q ds xs opened) {r : Reading}
    (bulk : r ≠ .next) :
    ∃ vs after, (r.act d st.cursors.size).outcome opened = (.ok (.list vs), after) ∧
      Delivers (.wraps c) d st.cursors.size st.sources.size opened after vs ∧
      (after.sourceAt st.sources.size).pending = [] := by
  obtain ⟨vs, answer, delivers, none, -⟩ := h.yields.delivers_bulk (Effect.adds_wraps c) bulk
    (by rw [h.idle]; simp)
  exact ⟨vs, _, Prod.ext answer rfl, delivers, none⟩

end Store

/-- The next items of a cursor are what is left of its documents, and null from there on. -/
theorem delivers_pulled {E : Effect} {names : Names} {n i s : Nat} {st : Store} (adds : E.Adds)
    (h : st.Yields E (dispatch names n) i s) (offers : st.Offers i) (times : Nat) :
    ∃ vs after, (Way.pulled (dispatch names (n + 1)) (st.reader i) times).outcome st =
        (.ok (vs ++ List.replicate (times - (st.sourceAt s).pending.length) .null), after) ∧
      Store.Delivers E (dispatch names n) i s st after vs ∧
      (after.sourceAt s).pending = (st.sourceAt s).pending.drop times := by
  induction times generalizing st with
  | zero => exact ⟨[], st, by simp [Way.pulled], .refl adds h, rfl⟩
  | succ times ih =>
    have made : Store.Delivers E (dispatch names n) i s st st.identified [] :=
      h.delivers_none adds rfl rfl
    have called : ((dispatch names (n + 1)).call .always (st.reader i) "next" [] []).outcome st =
        (Act.next (dispatch names n) i).outcome st.identified :=
      Act.outcome_call_next offers
    rcases hn : (Act.next (dispatch names n) i).outcome st.identified with ⟨result, mid⟩
    rw [hn] at called
    have one := made.yields.delivers_next adds
    rw [hn] at one
    cases one with
    | inl ended =>
      -- no document is left, so the items that are still asked for are null as well
      obtain ⟨none, answer, delivers, -⟩ := ended
      obtain rfl : result = .ok .null := answer
      have none : (st.sourceAt s).pending = [] := none
      have delivers : Store.Delivers E (dispatch names n) i s st mid [] := made.trans adds delivers
      obtain ⟨vs, after, pulled, more, left⟩ := ih delivers.yields (delivers.offers offers)
      obtain ⟨ys, split, -⟩ := delivers.share
      rw [none] at split
      have still := (List.append_eq_nil_iff.mp split.symm).2
      obtain rfl := more.none_left adds still
      rw [delivers.follows.reader] at pulled
      refine ⟨[], after, ?_, delivers.trans adds more, ?_⟩
      · rw [Way.pulled, Act.outcome_bind_ok called, Act.outcome_bind_ok pulled, still, none]
        rfl
      · rw [left, still, none]
        simp
    | inr given =>
      obtain ⟨x, xs, v, some, answer, -, delivers, rest⟩ := given
      obtain rfl : result = .ok v := answer
      obtain rfl : (mid.sourceAt s).pending = xs := rest
      have some : (st.sourceAt s).pending = x :: (mid.sourceAt s).pending := some
      have delivers : Store.Delivers E (dispatch names n) i s st mid [v] := made.trans adds delivers
      obtain ⟨vs, after, pulled, more, left⟩ := ih delivers.yields (delivers.offers offers)
      rw [delivers.follows.reader] at pulled
      refine ⟨v :: vs, after, ?_, delivers.trans adds more, ?_⟩
      · rw [Way.pulled, Act.outcome_bind_ok called, Act.outcome_bind_ok pulled, some]
        simp
      · rw [left, some]
        rfl

namespace Way

variable {names : Names} {n : Nat} {st opened after : Store} {c : ClassRef} {k i : Nat}
variable {name : String} {q : Query} {ds xs : List Value} {result : Except Fault Value}

/-- How a way to read a cursor of a query goes: it answers with the documents of the cursor, and the
query can be run again. -/
structure Goes (w : Way) (c : ClassRef) (k : Nat) (name : String) (i : Nat) (q : Query)
    (ds xs : List Value) (st : Store) (result : Except Fault Value) (after : Store) : Prop where
  runs : after.Runs c k name i q ds
  setting : after.setting = st.setting
  answers : w.Answers c xs st result after

/-- The first document becomes an instance, if there is one. -/
theorem goes_first {d : Dispatch} (opens : st.Opens d c k name i q ds xs opened) :
    ∃ result after,
      (Act.nextItem d (.handle (.cursor .query st.cursors.size))).outcome opened =
        (result, after) ∧ first.Goes c k name i q ds xs st result after := by
  have asked : (Act.nextItem d (.handle (.cursor .query st.cursors.size))).outcome opened =
      (Act.next d st.cursors.size).outcome opened := by
    rw [← opens.reader]
    exact Act.outcome_nextItem opens.yields.reads
  rcases opens.yields.delivers_next (Effect.adds_wraps c) with
    ⟨none, answer, delivers, -⟩ | ⟨x, rest, v, some, answer, -, delivers, left⟩
  · obtain ⟨runs, setting, wraps⟩ := opens.delivered delivers
    obtain rfl : xs = [] := opens.pending.symm.trans none
    refine ⟨_, _, asked.trans (Prod.ext answer rfl), runs, setting, [], rfl, wraps _ ?_⟩
    obtain ⟨ys, split, -⟩ := delivers.share
    rw [none] at split
    rw [(List.append_eq_nil_iff.mp split.symm).2, List.append_nil, List.take_nil]
  · obtain ⟨runs, setting, wraps⟩ := opens.delivered delivers
    obtain rfl : xs = x :: rest := opens.pending.symm.trans some
    exact ⟨_, _, asked.trans (Prod.ext answer rfl), runs, setting, [v], rfl,
      wraps [x] (by rw [left]; rfl)⟩

section

variable (opens : st.Opens (dispatch names n) c k name i q ds xs opened)
include opens

theorem goes_wait : ∃ result after,
    (wait.read names n (.handle (.cursor .query st.cursors.size))).outcome opened =
      (result, after) ∧ wait.Goes c k name i q ds xs st result after := by
  obtain ⟨vs, after, answer, delivers, none⟩ :=
    opens.collected (show Reading.collectAll ≠ .next by simp)
  obtain ⟨runs, setting, wraps⟩ := opens.delivered delivers
  have usual := opens.bare.usual opens.runs.configured.pristine rfl
    (show Interface.inherited? "QueryCursor" "collect_all" = some (.known "BaseCursor", _) from rfl)
  refine ⟨_, after, ?_, runs, setting, vs, rfl, wraps xs (by rw [none, List.append_nil])⟩
  rw [read, Act.collected, Act.outcome_bind_ok (Act.outcome_get opened), if_pos usual, ← answer]
  simp only [bind_pure_comp]
  rfl

theorem goes_walk : ∃ result after,
    (walk.read names n (.handle (.cursor .query st.cursors.size))).outcome opened =
      (result, after) ∧ walk.Goes c k name i q ds xs st result after := by
  obtain ⟨vs, after, answer, delivers, left, -⟩ :=
    opens.yields.delivers_some (Effect.adds_wraps c) none
  obtain ⟨runs, setting, wraps⟩ := opens.delivered delivers
  rw [opens.reader] at answer
  refine ⟨_, after, ?_, runs, setting, vs, rfl, wraps xs ?_⟩
  · rw [read, Act.outcome_map, answer]
    rfl
  · rw [left]
    exact (List.append_nil xs).symm

theorem goes_stream : ∃ result after,
    (stream.read names n (.handle (.cursor .query st.cursors.size))).outcome opened =
      (result, after) ∧ stream.Goes c k name i q ds xs st result after := by
  have obeys := obeys_stream (Effect.adds_wraps c) opens.yields opens.offers none
  have same : (stream.read names n (.handle (.cursor .query st.cursors.size))).outcome opened =
      ((Use.stream none).act names n st.cursors.size).outcome opened := by
    rw [read, Use.act, Act.outcome_bind_ok (Act.outcome_get opened), opens.reader]
  obtain ⟨⟨vs, answer⟩, left⟩ := obeys.streamed none rfl
  have delivers := obeys.delivers
  rw [answer] at delivers
  obtain ⟨runs, setting, wraps⟩ := opens.delivered delivers
  refine ⟨_, _, same.trans (Prod.ext answer rfl), runs, setting, vs, rfl, wraps _ ?_⟩
  rw [left]
  exact (List.append_nil _).symm

theorem goes_collectAll : ∃ result after,
    (collectAll.read names n (.handle (.cursor .query st.cursors.size))).outcome opened =
      (result, after) ∧ collectAll.Goes c k name i q ds xs st result after := by
  obtain ⟨vs, after, answer, delivers, none⟩ :=
    opens.identified.collected (show Reading.collectAll ≠ .next by simp)
  obtain ⟨runs, setting, wraps⟩ := opens.identified.delivered delivers
  refine ⟨_, after, ?_, runs, setting, vs, rfl, wraps xs (by rw [none, List.append_nil])⟩
  rw [read, Act.outcome_call_bare opens.bare opens.runs.configured.pristine rfl rfl rfl rfl
    (.inl ⟨rfl, rfl⟩)]
  change (Act.collectAll (dispatch names n) st.cursors.size >>= fun vs =>
    pure (Value.list vs)).outcome opened.identified = _
  rw [← answer, bind_pure_comp]
  rfl

theorem goes_nexts (times : Nat) : ∃ result after,
    ((nexts times).read names n (.handle (.cursor .query st.cursors.size))).outcome opened =
      (result, after) ∧ (nexts times).Goes c k name i q ds xs st result after := by
  obtain ⟨vs, after, answer, delivers, left⟩ :=
    delivers_pulled (Effect.adds_wraps c) opens.yields opens.offers times
  obtain ⟨runs, setting, wraps⟩ := opens.delivered delivers
  rw [opens.reader, opens.pending] at answer
  refine ⟨_, after, ?_, runs, setting, vs, rfl, wraps _ ?_⟩
  · rw [read, Act.outcome_map, answer]
    rfl
  · rw [left, opens.pending, List.take_append_drop]

theorem goes_read (w : Way) : ∃ result after,
    (w.read names n (.handle (.cursor .query st.cursors.size))).outcome opened =
      (result, after) ∧ w.Goes c k name i q ds xs st result after := by
  cases w with
  | wait => exact goes_wait opens
  | walk => exact goes_walk opens
  | stream => exact goes_stream opens
  | collectAll => exact goes_collectAll opens
  | nexts times => exact goes_nexts opens times
  | first => exact goes_first opens

end

section

variable (h : st.Runs c k name i q ds)
include h

theorem runs_identified : st.identified.Runs c k name i q ds :=
  h.of_setting rfl rfl (h.connected.of_ground rfl rfl) (Nat.le_refl _) (Nat.le_refl _)
    (Nat.le_refl _)

theorem outcome_executed (d : Dispatch) :
    (Act.executed d (.handle (.query .bound i))).outcome st =
      (Act.execute d (.handle (.query .bound i)) []).outcome st :=
  Act.outcome_callOr_usual (h.bare.usual h.configured.pristine rfl rfl)

/-- The first is read from a cursor that is limited to it. -/
theorem outcome_first_eq (d : Dispatch) :
    (Act.first d (.handle (.query .bound i))).outcome st =
      (Act.execute d (.handle (.query .bound i)) first.extra >>= Act.nextItem d).outcome st := by
  have usual := h.bare.usual h.configured.pristine rfl
    (show Interface.inherited? "ModelQuery" "execute" = some (.known "ModelQuery", _) from rfl)
  rw [Act.first, Act.outcome_bind, Act.outcome_callOr_usual usual, ← Act.outcome_bind]
  rfl

/-- The first that a query of plain criteria finds becomes an instance, if there is one. -/
theorem outcome_first (picks : q.Picks ds xs) (d : Dispatch) :
    ∃ vs after, (Act.first d (.handle (.query .bound i))).outcome st =
        (.ok (vs.headD .null), after) ∧
      after.Runs c k name i q ds ∧ after.setting = st.setting ∧
      st.Wraps c ((q.part xs).take 1) vs after := by
  obtain ⟨opened, executed, opens⟩ := Act.outcome_execute h picks
    (show Value.IsCount (.int 1) from .inr ⟨1, rfl⟩) (fun _ asks => asks.merge_limit (.int 1)) d
  obtain ⟨result, after, answer, goes⟩ := goes_first opens
  obtain ⟨vs, rfl, wraps⟩ := (answers_limit first).mp goes.answers
  refine ⟨vs, after, ?_, goes.runs, goes.setting, wraps⟩
  rw [outcome_first_eq h]
  exact (Act.outcome_bind_ok executed).trans answer

/-- Each way runs the query, and goes on with the cursor if it is given one. -/
theorem outcome_act (w : Way) {r : Except Fault Value}
    (executed : (Act.execute (dispatch names n) (.handle (.query .bound i)) w.extra).outcome
      (w.entry st) = (r, opened))
    (given : ∀ v, r = .ok v → ∃ j, v = .handle (.cursor .query j)) :
    (w.act names n (.handle (.query .bound i))).outcome st =
      (Act.ofExcept r >>= fun cursor => w.read names n cursor).outcome opened := by
  have pristine := h.configured.pristine
  have called (opened : Store) (r : Except Fault Value)
      (executed : (Act.execute (dispatch names n) (.handle (.query .bound i)) []).outcome
        st.identified = (r, opened)) :
      ((dispatch names (n + 1)).call .never (.handle (.query .bound i)) "execute" []
        []).outcome st = (r, opened) := by
    rw [Act.outcome_call_bare h.bare pristine rfl rfl rfl rfl (.inr ⟨rfl, rfl⟩)]
    exact executed
  cases w
  case wait =>
    change (Act.executed (dispatch names n) _ >>= Act.collected (dispatch names n)).outcome st = _
    rw [Act.outcome_bind, (outcome_executed h _).trans executed, Act.outcome_bind,
      Act.outcome_ofExcept]
    rfl
  case walk =>
    have walked : (Act.walkOver (dispatch names n) (.handle (.query .bound i))).outcome st =
        (r, opened) := by
      change (Act.executed (dispatch names n) _ >>= fun source =>
        if Act.givesItems source then pure source else _).outcome st = _
      rw [Act.outcome_bind, (outcome_executed h _).trans executed]
      cases r with
      | error e => rfl
      | ok v =>
        obtain ⟨j, rfl⟩ := given v rfl
        rfl
    rw [act, Act.iterate, Act.outcome_bind, walked, Act.outcome_bind, Act.outcome_ofExcept]
    cases r with
    | error e => rfl
    | ok v =>
      obtain ⟨j, rfl⟩ := given v rfl
      rfl
  case first =>
    have executed : (Act.execute (dispatch names n) (.handle (.query .bound i))
        first.extra).outcome st.identified = (r, opened) := executed
    rw [act, Act.outcome_call_bare h.bare pristine rfl rfl rfl rfl (.inl ⟨rfl, rfl⟩)]
    change (Act.first (dispatch names n) (.handle (.query .bound i))).outcome st.identified = _
    rw [outcome_first_eq (runs_identified h), Act.outcome_bind, executed, Act.outcome_bind,
      Act.outcome_ofExcept]
    rfl
  all_goals
    rw [act, Act.outcome_bind, called opened r executed, Act.outcome_bind, Act.outcome_ofExcept]
    rfl

end

end Way

end DocMapper
