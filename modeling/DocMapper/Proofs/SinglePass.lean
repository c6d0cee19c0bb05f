import DocMapper.Proofs.Members
import DocMapper.Proofs.Streams
import Mathlib.Data.List.Forall2

/-!
A cursor is passed over once.  However it is used, what it delivers in all are the documents of its
source in their order, each of them once, and all of them when it is exhausted.
-/

namespace DocMapper

/-- A use of a cursor.  A stream may be read in parts. -/
inductive Use
  | call (r : Reading)
  | anext
  | stream (limit : Option Nat)
  | resume (stream : Nat) (limit : Option Nat)

namespace Use

def act (names : Names) (n i : Nat) : Use → Act Value
  | call r => r.act (dispatch names n) i
  | anext => do (dispatch names (n + 2)).call .always ((← get).reader i) "__anext__" [] []
  | stream limit => do
    let g ← (dispatch names (n + 1)).call .never ((← get).reader i) "stream" [] []
    Act.iterate (dispatch names n) g limit
  | resume g limit => Act.iterate (dispatch names n) (.handle (.stream g)) limit

/-- A stream that is read further is one of the cursor. -/
def Fits (st : Store) (i : Nat) : Use → Prop
  | resume g _ => (st.streams.getD g default).cursor = st.reader i
  | _ => True

/-- The items in what a use answered. -/
def items : Use → Value → List Value
  | anext, v => [v]
  | call .next, v => if v matches .null then [] else [v]
  | _, .list vs => vs
  | _, _ => []

def given (u : Use) : Except Fault Value → List Value
  | .ok v => u.items v
  | .error _ => []

/-- What a use answers when there is nothing left. -/
def nothing : Use → Except Fault Value
  | call .next => .ok .null
  | anext => .error (.raised .exhausted "")
  | _ => .ok (.list [])

end Use

/-- The functions of cursors are those of the library. -/
def Store.Offers (st : Store) (i : Nat) : Prop :=
  ∀ name ∈ ["next", "__anext__", "stream"], st.usual (st.reader i) (.known "BaseCursor") name ∧
    st.registry.ownMember? (.known "BaseCursor") name =
      Interface.member? (.known "BaseCursor") name

namespace Act

variable {names : Names} {n i s : Nat} {st : Store}

theorem outcome_call_reader (h : st.Offers i) (name : String) {m : Method} {waiting : Waiting}
    (listed : name ∈ ["next", "__anext__", "stream"])
    (own : Interface.member? (.known "BaseCursor") name = some (.method m))
    (place : (readPlace? (st.reader i) name).outcome st = (.ok none, st))
    (bind : m.bind [st.reader i] [] = .ok ⟨[st.reader i], [], []⟩)
    (fits : m.waits = true ∧ waiting = .always ∨ m.waits = false ∧ waiting = .never) :
    ((dispatch names (n + 1)).call waiting (st.reader i) name [] []).outcome st =
      (performMethod (dispatch names n) m ⟨[st.reader i], [], []⟩).outcome st.identified :=
  outcome_call_method (fun c => by simp [Store.reader]) (h name listed).1
    ((h name listed).2.trans own) place bind fits

theorem outcome_call_next (h : st.Offers i) :
    ((dispatch names (n + 1)).call .always (st.reader i) "next" [] []).outcome st =
      (next (dispatch names n) i).outcome st.identified :=
  outcome_call_reader h "next" (by simp) rfl rfl rfl (.inl ⟨rfl, rfl⟩)

theorem outcome_call_stream (h : st.Offers i) :
    ((dispatch names (n + 1)).call .never (st.reader i) "stream" [] []).outcome st =
      (newStream { cursor := st.reader i }).outcome st.identified :=
  outcome_call_reader h "stream" (by simp) rfl rfl rfl (.inr ⟨rfl, rfl⟩)

theorem outcome_anext (h : st.Offers i) :
    (Use.anext.act names n i).outcome st =
      match (next (dispatch names n) i).outcome st.identified.identified with
      | (.ok .null, after) => (.error (.raised .exhausted ""), after)
      | (result, after) => (result, after) := by
  have first : (Use.anext.act names n i).outcome st =
      (do match ← (dispatch names (n + 1)).call .always (st.reader i) "next" [] [] with
        | .null => throw (.raised .exhausted "")
        | v => return v : Act Value).outcome st.identified :=
    outcome_call_reader h "__anext__" (by simp) rfl rfl rfl (.inl ⟨rfl, rfl⟩)
  rw [first, outcome_bind]
  have second : ((dispatch names (n + 1)).call .always (st.reader i) "next" [] []).outcome
      st.identified = (next (dispatch names n) i).outcome st.identified.identified :=
    outcome_call_next h
  rw [second]
  rcases (next (dispatch names n) i).outcome st.identified.identified with ⟨_ | v, after⟩
  · rfl
  · cases v <;> rfl

end Act

open Store

/-- Documents and what hydrating them gives while functions stay the same. -/
def Store.hydrating (st : Store) (d : Dispatch) (i : Nat) : Effect := fun _ xs vs _ =>
  List.Forall₂ (fun x v => ∃ σ : Store, σ.setting = st.setting ∧
    ((Act.deliver d (st.cursorAt i) x).outcome σ).1 = .ok v) xs vs

theorem Store.adds_hydrating (st : Store) (d : Dispatch) (i : Nat) : (st.hydrating d i).Adds where
  none _ := .nil
  append h k := List.rel_append h k
  length h := h.length_eq.symm

theorem Store.Serves.yields {st : Store} {d : Dispatch} {i s : Nat} (h : st.Serves d i s)
    (works : (st.sourceAt s).failure = none) (docs : ∀ x ∈ (st.sourceAt s).pending, x ≠ .null)
    (total : ∀ x ∈ (st.sourceAt s).pending, ∀ σ : Store, σ.setting = st.setting →
      ∃ v, ((Act.deliver d (st.cursorAt i) x).outcome σ).1 = .ok v ∧ v ≠ .null)
    (ended : (st.cursorAt i).state = .exhausted → (st.sourceAt s).pending = []) :
    st.Yields (st.hydrating d i) d i s := by
  refine ⟨h, works, docs, fun x hx σ hσ => ?_, ended⟩
  obtain ⟨v, hv, some⟩ := total x hx σ hσ
  exact ⟨v, _, Prod.ext hv rfl, some, .cons ⟨σ, hσ, hv⟩ .nil⟩

/-- What every use of a cursor obeys, from one store to the next. -/
structure Use.Obeys (u : Use) (E : Effect) (d : Dispatch) (i s : Nat) (st : Store)
    (result : Except Fault Value) (after : Store) : Prop where
  delivers : Delivers E d i s st after (u.given result)
  ended : (st.cursorAt i).state = .exhausted →
    result = u.nothing ∧ (after.cursorAt i).state = .exhausted ∧
      after.sourceAt s = st.sourceAt s
  refused : ∀ r, u = .call r → r ≠ .next → (st.cursorAt i).state = .streaming →
    result = .error (.partlyStreamed (st.classOf (st.reader i))) ∧
      (after.cursorAt i).state = .streaming ∧ after.sourceAt s = st.sourceAt s
  streamed : ∀ limit, u = .stream limit → (∃ vs, result = .ok (.list vs)) ∧
    (after.sourceAt s).pending = unwanted limit (st.sourceAt s).pending

section

variable {E : Effect} {d : Dispatch} {names : Names} {n i s : Nat} {st after : Store}
variable {vs : List Value}

theorem Use.given_call_bulk {r : Reading} (bulk : r ≠ .next) (vs : List Value) :
    (Use.call r).given (.ok (.list vs)) = vs ∧ (Use.call r).nothing = .ok (.list []) := by
  cases r
  case next => exact absurd rfl bulk
  all_goals exact ⟨rfl, rfl⟩

theorem Use.given_next {v : Value} (hv : v ≠ .null) : (Use.call .next).given (.ok v) = [v] := by
  cases v
  case null => exact absurd rfl hv
  all_goals rfl

theorem Use.Obeys.of_single {u : Use} {result : Except Fault Value}
    (single : u = .call .next ∨ u = .anext ∨ ∃ g limit, u = .resume g limit)
    (delivers : Delivers E d i s st after (u.given result))
    (ended : (st.cursorAt i).state = .exhausted →
      result = u.nothing ∧ (after.cursorAt i).state = .exhausted) :
    u.Obeys E d i s st result after := by
  refine ⟨delivers, fun closed => ⟨(ended closed).1, (ended closed).2, delivers.kept closed⟩, ?_, ?_⟩
  · intro r hr bulk
    rcases single with rfl | rfl | ⟨g, limit, rfl⟩
    · exact absurd (Use.call.inj hr).symm bulk
    · cases hr
    · cases hr
  · intro limit hl
    rcases single with rfl | rfl | ⟨g, limit', rfl⟩ <;> cases hl

variable (adds : E.Adds)
include adds

theorem obeys_next (h : st.Yields E d i s) :
    (Use.call .next).Obeys E d i s st ((Act.next d i).outcome st).1
      ((Act.next d i).outcome st).2 := by
  rcases h.delivers_next adds with
    ⟨none, answer, delivers, closed⟩ | ⟨x, xs, v, some, answer, hv, delivers, -⟩
  · rw [answer]
    exact .of_single (.inl rfl) delivers fun _ => ⟨rfl, closed⟩
  · rw [answer]
    refine .of_single (.inl rfl) (Use.given_next hv ▸ delivers) fun ended => ?_
    rw [h.ended ended] at some
    cases some

theorem obeys_bulk (h : st.Yields E d i s) {r : Reading} (bulk : r ≠ .next) :
    (Use.call r).Obeys E d i s st ((r.act d i).outcome st).1 ((r.act d i).outcome st).2 := by
  by_cases started : (st.cursorAt i).state = .streaming
  · obtain ⟨answer, delivers, state, source⟩ := h.refused adds bulk started
    rw [answer]
    refine ⟨delivers, fun ended => ?_, fun q hq _ _ => ⟨rfl, state, source⟩,
      fun limit impossible => by cases impossible⟩
    exact absurd (started.symm.trans ended) (by simp)
  · obtain ⟨vs, answer, delivers, -, state⟩ := h.delivers_bulk adds bulk started
    obtain ⟨given, nothing⟩ := Use.given_call_bulk bulk vs
    rw [answer]
    refine ⟨given.symm ▸ delivers, fun ended => ?_, fun q hq _ again => absurd again started,
      fun limit impossible => by cases impossible⟩
    rw [delivers.none_left adds (h.ended ended), nothing]
    exact ⟨rfl, state, delivers.kept ended⟩

theorem obeys_anext (h : st.Yields E (dispatch names n) i s) (offers : st.Offers i) :
    Use.anext.Obeys E (dispatch names n) i s st ((Use.anext.act names n i).outcome st).1
      ((Use.anext.act names n i).outcome st).2 := by
  have made : Delivers E (dispatch names n) i s st st.identified.identified [] :=
    h.delivers_none adds rfl rfl
  rw [Act.outcome_anext offers]
  rcases hn : (Act.next (dispatch names n) i).outcome st.identified.identified with ⟨result, after⟩
  have one := made.yields.delivers_next adds
  rw [hn] at one
  rcases one with ⟨none, answer, delivers, closed⟩ | ⟨x, xs, v, some, answer, hv, delivers, -⟩
  · obtain rfl : result = .ok .null := answer
    exact .of_single (.inr (.inl rfl)) (made.trans adds delivers) fun _ => ⟨rfl, closed⟩
  · obtain rfl : result = .ok v := answer
    have answer : (match ((.ok v, after) : Except Fault Value × Store) with
        | (.ok .null, after) => (.error (.raised .exhausted ""), after)
        | (result, after) => (result, after)) = (.ok v, after) := by
      cases v
      case null => exact absurd rfl hv
      all_goals rfl
    rw [answer]
    refine .of_single (.inr (.inl rfl)) (made.trans adds delivers) fun ended => ?_
    rw [show (st.identified.identified.sourceAt s).pending = (st.sourceAt s).pending from rfl,
      h.ended ended] at some
    cases some

theorem delivers_readStream (h : st.Yields E d i s) {g : Nat} (limit : Option Nat)
    (fits : (st.streams.getD g default).cursor = st.reader i) :
    ∃ vs after, (Act.readStream d g limit).outcome st = (.ok vs, after) ∧
      Delivers E d i s st after vs ∧ ((st.streams.getD g default).done = false →
        (after.sourceAt s).pending = unwanted limit (st.sourceAt s).pending) := by
  cases hd : (st.streams.getD g default).done with
  | true =>
    refine ⟨[], st, Act.outcome_readStream_done hd, .refl adds h, ?_⟩
    intro impossible
    cases impossible
  | false =>
    obtain ⟨vs, mid, read, delivers, left, -⟩ := h.delivers_some adds limit
    rw [← fits] at read
    obtain ⟨after, answer, beyond, desk⟩ := Act.outcome_readStream hd read
    refine ⟨vs, after, answer, ?_, fun _ => ?_⟩
    · have last := delivers.trans adds (delivers.yields.delivers_none adds beyond desk)
      rwa [List.append_nil] at last
    · rw [sourceAt_congr desk, left]

omit adds in
theorem outcome_iterate_stream (g : Nat) (limit : Option Nat) (st : Store) :
    (Act.iterate d (.handle (.stream g)) limit).outcome st =
      (((Act.readStream d g limit).outcome st).1.map .list,
        ((Act.readStream d g limit).outcome st).2) := by
  have walk : (Act.walkOver d (.handle (.stream g))).outcome st = (.ok (.handle (.stream g)), st) :=
    rfl
  rw [Act.iterate, Act.outcome_bind_ok walk]
  simp only [bind_pure_comp, Act.outcome_map]

theorem obeys_resume (h : st.Yields E (dispatch names n) i s) {g : Nat} (limit : Option Nat)
    (fits : (st.streams.getD g default).cursor = st.reader i) :
    (Use.resume g limit).Obeys E (dispatch names n) i s st
      (((Use.resume g limit).act names n i).outcome st).1
      (((Use.resume g limit).act names n i).outcome st).2 := by
  obtain ⟨vs, after, answer, delivers, -⟩ := delivers_readStream adds h limit fits
  rw [Use.act, outcome_iterate_stream, answer]
  refine .of_single (.inr (.inr ⟨g, limit, rfl⟩)) delivers fun ended => ⟨?_, delivers.closed ended⟩
  rw [delivers.none_left adds (h.ended ended)]
  rfl

theorem obeys_stream (h : st.Yields E (dispatch names n) i s) (offers : st.Offers i)
    (limit : Option Nat) :
    (Use.stream limit).Obeys E (dispatch names n) i s st
      (((Use.stream limit).act names n i).outcome st).1
      (((Use.stream limit).act names n i).outcome st).2 := by
  let opened : Store :=
    { st.identified with streams := st.streams.push { cursor := st.reader i } }
  have made : Delivers E (dispatch names n) i s st opened [] := h.delivers_none adds rfl rfl
  have stream : opened.streams.getD st.streams.size default = { cursor := st.reader i } := by
    simp [opened, Array.getD_eq_getD_getElem?]
  obtain ⟨vs, after, answer, delivers, left⟩ :=
    delivers_readStream adds made.yields (g := st.streams.size) limit (by rw [stream]; rfl)
  have called : ((dispatch names (n + 1)).call .never (st.reader i) "stream" [] []).outcome st =
      (.ok (.handle (.stream st.streams.size)), opened) := Act.outcome_call_stream offers
  rw [Use.act, Act.outcome_bind_ok (Act.outcome_get st), Act.outcome_bind_ok called,
    outcome_iterate_stream, answer]
  have delivers : Delivers E (dispatch names n) i s st after vs := made.trans adds delivers
  refine ⟨delivers, fun ended => ⟨?_, delivers.closed ended, delivers.kept ended⟩,
    fun r impossible => (by cases impossible), fun limit' same => ⟨⟨vs, rfl⟩, ?_⟩⟩
  · rw [delivers.none_left adds (h.ended ended)]
    rfl
  · obtain rfl := Use.stream.inj same
    exact left (by rw [stream])

theorem obeys_act (h : st.Yields E (dispatch names n) i s) (offers : st.Offers i) {u : Use}
    (fits : u.Fits st i) :
    u.Obeys E (dispatch names n) i s st ((u.act names n i).outcome st).1
      ((u.act names n i).outcome st).2 := by
  cases u with
  | call r =>
    by_cases hr : r = .next
    · subst hr
      exact obeys_next adds h
    · exact obeys_bulk adds h hr
  | anext => exact obeys_anext adds h offers
  | stream limit => exact obeys_stream adds h offers limit
  | resume g limit => exact obeys_resume adds h limit fits

end

def Passage.items (p : Passage Use) : List Value := p.use.given p.result

/-- Uses of a cursor, one after another. -/
abbrev Session (names : Names) (n i : Nat) (st : Store) : List (Passage Use) → Store → Prop :=
  Course (Use.act names n i) (fun now u => u.Fits now i) st

section

variable {E : Effect} {names : Names} {n i s : Nat} {st now : Store}
variable {past : List (Passage Use)}

theorem Store.Delivers.offers {vs : List Value} {d : Dispatch} (h : Delivers E d i s st now vs)
    (offers : st.Offers i) : now.Offers i := by
  intro name hn
  have registry : now.registry = st.registry := congrArg Setting.registry h.follows.setting
  rw [h.follows.reader, usual_congr h.follows.setting, registry]
  exact offers name hn

theorem session_delivers (adds : E.Adds) (h : st.Yields E (dispatch names n) i s)
    (offers : st.Offers i) (session : Session names n i st past now) :
    Delivers E (dispatch names n) i s st now (past.flatMap Passage.items) ∧
      ∀ p ∈ past, st.Follows p.before i s ∧
        p.use.Obeys E (dispatch names n) i s p.before p.result p.after := by
  induction session with
  | start => exact ⟨.refl adds h, fun p hp => absurd hp List.not_mem_nil⟩
  | step before u fits ih =>
    obtain ⟨delivers, each⟩ := ih
    have obeys := obeys_act adds delivers.yields (delivers.offers offers) fits
    refine ⟨?_, fun p hp => ?_⟩
    · rw [List.flatMap_append, List.flatMap_singleton]
      exact delivers.trans adds obeys.delivers
    · cases List.mem_append.mp hp with
      | inl hp => exact each p hp
      | inr hp =>
        rw [List.mem_singleton.mp hp]
        exact ⟨delivers.follows, obeys⟩

theorem Use.Obeys.given_stream {d : Dispatch} {u : Use} {result : Except Fault Value}
    {after : Store} {limit : Option Nat} (h : u.Obeys E d i s st result after)
    (hu : u = .stream limit) :
    ∃ vs, result = .ok (.list vs) ∧ E st (wanted limit (st.sourceAt s).pending) vs after := by
  obtain ⟨⟨vs, rfl⟩, left⟩ := h.streamed limit hu
  subst hu
  refine ⟨vs, rfl, h.delivers.each ?_⟩
  rw [left, wanted_append_unwanted]

theorem Store.offers_promisedPair : promisedPair.Offers 0 := by
  intro name hn
  simp only [List.mem_cons, List.not_mem_nil, or_false] at hn
  rcases hn with rfl | rfl | rfl <;> exact ⟨by decide +kernel, rfl⟩

end

end DocMapper
