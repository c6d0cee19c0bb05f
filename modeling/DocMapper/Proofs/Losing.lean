import DocMapper.Proofs.Wrapping

/-!
What a failed read costs.  A read that failed before it had taken anything leaves the cursor as it
was.  The documents that a read took are gone if one of them cannot be hydrated: nothing gives them
again, and the cursor comes to its end all the same.
-/

namespace DocMapper

namespace Reading

variable (r : Reading) (cls : ClassRef) {c : Cursor} {x : Source}

/-- A failing source keeps what it has, and a cursor that is at its end does not ask it. -/
theorem take_failing {e : Fault} (failing : x.failure = some e) :
    (r.take cls c x).1.1.state = c.state ∧ (r.take cls c x).1.2.pending = x.pending ∧
      (c.state = .exhausted ∨ ∃ e, (r.take cls c x).2 = .error e) := by
  rcases c with ⟨kind, state, _⟩
  rcases x with ⟨_, _ | _, _⟩
  case none => cases failing
  cases r <;> cases state <;>
    exact ⟨rfl, rfl, by first | exact .inl rfl | exact .inr ⟨_, rfl⟩⟩

variable (docs : ∀ v ∈ x.pending, v ≠ .null)
include docs

theorem take_error_still {e : Fault} (failed : (r.take cls c x).2 = .error e) :
    (r.take cls c x).1.1.state = c.state ∧ (r.take cls c x).1.2.pending = x.pending := by
  cases works : x.failure with
  | some => exact ⟨(r.take_failing cls works).1, (r.take_failing cls works).2.1⟩
  | none =>
    have took := r.takes cls c works docs
    generalize r.take cls c x = result at took failed ⊢
    cases took with
    | refused => exact ⟨rfl, rfl⟩
    | _ => cases failed

theorem take_nothing (found : (r.take cls c x).2 = .ok []) :
    c.state = .exhausted ∨ x.pending = [] := by
  cases works : x.failure with
  | some =>
    obtain ended | ⟨e, failed⟩ := (r.take_failing cls works (c := c)).2.2
    · exact .inl ended
    · cases found.symm.trans failed
  | none =>
    have took := r.takes cls c works docs
    generalize r.take cls c x = result at took found
    cases took with
    | nothing ended => exact .inl ended
    | last _ _ none => exact .inr none
    | all => exact .inr (Except.ok.inj found)
    | _ => cases found

theorem take_ended (ended : (r.take cls c x).1.1.state = .exhausted) :
    c.state = .exhausted ∧ (r.take cls c x).1.2.pending = x.pending ∨
      (r.take cls c x).1.2.pending = [] := by
  cases works : x.failure with
  | some =>
    obtain ⟨state, pending, -⟩ := r.take_failing cls works (c := c)
    exact .inl ⟨state.symm.trans ended, pending⟩
  | none =>
    have took := r.takes cls c works docs
    generalize r.take cls c x = result at took ended
    cases took with
    | nothing | refused => exact .inl ⟨ended, rfl⟩
    | last _ _ none => exact .inr none
    | one => cases ended
    | all => exact .inr rfl

end Reading

/-- What happens to a cursor: it is read, or its source begins or ceases to fail. -/
inductive Turn
  | read (r : Reading)
  | fails (failure : Option Fault)

namespace Turn

def act (d : Dispatch) (i s : Nat) : Turn → Act Value
  | read r => r.act d i
  | fails failure => do
    Act.setSource s { (← Act.source s) with failure }
    return .null

/-- The documents that a turn takes from the source. -/
def taken (st : Store) (i s : Nat) : Turn → List Value
  | read r => r.taken (st.classOf (st.reader i)) (st.cursorAt i) (st.sourceAt s)
  | fails _ => []

end Turn

/-- The documents that were taken. -/
def Passage.took (i s : Nat) (p : Passage Turn) : List Value := p.use.taken p.before i s

/-- The state of the cursor and the documents that are still to come are what they were. -/
def Passage.Stays (i s : Nat) (p : Passage Turn) : Prop :=
  (p.after.cursorAt i).state = (p.before.cursorAt i).state ∧
    (p.after.sourceAt s).pending = (p.before.sourceAt s).pending

/-- A cursor over documents; at the end there are none left. -/
structure Store.Feeds (st : Store) (d : Dispatch) (i s : Nat) : Prop extends st.Serves d i s where
  docs : ∀ x ∈ (st.sourceAt s).pending, x ≠ .null
  ended : (st.cursorAt i).state = .exhausted → (st.sourceAt s).pending = []

/-- What a turn does to the documents: those that it took are not left any more. -/
structure Turn.Accounts (t : Turn) (d : Dispatch) (i s : Nat) (st : Store)
    (result : Except Fault Value) (after : Store) : Prop where
  follows : st.Follows after i s
  feeds : after.Feeds d i s
  split : (st.sourceAt s).pending = t.taken st i s ++ (after.sourceAt s).pending
  read : ∀ r, t = .read r → r.Ends d i s st result after
  fails : ∀ failure, t = .fails failure → result = .ok .null

section

variable {d : Dispatch} {i s : Nat} {st now : Store}

theorem Store.Feeds.accounts_read (h : st.Feeds d i s) (r : Reading) :
    (Turn.read r).Accounts d i s st ((r.act d i).outcome st).1 ((r.act d i).outcome st).2 := by
  have e : r.Ends d i s st ((r.act d i).outcome st).1 ((r.act d i).outcome st).2 :=
    Reading.ends_act h.toServes
  have split := r.take_split (st.classOf (st.reader i)) (c := st.cursorAt i) h.docs
  rw [← e.source] at split
  refine ⟨e.follows, ⟨e.serves h.toServes, fun x hx => ?_, fun ended => ?_⟩, split.symm,
    fun _ same => Turn.read.inj same ▸ e, fun _ impossible => by cases impossible⟩
  · exact h.docs x (split ▸ List.mem_append_right _ hx)
  · rw [e.state] at ended
    rw [e.source]
    obtain ⟨before, still⟩ | none := r.take_ended _ h.docs ended
    · rw [still, h.ended before]
    · exact none

theorem Store.Feeds.accounts_fails (h : st.Feeds d i s) (failure : Option Fault) :
    ∃ after, ((Turn.fails failure).act d i s).outcome st = (.ok .null, after) ∧
      (Turn.fails failure).Accounts d i s st (.ok .null) after := by
  let after := st.putSource s { st.sourceAt s with failure }
  have pending : (after.sourceAt s).pending = (st.sourceAt s).pending := by
    rw [Store.sourceAt_putSource h.reads.source_lt]
  have reads : after.Reads i s :=
    h.reads.of_alike rfl rfl (by simp [after]) rfl h.reads.lock h.reads.native
  have follows : st.Follows after i s := ⟨reads, h.unspent, rfl, rfl, rfl, id⟩
  refine ⟨after, ?_, follows, ⟨⟨reads, h.unspent, ?_⟩, ?_, ?_⟩, pending.symm,
    fun _ impossible => (by cases impossible), fun _ _ => rfl⟩
  · rw [Turn.act, Act.outcome_bind_ok (Act.outcome_source s st)]
    rfl
  · rw [pending]
    exact h.quiet
  · rw [pending]
    exact h.docs
  · rw [pending]
    exact h.ended

theorem Store.Feeds.accounts (h : st.Feeds d i s) (t : Turn) :
    t.Accounts d i s st ((t.act d i s).outcome st).1 ((t.act d i s).outcome st).2 := by
  cases t with
  | read r => exact h.accounts_read r
  | fails failure =>
    obtain ⟨after, done, accounts⟩ := h.accounts_fails failure
    rw [done]
    exact accounts

/-- What hydrating documents one after another may give while functions are what they are now. -/
def Store.HydratesTo (st : Store) (d : Dispatch) (i : Nat) (xs : List Value)
    (found : Except Fault (List Value)) : Prop :=
  ∃ σ : Store, σ.setting = st.setting ∧
    ((Act.deliverEach d (st.cursorAt i) xs).outcome σ).1 = found

theorem Store.HydratesTo.follows {before : Store} {xs : List Value}
    {found : Except Fault (List Value)} (f : before.Follows st i s)
    (h : st.HydratesTo d i xs found) : before.HydratesTo d i xs found := by
  obtain ⟨σ, same, gives⟩ := h
  rw [Act.deliverEach_alike f.kind f.hydrate] at gives
  exact ⟨σ, same.trans f.setting, gives⟩

/-- What a read answers, and what its failure costs. -/
structure Reading.Costs (r : Reading) (d : Dispatch) (i s : Nat) (st : Store)
    (p : Passage Turn) : Prop where
  given : ∀ v, p.result = .ok v →
    ∃ vs, st.HydratesTo d i (p.took i s) (.ok vs) ∧ v = r.answer vs
  last : ∀ v, p.result = .ok v → p.took i s = [] → (p.after.sourceAt s).pending = []
  failed : ∀ e, p.result = .error e → p.took i s = [] ∧ p.Stays i s ∨
    p.took i s ≠ [] ∧ ¬p.Stays i s ∧ st.HydratesTo d i (p.took i s) (.error e)

theorem Reading.costs {r : Reading} {result : Except Fault Value} {after : Store}
    (h : st.Feeds d i s) (a : (Turn.read r).Accounts d i s st result after) :
    r.Costs d i s st ⟨.read r, st, result, after⟩ := by
  have ends := a.read r rfl
  obtain ⟨σ, beyond, answers⟩ := ends.answers
  have setting := Store.setting_of_beyond beyond
  have took : Passage.took i s ⟨.read r, st, result, after⟩ =
      ((r.take (st.classOf (st.reader i)) (st.cursorAt i) (st.sourceAt s)).2.toOption).getD [] := rfl
  cases found : (r.take (st.classOf (st.reader i)) (st.cursorAt i) (st.sourceAt s)).2 with
  | error f =>
    -- the read was refused, or its source failed
    rw [found] at answers took
    obtain ⟨state, pending⟩ := r.take_error_still _ h.docs found
    refine ⟨fun v ok => ?_, fun v ok => ?_, fun e _ => .inl ⟨took, ?_, ?_⟩⟩
    · cases answers.1.symm.trans ok
    · cases answers.1.symm.trans ok
    · exact ends.state.trans state
    · exact (congrArg Source.pending ends.source).trans pending
  | ok xs =>
    rw [found] at answers took
    have took : Passage.took i s ⟨.read r, st, result, after⟩ = xs := took
    have split : (st.sourceAt s).pending = xs ++ (after.sourceAt s).pending := took ▸ a.split
    have hydrated := answers.1
    rcases each : (Act.deliverEach d (st.cursorAt i) xs).outcome σ with ⟨f | vs, later⟩
    all_goals rw [each] at hydrated
    · refine ⟨fun v ok => (by cases hydrated.symm.trans ok), fun v ok => ?_, fun e failed => .inr ?_⟩
      · cases hydrated.symm.trans ok
      · obtain rfl : f = e := Except.error.inj (hydrated.symm.trans failed)
        have some : xs ≠ [] := by
          rintro rfl
          cases each
        refine ⟨took ▸ some, fun stays => ?_, σ, setting, ?_⟩
        · exact some (List.append_left_eq_self.mp (split.symm.trans stays.2.symm))
        · rw [took, each]
    · refine ⟨fun v ok => ⟨vs, ⟨σ, setting, ?_⟩, ?_⟩, fun v _ none => ?_, fun e failed => ?_⟩
      · rw [took, each]
      · exact (Except.ok.inj (hydrated.symm.trans ok)).symm
      · obtain rfl : xs = [] := took.symm.trans none
        have empty : (st.sourceAt s).pending = [] :=
          (r.take_nothing _ h.docs found).elim h.ended id
        exact split.symm.trans empty
      · cases hydrated.symm.trans failed

/-- A cost is told from where a run began. -/
theorem Reading.Costs.follows {r : Reading} {before : Store} {p : Passage Turn}
    (f : before.Follows st i s) (h : r.Costs d i s st p) : r.Costs d i s before p where
  given v ok := by
    obtain ⟨vs, gives, answer⟩ := h.given v ok
    exact ⟨vs, gives.follows f, answer⟩
  last := h.last
  failed e failed := (h.failed e failed).imp id fun ⟨any, lost, gives⟩ =>
    ⟨any, lost, gives.follows f⟩

/-- What happens to a cursor, one turn after another. -/
abbrev Turns (d : Dispatch) (i s : Nat) (st : Store) : List (Passage Turn) → Store → Prop :=
  Course (Turn.act d i s) (fun _ _ => True) st

theorem turns_account {past : List (Passage Turn)} (h : st.Feeds d i s)
    (turns : Turns d i s st past now) :
    st.Follows now i s ∧ now.Feeds d i s ∧
      (st.sourceAt s).pending = past.flatMap (Passage.took i s) ++ (now.sourceAt s).pending ∧
      ∀ p ∈ past, ∀ r, p.use = .read r → r.Costs d i s st p := by
  induction turns with
  | start => exact ⟨h.reads.follows h.unspent, h, rfl, fun p hp => absurd hp List.not_mem_nil⟩
  | @step past now before t _ ih =>
    obtain ⟨follows, feeds, split, each⟩ := ih
    have accounts := feeds.accounts t
    refine ⟨follows.trans accounts.follows, accounts.feeds, ?_, fun p hp r read => ?_⟩
    · rw [split, accounts.split, List.flatMap_append, List.flatMap_singleton, List.append_assoc]
      rfl
    · obtain hp | hp := List.mem_append.mp hp
      · exact each p hp r read
      · obtain rfl := List.mem_singleton.mp hp
        obtain rfl : t = .read r := read
        exact (Reading.costs feeds accounts).follows follows

/-- Every document is taken once, and at the end all are.  A read that fails before it takes any
leaves the cursor as it was; those that it took before it failed are never given, since a read gives
only what it takes. -/
theorem failed_read_loses {past : List (Passage Turn)} (h : st.Feeds d i s)
    (turns : Turns d i s st past now) :
    (st.sourceAt s).pending = past.flatMap (Passage.took i s) ++ (now.sourceAt s).pending ∧
    ((now.cursorAt i).state = .exhausted →
      (st.sourceAt s).pending = past.flatMap (Passage.took i s)) ∧
    ∀ p ∈ past, ∀ r, p.use = .read r →
      (∀ v, p.result = .ok v →
        (∃ vs, st.HydratesTo d i (p.took i s) (.ok vs) ∧ v = r.answer vs) ∧
          (p.took i s = [] → (p.after.sourceAt s).pending = [])) ∧
      ∀ e, p.result = .error e → p.took i s = [] ∧ p.Stays i s ∨
        p.took i s ≠ [] ∧ ¬p.Stays i s ∧ st.HydratesTo d i (p.took i s) (.error e) := by
  obtain ⟨-, feeds, split, each⟩ := turns_account h turns
  refine ⟨split, fun ended => ?_, fun p hp r read => ?_⟩
  · rw [split, feeds.ended ended, List.append_nil]
  · have costs := each p hp r read
    exact ⟨fun v ok => ⟨costs.given v ok, costs.last v ok⟩, costs.failed⟩

end

/-- A cursor over two documents, each of which is to become an address. -/
def Store.addressing : Store where
  cursors := #[{
    kind := .query, source := .handle (.source 0), model := .cls .root,
    hydrate := .cls (.known "Address") }]
  sources := #[{ pending := [.dict [(.str "n", .int 1)], .dict [(.str "n", .int 2)]] }]

/-- An address is made of two things. -/
def unaddressed : Fault :=
  .raised .type "Address.__init__() missing 1 required positional argument: 'zipcode'"

theorem Store.addressing_maker (x : Value) :
    ∃ m, addressing.registry.maker? (.known "Address") = some m ∧
      m.bind [.null, x] [] = .error unaddressed := by
  let m : Method :=
    Interface.maker?.make "Address" [.required "city", .required "zipcode"]
  have lacking : m.bind [.null, x] [] = .error (m.missing ["zipcode"]) := rfl
  have said : m.missing ["zipcode"] = unaddressed := by cbv
  exact ⟨m, rfl, lacking.trans (congrArg Except.error said)⟩

theorem Act.outcome_addressing (x : Value) {σ : Store}
    (same : σ.setting = Store.addressing.setting) :
    (deliver (dispatch [] 1) (Store.addressing.cursorAt 0) x).outcome σ =
      (.error unaddressed, σ) := by
  have registry : (registry).outcome σ = (.ok Store.addressing.registry, σ) := by
    rw [show Store.addressing.registry = σ.registry from (congrArg Setting.registry same).symm]
    rfl
  obtain ⟨m, maker, bind⟩ := Store.addressing_maker x
  have made : (construct (dispatch [] 0) (.known "Address") [x] []).outcome σ =
      (.error unaddressed, σ) := by
    rw [construct, outcome_bind_ok registry, maker]
    simp only [bind]
    rfl
  exact outcome_bind_error made

theorem Store.feeds_addressing : addressing.Feeds (dispatch [] 1) 0 0 where
  reads := {
    cursor_lt := by decide
    source_lt := by decide
    lock := .inl rfl
    native := .inl rfl
    functions := by decide +kernel
    hydrates := by decide +kernel
    requests := by decide +kernel
    results := rfl }
  unspent p hp := by cases hp
  quiet x _ σ same := by
    rw [Act.outcome_addressing x same]
    exact ⟨same, rfl⟩
  docs := by simp [addressing, sourceAt]
  ended closed := by cases closed

/-- Two reads that fail, and a third that finds the end. -/
theorem failed_read_loses_addresses :
    ∃ past now, Turns (dispatch [] 1) 0 0 .addressing past now ∧
      past.map Passage.result = [.error unaddressed, .error unaddressed, .ok .null] ∧
      past.flatMap (Passage.took 0 0) = (Store.addressing.sourceAt 0).pending ∧
      ∀ p ∈ past, p.result = .error unaddressed → ¬p.Stays 0 0 := by
  have turns : Turns (dispatch [] 1) 0 0 .addressing [] .addressing := .start
  have turns := turns.step (.read .next) trivial
  have turns := turns.step (.read .next) trivial
  have turns := turns.step (.read .next) trivial
  obtain ⟨-, ended, each⟩ := failed_read_loses Store.feeds_addressing turns
  refine ⟨_, _, turns, rfl, (ended rfl).symm, fun p hp failed stays => ?_⟩
  have read : p.use = .read .next ∧ (p.result = .error unaddressed → p.took 0 0 ≠ []) := by
    simp only [List.nil_append, List.cons_append, List.mem_cons, List.not_mem_nil, or_false] at hp
    rcases hp with rfl | rfl | rfl
    · exact ⟨rfl, fun _ none => by cases none⟩
    · exact ⟨rfl, fun _ none => by cases none⟩
    · exact ⟨rfl, fun impossible => by cases impossible⟩
  obtain ⟨none, -⟩ | ⟨-, lost, -⟩ := (each p hp .next read.1).2 _ failed
  · exact read.2 failed none
  · exact lost stays

end DocMapper
