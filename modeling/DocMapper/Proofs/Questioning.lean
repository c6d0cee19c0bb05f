import DocMapper.Proofs.Accepting
import DocMapper.Proofs.Listening
import DocMapper.Proofs.Preparing

/-!
Calls that run no function on a pipeline.  What is written down is completed before a call is made;
a stage is mostly made of that alone.  The criteria of a match may be asked of a function, which is
given a fresh query then.
-/

namespace DocMapper

namespace Names

/-- A value is written down as it is, or by a name that is bound to it. -/
inductive Stands (names : Names) (w : Value) : Value → Prop
  | literal : Stands names w w
  | named {name : String} (bound : names.lookup name = some w) :
      Stands names w (.handle (.variable [name]))

/-- What a written value may come to. -/
def Yields (names : Names) (v w : Value) : Prop :=
  ∃ n st after, (names.complete (DocMapper.dispatch names n) v).outcome st = (.ok w, after)

/-- A written value that runs no function on a pipeline, and binds none, when it is completed. -/
def Silent (names : Names) (v : Value) : Prop :=
  ∀ n (st : Store), Act.Keeps st.Hushed (names.complete (DocMapper.dispatch names n) v)

variable {names : Names} {v w : Value} {n : Nat} {st after : Store}

theorem silent_named (name : String) : names.Silent (.handle (.variable [name])) := by
  intro n st now here
  rw [outcome_complete_named]
  exact here

theorem silent_made (i : Option Nat) (ks : List Call) (result : Option Value) :
    names.Silent (.object i (.function ks result)) :=
  fun _ _ => .of_hushed fun now => .identified now

theorem silent_items {d : Dispatch} {xs : List Value}
    (silent : ∀ x ∈ xs, Act.Keeps st.Hushed (names.complete d x)) :
    Act.Keeps st.Hushed (names.completeItems d xs) := by
  induction xs with
  | nil => exact .pure _
  | cons x xs ih =>
    obtain ⟨first, rest⟩ := List.forall_mem_cons.mp silent
    exact .bind first fun _ => .bind (ih rest) fun _ => .pure _

theorem silent_entries {d : Dispatch} {es : Entries}
    (keys : ∀ e ∈ es, Act.Keeps st.Hushed (names.complete d e.1))
    (values : ∀ e ∈ es, Act.Keeps st.Hushed (names.complete d e.2)) :
    Act.Keeps st.Hushed (names.completeEntries d es) := by
  induction es with
  | nil => exact .pure _
  | cons e es ih =>
    obtain ⟨key, keys⟩ := List.forall_mem_cons.mp keys
    obtain ⟨value, values⟩ := List.forall_mem_cons.mp values
    exact .bind key fun _ => .bind value fun _ => .bind (ih keys values) fun _ => .pure _

/-- Data is silent. -/
theorem silent_plain (plain : v.Plain) : names.Silent v := by
  intro n st
  induction plain with
  | float t =>
    unfold complete
    split
    · exact .bind (.of_hushed fun now => .identified now) fun _ => .pure _
    all_goals first | exact .pure _ | contradiction
  | list xs _ ih => exact .bind (silent_items ih) fun _ => .pure _
  | tuple xs _ ih => exact .bind (silent_items ih) fun _ => .pure _
  | set xs _ ih => exact .bind (silent_items ih) fun _ => .pure _
  | frozenSet xs _ ih => exact .bind (silent_items ih) fun _ => .pure _
  | dict es _ _ keys values => exact .bind (silent_entries keys values) fun _ => .pure _
  | mapping es _ _ keys values => exact .bind (silent_entries keys values) fun _ => .pure _
  | _ => exact .pure _

/-- What is its own completion comes to nothing else. -/
theorem yields_same {u : Value} (stands : names.Stands u v) (own : ∀ d, names.complete d u = pure u)
    (current : ∀ st : Store, st.current u = u) (yields : names.Yields v w) : w = u := by
  obtain ⟨n, st, after, done⟩ := yields
  cases stands with
  | literal =>
    rw [own] at done
    cases done
    rfl
  | named bound =>
    rw [outcome_complete_named, bound, Option.map_some, current] at done
    cases done
    rfl

theorem yields_function {i : Option Nat} {ks : List Call} {result : Option Value}
    (stands : names.Stands (.object i (.function ks result)) v) (yields : names.Yields v w) :
    ∃ j, w = .object j (.function ks result) := by
  obtain ⟨n, st, after, done⟩ := yields
  cases stands with
  | literal =>
    cases done
    exact ⟨_, rfl⟩
  | named bound =>
    rw [outcome_complete_named, bound] at done
    cases done
    exact ⟨_, rfl⟩

/-- Data comes to data, so never to a builder. -/
theorem yields_plain (plain : v.Plain) (yields : names.Yields v w) :
    ¬Act.isPipeline w ∧ ¬Act.isQuery w := by
  obtain ⟨n, st, after, done⟩ := yields
  cases plain with
  | float t =>
    unfold complete at done
    split at done
    all_goals first
      | contradiction
      | (cases done; exact ⟨Bool.false_ne_true, Bool.false_ne_true⟩)
  | list | tuple | set | frozenSet | dict | mapping =>
    obtain ⟨_, _, -, done⟩ := Act.outcome_bind_eq_ok done
    cases done
    exact ⟨Bool.false_ne_true, Bool.false_ne_true⟩
  | _ =>
    cases done
    exact ⟨Bool.false_ne_true, Bool.false_ne_true⟩

/-- Entries under texts are completed one by one. -/
theorem yields_entries {es fs : Entries} (texts : es.Texts)
    (done : (names.completeEntries (DocMapper.dispatch names n) es).outcome st = (.ok fs, after)) :
    Entries.Related names.Yields es fs := by
  induction es generalizing st fs with
  | nil =>
    cases done
    exact .nil
  | cons e es ih =>
    obtain ⟨k, v⟩ := e
    obtain ⟨s, rfl⟩ := texts _ List.mem_cons_self
    obtain ⟨key, mid, spelled, done⟩ := Act.outcome_bind_eq_ok done
    cases spelled
    obtain ⟨w, mid, valued, done⟩ := Act.outcome_bind_eq_ok done
    obtain ⟨gs, last, rest, done⟩ := Act.outcome_bind_eq_ok done
    cases done
    exact .cons ⟨rfl, n, _, mid, valued⟩ (ih texts.tail rest)

end Names

/-- What a call does to the builder that it is made on. -/
def Call.perform (k : Call) (names : Names) (d : Dispatch) (self : Value) : Act Value := do
  let (args, named) ← k.written names d
  d.call .never self k.method args named

theorem Act.runCalls_perform {d : Dispatch} {names : Names} {self : Value} {k : Call}
    {ks : List Call} (target : k.target = none) :
    runCalls d names self (k :: ks) = (do
      let _ ← k.perform names d self
      runCalls d names self ks) := by
  simp only [runCalls_cons target, Call.perform, bind_assoc]

/-- A call with one argument, which may be given by its name. -/
structure Call.Passes (k : Call) (method key : String) (v : Value) : Prop where
  target : k.target = none
  method : k.method = method
  given : k.args = [v] ∧ k.named = [] ∨ k.args = [] ∧ k.named = [(.str key, v)]

/-- A call that runs no function on a pipeline, and binds none to another model, from a store on. -/
structure Call.Quiet (k : Call) (names : Names) (β : Store) : Prop where
  target : k.target = none
  hushed : ∀ n (st : Store) c i model, β.Advances st → st.Crew c i model →
    st.Hushed ((k.perform names (dispatch names n) (.handle (.pipeline c i))).outcome st).2

section

variable {names : Names} {k : Call} {β st : Store} {c : ClassRef} {i : Nat} {model : Value}
variable {ms : List Value} {n : Nat}

theorem Names.silent_written (args : ∀ v ∈ k.args, names.Silent v)
    (named : ∀ e ∈ k.named, names.Silent e.1 ∧ names.Silent e.2) (n : Nat) (st : Store) :
    Act.Keeps st.Hushed (k.written names (DocMapper.dispatch names n)) :=
  .bind (silent_items fun v there => args v there n st) fun _ =>
    .bind (silent_entries (fun e there => (named e there).1 n st)
      fun e there => (named e there).2 n st) fun _ => .pure _

/-- A call on a pipeline runs what is run for its stage. -/
theorem Call.gives_perform (crew : st.Crew c i model) (stage : StageCall.isMethod k.method)
    (silent : ∀ m, Act.Keeps st.Hushed (k.written names (dispatch names m)))
    (made : ∀ args named mid,
      (k.written names (dispatch names n)).outcome st = (.ok (args, named), mid) →
      ∀ m now call, st.Advances now → StageCall.of? k.method args named = some call →
      Act.Gives c ms now
        ((Act.stageOf (dispatch names m) (.handle (.pipeline c i)) call).outcome now)) :
    Act.Gives c ms st
      ((k.perform names (dispatch names n) (.handle (.pipeline c i))).outcome st) := by
  refine Act.Gives.bind_quiet (silent n) fun (args, named) mid written l => ?_
  refine (crew.advanced l).gives_method n stage fun m now call hushed is => ?_
  exact made args named mid written m now call (l.trans hushed.toAdvances) is

namespace Call.Passes

variable {method key : String} {v : Value} {make : Value → StageCall}
variable (passes : k.Passes method key v)
include passes

theorem silent_written (silent : names.Silent v) (n : Nat) (st : Store) :
    Act.Keeps st.Hushed (k.written names (dispatch names n)) := by
  obtain ⟨-, -, ⟨args, none⟩ | ⟨none, args⟩⟩ := passes
  · exact Names.silent_written (by simpa [args] using silent) (by simp [none]) n st
  · have spelled : names.Silent (.str key) := Names.silent_plain (.str key)
    exact Names.silent_written (by simp [none]) (by simpa [args] using ⟨spelled, silent⟩) n st

/-- The stage that a call with one argument stands for. -/
theorem stands (positional : ∀ w, StageCall.of? method [w] [] = some (make w))
    (named : ∀ w, StageCall.of? method [] [(.str key, w)] = some (make w))
    {as : List Value} {bs : Entries} {after : Store}
    (written : (k.written names (dispatch names n)).outcome st = (.ok (as, bs), after)) :
    ∃ w, names.Yields v w ∧ StageCall.of? k.method as bs = some (make w) := by
  obtain ⟨-, rfl, ⟨args, none⟩ | ⟨none, args⟩⟩ := passes <;>
    rw [Call.written, args, none] at written
  · obtain ⟨as, _, completed, written⟩ := Act.outcome_bind_eq_ok written
    obtain ⟨w, _, given, completed⟩ := Act.outcome_bind_eq_ok completed
    cases completed
    cases written
    exact ⟨w, ⟨n, _, _, given⟩, positional w⟩
  · obtain ⟨as, _, completed, written⟩ := Act.outcome_bind_eq_ok written
    cases completed
    obtain ⟨bs, _, completed, written⟩ := Act.outcome_bind_eq_ok written
    obtain ⟨spelled, _, spells, completed⟩ := Act.outcome_bind_eq_ok completed
    cases spells
    obtain ⟨w, _, given, completed⟩ := Act.outcome_bind_eq_ok completed
    cases completed
    cases written
    exact ⟨w, ⟨n, _, _, given⟩, named w⟩

/-- A call with one argument runs what is run for its stage. -/
theorem gives (stage : StageCall.isMethod method)
    (positional : ∀ w, StageCall.of? method [w] [] = some (make w))
    (named : ∀ w, StageCall.of? method [] [(.str key, w)] = some (make w))
    (crew : st.Crew c i model) (n : Nat) (silent : names.Silent v)
    (made : ∀ w, names.Yields v w → ∀ m now, st.Advances now →
      Act.Gives c ms now
        ((Act.stageOf (dispatch names m) (.handle (.pipeline c i)) (make w)).outcome now)) :
    Act.Gives c ms st
      ((k.perform names (dispatch names n) (.handle (.pipeline c i))).outcome st) := by
  refine Call.gives_perform crew (passes.method ▸ stage) (passes.silent_written silent · st)
    fun as bs mid written m now call l is => ?_
  obtain ⟨w, yields, stands⟩ := passes.stands positional named written
  cases stands.symm.trans is
  exact made w yields m now l

end Call.Passes

/-- A call that asks neither builders nor functions for its stage is quiet. -/
theorem Call.quiet_of_idle (target : k.target = none) (stage : StageCall.isMethod k.method)
    (args : ∀ v ∈ k.args, names.Silent v)
    (named : ∀ e ∈ k.named, names.Silent e.1 ∧ names.Silent e.2)
    (idle : ∀ n (st : Store) as bs mid call,
      (k.written names (dispatch names n)).outcome st = (.ok (as, bs), mid) →
      StageCall.of? k.method as bs = some call → call.Asks Value.Idle Value.Idle) :
    k.Quiet names β where
  target := target
  hushed n st c i model _ crew := by
    refine Act.Gives.quiet_iff.mp (gives_perform crew stage
      (fun m => Names.silent_written args named m st) fun as bs mid written m now call l is => ?_)
    have asks := idle n st as bs mid call written is
    refine Act.Gives.quiet_iff.mpr (Act.Keeps.stageOf (Act.Keeps.hushed_reads names m)
      (StageCall.Asks.imp asks (fun v idle => (crew.advanced l).spares idle) fun v idle => ?_)
      now (.refl now))
    exact ⟨fun query => absurd query idle.query, fun callable => absurd callable idle.callable⟩

/-- The calls that make their stage of data alone. -/
theorem StageCall.asks_none {P Q : Value → Prop} {method : String} {args : List Value}
    {named : Entries} {call : StageCall} (stands : of? method args named = some call)
    (alone : method ∉ ["match", "lookup", "facet", "union_with"]) : call.Asks P Q := by
  unfold of? at stands
  split at stands
  · obtain ⟨a, -, stands⟩ := Option.bind_eq_some_iff.mp stands
    unfold ofMethod? at stands
    split at stands <;> cases stands
    all_goals first
      | exact fun _ none => absurd none List.not_mem_nil
      | exact absurd (by decide) alone
  · cases stands

theorem Call.quiet_of_alone (target : k.target = none) (stage : StageCall.isMethod k.method)
    (alone : k.method ∉ ["match", "lookup", "facet", "union_with"])
    (args : ∀ v ∈ k.args, names.Silent v)
    (named : ∀ e ∈ k.named, names.Silent e.1 ∧ names.Silent e.2) : k.Quiet names β :=
  quiet_of_idle target stage args named fun _ _ _ _ _ _ _ is => StageCall.asks_none is alone

end

/-- What a call is given as alternatives. -/
def QueryCall.alternatives : QueryCall → List Value
  | .every v | .either v => v.listed?.getD []
  | _ => []

namespace Store

/-- A query has the functions of the library. -/
def Fitted (st : Store) (k : QueryKind) (i : Nat) : Prop :=
  ∀ name m, Interface.queryMembers.lookup name = some (.method m) →
    st.usual (.handle (.query k i)) Act.queryClass name ∧
      st.registry.ownMember? Act.queryClass name = some (.method m)

/-- What is no query, or one with the functions of the library. -/
def Answers (st : Store) (v : Value) : Prop :=
  ∀ k i, v = .handle (.query k i) → st.Built (.query k i) ∧ st.Fitted k i

variable {st after : Store} {k : QueryKind} {i : Nat}

theorem Fitted.of_bare (bare : st.Bare (.query .unbound i)) (pristine : st.registry.Pristine) :
    st.Fitted .unbound i :=
  fun _ _ => bare.usual_query pristine rfl (.inl rfl)

theorem Fitted.advanced (fitted : st.Fitted k i) (l : st.Advances after)
    (there : st.Built (.query k i) ∨ after.Coming (.query k i)) : after.Fitted k i := by
  intro name m found
  rw [l.usual there, l.ownMember?]
  exact fitted name m found

theorem Fitted.answers (fitted : st.Fitted k i) (built : st.Built (.query k i)) :
    st.Answers (.handle (.query k i)) := by
  intro l j is
  cases is
  exact ⟨built, fitted⟩

theorem Answers.advanced {v : Value} (answers : st.Answers v) (l : st.Advances after) :
    after.Answers v := by
  intro k i is
  obtain ⟨built, fitted⟩ := answers k i is
  exact ⟨l.built built, fitted.advanced l (.inl built)⟩

end Store

/-- A call on a query, which is given no queries but those that there were and that have the
functions of the library. -/
structure Call.Restricts (k : Call) (names : Names) (β : Store) : Prop where
  target : k.target = none
  found : ∃ m, Interface.queryMembers.lookup k.method = some (.method m)
  stating : k.method ∉ ["_compare", "_branches", "to_json", "get_options"]
  args : ∀ v ∈ k.args, names.Silent v
  named : ∀ e ∈ k.named, names.Silent e.1 ∧ names.Silent e.2
  given : ∀ n (st : Store) as bs mid self call,
    (k.written names (dispatch names n)).outcome st = (.ok (as, bs), mid) →
    Fluent.call? self ⟨k.method, as, bs⟩ = some call → ∀ v ∈ call.alternatives, β.Answers v

/-- The calls on a query that are given no alternatives. -/
theorem Call.restricts_of_alone {k : Call} {names : Names} {β : Store} (target : k.target = none)
    (found : ∃ m, Interface.queryMembers.lookup k.method = some (.method m))
    (alone : k.method ∉ ["_compare", "_branches", "to_json", "get_options", "and_", "or_"])
    (args : ∀ v ∈ k.args, names.Silent v)
    (named : ∀ e ∈ k.named, names.Silent e.1 ∧ names.Silent e.2) : k.Restricts names β where
  target := target
  found := found
  stating := by simp_all
  args := args
  named := named
  given n st as bs mid self call _ is := by
    have none : call.alternatives = [] := by
      simp only [Fluent.call?] at is
      split at is
      · obtain ⟨a, -, is⟩ := Option.bind_eq_some_iff.mp is
        unfold QueryCall.ofMethod? at is
        split at is <;> cases is
        all_goals first | rfl | exact absurd alone (by simp [*])
      · cases is
    rw [none]
    simp

namespace Act.Keeps

variable {names : Names} {d : Dispatch} {st : Store} {k : QueryKind} {i n : Nat} {v : Value}

theorem hushed_applyCall (call : QueryCall) :
    Keeps st.Hushed (applyCall d (.handle (.query k i)) call) := by
  have placed (q : Query) (message : Store → String) :
      Keeps st.Hushed (do
        setQuery i q
        noteOf (.handle (.query k i)) .debug message
        return Value.handle (.query k i)) :=
    .bind (.of_hushed fun now => .setQuery now i q) fun _ =>
      .bind (hushed_noteOf _ _ _) fun _ => .pure _
  refine .bind (.bind (fun _ => id) fun _ => .pure _) fun before => .ofExcept fun q _ => ?_
  dsimp only
  split
  · split
    · exact placed _ _
    · exact placed _ _
    · exact placed _ _
    · exact .throw _
  · exact placed _ _

theorem hushed_queryJson (answers : st.Answers v) (query : isQuery v) :
    Keeps st.Hushed (queryJson d v) := by
  unfold isQuery at query
  split at query
  · rename_i k i
    obtain ⟨built, fitted⟩ := answers k i rfl
    intro now here
    obtain ⟨usual, -⟩ := fitted.advanced here.toAdvances (.inl built) "to_json" _ rfl
    rw [queryJson, outcome_callOr_usual usual]
    have own : Keeps st.Hushed (ownCriteria d (.handle (.query k i))) :=
      .bind (.bind (fun _ => id) fun _ => .pure _) fun q => hushed_copy _
    exact own now here
  · cases query

theorem hushed_branchesGiven {vs : List Value} (answers : ∀ v ∈ vs, st.Answers v)
    (method : String) (index : Nat) : Keeps st.Hushed (branchesGiven d method index vs) := by
  induction vs generalizing index with
  | nil => exact .pure _
  | cons v vs ih =>
    obtain ⟨answer, answers⟩ := List.forall_mem_cons.mp answers
    unfold branchesGiven
    have rest (b : Value) : Keeps st.Hushed (do
        return b :: (← branchesGiven d method (index + 1) vs)) :=
      .bind (ih answers _) fun _ => .pure _
    dsimp only
    split
    · exact .bind (hushed_queryJson answer ‹_›) rest
    · exact .ofExcept fun b _ => rest b

section

variable (built : st.Built (.query k i)) (fitted : st.Fitted k i)
include built fitted

theorem hushed_alternative (answers : ∀ x ∈ v.listed?.getD [], st.Answers x)
    (key method : String) :
    Keeps st.Hushed (alternative d (.handle (.query k i)) key method v) := by
  intro now here
  have still := fitted.advanced here.toAdvances (.inl built)
  obtain ⟨usual, -⟩ := still "where" _ rfl
  obtain ⟨branches, -⟩ := still "_branches" _ rfl
  have listed : Keeps st.Hushed (branchList d method v) := by
    unfold branchList
    split
    · rename_i vs is
      rw [is] at answers
      exact .bind (hushed_branchesGiven answers _ _) fun _ => .pure _
    · exact .throw _
  rw [alternative, outcome_bind_ok (outcome_get now), usual]
  simp only [if_true, pure_bind]
  rw [outcome_bind, outcome_callOr_usual branches, ← outcome_bind]
  exact (listed.bind fun bs => .bind (hushed_copy _) fun _ => hushed_applyCall _) now here

theorem hushed_callQuery (call : QueryCall) (answers : ∀ x ∈ call.alternatives, st.Answers x) :
    Keeps st.Hushed (callQuery d (.handle (.query k i)) call) := by
  have plain : Keeps st.Hushed (plainCall d (.handle (.query k i)) call) := by
    intro now here
    obtain ⟨usual, -⟩ := fitted.advanced here.toAdvances (.inl built) "_compare" _ rfl
    rw [plainCall, outcome_bind_ok (outcome_get now), if_pos usual]
    exact hushed_applyCall call now here
  cases call with
  | restrict v => exact .ofExcept fun _ _ => .bind (hushed_copy v) fun _ => hushed_applyCall _
  | every v => exact hushed_alternative built fitted answers _ _
  | either v => exact hushed_alternative built fitted answers _ _
  | _ => exact plain

/-- A function of queries states what it is called for. -/
theorem hushed_call {name : String} {m : Method} {args : List Value} {named : Entries}
    (found : Interface.queryMembers.lookup name = some (.method m))
    (stating : name ∉ ["_compare", "_branches", "to_json", "get_options"])
    (answers : ∀ call, Fluent.call? (.handle (.query k i)) ⟨name, args, named⟩ = some call →
      ∀ v ∈ call.alternatives, st.Answers v) :
    Keeps st.Hushed ((dispatch names n).call .never (.handle (.query k i)) name args named) := by
  cases n with
  | zero => exact .throw _
  | succ n =>
    intro now here
    obtain ⟨usual, own⟩ := fitted.advanced here.toAdvances (.inl built) name m found
    obtain ⟨place, waits, performed, kinds⟩ := query_member k i found (by simp_all)
    have still : st.Hushed now.identified := here.trans (.identified now)
    rw [outcome_call_carried (by simp) usual own (place now), carryOut]
    cases bind : m.bind (.handle (.query k i) :: args) named with
    | error e => exact still
    | ok a =>
      rw [outcome_bind_ok (outcome_ofExcept ..), waits]
      simp only [performed, Method.at_zero_of_bind bind]
      obtain calls | ⟨copies, -⟩ := kinds
      · obtain ⟨call, stands⟩ := Option.isSome_iff_exists.mp (calls a)
        have given := answers call
          (by simpa [Fluent.call?, found, bind, Except.toOption] using stands)
        unfold queryMethod
        rw [stands]
        exact hushed_callQuery built fitted call given _ still
      · exact absurd copies (by simp_all)

end

/-- The calls of a function on a query state one thing after the other. -/
theorem hushed_restricting {β : Store} {ks : List Call} (restricts : ∀ l ∈ ks, l.Restricts names β)
    (since : β.Advances st) (built : st.Built (.query k i)) (fitted : st.Fitted k i) :
    Keeps st.Hushed (runCalls (dispatch names n) names (.handle (.query k i)) ks) := by
  induction ks with
  | nil => exact .pure _
  | cons l ks ih =>
    obtain ⟨restrict, restricts⟩ := List.forall_mem_cons.mp restricts
    obtain ⟨m, found⟩ := restrict.found
    rw [runCalls_perform restrict.target]
    refine .bind (fun now here => ?_) fun _ => ih restricts
    refine here.trans (hushed_bind (Names.silent_written restrict.args restrict.named n now now
      (.refl now)) fun (as, bs) mid written l => ?_)
    have ahead := here.toAdvances.trans l
    exact hushed_call (ahead.built built) (fitted.advanced ahead (.inl built)) found
      restrict.stating (fun call is v there => (restrict.given n now as bs mid _ call written is v
        there).advanced (since.trans ahead)) mid (.refl mid)

/-- A function of such calls is given a fresh query, which is asked for its criteria if the function
returns it. -/
theorem hushed_askQuery {β : Store} {j : Option Nat} {ks : List Call} {result : Option Value}
    (coming : ∀ i, β.queries.size ≤ i → β.Fitted .unbound i)
    (restricts : ∀ l ∈ ks, l.Restricts names β) (data : ∀ r ∈ result, r.Plain)
    (since : β.Advances st) :
    Keeps st.Hushed (askQuery (dispatch names n) (.object j (.function ks result))) := by
  intro now here
  let self : Value := .handle (.query .unbound now.queries.size)
  let seen := now.questioned.sighted self
  have hushed : now.Hushed seen := (Store.Hushed.questioned now).trans (.sighted_query ..)
  refine here.trans ?_
  rw [askQuery, outcome_bind_ok (outcome_startQuery_empty now)]
  cases n with
  | zero => exact .questioned now
  | succ n =>
    have ahead := since.trans here.toAdvances
    have built : seen.Built (.query .unbound now.queries.size) := by
      simp [seen, Store.Built, Store.sighted, Store.questioned]
    have fitted : seen.Fitted .unbound now.queries.size := by
      have later : now.Coming (.query .unbound now.queries.size) := Nat.le_refl _
      have fitted : now.Fitted .unbound now.queries.size :=
        (coming _ (ahead.coming later)).advanced ahead (.inr later)
      exact fitted
    rw [outcome_bind, outcome_apply_calls, ← outcome_bind, replay.eq_def, bind_assoc]
    refine hushed.trans (hushed_bind ?_ fun _ mid _ l => ?_)
    · exact hushed_restricting restricts (ahead.trans hushed.toAdvances) built fitted seen
        (.refl seen)
    · cases result with
      | none =>
        exact hushed_queryJson ((fitted.answers built).advanced l) rfl mid (.refl mid)
      | some r =>
        refine hushed_bind (Names.silent_plain (data r rfl) n mid mid (.refl mid))
          fun w last completed _ => ?_
        simp only [(Names.yields_plain (data r rfl) ⟨n, mid, last, completed⟩).2]
        exact .refl last

end Act.Keeps

/-- What criteria can be had of without a run of a function on a pipeline. -/
inductive Names.Criteria (names : Names) (β : Store) (v : Value) : Prop
  | answers (callable : ¬v.isCallable) (answers : β.Answers v)
  | function {j : Option Nat} {ks : List Call} {result : Option Value}
      (is : v = .object j (.function ks result)) (restricts : ∀ l ∈ ks, l.Restricts names β)
      (data : ∀ r ∈ result, r.Plain)

theorem Names.Criteria.critic {names : Names} {β st : Store} {v : Value}
    (criteria : names.Criteria β v) (coming : ∀ i, β.queries.size ≤ i → β.Fitted .unbound i)
    (since : β.Advances st) (n : Nat) :
    Act.Critic (DocMapper.dispatch names n) st.Hushed v := by
  cases criteria with
  | answers callable answers =>
    exact ⟨.hushed_queryJson (answers.advanced since), fun call => absurd call callable⟩
  | function is restricts data =>
    subst is
    exact ⟨nofun, fun _ => .hushed_askQuery coming restricts data since⟩

/-- A match that is given criteria, a query or a function of calls on a query is quiet. -/
theorem Call.quiet_of_matching {k : Call} {names : Names} {β : Store} {v : Value}
    (passes : k.Passes "match" "query" v) (silent : names.Silent v)
    (criteria : ∀ w, names.Yields v w → names.Criteria β w)
    (coming : ∀ i, β.queries.size ≤ i → β.Fitted .unbound i) : k.Quiet names β where
  target := passes.target
  hushed n st c i model since crew := by
    refine Act.Gives.quiet_iff.mp (passes.gives rfl (fun _ => rfl) (fun _ => rfl) crew n silent
      fun w yields m now l => Act.Gives.quiet_iff.mpr ?_)
    exact ((criteria w yields).critic coming (since.trans l) m).matchStage now (.refl now)

end DocMapper
