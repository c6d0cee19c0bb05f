import DocMapper.Proofs.Combining
import DocMapper.Proofs.Comparing
import DocMapper.Proofs.Detaching
import DocMapper.Proofs.Gathering

/-!
Calls on a query by their names, one after another.  A call that fails leaves the query as it was,
and the options are what the calls that were accepted make of none.
-/

namespace DocMapper

/-- A call by its name. -/
structure Fluent where
  name : String
  args : List Value
  named : Entries

namespace Fluent

/-- The call on a query that a call by name comes to, if its arguments are in order. -/
def call? (self : Value) (f : Fluent) : Option QueryCall :=
  match Interface.queryMembers.lookup f.name with
  | some (.method m) =>
    (m.bind (self :: f.args) f.named).toOption.bind (QueryCall.ofMethod? f.name)
  | _ => none

def act (names : Names) (n : Nat) (self : Value) (f : Fluent) : Act Value :=
  (dispatch names (n + 1)).call .never self f.name f.args f.named

/-- The calls of those that were accepted. -/
def accepted (self : Value) (past : List (Passage Fluent)) : List QueryCall :=
  past.flatMap fun p => if p.result.isOk then (p.use.call? self).toList else []

end Fluent

/-- What a call is given: queries among alternatives are of the library, and mappings to order by
have keys. -/
def QueryCall.Fits (st : Store) : QueryCall → Prop
  | .every v | .either v =>
    ∀ vs, v.listed? = some vs → ∀ x ∈ vs, Act.isQuery x → ∃ es, st.Stands x es
  | .sort v => ∀ es, v.entries? = some es → ∀ e ∈ es, e.1.Key
  | _ => True

/-- A call of a function of queries that is not for their own use. -/
structure Fluent.Fits (query : Value) (st : Store) (f : Fluent) : Prop where
  found : ∃ m, Interface.queryMembers.lookup f.name = some (.method m)
  open_ : f.name ∉ ["_compare", "_branches"]
  given : ∀ call, f.call? query = some call → call.Fits st

theorem QueryCall.Fits.kept {st after : Store} {call : QueryCall} (fits : call.Fits st)
    (kept : st.Retains after) : call.Fits after := by
  cases call with
  | every v | either v =>
    exact fun vs listed x hx query => (fits vs listed x hx query).imp fun es => kept.stands
  | sort v => exact fits
  | _ => trivial

theorem QueryCall.Fits.keys {st : Store} {call : QueryCall} (fits : call.Fits st) :
    ∀ e ∈ call.sorts, e.1.Key := by
  cases call with
  | sort v =>
    intro e he
    cases entries : v.entries? with
    | none => simp [sorts, entries] at he
    | some es => exact fits es entries e (by simpa [sorts, entries] using he)
  | _ => exact fun e he => absurd he List.not_mem_nil

namespace Store

/-- A query of the library over options of its own, to which nothing was done but by calls. -/
structure Accepts (st : Store) (k : QueryKind) (i : Nat) (q : Query) : Prop extends
    st.Builds k i q where
  fair : q.options.Fair
  options : st.Bare (.queryOptions i)
  pristine : st.registry.Pristine

variable {st after : Store} {k : QueryKind} {i : Nat} {q r : Query}

theorem Accepts.of_setting (h : st.Accepts k i q) (setting : after.setting = st.setting)
    (builds : after.Builds k i r) (fair : r.options.Fair) : after.Accepts k i r where
  toBuilds := builds
  fair := fair
  options := h.options.of_setting setting
  pristine := by
    have registry : after.registry = st.registry := congrArg Setting.registry setting
    exact registry ▸ h.pristine

theorem Accepts.identified (h : st.Accepts k i q) : st.identified.Accepts k i q :=
  h.of_setting rfl h.toBuilds.identified h.fair

theorem Retains.accepts (r : st.Retains after) (h : st.Accepts k i q) : after.Accepts k i q where
  toBuilds := r.builds h.toBuilds
  fair := h.fair
  options := by
    have there : st.Built (.queryOptions i) := (Array.getElem?_eq_some_iff.mp h.query).1
    exact ⟨fun name => (r.extras _ (.inl there) name).trans (h.options.extras name),
      (r.refined _ (.inl there)).trans h.options.refined⟩
  pristine c name := by
    rw [r.own]
    exact h.pristine c name

theorem Accepts.whole (h : st.Accepts k i q) : q.Fair :=
  ⟨h.fair, h.held, h.instead⟩

/-- A call either fails and leaves a query as it is, or makes of it what it is for; what is for
other things leaves the options as they are. -/
def Heeds (k : QueryKind) (i : Nat) (q : Query) (call : Option QueryCall)
    (ended : Except Fault Value × Store) : Prop :=
  (∃ e after, ended = (.error e, after) ∧ after.Accepts k i q ∧
      ∀ c ∈ call, c.option?.isSome → ∀ r, q.apply c ≠ .ok r) ∨
    ∃ v after r, ended = (.ok v, after) ∧ after.Accepts k i r ∧
      ((∃ c ∈ call, q.apply c = .ok r) ∨ r.options = q.options ∧ ∀ c ∈ call, c.option? = none)

theorem Heeds.other {c b : QueryCall} {ended : Except Fault Value × Store}
    (h : Heeds k i q (some c) ended) (aside : c.option? = none) (other : b.option? = none) :
    Heeds k i q (some b) ended := by
  obtain ⟨e, after, done, accepts, -⟩ | ⟨v, after, r, done, accepts, made⟩ := h
  · refine .inl ⟨e, after, done, accepts, ?_⟩
    rintro _ ⟨⟩ option
    rw [other] at option
    cases option
  · refine .inr ⟨v, after, r, done, accepts, .inr ⟨?_, fun _ same => Option.some.inj same ▸ other⟩⟩
    obtain ⟨_, ⟨⟩, applied⟩ | ⟨options, -⟩ := made
    · exact Query.apply_options aside applied
    · exact options

/-- What fails before anything is done to the query. -/
theorem Accepts.heeds_failed {call : Option QueryCall} {e : Fault} (h : st.Accepts k i q)
    (other : ∀ c ∈ call, c.option? = none) : Heeds k i q call (.error e, st) := by
  refine .inl ⟨e, st, rfl, h, fun c hc option => ?_⟩
  rw [other c hc] at option
  cases option

end Store

namespace Act

variable {st : Store} {d : Dispatch} {k : QueryKind} {i : Nat} {q r : Query} {call : QueryCall}
variable {v : Value}

theorem outcome_applyCall_refused {e : Fault} (h : st.Builds k i q)
    (refused : q.apply call = .error e) :
    (applyCall d (.handle (.query k i)) call).outcome st = (.error e, st) := by
  rw [applyCall, outcome_bind_ok (outcome_queryAt h), Query.perform_own h.instead, refused]
  rfl

theorem heeds_applyCall (h : st.Accepts k i q) (call : QueryCall) :
    Store.Heeds k i q (some call) ((applyCall d (.handle (.query k i)) call).outcome st) := by
  cases done : q.apply call with
  | error e =>
    refine .inl ⟨e, st, outcome_applyCall_refused h.toBuilds done, h, ?_⟩
    rintro _ ⟨⟩ - r accepted
    rw [done] at accepted
    cases accepted
  | ok r =>
    obtain ⟨after, applied, changed, builds⟩ := outcome_applyCall (d := d) h.toBuilds done
    have accepts : after.Accepts k i r :=
      h.of_setting ((Store.setting_of_beyond changed).trans rfl) builds (h.whole.apply done).options
    exact .inr ⟨_, after, r, applied, accepts, .inl ⟨call, rfl, done⟩⟩

theorem heeds_plainCall (h : st.Accepts k i q) (call : QueryCall) :
    Store.Heeds k i q (some call) ((plainCall d (.handle (.query k i)) call).outcome st) := by
  obtain ⟨usual, -⟩ := h.usual "_compare" _ rfl
  rw [plainCall, outcome_bind_ok (outcome_get st), if_pos usual]
  exact heeds_applyCall h call

/-- A restriction by a copy. -/
theorem heeds_restricted (h : st.Accepts k i q) (v : Value) (other : call.option? = none) :
    Store.Heeds k i q (some call)
      ((copy v >>= fun u => applyCall d (.handle (.query k i)) (.restrict u)).outcome st) := by
  obtain ⟨e, refused, -⟩ | ⟨u, after, copied, -, kept, -⟩ := outcome_copy_cases v st
  · rw [outcome_bind_error refused]
    exact h.heeds_failed fun _ same => Option.some.inj same ▸ other
  · rw [outcome_bind_ok copied]
    exact (heeds_applyCall (kept.accepts h) (.restrict u)).other rfl other

theorem heeds_restrict (h : st.Accepts k i q) (v : Value) :
    Store.Heeds k i q (some (.restrict v))
      ((callQuery d (.handle (.query k i)) (.restrict v)).outcome st) := by
  rw [callQuery]
  cases mapped : Argument.mapping "where() criteria" v with
  | error e =>
    rw [outcome_bind_error (outcome_ofExcept ..)]
    exact h.heeds_failed fun _ same => Option.some.inj same ▸ rfl
  | ok es =>
    rw [outcome_bind_ok (outcome_ofExcept ..)]
    exact heeds_restricted h v rfl

/-- Branches are looked at one by one, and leave what they are made of alone. -/
theorem branchesGiven_retains (method : String) (index : Nat) {vs : List Value}
    (given : ∀ x ∈ vs, isQuery x → ∃ es, st.Stands x es) :
    ∃ result after, (branchesGiven d method index vs).outcome st = (result, after) ∧
      st.Retains after := by
  induction vs generalizing st index with
  | nil => exact ⟨_, _, rfl, .refl st⟩
  | cons x vs ih =>
    obtain ⟨here, later⟩ := List.forall_mem_cons.mp given
    have first : ∃ result mid, (branchGiven d method index x).outcome st = (result, mid) ∧
        st.Retains mid := by
      by_cases query : isQuery x
      · obtain ⟨es, stands⟩ := here query
        obtain ⟨e, refused, -⟩ | ⟨b, mid, made, -, kept, -⟩ :=
          outcome_branchGiven (d := d) method index stands
        · exact ⟨_, _, refused, .refl st⟩
        · exact ⟨_, _, made, kept⟩
      · rw [branchGiven, if_neg query]
        exact ⟨_, _, outcome_ofExcept .., .refl st⟩
    obtain ⟨result, mid, done, kept⟩ := first
    rw [branchesGiven_cons]
    cases result with
    | error e => exact ⟨_, _, outcome_bind_error done, kept⟩
    | ok b =>
      have still : ∀ x ∈ vs, isQuery x → ∃ es, mid.Stands x es := fun x hx query =>
        (later x hx query).imp fun es => kept.stands
      obtain ⟨rest, after, others, more⟩ := ih (index + 1) still
      rw [outcome_bind_ok done]
      cases rest with
      | error e => exact ⟨_, _, outcome_bind_error others, kept.trans more⟩
      | ok bs => exact ⟨_, _, outcome_bind_ok others, kept.trans more⟩

theorem heeds_join (h : st.Accepts k i q) (j : Joint) {v : Value} (given : (j.call v).Fits st) :
    Store.Heeds k i q (some (j.call v))
      ((callQuery d (.handle (.query k i)) (j.call v)).outcome st) := by
  obtain ⟨restricts, -⟩ := h.usual "where" _ rfl
  obtain ⟨branches, -⟩ := h.usual "_branches" _ rfl
  have other : (j.call v).option? = none := by cases j <;> rfl
  have failed : ∀ c ∈ some (j.call v), c.option? = none :=
    fun _ same => Option.some.inj same ▸ other
  rw [j.callQuery_call, alternative, outcome_bind_ok (outcome_get st)]
  simp only [restricts, if_true]
  rw [outcome_bind_ok (outcome_pure ..)]
  have list : ∃ result after, (callOr d .never (.handle (.query k i)) queryClass "_branches"
      [v, .str j.method] [] (branchList d j.method v)).outcome st = (result, after) ∧
        st.Retains after := by
    rw [outcome_callOr_usual branches, branchList]
    cases listed : v.listed? with
    | none => exact ⟨_, _, rfl, .refl st⟩
    | some vs =>
      have fits : ∀ x ∈ vs, isQuery x → ∃ es, st.Stands x es := by
        cases j <;> exact given vs listed
      obtain ⟨result, after, done, kept⟩ := branchesGiven_retains (d := d) j.method 0 fits
      cases result with
      | error e => exact ⟨_, _, outcome_bind_error done, kept⟩
      | ok bs => exact ⟨_, _, outcome_bind_ok done, kept⟩
  obtain ⟨result, after, done, kept⟩ := list
  cases result with
  | error e =>
    rw [outcome_bind_error done]
    exact (kept.accepts h).heeds_failed failed
  | ok bs =>
    rw [outcome_bind_ok done]
    exact heeds_restricted (kept.accepts h) _ other

/-- Each call on a query is heeded. -/
theorem heeds_callQuery (h : st.Accepts k i q) (given : call.Fits st) :
    Store.Heeds k i q (some call) ((callQuery d (.handle (.query k i)) call).outcome st) := by
  cases call with
  | restrict v => exact heeds_restrict h v
  | every v => exact heeds_join h .every given
  | either v => exact heeds_join h .either given
  | _ => exact heeds_plainCall h _

/-- A copy of something else leaves a query as it is. -/
theorem heeds_copy (h : st.Accepts k i q) (v : Value) :
    Store.Heeds k i q none ((copy v).outcome st) := by
  obtain ⟨e, refused, -⟩ | ⟨u, after, copied, -, kept, -⟩ := outcome_copy_cases v st
  · rw [refused]
    exact h.heeds_failed (by simp)
  · exact .inr ⟨u, after, q, copied, kept.accepts h, .inr ⟨rfl, by simp⟩⟩

theorem outcome_ownCriteria (h : st.Builds k i q) :
    (ownCriteria d (.handle (.query k i))).outcome st = (copy q.toJson).outcome st := by
  rw [ownCriteria, outcome_bind_ok (outcome_queryAt h)]

/-- The options of a query, as a copy. -/
def ownOptions (d : Dispatch) (self : Value) : Act Value := do
  let options ← optionsOf d self
  callOr d .never options (.known "QueryOptions") "copy" [] [] (copy options)

theorem outcome_ownOptions (h : st.Accepts k i q) :
    (ownOptions d (.handle (.query k i))).outcome st =
      (copy (.handle (.queryOptions i))).outcome st := by
  have held : st.optionsHeld i = .handle (.queryOptions i) := by
    simp [Store.optionsHeld, Array.getD_eq_getD_getElem?, h.query, h.held]
  have own : (optionsOf d (.handle (.query k i))).outcome st =
      (.ok (.handle (.queryOptions i)), st) := by
    rw [optionsOf, outcome_bind_ok (outcome_get st), held]
    rfl
  have usual := h.options.usual h.pristine rfl
    (show Interface.inherited? "QueryOptions" "copy" = some (.known "QueryOptions", _) from rfl)
  rw [ownOptions, outcome_bind_ok own, outcome_callOr_usual usual]

variable {names : Names} {n : Nat} {f : Fluent}

/-- A function of queries that is not for their own use stands for a call, or else makes a copy. -/
def Copies (name : String) : Prop :=
  (name = "to_json" ∨ name = "get_options") ∧ ∀ a, QueryCall.ofMethod? name a = none

theorem query_member {name : String} {m : Method} (k : QueryKind) (i : Nat)
    (found : Interface.queryMembers.lookup name = some (.method m))
    (open_ : name ∉ ["_compare", "_branches"]) :
    (∀ st, (readPlace? (.handle (.query k i)) name).outcome st = (.ok none, st)) ∧
      m.waits = false ∧ (∀ d a, performMethod d m a = queryMethod d (a.at 0) name a) ∧
      ((∀ a, (QueryCall.ofMethod? name a).isSome) ∨ Copies name) := by
  have all : ∀ e ∈ Interface.queryMembers, ∀ m, e.2 = .method m → e.1 ∉ ["_compare", "_branches"] →
      (∀ st, (readPlace? (.handle (.query k i)) e.1).outcome st = (.ok none, st)) ∧
        m.waits = false ∧ (∀ d a, performMethod d m a = queryMethod d (a.at 0) e.1 a) ∧
        ((∀ a, (QueryCall.ofMethod? e.1 a).isSome) ∨ Copies e.1) := by
    simp only [Interface.queryMembers, List.forall_mem_cons]
    repeat' apply And.intro
    all_goals first
      | exact fun _ none => absurd none List.not_mem_nil
      | rintro m ⟨⟩ open_
        first
          | exact ⟨fun _ => rfl, rfl, fun _ _ => rfl, .inl fun _ => rfl⟩
          | exact ⟨fun _ => rfl, rfl, fun _ _ => rfl, .inr ⟨.inl rfl, fun _ => rfl⟩⟩
          | exact ⟨fun _ => rfl, rfl, fun _ _ => rfl, .inr ⟨.inr rfl, fun _ => rfl⟩⟩
          | exact absurd (by simp [Interface.method]) open_
  obtain ⟨before, behind, members, -⟩ := List.lookup_eq_some_iff.mp found
  exact all (name, .method m) (members ▸ by simp) m rfl open_

/-- Each function of a query heeds the query, whatever it is given. -/
theorem heeds_fluent (h : st.Accepts k i q) (fits : f.Fits (.handle (.query k i)) st) :
    Store.Heeds k i q (f.call? (.handle (.query k i)))
      ((f.act names n (.handle (.query k i))).outcome st) := by
  obtain ⟨name, args, named⟩ := f
  obtain ⟨m, found⟩ := fits.found
  obtain ⟨usual, own⟩ := h.usual name m found
  obtain ⟨place, waits, performed, kinds⟩ := query_member k i found fits.open_
  have accepts := h.identified
  rw [Fluent.act, outcome_call_carried (by simp) usual own (place st), carryOut]
  cases bind : m.bind (.handle (.query k i) :: args) named with
  | error e =>
    have none : Fluent.call? (.handle (.query k i)) ⟨name, args, named⟩ = none := by
      simp only [Fluent.call?, found, bind]
      rfl
    rw [none, outcome_bind_error (outcome_ofExcept ..)]
    exact accepts.heeds_failed (by simp)
  | ok a =>
    have call : Fluent.call? (.handle (.query k i)) ⟨name, args, named⟩ =
        QueryCall.ofMethod? name a := by
      simp only [Fluent.call?, found, bind]
      rfl
    rw [outcome_bind_ok (outcome_ofExcept ..), waits]
    simp only [performed, Method.at_zero_of_bind bind, call]
    cases kinds with
    | inl calls =>
      obtain ⟨c, stands⟩ := Option.isSome_iff_exists.mp (calls a)
      have given := (fits.given c (call.trans stands)).kept (.identified st)
      unfold queryMethod
      rw [stands]
      exact heeds_callQuery accepts given
    | inr reads =>
      obtain ⟨rfl | rfl, none⟩ := reads
      · rw [none a]
        exact outcome_ownCriteria (d := dispatch names n) accepts.toBuilds ▸ heeds_copy accepts _
      · rw [none a]
        exact outcome_ownOptions (d := dispatch names n) accepts ▸ heeds_copy accepts _

/-- A query that is asked for its options makes a new record with a copy of the order, unless
something in that cannot be copied. -/
theorem outcome_getOptions (h : st.Accepts k i q) {calls : List QueryCall}
    (sums : q.options.Sums calls) :
    (∃ e, ((dispatch names (n + 1)).call .never (.handle (.query k i)) "get_options" []
        []).outcome st = (.error e, st.identified) ∧
      st.identified.uncopyable? (.handle (.queryOptions i)) = some e ∧ ¬q.options.sort.Plain) ∨
      ∃ j sort after, ((dispatch names (n + 1)).call .never (.handle (.query k i)) "get_options" []
          []).outcome st = (.ok (.handle (.options j)), after) ∧
        st.identified.uncopyable? (.handle (.queryOptions i)) = none ∧
        q.options.sort.Copied sort ∧ after.options[j]? = some { q.options with sort } := by
  obtain ⟨usual, own⟩ := h.usual "get_options" _ rfl
  have accepts := h.identified
  have asked : ((dispatch names (n + 1)).call .never (.handle (.query k i)) "get_options" []
      []).outcome st = (copy (.handle (.queryOptions i))).outcome st.identified := by
    rw [outcome_call_method (by simp) usual own rfl rfl (.inr ⟨rfl, rfl⟩)]
    exact outcome_ownOptions (d := dispatch names n) accepts
  have record : st.identified.queries.getD i default = q := by
    simp [Array.getD_eq_getD_getElem?, accepts.query]
  obtain ⟨skip, limit, projection⟩ := sums.plain h.fair
  rw [asked]
  obtain ⟨e, refused, why, unplain⟩ | ⟨cs, after, copied, free, made, -⟩ :=
    outcome_copy_options accepts.options
  · refine .inl ⟨e, refused, why, fun plain => unplain ?_⟩
    rw [record]
    simp only [Options.parts, List.forall_mem_cons]
    exact ⟨plain, skip, limit, projection, by simp⟩
  · rw [record, Options.mapParts, Value.renamed_plain skip, Value.renamed_plain limit,
      Value.renamed_plain projection] at made
    exact .inr ⟨_, _, after, copied, free, ⟨[cs], rfl⟩, made⟩

theorem outcome_toFindKwargs (h : st.Accepts k i q) {calls : List QueryCall}
    (sums : q.options.Sums calls) :
    ∃ args : Entries, ((dispatch names (n + 1)).call .never (.handle (.queryOptions i))
        "to_find_kwargs" [] []).outcome st = (.ok (.dict args), st.identified) ∧ args.Proper := by
  obtain ⟨args, translated, proper⟩ := sums.findArguments h.fair
  refine ⟨args, ?_, proper⟩
  have place : (readPlace? (.handle (.queryOptions i)) "to_find_kwargs").outcome st =
      (.ok none, st) := by
    have none : (st.optionsAt? (.queryOptions i)).bind
        (fun o => optionsPlace o "to_find_kwargs") = none := by
      cases st.optionsAt? (.queryOptions i) <;> rfl
    exact congrArg (fun found => (Except.ok found, st)) none
  have read : st.identified.optionsIn? (.handle (.queryOptions i)) = some q.options := by
    simp [Store.optionsIn?, Store.optionsAt?, h.identified.query]
  have taken : (optionsLike (dispatch names n) (.handle (.queryOptions i))).outcome st.identified =
      (.ok q.options, st.identified) := by
    rw [optionsLike, outcome_bind_ok (outcome_get _), read]
    rfl
  rw [outcome_call_bare h.options h.pristine rfl rfl place rfl (.inr ⟨rfl, rfl⟩)]
  exact (outcome_bind_ok taken).trans (outcome_searchArguments h.fair translated _)

end Act

namespace Store

variable {k : QueryKind} {i : Nat} {q : Query} {call : Option QueryCall} {calls : List QueryCall}
variable {ended : Except Fault Value × Store}

/-- The options sum up one call more, if it was accepted. -/
theorem Heeds.sums (h : Heeds k i q call ended) (sums : q.options.Sums calls) :
    ∃ r, ended.2.Accepts k i r ∧
      r.options.Sums (calls ++ if ended.1.isOk then call.toList else []) ∧
      (∀ e, ended.1 = .error e → r = q) ∧
      ∀ c ∈ call, c.option?.isSome → (ended.1.isOk ↔ c.Passes) := by
  obtain ⟨e, after, rfl, accepts, refused⟩ | ⟨v, after, r, rfl, accepts, made⟩ := h
  · refine ⟨q, accepts, by simpa [Except.isOk, Except.toBool] using sums, fun _ _ => rfl, ?_⟩
    intro c hc option
    rw [← Query.apply_passes sums option]
    simp [Except.isOk, Except.toBool, refused c hc option]
  · refine ⟨r, accepts, ?_, by simp, ?_⟩
    · change r.options.Sums (calls ++ call.toList)
      obtain ⟨c, rfl, done⟩ | ⟨same, others⟩ := made
      · exact Query.apply_sums sums done
      · rw [same]
        cases call with
        | none => simpa using sums
        | some c => exact sums.passed (others c rfl)
    · intro c hc option
      obtain ⟨b, rfl, done⟩ | ⟨same, others⟩ := made
      · cases hc
        exact ⟨fun _ => (Query.apply_passes sums option).mp ⟨r, done⟩, fun _ => rfl⟩
      · rw [others c hc] at option
        cases option

end Store

namespace Fluent

variable {names : Names} {n : Nat} {st now : Store} {k : QueryKind} {i : Nat} {q : Query}
variable {past : List (Passage Fluent)}

/-- What became of a call: if it failed the query is as before, and one that sets an option is
accepted if it may set it. -/
def Settled (k : QueryKind) (i : Nat) (p : Passage Fluent) : Prop :=
  (∀ e, p.result = .error e → p.after.query i = p.before.query i) ∧
    ∀ call, p.use.call? (.handle (.query k i)) = some call → call.option?.isSome →
      (p.result.isOk ↔ call.Passes)

theorem accepted_append (self : Value) (past : List (Passage Fluent)) (p : Passage Fluent) :
    accepted self (past ++ [p]) =
      accepted self past ++ if p.result.isOk then (p.use.call? self).toList else [] := by
  simp [accepted]

/-- A run of calls keeps the account of those that were accepted. -/
theorem run_sums (h : st.Accepts k i q) (fresh : q.options = .empty)
    (run : Course (act names n (.handle (.query k i))) (Fits (.handle (.query k i))) st past now) :
    ∃ r, now.Accepts k i r ∧ r.options.Sums (accepted (.handle (.query k i)) past) ∧
      (∀ e ∈ (accepted (.handle (.query k i)) past).flatMap QueryCall.sorts, e.1.Key) ∧
      ∀ p ∈ past, Settled k i p := by
  induction run with
  | start => exact ⟨q, h, fresh ▸ Options.sums_empty, by simp [accepted], by simp⟩
  | step before f fits ih =>
    rename_i past now
    obtain ⟨r, accepts, sums, keys, settled⟩ := ih
    obtain ⟨s, after, more, failed, passes⟩ := (Act.heeds_fluent accepts fits).sums sums
    refine ⟨s, after, ?_, ?_, ?_⟩
    · rw [accepted_append]
      exact more
    · intro e he
      rw [accepted_append, List.flatMap_append] at he
      cases List.mem_append.mp he with
      | inl old => exact keys e old
      | inr new =>
        obtain ⟨call, asked, sorted⟩ := List.mem_flatMap.mp new
        split at asked
        · exact (fits.given call (Option.mem_toList.mp asked)).keys e sorted
        · cases asked
    · intro p hp
      cases List.mem_append.mp hp with
      | inl old => exact settled p old
      | inr new =>
        rw [List.mem_singleton.mp new]
        refine ⟨fun e refused => ?_, passes⟩
        rw [after.queryAt, accepts.queryAt, failed e refused]

end Fluent

theorem Store.accepts_adults :
    adults.Accepts .unbound 0 (adults.queries.getD 0 default) where
  toBuilds := builds_adults
  fair := ⟨rfl, .inl rfl, .inl rfl, .inl rfl⟩
  options := ⟨fun _ => rfl, rfl⟩
  pristine _ _ := rfl

/-- An order, a truth value instead of a number, and another order. -/
def Fluent.reordering : List Fluent :=
  [⟨"sort", [.dict [(.str "age", .int 1)]], []⟩, ⟨"skip", [.bool true], []⟩,
    ⟨"sort", [.dict [(.str "name", .int 1), (.str "age", .int (-1))]], []⟩]

theorem Fluent.fits_reordering (st : Store) {f : Fluent} (hf : f ∈ reordering) :
    f.Fits (.handle (.query .unbound 0)) st := by
  simp only [reordering, List.mem_cons, List.not_mem_nil, or_false] at hf
  rcases hf with rfl | rfl | rfl
  all_goals refine ⟨⟨_, rfl⟩, by decide, ?_⟩
  all_goals rintro _ ⟨⟩
  · rintro es ⟨⟩ e he
    rw [List.mem_singleton.mp he]
    exact .atom rfl
  · trivial
  · rintro es ⟨⟩ e he
    simp only [List.mem_cons, List.not_mem_nil, or_false] at he
    rcases he with rfl | rfl <;> exact .atom rfl

/-- What fits whatever happened can be done. -/
theorem Course.of_fits {α : Type} (act : α → Act Value) {fits : Store → α → Prop} (st : Store)
    {us : List α} (all : ∀ now, ∀ u ∈ us, fits now u) :
    ∃ past now, Course act fits st past now ∧ past.map Passage.use = us := by
  induction us using List.reverseRecOn with
  | nil => exact ⟨[], st, .start, rfl⟩
  | append_singleton us u ih =>
    obtain ⟨past, now, run, rfl⟩ := ih fun now u hu => all now u (List.mem_append_left _ hu)
    exact ⟨_, _, run.step u (all now u (by simp)), by simp⟩

/-- A cursor that a query can be ordered by, whose source was not waited for itself. -/
def Store.deferred : Store :=
  { adults with
    cursors := #[{ kind := .aggregate, source := .handle (.promise 0) }]
    sources := #[{ pending := [] }]
    promises := #[{ promised := .source 0 }] }

theorem Store.accepts_deferred :
    deferred.Accepts .unbound 0 (adults.queries.getD 0 default) where
  toBuilds := .of_bare ⟨fun _ => rfl, rfl⟩ (fun _ _ => rfl) rfl (.inl rfl) rfl rfl rfl
  fair := ⟨rfl, .inl rfl, .inl rfl, .inl rfl⟩
  options := ⟨fun _ => rfl, rfl⟩
  pristine _ _ := rfl

end DocMapper
