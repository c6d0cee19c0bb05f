import DocMapper.Proofs.Keying
import DocMapper.Proofs.Windows

/-!
The options that calls on a query make.  Of what is to be skipped, to be kept and to be shown the
last call that was accepted decides, and the orders of all of them are merged.
-/

namespace DocMapper

namespace QueryCall

def skips? : QueryCall → Option Value
  | .skip v => some v
  | _ => none

def limits? : QueryCall → Option Value
  | .limit v => some v
  | _ => none

def selects? : QueryCall → Option (List Value)
  | .select vs => some vs
  | _ => none

/-- The entries that a call puts into the order. -/
def sorts : QueryCall → Entries
  | .sort v => v.entries?.getD []
  | _ => []

/-- What a call sets an option by: a number of documents, names, or a mapping. -/
def Passes : QueryCall → Prop
  | .skip v | .limit v => ∃ n : Nat, v = .int n
  | .select vs => ∀ v ∈ Value.flatten vs, ∃ s, v = .str s ∧ s ≠ ""
  | .sort v => v.isMapping
  | _ => True

end QueryCall

/-- Options as calls make them one after another: the last one counts, but orders are merged. -/
structure Options.Sums (o : Options) (calls : List QueryCall) : Prop where
  skip : o.skip = (calls.filterMap QueryCall.skips?).getLast?.getD .null
  limit : o.limit = (calls.filterMap QueryCall.limits?).getLast?.getD .null
  projection : match (calls.filterMap QueryCall.selects?).getLast? with
    | none => o.projection = .null
    | some vs => ∃ ns : List String, Value.flatten vs = ns.map .str ∧
        o.projection = .list (ns.eraseDups.map .str)
  sort : o.sort = .dict (Entries.ofPairs (calls.flatMap QueryCall.sorts))

/-- Arguments of a search as they may be: an order and a selection without repetitions, and numbers
of documents. -/
structure Entries.Proper (args : Entries) : Prop where
  sort : ∀ v, args.field? "sort" = some v →
    ∃ es : Entries, v = .list (es.map fun e => .tuple [e.1, e.2]) ∧ es.Once
  projection : ∀ v, args.field? "projection" = some v →
    ∃ ns : List String, v = .list (ns.map .str) ∧ ns.Nodup
  skip : ∀ v, args.field? "skip" = some v → ∃ n : Nat, v = .int n
  limit : ∀ v, args.field? "limit" = some v → ∃ n : Nat, v = .int n

/-- A call about something else adds nothing. -/
theorem Options.Sums.passed {o : Options} {calls : List QueryCall} {call : QueryCall}
    (sums : o.Sums calls) (other : call.option? = none) : o.Sums (calls ++ [call]) := by
  have none : call.skips? = none ∧ call.limits? = none ∧ call.selects? = none ∧ call.sorts = [] := by
    cases call <;> cases other <;> exact ⟨rfl, rfl, rfl, rfl⟩
  obtain ⟨skips, limits, selects, sorts⟩ := none
  constructor
  · simpa [skips] using sums.skip
  · simpa [limits] using sums.limit
  · simpa [selects] using sums.projection
  · simpa [sorts] using sums.sort

theorem filter_eraseDups (p : String → Bool) (xs : List String) :
    xs.eraseDups.filter p = (xs.filter p).eraseDups := by
  match xs with
  | [] => rfl
  | x :: xs =>
    have ih := filter_eraseDups p (xs.filter fun y => !y == x)
    rw [List.eraseDups_cons]
    cases hx : p x with
    | true =>
      rw [List.filter_cons_of_pos hx, List.filter_cons_of_pos hx, List.eraseDups_cons, ih]
      simp only [List.filter_filter, Bool.and_comm]
    | false =>
      have other : (xs.filter p).filter (fun y => !y == x) = xs.filter p := by
        refine List.filter_eq_self.mpr fun y hy => ?_
        have there := (List.mem_filter.mp hy).2
        have apart : y ≠ x := by
          rintro rfl
          rw [hx] at there
          cases there
        simpa using apart
      rw [List.filter_cons_of_neg (by simp [hx]), List.filter_cons_of_neg (by simp [hx]), ih,
        ← other]
      simp only [List.filter_filter, Bool.and_comm]
termination_by xs.length
decreasing_by
  exact Nat.lt_succ_of_le (List.length_filter_le ..)

theorem eraseDups_cons_names (x : String) (xs : List String) :
    (x :: xs).eraseDups = x :: xs.eraseDups.filter (· ≠ x) := by
  have same : (fun y => !y == x) = fun y => decide (y ≠ x) := by
    funext y
    by_cases h : y = x <;> simp [h]
  rw [List.eraseDups_cons, filter_eraseDups, same]

theorem nodup_eraseDups (xs : List String) : xs.eraseDups.Nodup := by
  match xs with
  | [] => exact .nil
  | x :: xs =>
    rw [List.eraseDups_cons]
    exact List.nodup_cons.mpr ⟨by simp, nodup_eraseDups _⟩
termination_by xs.length
decreasing_by
  exact Nat.lt_succ_of_le (List.length_filter_le ..)

namespace Query

/-- A selection is of names, each of which is kept where it was first mentioned. -/
theorem selected_eq_ok {vs : List Value} {ns : List String} :
    selected vs = .ok ns ↔
      ∃ ss : List String, vs = ss.map .str ∧ (∀ s ∈ ss, s ≠ "") ∧ ns = ss.eraseDups := by
  induction vs generalizing ns with
  | nil =>
    constructor
    · rintro ⟨⟩
      exact ⟨[], rfl, by simp, rfl⟩
    · rintro ⟨ss, none, -, rfl⟩
      rw [List.map_eq_nil_iff.mp none.symm]
      rfl
  | cons v vs ih =>
    rw [selected]
    constructor
    · intro done
      split at done
      · rename_i s name
        obtain ⟨rfl, nonempty⟩ := Value.name?_eq_some.mp name
        obtain ⟨ms, rest, done⟩ := Except.of_bind_eq_ok done
        obtain ⟨ss, rfl, names, rfl⟩ := ih.mp rest
        cases done
        refine ⟨s :: ss, rfl, List.forall_mem_cons.mpr ⟨nonempty, names⟩, ?_⟩
        rw [eraseDups_cons_names]
      · cases done
    · rintro ⟨ss, all, names, rfl⟩
      obtain ⟨s, ss, rfl, rfl, rfl⟩ := List.map_eq_cons_iff.mp all.symm
      obtain ⟨nonempty, names⟩ := List.forall_mem_cons.mp names
      rw [Value.name?_eq_some.mpr ⟨rfl, nonempty⟩]
      simp only [ih.mpr ⟨ss, rfl, names, rfl⟩]
      rw [eraseDups_cons_names]
      rfl

theorem names_of_forall {vs : List Value} (names : ∀ v ∈ vs, ∃ s, v = .str s ∧ s ≠ "") :
    ∃ ss : List String, vs = ss.map .str ∧ ∀ s ∈ ss, s ≠ "" := by
  induction vs with
  | nil => exact ⟨[], rfl, by simp⟩
  | cons v vs ih =>
    obtain ⟨⟨s, rfl, nonempty⟩, later⟩ := List.forall_mem_cons.mp names
    obtain ⟨ss, rfl, rest⟩ := ih later
    exact ⟨s :: ss, rfl, List.forall_mem_cons.mpr ⟨nonempty, rest⟩⟩

variable {q r : Query} {calls : List QueryCall} {call : QueryCall}

/-- What sets an option is accepted if it may set it. -/
theorem apply_passes (sums : q.options.Sums calls) (option : call.option?.isSome) :
    (∃ r, q.apply call = .ok r) ↔ call.Passes := by
  cases call with
  | skip v =>
    constructor
    · rintro ⟨r, done⟩
      obtain ⟨n, counted, -⟩ := Except.of_bind_eq_ok done
      exact ⟨n, Argument.count_eq_ok.mp counted⟩
    · rintro ⟨n, rfl⟩
      exact ⟨_, rfl⟩
  | limit v =>
    constructor
    · rintro ⟨r, done⟩
      obtain ⟨n, counted, -⟩ := Except.of_bind_eq_ok done
      exact ⟨n, Argument.count_eq_ok.mp counted⟩
    · rintro ⟨n, rfl⟩
      exact ⟨_, rfl⟩
  | select vs =>
    constructor
    · rintro ⟨r, done⟩ v hv
      obtain ⟨ns, named, -⟩ := Except.of_bind_eq_ok done
      obtain ⟨ss, flat, names, -⟩ := selected_eq_ok.mp named
      rw [flat] at hv
      obtain ⟨s, hs, rfl⟩ := List.mem_map.mp hv
      exact ⟨s, rfl, names s hs⟩
    · intro passes
      obtain ⟨ss, flat, names⟩ := names_of_forall passes
      have done := selected_eq_ok.mpr ⟨ss, flat, names, rfl⟩
      exact ⟨_, by rw [apply, done]; rfl⟩
  | sort v =>
    constructor
    · rintro ⟨r, done⟩
      obtain ⟨es, mapped, -⟩ := Except.of_bind_eq_ok done
      exact Option.isSome_iff_exists.mpr ⟨es, Argument.mapping_eq_ok.mp mapped⟩
    · intro mapping
      obtain ⟨es, mapped⟩ := Option.isSome_iff_exists.mp mapping
      exact ⟨_, by rw [apply, Argument.mapping_eq_ok.mpr mapped, sums.sort]; rfl⟩
  | _ => cases option

/-- A call about something else leaves the options as they are. -/
theorem apply_options (other : call.option? = none) (done : q.apply call = .ok r) :
    r.options = q.options := by
  cases call with
  | restrict | every | either =>
    obtain ⟨es, -, done⟩ := Except.of_bind_eq_ok done
    cases done
    rfl
  | compare =>
    obtain ⟨es, rfl⟩ := compare_eq_ok done
    rfl
  | members op field values =>
    simp only [apply] at done
    split at done
    · obtain ⟨es, rfl⟩ := compare_eq_ok done
      rfl
    · cases done
  | present field value =>
    simp only [apply] at done
    split at done
    · obtain ⟨es, rfl⟩ := compare_eq_ok done
      rfl
    · cases done
  | _ => cases other

/-- An option is as the last call sets it, and an order is merged into the one that is there. -/
theorem apply_sums (sums : q.options.Sums calls) (done : q.apply call = .ok r) :
    r.options.Sums (calls ++ [call]) := by
  cases call with
  | select vs =>
    obtain ⟨ns, named, done⟩ := Except.of_bind_eq_ok done
    obtain ⟨ss, flat, -, rfl⟩ := selected_eq_ok.mp named
    cases done
    constructor
    · simpa [QueryCall.skips?] using sums.skip
    · simpa [QueryCall.limits?] using sums.limit
    · simpa [QueryCall.selects?] using ⟨ss, flat, rfl⟩
    · simpa [QueryCall.sorts] using sums.sort
  | sort v =>
    obtain ⟨es, mapped, done⟩ := Except.of_bind_eq_ok done
    obtain ⟨merged, hm, done⟩ := Except.of_bind_eq_ok done
    rw [sums.sort] at hm
    cases hm
    cases done
    constructor
    · simpa [QueryCall.skips?] using sums.skip
    · simpa [QueryCall.limits?] using sums.limit
    · simpa [QueryCall.selects?] using sums.projection
    · have given : (QueryCall.sort v).sorts = es := by
        rw [QueryCall.sorts, Argument.mapping_eq_ok.mp mapped, Option.getD_some]
      simp [given, Entries.ofPairs_append]
  | skip v =>
    obtain ⟨n, counted, done⟩ := Except.of_bind_eq_ok done
    rw [Argument.count_eq_ok.mp counted]
    cases done
    constructor
    · simp [QueryCall.skips?]
    · simpa [QueryCall.limits?] using sums.limit
    · simpa [QueryCall.selects?] using sums.projection
    · simpa [QueryCall.sorts] using sums.sort
  | limit v =>
    obtain ⟨n, counted, done⟩ := Except.of_bind_eq_ok done
    rw [Argument.count_eq_ok.mp counted]
    cases done
    constructor
    · simpa [QueryCall.skips?] using sums.skip
    · simp [QueryCall.limits?]
    · simpa [QueryCall.selects?] using sums.projection
    · simpa [QueryCall.sorts] using sums.sort
  | _ =>
    rw [apply_options rfl done]
    exact sums.passed rfl

end Query

namespace Options

variable {o : Options} {calls : List QueryCall}

theorem sums_empty : Options.empty.Sums [] :=
  ⟨rfl, rfl, rfl, rfl⟩

theorem Sums.sortArgument (sums : o.Sums calls) :
    ∃ ss, o.sortArgument = .ok ss ∧ ss.Only "sort" ∧ ∀ v, ss.field? "sort" = some v →
      ∃ es : Entries, v = .list (es.map fun e => .tuple [e.1, e.2]) ∧ es.Once := by
  rw [Options.sortArgument, sortPairs, sums.sort]
  split
  · refine ⟨_, rfl, .inr ⟨_, rfl⟩, fun v found => ?_⟩
    cases found
    exact ⟨_, rfl, Entries.once_nil.merge _⟩
  · exact ⟨[], rfl, .inl rfl, by simp [Entries.field?, Entries.get?]⟩

theorem Sums.projectionArgument (sums : o.Sums calls) :
    ∃ ps, o.projectionArgument = .ok ps ∧ ps.Only "projection" ∧ ∀ v,
      ps.field? "projection" = some v → ∃ ns : List String, v = .list (ns.map .str) ∧ ns.Nodup := by
  have projection := sums.projection
  rw [Options.projectionArgument]
  split at projection
  · rw [projection]
    exact ⟨[], rfl, .inl rfl, by simp [Entries.field?, Entries.get?]⟩
  · obtain ⟨ns, -, projection⟩ := projection
    rw [projection]
    refine ⟨_, rfl, .inr ⟨_, rfl⟩, fun v found => ?_⟩
    cases found
    exact ⟨_, rfl, nodup_eraseDups ns⟩

/-- All but the order is plain data. -/
theorem Sums.plain (sums : o.Sums calls) (fair : o.Fair) :
    o.skip.Plain ∧ o.limit.Plain ∧ o.projection.Plain := by
  have count {v : Value} (count : v.IsCount) : v.Plain := by
    obtain rfl | ⟨n, rfl⟩ := count
    · exact .null
    · exact .int n
  refine ⟨count fair.skip, count fair.limit, ?_⟩
  have projection := sums.projection
  split at projection
  · exact projection ▸ .null
  · obtain ⟨ns, -, projection⟩ := projection
    rw [projection]
    refine .list _ fun v hv => ?_
    obtain ⟨s, -, rfl⟩ := List.mem_map.mp hv
    exact .str s

theorem count_of_set {name : String} {v w : Value} (count : v.IsCount)
    (found : Entries.field? (if isSet v then [(.str name, v)] else []) name = some w) :
    ∃ n : Nat, w = .int n := by
  cases count with
  | inl null =>
    subst null
    cases found
  | inr number =>
    obtain ⟨n, rfl⟩ := number
    have same : w = .int n := by simpa [isSet, Entries.field?, Entries.get?] using found.symm
    exact ⟨n, same⟩

/-- Options that calls made are proper arguments of a search. -/
theorem Sums.findArguments (sums : o.Sums calls) (fair : o.Fair) :
    ∃ args, o.findArguments = .ok args ∧ args.Proper := by
  obtain ⟨ss, sorted, sort, order⟩ := sums.sortArgument
  obtain ⟨ps, projected, projection, names⟩ := sums.projectionArgument
  have skip := only_set "skip" o.skip
  have limit := only_set "limit" o.limit
  refine ⟨_, by rw [Options.findArguments, sorted, projected]; rfl, ?_, ?_, ?_, ?_⟩
  all_goals
    intro v found
    simp only [Entries.field?_append] at found
  · rw [skipArgument, skip.field?_other (by decide), limit.field?_other (by decide),
      projection.field?_other (by decide), Option.or_none, Option.or_none, Option.or_none] at found
    exact order v found
  · rw [skipArgument, sort.field?_other (by decide), skip.field?_other (by decide),
      limit.field?_other (by decide), Option.none_or, Option.none_or, Option.none_or] at found
    exact names v found
  · rw [skipArgument, sort.field?_other (by decide), limit.field?_other (by decide),
      projection.field?_other (by decide), Option.none_or, Option.or_none, Option.or_none] at found
    exact count_of_set fair.skip found
  · rw [skipArgument, sort.field?_other (by decide), skip.field?_other (by decide),
      projection.field?_other (by decide), Option.none_or, Option.none_or, Option.or_none] at found
    exact count_of_set fair.limit found

end Options

end DocMapper
