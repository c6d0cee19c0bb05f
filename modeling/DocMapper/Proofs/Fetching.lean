import DocMapper.Proofs.Retaining
import DocMapper.Proofs.Ways

/-!
What a query gives, whatever its criteria ask for and its documents hold.  A query that is run copies
its criteria, and the copy selects documents; instances are made over copies of these.  What cannot be
copied is not asked for, and not given.  Plain data is its own copy, so that a query of plain data
gives the same documents in all ways, however often it is run.
-/

namespace DocMapper

namespace Store

/-- What the criteria of a query choose: a copy of them selects documents, in a store where everything
shows what it showed when the copy was made.  Without documents it does not matter what is shown. -/
inductive Filters (st : Store) (q : Query) (ds : List Value) :
    Store → Except Fault (List Value) → Prop
  | uncopied {e : Fault} (refused : st.uncopyable? (.dict q.criteria) = some e) :
      Filters st q ds st (.error e)
  | selected {now : Store} (free : st.uncopyable? (.dict q.criteria) = none)
      (alike : ds ≠ [] → (st.cloned (.dict q.criteria)).2.Alike now) :
      Filters st q ds now (now.selects (st.cloned (.dict q.criteria)).1 ds)

/-- Documents are copied one after another, up to the first that cannot be. -/
inductive Copies : Store → List Value → Except Fault (List Value) → Store → Prop
  | nil {st : Store} : Copies st [] (.ok []) st
  | refused {st : Store} {x : Value} {xs : List Value} {e : Fault}
      (refused : st.uncopyable? x = some e) : Copies st (x :: xs) (.error e) st
  | copied {st after : Store} {x : Value} {xs : List Value} {r : Except Fault (List Value)}
      (free : st.uncopyable? x = none) (rest : Copies (st.cloned x).2 xs r after) :
      Copies st (x :: xs) (r.map ((st.cloned x).1 :: ·)) after

/-- What comes of the documents that a query chooses: those in its window are copied. -/
inductive Fetches (st : Store) (q : Query) (ds : List Value) (limit : Value) :
    Except Fault (List Value) → Prop
  | unchosen {now : Store} {e : Fault} (filters : st.Filters q ds now (.error e)) :
      Fetches st q ds limit (.error e)
  | chosen {now after : Store} {xs : List Value} {r : Except Fault (List Value)}
      (filters : st.Filters q ds now (.ok xs))
      (copies : now.Copies (windowed q.options.skip limit xs) r after) : Fetches st q ds limit r

variable {st now after : Store} {q : Query} {ds xs : List Value} {limit : Value}

/-- Plain criteria choose what they pick. -/
theorem Filters.picked {r : Except Fault (List Value)} (h : st.Filters q ds now r)
    (picks : q.Picks ds xs) : r = .ok xs := by
  cases h with
  | uncopied refused =>
    rw [st.uncopyable?_plain picks.plain] at refused
    cases refused
  | selected =>
    rw [st.cloned_plain picks.plain]
    exact picks.selected now

theorem Copies.doubles {r : Except Fault (List Value)} (h : st.Copies xs r after) :
    st.Doubles after := by
  induction h with
  | nil => exact .refl _
  | refused => exact .refl _
  | copied _ _ ih => exact (cloned_doubles _ _).trans ih

theorem Copies.plain {r : Except Fault (List Value)} (h : st.Copies xs r after)
    (plain : ∀ x ∈ xs, x.Plain) : r = .ok xs := by
  induction h with
  | nil => rfl
  | @refused st x _ _ refused =>
    rw [st.uncopyable?_plain (plain x List.mem_cons_self)] at refused
    cases refused
  | @copied st _ x _ _ _ _ ih =>
    rw [st.cloned_plain (plain x List.mem_cons_self),
      ih fun y hy => plain y (List.mem_cons_of_mem x hy)]
    rfl

/-- Copies of documents can be read as these can. -/
theorem Copies.entries {r : Except Fault (List Value)} (h : st.Copies xs r after)
    (entries : ∀ x ∈ xs, x.entries?.isSome) : ∀ ys, r = .ok ys → ∀ y ∈ ys, y.entries?.isSome := by
  induction h with
  | nil =>
    rintro _ ⟨⟩
    exact entries
  | refused => nofun
  | @copied st _ x xs r _ _ ih =>
    obtain ⟨first, others⟩ := List.forall_mem_cons.mp entries
    rintro ys same
    cases r with
    | error e => cases same
    | ok zs =>
      cases same
      obtain ⟨es, here⟩ := Option.isSome_iff_exists.mp first
      obtain ⟨cs, there, -⟩ := (Value.copied_cloned st x).entries here
      exact List.forall_mem_cons.mpr ⟨there ▸ rfl, ih others zs rfl⟩

/-- Plain documents are given as they are. -/
theorem Fetches.picked {r : Except Fault (List Value)} (h : st.Fetches q ds limit r)
    (picks : q.Picks ds xs) : r = .ok (windowed q.options.skip limit xs) := by
  cases h with
  | unchosen filters => cases filters.picked picks
  | chosen filters copies =>
    cases filters.picked picks
    exact copies.plain fun x hx => picks.docs x (windowed_subset _ _ _ hx)

theorem Hands.alike {k j : Nat} {name : String} (hands : st.Hands k name j ds after)
    (some : ds ≠ []) : st.Alike after := by
  obtain ⟨shelves, stocks⟩ := hands.stays.resolve_right some
  intro h
  have contents : after.aside.contents h = st.aside.contents h := by rw [hands.aside]
  cases h
  case shelf i =>
    change after.shelves[i]? = st.shelves[i]?
    rw [shelves]
  case stock i =>
    change after.stocks[i]?.map _ = st.stocks[i]?.map _
    rw [stocks]
  all_goals exact contents

theorem Hands.numbered {k j : Nat} {name : String} (hands : st.Hands k name j ds after)
    (numbered : st.registry.Numbered) : after.registry.Numbered := by
  have registry : after.registry = st.registry :=
    congrArg Setting.registry (setting_of_aside hands.aside)
  exact registry ▸ numbered

/-- A handle that was given once the criteria were copied shows what they choose. -/
theorem Hands.filters {k j : Nat} {name : String}
    (hands : (st.cloned (.dict q.criteria)).2.Hands k name j ds after)
    (free : st.uncopyable? (.dict q.criteria) = none) {r : Except Fault (List Value)}
    (selected : after.selects (st.cloned (.dict q.criteria)).1 ds = r) : st.Filters q ds after r :=
  selected ▸ .selected free hands.alike

/-- The criteria of a query were copied, and a handle of its collection was given after that. -/
structure Readies (st : Store) (c : ClassRef) (k : Nat) (name : String) (i : Nat) (q : Query)
    (ds : List Value) (criteria : Value) (j : Nat) (copied after : Store) : Prop where
  doubles : st.Doubles copied
  runs : copied.Runs c k name i q ds
  numbered : copied.registry.Numbered
  hands : copied.Hands k name j ds after
  filters : ∀ later r, copied.Hands k name j ds later → later.selects criteria ds = r →
    st.Filters q ds later r

end Store

namespace Act

theorem outcome_copies_eq (xs : List Value) (st : Store) :
    ∃ r after, (copies xs).outcome st = (r, after) ∧ st.Copies xs r after := by
  induction xs generalizing st with
  | nil => exact ⟨_, st, rfl, .nil⟩
  | cons x xs ih =>
    have first := outcome_copy_eq x st
    rw [copies, List.mapM_cons]
    cases free : st.uncopyable? x with
    | some e =>
      rw [free] at first
      exact ⟨_, st, outcome_bind_error first, .refused free⟩
    | none =>
      rw [free] at first
      obtain ⟨r, after, rest, copies⟩ := ih (st.cloned x).2
      change (xs.mapM copy).outcome _ = _ at rest
      refine ⟨_, after, ?_, .copied free copies⟩
      rw [outcome_bind_ok first]
      cases r with
      | error e => exact outcome_bind_error rest
      | ok ys =>
        rw [outcome_bind_ok rest]
        rfl

/-- What is done with a copy of the criteria of a query and the handle of its collection. -/
def filtering {β : Type} (d : Dispatch) (c : ClassRef) (q : Query) (f : Value → Value → Act β) :
    Act β := do
  let criteria ← copy (.dict q.criteria)
  f criteria (← collectionFor d (.cls c))

variable {st : Store} {c : ClassRef} {k i : Nat} {name : String} {q : Query} {ds : List Value}
variable (h : st.Runs c k name i q ds) (numbered : st.registry.Numbered)
include h numbered

/-- Either the criteria cannot be copied, or all that is asked for is there. -/
theorem outcome_filtering {β : Type} (f : Value → Value → Act β) (d : Dispatch) :
    (∃ e, (filtering d c q f).outcome st = (.error e, st) ∧ st.Filters q ds st (.error e)) ∨
      ∃ criteria j copied mid, st.Readies c k name i q ds criteria j copied mid ∧
        (filtering d c q f).outcome st = (f criteria (.handle (.collection j))).outcome mid := by
  have copies := outcome_copy_eq (.dict q.criteria) st
  cases free : st.uncopyable? (.dict q.criteria) with
  | some e =>
    rw [free] at copies
    exact .inl ⟨e, outcome_bind_error copies, .uncopied free⟩
  | none =>
    rw [free] at copies
    have doubles := st.cloned_doubles (.dict q.criteria)
    have runs := h.of_doubles numbered doubles
    obtain ⟨j, mid, handle, hands⟩ := outcome_handleOf (d := d) runs.configured runs.connected
    rw [← outcome_collectionFor runs.configured] at handle
    refine .inr ⟨_, j, _, mid, ⟨doubles, runs, doubles.numbered numbered, hands,
      fun _ _ hands => hands.filters free⟩, ?_⟩
    rw [filtering, outcome_bind_ok copies, outcome_bind_ok handle]

/-- A query that is run opens a cursor over what it fetches, or fails as that does. -/
theorem outcome_execute_fetches {extra : Entries} {limit : Value} (count : limit.IsCount)
    (asks : ∀ args : Entries, args.Asks q.options.skip q.options.limit →
      (args.merge extra).Asks q.options.skip limit) (d : Dispatch) :
    ∃ r after, (execute d (.handle (.query .bound i)) extra).outcome st = (r, after) ∧
      after.Runs c k name i q ds ∧ after.registry.Numbered ∧
      match r with
      | .error e => st.Fetches q ds limit (.error e)
      | .ok v => ∃ (ys : List Value) (mid : Store), v = .handle (.cursor .query mid.cursors.size) ∧
          st.Fetches q ds limit (.ok ys) ∧ st.documents.toList <+: mid.documents.toList ∧
          mid.Opens d c k name i q ds ys after := by
  obtain ⟨args, asked, executed⟩ := outcome_execute_eq h.poses d
  have executed : (execute d (.handle (.query .bound i)) extra).outcome st = (filtering d c q
      fun criteria => searching d c i criteria (args.merge extra)).outcome st := executed extra
  rcases outcome_filtering h numbered (fun criteria => searching d c i criteria (args.merge extra)) d
    with ⟨e, refused, filters⟩ | ⟨criteria, j, copied, mid, readies, reached⟩
  · exact ⟨_, st, executed.trans refused, h, numbered, .unchosen filters⟩
  obtain ⟨doubles, runs, numbered, hands, filters⟩ := readies
  rw [executed, reached]
  cases selected : mid.selects criteria ds with
  | error e =>
    obtain ⟨-, after, failed, later, -⟩ :=
      outcome_searching_failed runs hands selected (asks args asked) d
    exact ⟨_, after, failed, runs.of_hands later, later.numbered numbered,
      .unchosen (filters _ _ hands selected)⟩
  | ok xs =>
    obtain ⟨-, found, searched, later, selected, -⟩ :=
      outcome_searching_eq runs hands selected count (asks args asked) d
    obtain ⟨r, after, made, copies⟩ :=
      outcome_copies_eq (windowed q.options.skip limit xs) found
    have fetches : st.Fetches q ds limit r := .chosen (filters _ _ later selected) copies
    have more := copies.doubles
    have numbered := later.numbered numbered
    have runs := (runs.of_hands later).of_doubles numbered more
    rw [searched]
    cases r with
    | error e => exact ⟨_, after, outcome_bind_error made, runs, more.numbered numbered, fetches⟩
    | ok ys =>
      have docs : ∀ y ∈ ys, y.entries?.isSome := copies.entries (fun x hx =>
        h.docs x (Store.selects_subset selected (windowed_subset _ _ _ hx))) ys rfl
      obtain ⟨opened, opening, opens, -⟩ := outcome_opening runs docs d
      have registry : opened.registry = after.registry := congrArg Setting.registry opens.setting
      have documents : found.documents = copied.documents := Store.documents_of_aside later.aside
      refine ⟨_, opened, (outcome_bind_ok made).trans opening, opens.runs,
        registry ▸ more.numbered numbered, ys, after, rfl, fetches, ?_, opens⟩
      exact (documents ▸ doubles.documents).trans more.documents

/-- A query that is counted counts what its criteria choose, or fails as these do. -/
theorem outcome_countMatching_filters (d : Dispatch) :
    ∃ now r after, (countMatching d (.handle (.query .bound i)) []).outcome st =
        (r.map fun xs => .int (q.part xs).length, after) ∧ st.Filters q ds now r ∧
      after.Runs c k name i q ds ∧ after.registry.Numbered := by
  have counted : (countMatching d (.handle (.query .bound i)) []).outcome st = (filtering d c q
      fun criteria => counting d c i criteria q.options.countArguments).outcome st :=
    outcome_countMatching_eq h.poses d
  rcases outcome_filtering h numbered
      (fun criteria => counting d c i criteria q.options.countArguments) d
    with ⟨e, refused, filters⟩ | ⟨criteria, j, copied, mid, readies, reached⟩
  · exact ⟨st, .error e, st, counted.trans refused, filters, h, numbered⟩
  obtain ⟨-, runs, numbered, hands, filters⟩ := readies
  rw [counted, reached]
  cases selected : mid.selects criteria ds with
  | error e =>
    obtain ⟨limit, -, -, asks⟩ := h.built.fair.1.options.asks_count
    obtain ⟨vs, failed⟩ := outcome_counting_failed runs hands selected asks d
    have later := hands.called vs
    exact ⟨mid, .error e, _, failed, filters _ _ hands selected, runs.of_hands later,
      later.numbered numbered⟩
  | ok xs =>
    obtain ⟨after, answer, later, -⟩ := outcome_counting runs hands selected d
    exact ⟨mid, .ok xs, after, answer, filters _ _ hands selected, runs.of_hands later,
      later.numbered numbered⟩

end Act

namespace Way

theorem limit_isCount {c : ClassRef} {q : Query} (built : q.BuiltFor c) (w : Way) :
    (w.limit q).IsCount := by
  cases w
  case first => exact .inr ⟨1, rfl⟩
  all_goals exact built.fair.1.options.limit

theorem asks_extra {q : Query} {args : Entries} (w : Way)
    (asks : args.Asks q.options.skip q.options.limit) :
    (args.merge w.extra).Asks q.options.skip (w.limit q) := by
  cases w
  case first => exact asks.merge_limit (.int 1)
  all_goals exact asks

/-- What comes of a way: what it fetches is given by instances that are new, or it fails as that
does. -/
def Comes (w : Way) (c : ClassRef) (q : Query) (ds : List Value) (st : Store)
    (result : Except Fault Value) (after : Store) : Prop :=
  ∃ r, (w.entry st).Fetches q ds (w.limit q) r ∧
    match r with
    | .error e => result = .error e
    | .ok ys => ∃ mid : Store, st.documents.toList <+: mid.documents.toList ∧
      w.Answers c ys mid result after

variable {st : Store} {c : ClassRef} {k i : Nat} {name : String} {q : Query} {ds : List Value}
variable (h : st.Runs c k name i q ds) (numbered : st.registry.Numbered)
include h numbered

theorem comes_act (names : Names) (n : Nat) (w : Way) :
    ∃ result after, (w.act names n (.handle (.query .bound i))).outcome st = (result, after) ∧
      after.Runs c k name i q ds ∧ after.registry.Numbered ∧ w.Comes c q ds st result after := by
  have entered : (w.entry st).Runs c k name i q ds ∧ (w.entry st).registry.Numbered ∧
      (w.entry st).documents = st.documents := by
    cases w
    case wait | walk => exact ⟨h, numbered, rfl⟩
    all_goals exact ⟨runs_identified h, numbered, rfl⟩
  obtain ⟨runs, numbered, documents⟩ := entered
  obtain ⟨r, opened, executed, kept, orderly, fetched⟩ := Act.outcome_execute_fetches runs numbered
    (w.limit_isCount h.built) (fun _ asks => w.asks_extra asks) (dispatch names n)
  cases r with
  | error e =>
    have acted := outcome_act h w executed nofun
    exact ⟨.error e, opened, acted, kept, orderly, .error e, fetched, rfl⟩
  | ok v =>
    obtain ⟨ys, mid, rfl, fetches, more, opens⟩ := fetched
    have acted := outcome_act h w executed fun v is => ⟨_, (Except.ok.inj is).symm⟩
    obtain ⟨result, after, answer, goes⟩ := goes_read opens w
    have registry : after.registry = opened.registry :=
      congrArg Setting.registry (goes.setting.trans opens.setting.symm)
    exact ⟨result, after, acted.trans answer, goes.runs, registry ▸ orderly, .ok ys, fetches, mid,
      documents ▸ more, goes.answers⟩

end Way

/-- What can be asked of a query: its documents, in one of the ways to get at them, or how many they
are. -/
inductive Inquiry
  | documents (way : Way)
  | count

namespace Inquiry

def act (names : Names) (n : Nat) (query : Value) : Inquiry → Act Value
  | documents w => w.act names n query
  | count => (dispatch names (n + 1)).call .always query "count" [] []

/-- What comes of an inquiry: what it fetches or counts, or how that fails. -/
def Comes (c : ClassRef) (q : Query) (ds : List Value) (st : Store) (result : Except Fault Value)
    (after : Store) : Inquiry → Prop
  | documents w => w.Comes c q ds st result after
  | count => ∃ now r, st.identified.Filters q ds now r ∧
    result = r.map fun xs => .int (q.part xs).length

/-- What an inquiry answers if these are the documents: instances for them that are new, or their
number. -/
def Answers (c : ClassRef) (xs : List Value) (st : Store) (result : Except Fault Value)
    (after : Store) : Inquiry → Prop
  | documents w => ∃ mid : Store, st.documents.toList <+: mid.documents.toList ∧
    w.Answers c xs mid result after
  | count => result = .ok (.int xs.length)

variable {names : Names} {n : Nat} {st now after : Store} {c : ClassRef} {k i : Nat}
variable {name : String} {q : Query} {ds xs : List Value} {result : Except Fault Value}

/-- Of plain criteria that pick plain documents comes what these are. -/
theorem Comes.picked {u : Inquiry} (h : u.Comes c q ds st result after) (picks : q.Picks ds xs) :
    u.Answers c (q.part xs) st result after := by
  cases u with
  | documents w =>
    obtain ⟨r, fetches, comes⟩ := h
    obtain rfl := fetches.picked picks
    obtain ⟨mid, more, answers⟩ := comes
    exact ⟨mid, more, (Way.answers_limit w).mp answers⟩
  | count =>
    obtain ⟨_, r, filters, rfl⟩ := h
    obtain rfl := filters.picked picks
    rfl

/-- An inquiry leaves the query as it was, so that it can be asked again. -/
theorem comes_act (h : st.Runs c k name i q ds) (numbered : st.registry.Numbered) (names : Names)
    (n : Nat) (u : Inquiry) :
    ∃ result after, (u.act names n (.handle (.query .bound i))).outcome st = (result, after) ∧
      after.Runs c k name i q ds ∧ after.registry.Numbered ∧ u.Comes c q ds st result after := by
  cases u with
  | documents w => exact w.comes_act h numbered names n
  | count =>
    obtain ⟨now, r, after, counted, filters, runs, orderly⟩ :=
      Act.outcome_countMatching_filters (Way.runs_identified h) numbered (dispatch names n)
    refine ⟨_, after, ?_, runs, orderly, now, r, filters, rfl⟩
    rw [act, Act.outcome_call_bare h.bare h.configured.pristine rfl rfl rfl rfl (.inl ⟨rfl, rfl⟩)]
    exact counted

end Inquiry

variable {names : Names} {n : Nat} {st now : Store} {c : ClassRef} {k i : Nat} {name : String}
variable {q : Query} {ds : List Value} {past : List (Passage Inquiry)}

def Query.afterOne : Query where
  kind := .bound
  criteria := [(.str "n", .dict [(.str "$gt", .int 1)])]
  options := { Options.empty with skip := .int 1 }
  model := .cls (.model 1)

def numbered (ns : List Int) : List Value := ns.map fun n => .dict [(.str "n", .int n)]

/-- Numbered posts, and a query for posts. -/
def Store.asked (q : Query) (ns : List Int) : Store := { posts (numbered ns) with queries := #[q] }

theorem Store.runs_asked {q : Query} (built : q.BuiltFor (.model 1)) (ns : List Int) :
    (asked q ns).Runs (.model 1) 0 "posts" 0 q (numbered ns) := by
  have bare (h : Handle) : (asked q ns).Bare h := ⟨fun _ => rfl, rfl⟩
  exact {
    configured := ⟨fun _ _ => rfl, rfl, rfl, rfl, bare _, fun _ _ => bare _⟩
    makes := ⟨⟨_, rfl, rfl⟩, _, _, rfl⟩
    connected :=
      .inr ⟨0, 0, rfl, ⟨[], rfl⟩, bare _, rfl, Nat.one_pos, ⟨Nat.one_pos, rfl⟩, [], rfl, rfl⟩
    query := rfl
    built := built
    docs := fun x hx => by
      obtain ⟨n, -, rfl⟩ := List.mem_map.mp hx
      rfl
    bare := bare _
    options := bare _
    cursors := fun _ _ => bare _
    sources := fun _ _ => bare _ }

/-- A query for posts that have a cursor in them. -/
def Query.forCursor : Query where
  kind := .bound
  criteria := [(.str "k", .dict [(.str "$eq", .handle (.cursor .aggregate 0))])]
  options := .empty
  model := .cls (.model 1)

/-- The cursor that is asked for was not waited for itself. -/
def Store.pending : Store :=
  { asked .forCursor [1] with
    cursors := #[{ kind := .aggregate, source := .handle (.promise 0) }]
    sources := #[{ pending := [] }]
    promises := #[{ promised := .source 0 }] }

end DocMapper
