import DocMapper.Proofs.Selecting

/-!
Whose handles a connection gives out.  A connection that was asked for a collection once gives that
handle from then on, whatever databases it selects: each handle was made by the database that was
selected when its name was first asked for, and by no other.
-/

namespace DocMapper

/-- What a connection is asked: to select a database, or for a collection, in its own name or
through a model. -/
inductive Ask
  | connect (url : Value) (options : Entries)
  | collection (name : String)
  | through (c : ClassRef) (name : String)

namespace Ask

def act (d : Dispatch) (k : Nat) : Ask → Act Value
  | connect url options => do
    Act.connect d k url options
    return .null
  | collection name => Act.handleOf d k (.str name)
  | through c _ => Act.collectionFor d (.cls c)

/-- A model asks for its own collection, and asks the connection that is its own. -/
def Fits (k : Nat) (st : Store) : Ask → Prop
  | through c name => st.Configured c k name
  | _ => True

/-- The collection that is asked for. -/
def name? : Ask → Option String
  | connect .. => none
  | collection name | through _ name => some name

end Ask

/-- The database that a connection has selected. -/
def Store.Selects (st : Store) (k b : Nat) : Prop :=
  (st.connectionAt k).database = .handle (.database b)

/-- A database was asked for a collection, and made the handle that was given. -/
structure Passage.Makes (p : Passage Ask) (b : Nat) (name : String) (h : Value) : Prop where
  new : h = .handle (.collection p.before.collections.size)
  given : p.result = .ok h
  asked : appended (p.before.databaseAt b).requests (.str name) =
    .ok (p.after.databaseAt b).requests

/-- What one question does to the handles that a connection keeps. -/
structure Passage.Lends (k : Nat) (p : Passage Ask) : Prop where
  roams : p.after.Roams k
  grows : p.before.collections.size ≤ p.after.collections.size
  retains : ∀ name h, p.before.keptAt k name = some h → p.after.keptAt k name = some h
  introduces : ∀ name h, p.after.keptAt k name = some h → p.before.keptAt k name = none →
    p.use.name? = some name ∧ ∃ b, p.before.Selects k b ∧ p.Makes b name h
  answers : ∀ name h, p.use.name? = some name → p.result = .ok h → p.after.keptAt k name = some h
  makes : ∀ b name h, p.Makes b name h →
    p.before.Selects k b ∧ p.before.collections.size < p.after.collections.size

section

variable {d : Dispatch} {st now : Store} {k : Nat} {past : List (Passage Ask)} {u : Ask}

abbrev Asks (d : Dispatch) (k : Nat) :=
  Course (Ask.act d k) (Ask.Fits k)

theorem not_appended_self (v x : Value) : appended v x ≠ .ok v := by
  cases v <;> simp [appended]

theorem lends_connect (roams : st.Roams k) (url : Value) (options : Entries) :
    Passage.Lends k ⟨.connect url options, st, (((Ask.connect url options).act d k).outcome st).1,
      (((Ask.connect url options).act d k).outcome st).2⟩ := by
  obtain ⟨result, after, done, stays, -, kept, size⟩ :=
    Act.outcome_connect_any (d := d) roams url options
  have given : ∃ result, ((Ask.connect url options).act d k).outcome st = (result, after) ∧
      ∀ h, result = .ok h → h = .null := by
    rw [Ask.act]
    cases result with
    | error e => exact ⟨_, Act.outcome_bind_error done, by simp⟩
    | ok _ => exact ⟨_, (Act.outcome_bind_ok done).trans (Act.outcome_pure ..), by simp⟩
  obtain ⟨result, done, null⟩ := given
  rw [done]
  constructor
  · exact stays
  · exact Nat.le_of_eq size.symm
  · intro name h held
    rw [← held]
    exact congrFun kept name
  · intro name h held free
    rw [show after.keptAt k name = st.keptAt k name from congrFun kept name, free] at held
    cases held
  · intro name h named
    cases named
  · rintro b name h ⟨new, ok, -⟩
    exact absurd (new.symm.trans (null h ok)) (by simp)

theorem lends_collection (roams : st.Roams k) (name : String) (named : u.name? = some name) :
    Passage.Lends k ⟨u, st, ((Act.handleOf d k (.str name)).outcome st).1,
      ((Act.handleOf d k (.str name)).outcome st).2⟩ := by
  obtain ⟨result, after, done, stays, -, went⟩ :=
    Act.outcome_handleOf_any (d := d) roams name
  rw [done]
  obtain ⟨h, rfl, held, rfl⟩ | ⟨e, rfl, kept, size⟩ |
    ⟨b, selects, free, rfl, size, asked, others, kept⟩ := went
  · constructor
    · exact stays
    · exact Nat.le_refl _
    · exact fun _ _ held => held
    · intro name h held free
      exact absurd (free.symm.trans held) (by simp)
    · intro other h' asked given
      obtain rfl := Option.some.inj (named.symm.trans asked)
      exact held.trans (congrArg some (Except.ok.inj given))
    · rintro b name h' ⟨-, -, asked⟩
      exact (not_appended_self _ _ asked).elim
  · constructor
    · exact stays
    · exact Nat.le_of_eq size.symm
    · intro name h held
      exact (congrFun kept name).trans held
    · intro name h held free
      exact absurd (free.symm.trans ((congrFun kept name).symm.trans held)) (by simp)
    · intro _ _ _ given
      cases given
    · rintro b name h ⟨-, given, -⟩
      cases given
  · constructor
    · exact stays
    · exact Nat.le_of_lt (by rw [size]; exact Nat.lt_succ_self _)
    · intro other h held
      have different : other ≠ name := by
        rintro rfl
        exact absurd (free.symm.trans held) (by simp)
      exact (kept other).trans ((if_neg different).trans held)
    · intro other h held free
      have kept := (kept other).symm.trans held
      split at kept
      · rename_i same
        obtain rfl := Option.some.inj kept
        exact ⟨same ▸ named, b, selects, rfl, rfl, same ▸ asked⟩
      · exact absurd (free.symm.trans kept) (by simp)
    · intro other h same given
      obtain rfl := Option.some.inj (named.symm.trans same)
      rw [kept, if_pos rfl]
      exact congrArg some (Except.ok.inj given)
    · rintro b' name h ⟨-, -, asked'⟩
      by_cases same : b' = b
      · exact ⟨same ▸ selects, by rw [size]; exact Nat.lt_succ_self _⟩
      · rw [others b' same] at asked'
        exact (not_appended_self _ _ asked').elim

theorem lends_act (roams : st.Roams k) (fit : u.Fits k st) :
    Passage.Lends k ⟨u, st, ((u.act d k).outcome st).1, ((u.act d k).outcome st).2⟩ := by
  cases u with
  | connect url options => exact lends_connect roams url options
  | collection name => exact lends_collection roams name rfl
  | through c name =>
    rw [Ask.act, Act.outcome_collectionFor fit]
    exact lends_collection roams name rfl

/-- What a history has made of the handles that a connection keeps. -/
structure Lent (k : Nat) (past : List (Passage Ask)) (now : Store) : Prop where
  roams : now.Roams k
  origin : ∀ name h, now.keptAt k name = some h → ∃ first q rest, past = first ++ q :: rest ∧
    q.use.name? = some name ∧ (∃ b, q.before.Selects k b ∧ q.Makes b name h) ∧
    ∀ q' ∈ first, q'.use.name? = some name → ∀ h', q'.result ≠ .ok h'
  unasked : ∀ name, now.keptAt k name = none → ∀ q ∈ past, q.use.name? = some name →
    ∀ h, q.result ≠ .ok h
  within : ∀ q ∈ past, ∀ b name h, q.Makes b name h → q.before.Selects k b ∧
    q.before.collections.size < now.collections.size
  once : ∀ q ∈ past, ∀ q' ∈ past, ∀ b b' name name' h, q.Makes b name h → q'.Makes b' name' h →
    b = b'

theorem Lent.next {p : Passage Ask} (lent : Lent k past p.before) (lends : p.Lends k) :
    Lent k (past ++ [p]) p.after := by
  have last : ∀ q ∈ past ++ [p], q ∈ past ∨ q = p := by simp
  constructor
  · exact lends.roams
  · intro name h held
    cases before : p.before.keptAt k name with
    | some old =>
      obtain rfl := Option.some.inj ((lends.retains name old before).symm.trans held)
      obtain ⟨first, q, rest, rfl, origin⟩ := lent.origin name old before
      exact ⟨first, q, rest ++ [p], by simp, origin⟩
    | none =>
      obtain ⟨asked, made⟩ := lends.introduces name h held before
      exact ⟨past, p, [], rfl, asked, made, lent.unasked name before⟩
  · intro name free q member named h given
    have before : p.before.keptAt k name = none := by
      cases held : p.before.keptAt k name with
      | none => rfl
      | some old => exact absurd (free.symm.trans (lends.retains name old held)) (by simp)
    obtain member | rfl := last q member
    · exact lent.unasked name before q member named h given
    · exact absurd (free.symm.trans (lends.answers name h named given)) (by simp)
  · intro q member b name h makes
    obtain member | rfl := last q member
    · obtain ⟨selects, within⟩ := lent.within q member b name h makes
      exact ⟨selects, Nat.lt_of_lt_of_le within lends.grows⟩
    · exact lends.makes b name h makes
  · -- a later handle is another one, and one question asks one database
    have apart : ∀ q ∈ past, ∀ b b' name name' h, q.Makes b name h → ¬ p.Makes b' name' h := by
      intro q member b b' name name' h makes makes'
      have within := (lent.within q member b name h makes).2
      have same := makes.new.symm.trans makes'.new
      simp only [Value.handle.injEq, Handle.collection.injEq] at same
      exact absurd same (Nat.ne_of_lt within)
    intro q member q' member' b b' name name' h makes makes'
    obtain early | rfl := last q member <;> obtain early' | rfl := last q' member'
    · exact lent.once q early q' early' b b' name name' h makes makes'
    · exact absurd makes' (apart q early b b' name name' h makes)
    · exact absurd makes (apart q' early' b' b name' name h makes')
    · have same := (lends.makes b name h makes).1.symm.trans (lends.makes b' name' h makes').1
      simpa using same

theorem lent_of_asks (roams : st.Roams k) (none : ∀ name, st.keptAt k name = none)
    (run : Asks d k st past now) : Lent k past now := by
  induction run with
  | start =>
    refine ⟨roams, fun name h held => ?_, fun _ _ q member => ?_, fun q member => ?_,
      fun q member => ?_⟩
    · rw [none] at held
      cases held
    all_goals exact absurd member List.not_mem_nil
  | step before u fit ih =>
    exact ih.next (lends_act ih.roams fit)

/-- Every handle was made by the database that was selected when its collection was first given,
and by no other; so it is of the database that is selected now just if that is the same. -/
theorem asks_lend (roams : st.Roams k) (none : ∀ name, st.keptAt k name = none)
    (run : Asks d k st past now) :
    ∀ earlier p later, past = earlier ++ p :: later → ∀ name h, p.use.name? = some name →
      p.result = .ok h → ∃ first q rest b, earlier ++ [p] = first ++ q :: rest ∧
        q.use.name? = some name ∧ q.result = .ok h ∧ q.before.Selects k b ∧
        (∀ q' ∈ first, q'.use.name? = some name → ∀ h', q'.result ≠ .ok h') ∧
        ∀ b', (∃ q' ∈ earlier ++ [p], q'.Makes b' name h) ↔ b' = b := by
  intro earlier p later place name h named given
  obtain ⟨before, fit, went, -⟩ := run.split place
  have lent := lent_of_asks roams none before
  have lends : p.Lends k := by
    rw [went]
    exact lends_act lent.roams fit
  have lent := lent.next lends
  obtain ⟨first, q, rest, split, asked, ⟨b, selects, makes⟩, unasked⟩ :=
    lent.origin name h (lends.answers name h named given)
  have member : q ∈ earlier ++ [p] := by
    rw [split]
    exact List.mem_append_right _ List.mem_cons_self
  refine ⟨first, q, rest, b, split, asked, makes.given, selects, unasked, fun b' => ⟨?_, ?_⟩⟩
  · rintro ⟨q', among, makes'⟩
    exact lent.once q' among q member b' b name name h makes' makes
  · rintro rfl
    exact ⟨q, member, makes⟩

/-- A connection on a client that nothing was asked of. -/
def Store.given : Store where
  noting := false
  connections := #[{ client := .handle (.client 0) }]
  clients := #[{ data := .handle (.stock 0) }]
  stocks := #[[]]

theorem Store.bare_given (h : Handle) : given.Bare h := ⟨fun _ => rfl, rfl⟩

theorem Store.roams_given : given.Roams 0 where
  pristine _ _ := rfl
  bare := bare_given _
  clients _ := bare_given _
  databases _ := bare_given _
  present := Nat.one_pos
  handles := ⟨[], rfl⟩
  selected := .inl rfl
  client := .inr ⟨0, rfl, Nat.one_pos, [], rfl, fun _ member => absurd member List.not_mem_nil⟩

def Store.onFirst : Store :=
  { given with
    connections := #[{ client := .handle (.client 0), database := .handle (.database 0) }]
    clients := #[{
      data := .handle (.stock 0), databases := .dict [(.str "a", .handle (.database 0))] }]
    databases := #[{ name := .str "a", data := .handle (.stock 0) }] }

def Store.onFirstKeeping : Store :=
  { onFirst with
    connections := #[{
      client := .handle (.client 0), database := .handle (.database 0)
      handles := .dict [(.str "posts", .handle (.collection 0))] }]
    databases := #[{
      name := .str "a", data := .handle (.stock 0), requests := .list [.str "posts"] }]
    collections := #[{ name := .str "posts", shelf := 0 }]
    stocks := #[[(.str "posts", .handle (.shelf 0))]]
    shelves := #[.list []] }

def Store.onSecond : Store :=
  { onFirstKeeping with
    connections := #[{
      client := .handle (.client 0), database := .handle (.database 1)
      handles := .dict [(.str "posts", .handle (.collection 0))] }]
    clients := #[{
      data := .handle (.stock 0)
      databases := .dict [(.str "a", .handle (.database 0)), (.str "b", .handle (.database 1))] }]
    databases := #[
      { name := .str "a", data := .handle (.stock 0), requests := .list [.str "posts"] },
      { name := .str "b", data := .handle (.stock 0) }] }

/-- After another database was selected, a collection that was asked for before is still the one of
the first. -/
theorem asks_lend_reconnected :
    ∃ past, Asks (dispatch [] 0) 0 .given past .onSecond ∧
      past.map Passage.use = [.connect (.str "mongodb://h/a") [], .collection "posts",
        .connect (.str "mongodb://h/b") [], .collection "posts"] ∧
      past.getLast?.map Passage.result = some (.ok (.handle (.collection 0))) ∧
      Store.onSecond.Selects 0 1 ∧
      ∀ b, (∃ q ∈ past, q.Makes b "posts" (.handle (.collection 0))) ↔ b = 0 := by
  have connects (database url : String) {now after : Store}
      (named : ConnectionString.databaseNameOf (.str url) = .ok database)
      (client : (now.connectionAt 0).client = .handle (.client 0))
      (done : (Act.select (dispatch [] 0) 0 0 database).outcome now = (.ok (), after)) :
      ((Ask.connect (.str url) []).act (dispatch [] 0) 0).outcome now = (.ok .null, after) := by
    rw [Ask.act, Act.outcome_bind_ok ((Act.outcome_connect_given named client []).trans done)]
    rfl
  have first := connects "a" "mongodb://h/a" rfl rfl
    (show (Act.select _ 0 0 "a").outcome .given = (.ok (), .onFirst) from rfl)
  have keeps : ((Ask.collection "posts").act (dispatch [] 0) 0).outcome .onFirst =
      (.ok (.handle (.collection 0)), .onFirstKeeping) := rfl
  have second := connects "b" "mongodb://h/b" rfl rfl
    (show (Act.select _ 0 0 "b").outcome .onFirstKeeping = (.ok (), .onSecond) from rfl)
  have gives : ((Ask.collection "posts").act (dispatch [] 0) 0).outcome .onSecond =
      (.ok (.handle (.collection 0)), .onSecond) := rfl
  have run : Asks (dispatch [] 0) 0 .given [] .given := .start
  have run := run.next (by exact trivial) first
  have run := run.next (by exact trivial) keeps
  have run := run.next (by exact trivial) second
  have run := run.next (by exact trivial) gives
  obtain ⟨_, _, _, b, -, -, -, -, -, made⟩ :=
    asks_lend Store.roams_given (fun _ => rfl) run _ _ [] rfl "posts" _ rfl rfl
  -- the second question made the handle, in the first database
  have makes : Passage.Makes ⟨.collection "posts", .onFirst, .ok (.handle (.collection 0)),
      .onFirstKeeping⟩ 0 "posts" (.handle (.collection 0)) := ⟨rfl, rfl, rfl⟩
  obtain rfl := (made 0).mp ⟨_, by simp, makes⟩
  exact ⟨_, run, rfl, rfl, rfl, made⟩

end

end DocMapper
