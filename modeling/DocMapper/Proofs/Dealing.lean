import DocMapper.Proofs.Trading

/-!
Deals in the store and in a ledger.  A deal answers in the store what it answers in the ledger, where
instances are shown by what they hold, and leaves there what the ledger says.
-/

namespace DocMapper

namespace Act

/-- The model that the namespace of a connection shows under a name. -/
def modelNamed (k : Nat) (name : String) : Act ClassRef := do
  match (← connection k).models with
  | .handle (.space i) =>
    match (← space i).field? name with
    | some (.cls c) => return c
    | _ => throw ((Value.handle (.space i)).lacks name)
  | v => throw (v.lacks name)

/-- An instance gets other fields. -/
def assignFields (i : Nat) (fields : Entries) : Act Unit := do
  let _ ← assignPlace (.handle (.document (← document i).model i)) "fields" (.dict fields)

end Act

namespace Deal

def onInstance (given : List Nat) (place : Nat) (f : Nat → Act Unit) : Act Value := do
  match given[place]? with
  | some i => f i
  | none => pure ()
  return .null

open Act in
/-- A deal with the models of a connection, and with the instances that it gave before.  The id that an
insertion generates is given. -/
def act (d : Dispatch) (k : Nat) (given : List Nat) : Deal → Act Value
  | create name fields => do instantiate d (← modelNamed k name) (.dict fields)
  | edit place fields => onInstance given place fun i => assignFields i fields
  | save place generated => onInstance given place fun i => do
    modify fun st => { st with generated }
    Act.save d i
  | find name criteria => do wait d (← findIn d (← modelNamed k name) criteria)
  | count name criteria => do countMatching d (← findIn d (← modelNamed k name) criteria) []
  | findById name id => do Act.findById d (← modelNamed k name) id

/-- A deal about plain data, and about instances that can be stored without any effect. -/
def Fits (d : Dispatch) (st : Store) : Deal → Prop
  | create _ fields | edit _ fields => ∃ form, st.Forms d fields form
  | save .. => True
  | find _ criteria | count _ criteria => criteria.Plain
  | findById _ id => id.Plain

end Deal

/-- The instances that an answer is or has. -/
def Value.instances : Value → List Nat
  | .handle (.document _ i) => [i]
  | .list vs => vs.filterMap fun
    | .handle (.document _ i) => some i
    | _ => none
  | _ => []

def instancesIn : Except Fault Value → List Nat
  | .ok v => v.instances
  | .error _ => []

section

variable {α β : Type} {R S : α → β → Prop} {as : List α} {bs : List β}

theorem forall₂_of_mem (h : List.Forall₂ R as bs) (each : ∀ a ∈ as, ∀ b ∈ bs, R a b → S a b) :
    List.Forall₂ S as bs := by
  induction h with
  | nil => exact .nil
  | cons one _ ih =>
    exact .cons (each _ List.mem_cons_self _ List.mem_cons_self one) (ih fun a member b there =>
      each a (List.mem_cons_of_mem _ member) b (List.mem_cons_of_mem _ there))

theorem forall₂_mem (h : List.Forall₂ R as bs) {a : α} (member : a ∈ as) : ∃ b ∈ bs, R a b := by
  induction h with
  | nil => cases member
  | cons one _ ih =>
    rcases List.mem_cons.mp member with rfl | member
    · exact ⟨_, List.mem_cons_self, one⟩
    · obtain ⟨b, there, holds⟩ := ih member
      exact ⟨b, List.mem_cons_of_mem _ there, holds⟩

theorem forall₂_getElem? (h : List.Forall₂ R as bs) (n : Nat) :
    as[n]? = none ∧ bs[n]? = none ∨ ∃ a b, as[n]? = some a ∧ bs[n]? = some b ∧ R a b := by
  induction h generalizing n with
  | nil => exact .inl ⟨rfl, rfl⟩
  | cons one _ ih =>
    cases n with
    | zero => exact .inr ⟨_, _, rfl, rfl, one⟩
    | succ n => exact ih n

theorem forall₂_set {n : Nat} {a : α} {b : β} (h : List.Forall₂ R as bs) (once : as.Nodup)
    (there : as[n]? = some a) (others : ∀ a' ∈ as, a' ≠ a → ∀ b' ∈ bs, R a' b' → S a' b')
    (here : S a b) :
    List.Forall₂ S as (bs.set n b) := by
  induction h generalizing n with
  | nil => cases there
  | cons one more ih =>
    rw [List.nodup_cons] at once
    cases n with
    | zero =>
      cases there
      refine .cons here (forall₂_of_mem more fun a' member b' there => ?_)
      exact others a' (List.mem_cons_of_mem _ member) (fun same => once.1 (same ▸ member)) b'
        (List.mem_cons_of_mem _ there)
    | succ n =>
      rw [List.getElem?_cons_succ] at there
      have rest := List.mem_of_getElem? there
      refine .cons (others _ List.mem_cons_self (fun same => once.1 (same ▸ rest)) _
        List.mem_cons_self one) ?_
      exact ih once.2 there fun a' member other b' there =>
        others a' (List.mem_cons_of_mem _ member) other b' (List.mem_cons_of_mem _ there)

end

namespace Store

/-- An answer with what instances hold in their places. -/
def shown (st : Store) (v : Value) : Value :=
  match v with
  | .list vs => .list (vs.map one)
  | v => one v
where
  one : Value → Value
    | .handle h => (st.contents h).getD (.handle h)
    | v => v

/-- An instance stands in the store as in a ledger. -/
structure Holds (st : Store) (d : Dispatch) (k i : Nat) (x : Instance) : Prop where
  present : i < st.documents.size
  document : st.documentAt i = x.document
  hosts : st.Hosts k x.kind
  forms : st.Forms d x.fields x.form

/-- A connection has what a ledger says, and the given instances are those of the ledger. -/
structure Books (st : Store) (d : Dispatch) (p : Seat) (models : String → Option Attached)
    (given : List Nat) (l : Ledger) : Prop where
  sits : st.Sits p
  exposes : st.Exposes p.connection p.space models
  data : st.stored p.stock = l.data
  instances : List.Forall₂ (st.Holds d p.connection) given l.instances
  once : given.Nodup

/-- A deal of a connection went in the store as in a ledger. -/
structure Settles (st : Store) (d : Dispatch) (p : Seat) (models : String → Option Attached)
    (given : List Nat) (out : Except Fault Value × Store) (kept : Except Fault Value × Ledger) :
    Prop where
  answer : out.1.map out.2.shown = kept.1
  trades : st.Trades p out.2
  books : out.2.Books d p models (given ++ instancesIn out.1) kept.2
  more : st.documents.size ≤ out.2.documents.size
  others : ∀ i, i < st.documents.size → i ∉ given → out.2.documentAt i = st.documentAt i
  fresh : ∀ i ∈ instancesIn out.1, st.documents.size ≤ i

variable {st mid after : Store} {d : Dispatch} {p : Seat} {models : String → Option Attached}
variable {given : List Nat} {l : Ledger} {i k : Nat} {x : Instance}

theorem shown_document {c : ClassRef} (present : i < st.documents.size)
    (document : st.documentAt i = x.document) : st.shown (.handle (.document c i)) =
      .object none (.document c (.dict x.fields) (.bool x.isNew)) := by
  have here : st.documents[i]? = some x.document := by
    rw [← document, documentAt, Array.getD_eq_getD_getElem?, Array.getElem?_eq_getElem present]
    rfl
  change (st.contents (.document c i)).getD _ = _
  rw [contents, here]
  rfl

theorem Holds.keep (h : st.Holds d k i x) (leads : st.Leads after)
    (hosts : st.Hosts k x.kind → after.Hosts k x.kind) (present : i < after.documents.size)
    (same : after.documentAt i = st.documentAt i) : after.Holds d k i x :=
  ⟨present, same.trans h.document, hosts h.hosts, h.forms.mono leads⟩

theorem Exposes.keep {space : Nat} (h : st.Exposes k space models)
    (hosts : ∀ name m, models name = some m → st.Hosts k m → after.Hosts k m)
    (same : after.spaceAt space = st.spaceAt space) : after.Exposes k space models :=
  ⟨fun name => same ▸ h.named name, fun name m found => hosts name m found (h.hosts name m found)⟩

namespace Books

theorem present (h : st.Books d p models given l) : ∀ i ∈ given, i < st.documents.size := by
  intro i member
  obtain ⟨x, -, holds⟩ := forall₂_mem h.instances member
  exact holds.present

variable (h : st.Books d p models given l) (leads : st.Leads after)
variable (hosts : ∀ m, l.Uses models m → st.Hosts p.connection m → after.Hosts p.connection m)
variable (sits : after.Sits p)
variable (space : after.spaceAt p.space = st.spaceAt p.space)
include h leads hosts sits space

/-- Other documents are kept, and the given instances are what they were. -/
theorem keep {data : Entries} (stored : after.stored p.stock = data)
    (same : ∀ i ∈ given, i < after.documents.size ∧ after.documentAt i = st.documentAt i) :
    after.Books d p models given { l with data } where
  sits := sits
  exposes := h.exposes.keep (fun _ m found => hosts m (.inl ⟨_, found⟩)) space
  data := stored
  instances := by
    refine forall₂_of_mem h.instances fun i member x there holds => ?_
    exact holds.keep leads (hosts _ (.inr ⟨x, there, rfl⟩)) (same i member).1 (same i member).2
  once := h.once

/-- One of the given instances is another now. -/
theorem revise {data : Entries} {place : Nat} (stored : after.stored p.stock = data)
    (there : given[place]? = some i) (holds : after.Holds d p.connection i x)
    (same : ∀ j ∈ given, j ≠ i → j < after.documents.size ∧ after.documentAt j = st.documentAt j) :
    after.Books d p models given { data, instances := l.instances.set place x } where
  sits := sits
  exposes := h.exposes.keep (fun _ m found => hosts m (.inl ⟨_, found⟩)) space
  data := stored
  instances := forall₂_set h.instances h.once there
    (fun j member other x there was => was.keep leads (hosts _ (.inr ⟨x, there, rfl⟩))
      (same j member other).1 (same j member other).2) holds
  once := h.once

end Books

/-- Instances are given that were not there before. -/
theorem Books.give (h : st.Books d p models given l) {is : List Nat} {xs : List Instance}
    (holds : List.Forall₂ (st.Holds d p.connection) is xs) (once : is.Nodup)
    (fresh : ∀ i ∈ is, i ∉ given) : st.Books d p models (given ++ is) (l.giving xs) where
  sits := h.sits
  exposes := h.exposes
  data := h.data
  instances := List.rel_append h.instances holds
  once := List.nodup_append.mpr
    ⟨h.once, once, fun _ old _ new same => fresh _ new (same ▸ old)⟩

end Store

namespace Store

variable {st after : Store} {d : Dispatch} {p : Seat} {models : String → Option Attached}
variable {given : List Nat} {l : Ledger} {xs : List Instance} {m : Attached} {data fs : Entries}

/-- Plain data is stored as it is, without any effect. -/
theorem forms_simple (simple : (Value.dict fs).Simple) :
    st.Forms d fs (.ok (fs.map fun e => (e.1, e.2.flat))) where
  prepared σ _ := ⟨σ, by rw [Act.outcome_prepare_data simple.data, Value.flat_dict]; rfl, rfl⟩
  simple es same := by
    cases same
    rw [← Value.flat_dict]
    exact simple.flat
  id v found := by
    obtain ⟨e, there, rfl⟩ := Option.map_eq_some_iff.mp found
    exact (Value.Simple.dict_iff.mp simple e (List.mem_of_find?_eq_some there)).2.plain

/-- Instances that were added are where they were added. -/
theorem holds_added (leads : st.Leads after)
    (kept : ∀ m, st.Hosts p.connection m → after.Hosts p.connection m)
    (documents : after.documents = st.documents ++ (xs.map Instance.document).toArray)
    (hosts : ∀ x ∈ xs, st.Hosts p.connection x.kind) (forms : ∀ x ∈ xs, st.Forms d x.fields x.form) :
    List.Forall₂ (after.Holds d p.connection) (List.range' st.documents.size xs.length) xs := by
  rw [List.forall₂_iff_get]
  refine ⟨by simp, fun n inRange inList => ?_⟩
  have member : xs[n] ∈ xs := List.getElem_mem inList
  simp only [List.get_eq_getElem, List.getElem_range', Nat.one_mul]
  refine ⟨?_, ?_, kept _ (hosts _ member), (forms _ member).mono leads⟩
  · simp [documents, inList]
  · simp [documentAt, documents, Array.getD_eq_getD_getElem?, inList]

theorem map_shown {is : List Nat} (holds : List.Forall₂ (st.Holds d p.connection) is xs)
    (kind : ∀ x ∈ xs, x.kind = m) :
    (is.map fun i => st.shown (.handle (.document m.cls i))) = xs.map Instance.shown := by
  induction holds with
  | nil => rfl
  | cons one _ ih =>
    rw [List.map_cons, List.map_cons, ih fun x member => kind x (List.mem_cons_of_mem _ member),
      shown_document one.present one.document, Instance.shown, kind _ List.mem_cons_self]

variable (h : st.Books d p models given l) (o : st.Orderly) (trades : st.Trades p after)
include h o trades

/-- A deal that gave new instances, if any, and changed no other. -/
theorem Books.settles {result answer : Except Fault Value} (xs : List Instance)
    (stored : after.stored p.stock = data)
    (documents : after.documents = st.documents ++ (xs.map Instance.document).toArray)
    (hosts : ∀ x ∈ xs, st.Hosts p.connection x.kind) (forms : ∀ x ∈ xs, st.Forms d x.fields x.form)
    (instances : instancesIn result = List.range' st.documents.size xs.length)
    (shows : List.Forall₂ (after.Holds d p.connection)
      (List.range' st.documents.size xs.length) xs → result.map after.shown = answer) :
    st.Settles d p models given (result, after)
      (answer, { data, instances := l.instances ++ xs }) := by
  have kept (m : Attached) (hosts : st.Hosts p.connection m) : after.Hosts p.connection m :=
    hosts.of_setting trades.setting
  have leads := trades.leads o
  have old (i : Nat) (present : i < st.documents.size) :
      i < after.documents.size ∧ after.documentAt i = st.documentAt i := by
    rw [documentAt, documentAt, documents]
    exact ⟨by simp only [Array.size_append]; omega, by
      simp [Array.getD_eq_getD_getElem?, Array.getElem?_append, present]⟩
  have books := h.keep leads (fun m _ => kept m) trades.sits
    (congrArg (fun ss : Array Entries => ss.getD p.space []) trades.spaces) stored
    fun i member => old i (h.present i member)
  have added := holds_added leads kept documents hosts forms
  have adds := books.give added List.nodup_range' fun i new member => by
    have := List.mem_range'.mp new
    have := h.present i member
    omega
  refine ⟨shows added, trades, instances ▸ adds, ?_, fun i present _ => (old i present).2, ?_⟩
  · simp [documents]
  · intro i member
    rw [instances] at member
    obtain ⟨n, -, rfl⟩ := List.mem_range'.mp member
    omega

/-- A deal that gave no instances, and changed none. -/
theorem Books.settles_same {result : Except Fault Value} (stored : after.stored p.stock = data)
    (documents : after.documents = st.documents) (none : instancesIn result = [])
    (shows : result.map after.shown = result) :
    st.Settles d p models given (result, after) (result, { l with data }) := by
  simpa using h.settles o trades [] stored (by simpa using documents) (by simp) (by simp) none
    fun _ => shows

end Store

namespace Act

variable {st : Store} {d : Dispatch} {p : Seat} {models : String → Option Attached} {name : String}

theorem outcome_assignFields (i : Nat) (fs : Entries) (st : Store) :
    (assignFields i fs).outcome st = (.ok (), { st with
      documents := st.documents.setIfInBounds i { st.documentAt i with fields := .dict fs } }) := by
  have assign : assignPlace (.handle (.document (st.documentAt i).model i)) "fields" (.dict fs) = do
      setDocument i { (← document i) with fields := .dict fs }
      return true := rfl
  rw [assignFields, outcome_bind_ok (outcome_document i st), assign, bind_assoc,
    outcome_bind_ok (outcome_document i st)]
  rfl

/-- A connection shows the model that was attached under a name, or none. -/
theorem outcome_modelNamed (sits : st.Sits p) (exposes : st.Exposes p.connection p.space models)
    (name : String) : (modelNamed p.connection name).outcome st =
      (match models name with
        | some m => .ok m.cls
        | none => .error ((Value.handle (.space p.space)).lacks name), st) := by
  have space : (space p.space).outcome st = (.ok (st.spaceAt p.space), st) := rfl
  rw [modelNamed, outcome_bind_ok (outcome_connection ..), sits.models]
  simp only
  rw [outcome_bind_ok space, exposes.named]
  cases models name <;> rfl

end Act

end DocMapper
