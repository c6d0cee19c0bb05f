import DocMapper.Proofs.Settling

/-!
Models that are attached to two connections do not interfere.  Whatever is done through one of them,
and whatever the classes that were attached are configured to later, the other answers what it would
answer alone, and stores what it would store.
-/

namespace DocMapper

/-- One of two connections. -/
inductive Side
  | left
  | right
  deriving DecidableEq, Repr

theorem Side.eq_of_ne {s t u : Side} (other : t ≠ s) (different : t ≠ u) : u = s := by
  cases s <;> cases t <;> cases u <;> trivial

/-- What is done with the models of two connections, and to the classes that they came from. -/
inductive Event
  | deal (side : Side) (deal : Deal)
  | change (u : Change)

/-- What a side was given and answered. -/
structure Account where
  given : List Nat
  answers : List (Except Fault Value)

structure World where
  store : Store
  accounts : Side → Account

namespace Event

/-- A deal through one side. -/
def isOf (s : Side) : Event → Bool
  | deal side _ => side = s
  | change _ => false

/-- A deal about plain data, or a change of classes that were there first. -/
def Fits (d : Dispatch) (st base : Store) : Event → Prop
  | deal _ x => x.Fits d base
  | change u => u.Fits st

end Event

namespace Act

/-- Models are attached to both connections, in any order. -/
def defineAll (d : Dispatch) (seat : Side → Seat) (ds : List (Side × List (Value × Value))) :
    Act Unit :=
  ds.forM fun x => define d (seat x.1).connection x.2

end Act

namespace World

/-- Nothing was given or answered yet. -/
def start (store : Store) : World := ⟨store, fun _ => ⟨[], []⟩⟩

/-- An answer is kept as it shows when it is given. -/
def step (d : Dispatch) (seat : Side → Seat) (w : World) : Event → World
  | .deal s deal =>
    let account := w.accounts s
    let out := (deal.act d (seat s).connection account.given).outcome w.store
    { store := out.2
      accounts := Function.update w.accounts s
        ⟨account.given ++ instancesIn out.1, account.answers ++ [out.1.map out.2.shown]⟩ }
  | .change u => { w with store := ((u.act d).outcome w.store).2 }

def run (d : Dispatch) (seat : Side → Seat) (w : World) (events : List Event) : World :=
  events.foldl (step d seat) w

/-- What a side was answered, what its instances hold, and what is stored for it. -/
def view (w : World) (seat : Side → Seat) (s : Side) :
    List (Except Fault Value) × List Document × Entries :=
  ((w.accounts s).answers, (w.accounts s).given.map w.store.documentAt,
    w.store.stored (seat s).stock)

end World

/-- The ledger of a side, with what it answered. -/
structure Tally where
  ledger : Ledger
  answers : List (Except Fault Value)

namespace Tally

variable (models : String → Option Attached) (space : Nat) (turn : Entries → Except Fault Entries)
variable (s : Side)

/-- Only the deals of its side count. -/
def step (t : Tally) : Event → Tally
  | .deal side deal =>
    if side = s then
      let kept := t.ledger.step models space turn deal
      ⟨kept.2, t.answers ++ [kept.1]⟩
    else t
  | .change _ => t

def view (t : Tally) : List (Except Fault Value) × List Document × Entries :=
  (t.answers, t.ledger.instances.map Instance.document, t.ledger.data)

variable {models space turn s}

/-- What does not count may be left out. -/
theorem foldl_filter (t : Tally) (events : List Event) :
    (events.filter (Event.isOf s)).foldl (step models space turn s) t =
      events.foldl (step models space turn s) t := by
  induction events generalizing t with
  | nil => rfl
  | cons e events ih =>
    rw [List.filter_cons, List.foldl_cons, ← ih (t.step models space turn s e)]
    split
    · rfl
    · rename_i other
      congr 1
      cases e with
      | deal side deal => exact (if_neg (by simpa [Event.isOf] using other)).symm
      | change u => rfl

end Tally

namespace Store

/-- Classes that are new were attached to each of two connections that have nothing in common. -/
structure Equips (st : Store) (seat : Side → Seat) (models : Side → String → Option Attached)
    (after : Store) : Prop where
  orderly : after.Orderly
  widens : st.registry.Widens after.registry
  sits : ∀ s, after.Sits (seat s)
  separate : ∀ s t, s ≠ t → after.Separate (seat s) (seat t)
  exposes : ∀ s, after.Exposes (seat s).connection (seat s).space (models s)
  absent : ∀ s name m, models s name = some m → ¬ st.registry.Present m.cls

variable {st mid after : Store} {d : Dispatch} {seat : Side → Seat}
variable {models : Side → String → Option Attached}

namespace Equips

theorem define (h : st.Equips seat models mid) (o : st.Orderly) {s : Side}
    {ms : List (Value × Value)} (bases : ∀ e ∈ ms, st.IsBase e.2)
    (done : (Act.define d (seat s).connection ms).outcome mid = (.ok (), after)) :
    ∃ models, st.Equips seat models after := by
  obtain ⟨defines, shown, exposes, named⟩ := Act.outcome_define h.orderly (h.sits s).models
    (h.sits s).room (h.exposes s) (fun e member => (bases e member).mono o h.widens) done
  have stocks : after.stockAt = mid.stockAt := by
    have same : after.stocks = mid.stocks := congrArg Ground.stocks defines.ground
    funext t
    rw [stockAt, same, stockAt]
  refine ⟨Function.update models s shown, defines.orderly, h.widens.trans defines.widens,
    fun t => (h.sits t).of_spaces defines.ground defines.size,
    fun t u different => (h.separate t u different).of_stocks stocks, fun t => ?_, fun t => ?_⟩
  · by_cases same : t = s
    · subst same
      rw [Function.update_self]
      exact exposes
    · rw [Function.update_of_ne same]
      exact (h.exposes t).keep (fun _ m _ hosts => defines.hosts _ m hosts)
        (defines.others _ (h.separate t s same).space)
  · by_cases same : t = s
    · subst same
      rw [Function.update_self]
      intro name m found there
      rcases named name m found with old | new
      · exact h.absent t name m old there
      · exact new (h.widens.present there)
    · rw [Function.update_of_ne same]
      exact h.absent t

theorem defineAll (h : st.Equips seat models mid) (o : st.Orderly)
    {ds : List (Side × List (Value × Value))} (bases : ∀ x ∈ ds, ∀ e ∈ x.2, st.IsBase e.2)
    (done : (Act.defineAll d seat ds).outcome mid = (.ok (), after)) :
    ∃ models, st.Equips seat models after := by
  induction ds generalizing mid models with
  | nil =>
    cases done
    exact ⟨models, h⟩
  | cons x ds ih =>
    obtain ⟨_, σ, first, done⟩ := Act.outcome_bind_eq_ok done
    obtain ⟨shown, h⟩ := h.define o (bases x List.mem_cons_self) first
    exact ih h (fun y member => bases y (List.mem_cons_of_mem _ member)) done

end Equips

/-- What fields are stored as can be told for all of them. -/
theorem exists_turn (d : Dispatch) (st : Store) : ∃ turn : Entries → Except Fault Entries,
    ∀ fs, (∃ form, st.Forms d fs form) → st.Forms d fs (turn fs) := by
  have each (fs : Entries) : ∃ form, (∃ form, st.Forms d fs form) → st.Forms d fs form := by
    by_cases h : ∃ form, st.Forms d fs form
    · exact h.imp fun _ forms _ => forms
    · exact ⟨.ok [], fun forms => absurd forms h⟩
  exact ⟨fun fs => (each fs).choose, fun fs => (each fs).choose_spec⟩

/-- What the documents of given instances hold. -/
theorem Books.documents {p : Seat} {models : String → Option Attached} {given : List Nat} {l : Ledger}
    (h : st.Books d p models given l) :
    given.map st.documentAt = l.instances.map Instance.document := by
  rw [← List.forall₂_eq_eq_eq, List.forall₂_map_left_iff, List.forall₂_map_right_iff]
  exact h.instances.imp fun _ _ holds => holds.document

end Store

namespace World

/-- Each side has what its ledger says, and neither has anything of the other; what they use are not
the classes that were there first. -/
structure Stands (w : World) (d : Dispatch) (seat : Side → Seat)
    (models : Side → String → Option Attached) (st base : Store) (ts : Side → Tally) : Prop where
  leads : base.Leads w.store
  books : ∀ s, w.store.Books d (seat s) (models s) (w.accounts s).given (ts s).ledger
  answers : ∀ s, (w.accounts s).answers = (ts s).answers
  separate : ∀ s t, s ≠ t → w.store.Separate (seat s) (seat t)
  apart : ∀ s t, s ≠ t → ∀ i ∈ (w.accounts s).given, i ∉ (w.accounts t).given
  absent : ∀ s m, (ts s).ledger.Uses (models s) m → ¬ st.registry.Present m.cls

variable {w : World} {d : Dispatch} {seat : Side → Seat} {models : Side → String → Option Attached}
variable {st base : Store} {ts : Side → Tally} {turn : Entries → Except Fault Entries}

namespace Stands

theorem view (h : w.Stands d seat models st base ts) (s : Side) : w.view seat s = (ts s).view := by
  rw [World.view, Tally.view, h.answers s, (h.books s).documents, (h.books s).data]

/-- A deal of one side leaves the other alone. -/
theorem deal (h : w.Stands d seat models st base ts) {s : Side} {deal : Deal}
    (fits : deal.Fits d base)
    (turned : ∀ fs, (∃ form, base.Forms d fs form) → base.Forms d fs (turn fs)) :
    (w.step d seat (.deal s deal)).Stands d seat models st base
      fun t => (ts t).step (models t) (seat t).space turn t (.deal s deal) := by
  have settles := (h.books s).settles_deal h.leads.orderly h.leads fits turned
  have leads := settles.trades.leads h.leads.orderly
  let account := w.accounts s
  let out := (deal.act d (seat s).connection account.given).outcome w.store
  have mine : (w.step d seat (.deal s deal)).accounts s =
      ⟨account.given ++ instancesIn out.1, account.answers ++ [out.1.map out.2.shown]⟩ :=
    Function.update_self ..
  have others (t : Side) (other : t ≠ s) :
      (w.step d seat (.deal s deal)).accounts t = w.accounts t := Function.update_of_ne other ..
  have below (t : Side) (i : Nat) (member : i ∈ (w.accounts t).given) :
      i < w.store.documents.size := (h.books t).present i member
  have apart (t : Side) (other : t ≠ s) (i : Nat) (member : i ∈ account.given ++ instancesIn out.1) :
      i ∉ (w.accounts t).given := by
    rcases List.mem_append.mp member with old | new
    · exact h.apart s t other.symm i old
    · exact fun theirs => Nat.not_lt.mpr (settles.fresh i new) (below t i theirs)
  have spared (t : Side) (other : t ≠ s) :=
    settles.trades.spares (seat t) (h.separate s t other.symm) (h.books t).sits
  refine ⟨h.leads.trans leads, fun t => ?_, fun t => ?_, fun t u different => ?_,
    fun t u different => ?_, fun t m uses => ?_⟩
  all_goals by_cases same : t = s
  · subst same
    rw [mine, Tally.step, if_pos rfl]
    exact settles.books
  · rw [others t same, Tally.step, if_neg (Ne.symm same)]
    exact (h.books t).keep leads (fun _ _ hosts => hosts.of_setting settles.trades.setting)
      (spared t same).2.1
      (congrArg (fun ss : Array Entries => ss.getD (seat t).space []) settles.trades.spaces)
      ((spared t same).2.2.trans (h.books t).data) fun i member =>
        ⟨Nat.lt_of_lt_of_le (below t i member) settles.more,
          settles.others i (below t i member) (h.apart t s same i member)⟩
  · subst same
    rw [mine, Tally.step, if_pos rfl, ← h.answers]
    exact congrArg (account.answers ++ [·]) settles.answer
  · rw [others t same, Tally.step, if_neg (Ne.symm same), h.answers]
  · subst same
    exact (spared u different.symm).1
  · obtain rfl := Side.eq_of_ne same different
    exact (spared t same).1.symm
  · subst same
    rw [mine, others u different.symm]
    exact apart u different.symm
  · obtain rfl := Side.eq_of_ne same different
    rw [mine, others t same]
    exact fun i member theirs => apart t same i theirs member
  · subst same
    rw [Tally.step, if_pos rfl] at uses
    exact h.absent t m (Ledger.step_uses uses)
  · rw [Tally.step, if_neg (Ne.symm same)] at uses
    exact h.absent t m uses

theorem change (h : w.Stands d seat models st base ts) (widens : st.registry.Widens base.registry)
    {u : Change} (fits : u.Fits st) : (w.step d seat (.change u)).Stands d seat models st base ts := by
  obtain ⟨result, r, notes, done, -, widened, orderly, hosts⟩ :=
    Change.outcome_avoiding d h.leads.orderly (fits.mono (widens.trans h.leads.widens))
  have leads : w.store.Leads (w.store.registering r notes) := ⟨rfl, widened, orderly⟩
  have stepped : w.step d seat (.change u) = { w with store := w.store.registering r notes } := by
    rw [step, done]
  rw [stepped]
  refine ⟨h.leads.trans leads, fun s => ?_, h.answers, fun s t different => ?_, h.apart, h.absent⟩
  · exact (h.books s).keep leads
      (fun m uses was => hosts _ m was (fits.avoids (h.absent s m uses)))
      ((h.books s).sits.of_ground rfl) rfl (h.books s).data fun i mine =>
        ⟨(h.books s).present i mine, rfl⟩
  · exact (h.separate s t different).of_stocks rfl

/-- However the deals of both sides and the changes are mixed, each side has what its own deals say. -/
theorem run (h : w.Stands d seat models st base ts) (widens : st.registry.Widens base.registry)
    (turned : ∀ fs, (∃ form, base.Forms d fs form) → base.Forms d fs (turn fs))
    {events : List Event} (fit : ∀ e ∈ events, e.Fits d st base) :
    (w.run d seat events).Stands d seat models st base
      fun s => events.foldl (Tally.step (models s) (seat s).space turn s) (ts s) := by
  induction events generalizing w ts with
  | nil => exact h
  | cons e events ih =>
    have later (e' : Event) (member : e' ∈ events) := fit e' (List.mem_cons_of_mem _ member)
    have fits := fit e List.mem_cons_self
    cases e with
    | deal s deal => exact ih (h.deal fits turned) later
    | change u => exact ih (h.change widens fits) later

end Stands

end World

/-- Classes are attached to two connections that have nothing in common.  However what is done through
both is mixed, and with what changes of the classes that were there first, each side is answered what
it would be answered alone, its instances hold what they would hold, and what is stored for it is what
would be stored: all as if nothing but its own deals had been. -/
theorem run_isolated {d : Dispatch} {seat : Side → Seat} {st after : Store}
    {ds : List (Side × List (Value × Value))} {events : List Event} (orderly : st.Orderly)
    (sits : ∀ s, st.Sits (seat s)) (separate : st.Separate (seat .left) (seat .right))
    (empty : ∀ s, st.spaceAt (seat s).space = [])
    (bases : ∀ x ∈ ds, ∀ e ∈ x.2, st.IsBase e.2)
    (defined : (Act.defineAll d seat ds).outcome st = (.ok (), after))
    (fit : ∀ e ∈ events, e.Fits d st after) (s : Side) :
    ((World.start after).run d seat events).view seat s =
      ((World.start after).run d seat (events.filter (Event.isOf s))).view seat s := by
  have equips : st.Equips seat (fun _ _ => none) st := by
    refine ⟨orderly, .refl _, sits, fun s t different => ?_, fun s => ⟨fun name => ?_, nofun⟩, nofun⟩
    · cases s <;> cases t
      · exact absurd rfl different
      · exact separate
      · exact separate.symm
      · exact absurd rfl different
    · rw [empty]
      rfl
  obtain ⟨models, equips⟩ := equips.defineAll orderly bases defined
  have started : (World.start after).Stands d seat models st after fun s =>
      ⟨⟨after.stored (seat s).stock, []⟩, []⟩ := by
    refine ⟨.refl equips.orderly, fun s => ?_, fun _ => rfl, equips.separate, nofun, fun s m uses => ?_⟩
    · exact ⟨equips.sits s, equips.exposes s, rfl, .nil, .nil⟩
    · rcases uses with ⟨name, found⟩ | ⟨x, member, -⟩
      · exact equips.absent s name m found
      · cases member
  obtain ⟨turn, turned⟩ := Store.exists_turn d after
  have whole := started.run equips.widens turned fit
  have mine (e : Event) (member : e ∈ events.filter (Event.isOf s)) : e.Fits d st after :=
    fit e (List.mem_of_mem_filter member)
  have alone := started.run equips.widens turned mine
  rw [whole.view, alone.view, Tally.foldl_filter]

/-- A model that has a collection. -/
def Registry.onePost : Registry :=
  (initial.extended { ref := .model 1, name := "Post", bases := [.root]
                      ancestors := [.model 1, .root, .object], maker := .known "ModelMeta" }
    (Script.withModule [])).placed (.model 1) "posts"

def Side.seat : Side → Seat
  | left => ⟨0, 0, 0, 0⟩
  | right => ⟨1, 1, 1, 1⟩

/-- Two connections, each on a database of its own. -/
def Store.shared : Store where
  registry := .onePost
  connections := #[{ database := .handle (.database 0), models := .handle (.space 0) },
    { database := .handle (.database 1), models := .handle (.space 1) }]
  spaces := #[[], []]
  databases := #[{ name := .str "left", data := .handle (.stock 0) },
    { name := .str "right", data := .handle (.stock 1) }]
  stocks := #[[], []]

/-- The model is attached to a connection, by a class in the next slot. -/
def Registry.attachedPost (r : Registry) (slot k : Nat) : Registry :=
  let attached := r.extended
    { ref := .model slot, name := "Post", bases := [.model 1]
      ancestors := [.model slot, .model 1, .root, .object], maker := .known "ModelMeta" }
    (Act.boundMembers .shared (.model 1))
  (attached.connected (.model slot) (.handle (.connection k))).placed (.model slot) "posts"

namespace Store

theorem bare_shared (h : Handle) : shared.Bare h := ⟨fun _ => rfl, rfl⟩

theorem orderly_default : (default : Store).Orderly where
  sound := Registry.sound_initial
  texts _ _ found := nomatch found
  owned _ member := nomatch member
  pristine _ _ := rfl
  bare _ := ⟨fun _ => rfl, rfl⟩

theorem orderly_shared : shared.Orderly := by
  obtain ⟨_, r, _, done, -, -, orderly, -⟩ := Change.outcome_avoiding (dispatch [] 0)
    (u := .declare "Post" [.root] []) orderly_default (by simpa [Change.Fits] using ⟨_, rfl, rfl⟩)
  rw [Change.outcome_declare (Registry.declare_eq_ok (.model 1) (.known "ModelMeta") (by simp) rfl rfl
    rfl rfl)] at done
  rw [← (Prod.mk.inj done).2] at orderly
  obtain ⟨_, r, _, done, -, -, orderly, -⟩ := Change.outcome_avoiding (dispatch [] 0)
    (u := .place (.model 1) (.str "posts")) orderly ⟨rfl, _, rfl, rfl⟩
  obtain ⟨_, placed⟩ := Change.outcome_place (d := dispatch [] 0) (c := .model 1) (s := "posts")
    (registering default _ _) rfl (by decide) (by decide)
  rw [placed] at done
  rw [← (Prod.mk.inj done).2] at orderly
  exact orderly.of_setting rfl

theorem sits_shared (s : Side) : shared.Sits s.seat := by
  cases s
  all_goals
    exact ⟨rfl, rfl, by decide, rfl, ⟨[], rfl⟩, by decide, nofun, .nil, [], rfl, nofun⟩

theorem isBase_shared : shared.IsBase (.cls (.model 1)) :=
  ⟨.model 1, [], rfl, rfl, ⟨_, rfl, rfl⟩, ⟨_, rfl, rfl⟩, ⟨_, _, rfl⟩, ⟨_, rfl⟩, ⟨_, rfl⟩, ⟨_, rfl⟩,
    ⟨_, rfl⟩, rfl, .inl ⟨⟨_, _, rfl⟩, rfl⟩⟩

end Store

namespace Act

/-- One model is attached and shown. -/
theorem outcome_define_one {st : Store} {d : Dispatch} {k i : Nat} {base ref : ClassRef}
    {name : String} {r : Registry} {notes : Array Note} (bare : st.Bare (.connection k))
    (models : (st.connectionAt k).models = .handle (.space i))
    (bound : (bindModel d (.cls base) (.str name) (.handle (.connection k))).outcome st =
      (.ok (.cls ref), st.registering r notes))
    (writes : ∃ spaces, (writeAttribute (.handle (.space i)) name (.cls ref)).outcome
      (st.registering r notes) = (.ok (), { st.registering r notes with spaces })) :
    ∃ notes spaces, (define d k [(.str name, .cls base)]).outcome st =
      (.ok (), { st.registering r notes with spaces }) := by
  obtain ⟨spaces, writes⟩ := writes
  let shown : Store := { st.registering r notes with spaces }
  have there : shown.Bare (.connection k) := ⟨bare.extras, bare.refined⟩
  obtain ⟨notes, noted⟩ := outcome_noteIn_notes (shown.connectionAt k).log .info
    (fun st => s!"Defined model '{st.plainText (.str name)}' on {st.text (.handle (.connection k))}")
    shown
  have shows : (Value.str name).name?.getD "" = name := by
    by_cases empty : name = "" <;> simp [Value.name?, empty]
  refine ⟨notes, spaces, ?_⟩
  rw [define, outcome_bind_ok (outcome_connection ..), outcome_bind_ok bound, models,
    shows, outcome_bind_ok writes,
    outcome_bind_ok ((outcome_noteConnection there ..).trans ((outcome_noteIn ..).symm.trans noted))]
  rfl

theorem outcome_defineAll_shared : ∃ after, (defineAll (dispatch [] 0) Side.seat
    [(.left, [(.str "Post", .cls (.model 1))]), (.right, [(.str "Post", .cls (.model 1))])]).outcome
      .shared = (.ok (), after) := by
  let post : Value := .cls (.model 1)
  have left : ∃ notes, (bindModel (dispatch [] 0) post (.str "Post") (.handle (.connection 0))).outcome
      .shared = (.ok (.cls (.model 2)),
        Store.shared.registering (Registry.onePost.attachedPost 2 0) notes) :=
    outcome_bindModel_attached rfl rfl
      (Registry.declare_eq_ok (.model 2) (.known "ModelMeta") (by simp) rfl rfl rfl rfl) ⟨_, rfl, rfl⟩ rfl
  obtain ⟨_, left⟩ := left
  obtain ⟨notes, spaces, left⟩ := outcome_define_one (i := 0) (Store.bare_shared _) rfl left ⟨_, rfl⟩
  let mid : Store :=
    { Store.shared.registering (Registry.onePost.attachedPost 2 0) notes with spaces }
  have right : ∃ notes, (bindModel (dispatch [] 0) post (.str "Post") (.handle (.connection 1))).outcome
      mid = (.ok (.cls (.model 3)),
        mid.registering ((Registry.onePost.attachedPost 2 0).attachedPost 3 1) notes) :=
    outcome_bindModel_attached rfl rfl
      (Registry.declare_eq_ok (.model 3) (.known "ModelMeta") (by simp) rfl rfl rfl rfl) ⟨_, rfl, rfl⟩ rfl
  obtain ⟨_, right⟩ := right
  obtain ⟨_, _, right⟩ := outcome_define_one (i := 1) ⟨fun _ => rfl, rfl⟩ rfl right ⟨_, rfl⟩
  exact ⟨_, (outcome_bind_ok left).trans (outcome_bind_ok right)⟩

end Act

/-- Two posts that are saved, one on each side, while the model is placed elsewhere and cleared. -/
def Event.posts : List Event :=
  [.deal .left (.create "Post" [(.str "title", .str "mine")]), .deal .left (.save 0 0),
    .change (.place (.model 1) (.str "drafts")),
    .deal .right (.create "Post" [(.str "title", .str "theirs")]), .deal .right (.save 0 1),
    .change (.clear (.model 1)), .deal .left (.find "Post" (.dict [])),
    .deal .right (.count "Post" (.dict []))]

theorem Event.fits_posts (d : Dispatch) (base : Store) : ∀ e ∈ posts, e.Fits d .shared base := by
  have simple (s : String) : (Value.dict [(.str "title", .str s)]).Simple :=
    ⟨.dict _ (by simpa using .str "title") (by simpa using .str s), .dict _ (by simpa using .str s)⟩
  have plain : (Value.dict []).Plain := .dict _ nofun nofun
  simp only [posts, List.forall_mem_cons]
  exact ⟨⟨_, Store.forms_simple (simple "mine")⟩, trivial, ⟨rfl, _, rfl, rfl⟩,
    ⟨_, Store.forms_simple (simple "theirs")⟩, trivial, ⟨_, rfl, rfl⟩, plain, plain, nofun⟩

/-- What the first side is answered and stores is what it would be without the other and the changes. -/
theorem run_isolated_posts : ∃ after,
    (Act.defineAll (dispatch [] 0) Side.seat [(.left, [(.str "Post", .cls (.model 1))]),
      (.right, [(.str "Post", .cls (.model 1))])]).outcome .shared = (.ok (), after) ∧
    ((World.start after).run (dispatch [] 0) Side.seat Event.posts).view Side.seat .left =
      ((World.start after).run (dispatch [] 0) Side.seat
        [.deal .left (.create "Post" [(.str "title", .str "mine")]), .deal .left (.save 0 0),
          .deal .left (.find "Post" (.dict []))]).view Side.seat .left := by
  obtain ⟨after, defined⟩ := Act.outcome_defineAll_shared
  refine ⟨after, defined, ?_⟩
  exact run_isolated Store.orderly_shared Store.sits_shared
    ⟨by decide, by decide, by decide, by decide, fun _ owns => by
      obtain ⟨_, member, -⟩ := owns
      cases member⟩ (fun s => by cases s <;> rfl)
    (by simpa using Store.isBase_shared) defined (Event.fits_posts _ after) .left

end DocMapper
