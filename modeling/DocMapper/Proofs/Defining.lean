import DocMapper.Method
import DocMapper.Proofs.Refining
import DocMapper.Proofs.Selecting

/-!
Models that a connection defines.  They are bound one after another, each shown in the namespace of
the connection as soon as it is bound; what follows the first that cannot be bound is not defined, and
what came before stays.
-/

namespace DocMapper

/-- The names that a namespace cannot show anything under. -/
def Interface.reserved : List String := ["__class__", "__dict__"]

namespace Store

/-- A connection that shows its models in a namespace; nothing else was set on either. -/
structure Displays (st : Store) (k i : Nat) : Prop extends st.Filed where
  pristine : st.registry.Pristine
  bare : st.Bare (.connection k)
  space : st.Bare (.space i)
  models : (st.connectionAt k).models = .handle (.space i)
  room : i < st.spaces.size

/-- A store where a class is shown under a name. -/
def showing (st : Store) (i : Nat) (name : String) (ref : ClassRef) : Store :=
  { st with spaces := st.spaces.setIfInBounds i (Entries.put (st.spaceAt i) (.str name) (.cls ref)) }

variable {st after : Store} {k i : Nat} {name : String} {ref : ClassRef}

/-- A store but for classes and namespaces, and for notes and the count of objects. -/
def unshown (st : Store) : Store :=
  { st.unclassed with spaces := #[] }

theorem Displays.of_unclassed (displays : st.Displays k i)
    (enlarges : st.registry.Enlarges after.registry)
    (sound : after.registry.Sound) (texts : after.registry.Texts)
    (unclassed : after.unclassed = st.unclassed) : after.Displays k i := by
  have extras : after.extras = st.extras :=
    (congrArg Store.extras unclassed :)
  have refined : after.refined = st.refined :=
    (congrArg Store.refined unclassed :)
  have connections : after.connections = st.connections :=
    (congrArg Store.connections unclassed :)
  have spaces : after.spaces = st.spaces :=
    (congrArg Store.spaces unclassed :)
  have bare {h : Handle} (bare : st.Bare h) : after.Bare h :=
    ⟨extras ▸ bare.extras, refined ▸ bare.refined⟩
  refine ⟨displays.toFiled.enlarge enlarges sound texts, enlarges.pristine displays.pristine,
    bare displays.bare, bare displays.space, ?_, spaces ▸ displays.room⟩
  rw [connectionAt, connections]
  exact displays.models

/-- A store where a class was shown, and that was noted. -/
def announced (st : Store) (k i : Nat) (name : String) (ref : ClassRef) : Store :=
  (st.showing i name ref).noted (st.connectionAt k).log .info fun st =>
    s!"Defined model '{st.plainText (.str name)}' on {st.text (.handle (.connection k))}"

theorem unshown_announced (st : Store) (k i : Nat) (name : String) (ref : ClassRef) :
    (st.announced k i name ref).unshown = st.unshown := by
  unfold announced noted
  split <;> rfl

theorem registry_announced (st : Store) (k i : Nat) (name : String) (ref : ClassRef) :
    (st.announced k i name ref).registry = st.registry := by
  unfold announced noted
  split <;> rfl

theorem spaces_announced (st : Store) (k i : Nat) (name : String) (ref : ClassRef) :
    (st.announced k i name ref).spaces = (st.showing i name ref).spaces := by
  unfold announced noted
  split <;> rfl

theorem Displays.announced (displays : st.Displays k i) (name : String) (ref : ClassRef) :
    (st.announced k i name ref).Displays k i := by
  obtain ⟨⟨sound, texts, owned, called⟩, pristine, bare, space, models, room⟩ := displays
  have registry := registry_announced st k i name ref
  have unshown := unshown_announced st k i name ref
  have extras : (st.announced k i name ref).extras = st.extras := (congrArg Store.extras unshown :)
  have refined : (st.announced k i name ref).refined = st.refined :=
    (congrArg Store.refined unshown :)
  have connections : (st.announced k i name ref).connections = st.connections :=
    (congrArg Store.connections unshown :)
  refine ⟨⟨?_, ?_, ?_, ?_⟩, ?_, ⟨?_, ?_⟩, ⟨?_, ?_⟩, ?_, ?_⟩
  · exact registry ▸ sound
  · exact registry ▸ texts
  · exact registry ▸ owned
  · exact registry ▸ called
  · exact registry ▸ pristine
  · exact extras ▸ bare.extras
  · exact refined ▸ bare.refined
  · exact extras ▸ space.extras
  · exact refined ▸ space.refined
  · rw [connectionAt, connections]
    exact models
  · rw [spaces_announced]
    simpa [showing] using room

end Store

namespace Act

variable {d : Dispatch} {st : Store} {k i : Nat} {c ref : ClassRef} {name : String}

/-- A namespace shows a class under every name that is not reserved. -/
theorem outcome_writeAttribute_showing (displays : st.Displays k i) (ref : ClassRef)
    (free : name ∉ Interface.reserved) :
    (writeAttribute (.handle (.space i)) name (.cls ref)).outcome st =
      (.ok (), st.showing i name ref) := by
  have member : st.member? (.handle (.space i)) name = none := by
    rw [displays.space.member? displays.pristine rfl, Interface.inherited?_space]
  have refused : (refusal? (.handle (.space i)) name).outcome st = (.ok none, st) := rfl
  simp only [Interface.reserved, List.mem_cons, List.not_mem_nil, or_false, not_or] at free
  unfold writeAttribute
  split
  · contradiction
  · exact absurd rfl free.1
  · exact absurd rfl free.2
  · rw [outcome_bind_ok refused]
    dsimp only
    rw [outcome_bind_ok (outcome_get st), member]
    rfl

theorem outcome_writeAttribute_reserved (st : Store) (i : Nat) (ref : ClassRef)
    (reserved : name ∈ Interface.reserved) :
    ∃ e, (writeAttribute (.handle (.space i)) name (.cls ref)).outcome st = (.error e, st) := by
  simp only [Interface.reserved, List.mem_cons, List.not_mem_nil, or_false] at reserved
  obtain rfl | rfl := reserved <;> exact ⟨_, rfl⟩

end Act

namespace Store

variable {origin st mid after : Store} {k i : Nat} {c ref : ClassRef} {name : String}
  {front : Entries}

/-- What the first of several entries are shown as, once the classes were bound that they give; the
classes are judged as they were at first. -/
structure Shown (origin st after : Store) (k i : Nat) (front : Entries) : Prop where
  enlarges : st.registry.Enlarges after.registry
  unshown : after.unshown = st.unshown
  others : ∀ j, j ≠ i → after.spaceAt j = st.spaceAt j
  shows : ∀ name c, (.str name, .cls c) ∈ front → name ∉ Interface.reserved ∧
    (∀ e, ¬ origin.Rejects c name e) ∧
    ∃ ref, (after.spaceAt i).field? name = some (.cls ref) ∧ origin.Binds after k c name ref
  keeps : ∀ name, .str name ∉ Entries.keys front →
    (after.spaceAt i).field? name = (st.spaceAt i).field? name

/-- Why an entry is not shown: its class cannot be bound, or nothing can be shown under its name. -/
def Hinders (origin : Store) (name : String) (c : ClassRef) (e : Fault) : Prop :=
  origin.Rejects c name e ∨ name ∈ Interface.reserved ∧ ∀ e, ¬ origin.Rejects c name e

theorem Shown.nothing (enlarges : st.registry.Enlarges after.registry)
    (unclassed : after.unclassed = st.unclassed) : origin.Shown st after k i [] where
  enlarges := enlarges
  unshown := congrArg (fun st : Store => { st with spaces := #[] }) unclassed
  others j _ := (congrArg (fun st : Store => st.spaceAt j) unclassed :)
  shows _ _ member := by cases member
  keeps name _ := (congrArg (fun st : Store => (st.spaceAt i).field? name) unclassed :)

theorem spaceAt_showing (room : i < st.spaces.size) (j : Nat) :
    (st.showing i name ref).spaceAt j =
      if j = i then Entries.put (st.spaceAt i) (.str name) (.cls ref) else st.spaceAt j := by
  by_cases same : j = i
  · subst same
    simp [spaceAt, showing, Array.getD_eq_getD_getElem?, room]
  · simp [spaceAt, showing, Array.getD_eq_getD_getElem?, same, Ne.symm same]

/-- One more entry is shown before the others. -/
theorem Shown.cons (unshown : mid.unshown = st.unshown) (enlarges : st.registry.Enlarges mid.registry)
    (spaces : ∀ j, mid.spaceAt j =
      if j = i then Entries.put (st.spaceAt i) (.str name) (.cls ref) else st.spaceAt j)
    (binds : origin.Binds mid k c name ref) (free : ∀ e, ¬ origin.Rejects c name e)
    (usual : name ∉ Interface.reserved) (later : origin.Shown mid after k i front)
    (once : .str name ∉ Entries.keys front) :
    origin.Shown st after k i ((.str name, .cls c) :: front) where
  enlarges := enlarges.trans later.enlarges
  unshown := later.unshown.trans unshown
  others j other := by rw [later.others j other, spaces, if_neg other]
  shows name' c' member := by
    obtain same | member := List.mem_cons.mp member
    · cases same
      refine ⟨usual, free, ref, ?_, binds.later later.enlarges⟩
      rw [later.keeps name once, spaces, if_pos rfl]
      exact (Entries.get?_put_text ..).trans (if_pos rfl)
    · exact later.shows name' c' member
  keeps name' apart := by
    obtain ⟨other, apart⟩ := not_or.mp (fun h => apart (List.mem_cons.mpr h))
    have other : name ≠ name' := fun same => other (same ▸ rfl)
    rw [later.keeps name' apart, spaces, if_pos rfl]
    exact (Entries.get?_put_text ..).trans (if_neg other)

end Store

namespace Act

variable {d : Dispatch} {origin st : Store} {k i : Nat}

/-- Classes are bound and shown one after another, up to the first that cannot be. -/
theorem outcome_define_shown (sound : origin.registry.Sound) (made : origin.registry.Made)
    {es : Entries} (enlarges : origin.registry.Enlarges st.registry) (displays : st.Displays k i)
    (classes : ∀ e ∈ es, ∃ name c, e = (.str name, .cls c) ∧ origin.registry.Present c)
    (once : (Entries.keys es).Nodup) :
    ∃ front rest result after, es = front ++ rest ∧ (define d k es).outcome st = (result, after) ∧
      origin.Shown st after k i front ∧
      (rest = [] ∧ result = .ok () ∨ ∃ name c later e, rest = (.str name, .cls c) :: later ∧
        result = .error e ∧ origin.Hinders name c e) := by
  induction es generalizing st with
  | nil => exact ⟨[], [], _, _, rfl, rfl, .nothing (.refl _) rfl, .inl ⟨rfl, rfl⟩⟩
  | cons e es ih =>
    obtain ⟨name, c, rfl, there⟩ := classes e List.mem_cons_self
    have known := enlarges.present there
    have judged (e : Fault) : st.Rejects c name e ↔ origin.Rejects c name e :=
      Store.rejects_iff sound made there enlarges
    have start : (define d k ((.str name, .cls c) :: es)).outcome st =
        (bindModel d (.cls c) (.str name) (.handle (.connection k)) >>= fun v =>
          writeAttribute (.handle (.space i)) name v >>= fun _ =>
            noteConnection k .info (fun st =>
              s!"Defined model '{st.plainText (.str name)}' on {st.text (.handle (.connection k))}")
              >>= fun _ => define d k es).outcome st := by
      have key : (Value.str name).name?.getD "" = name := by
        rw [Value.name?]
        split <;> simp_all
      rw [define, outcome_bind_ok (outcome_connection k st), displays.models, key]
    have attaching := attaching_bindModel (d := d) displays.toFiled known displays.bare name
    generalize bound : (bindModel d (.cls c) (.str name) (.handle (.connection k))).outcome st = went
      at attaching
    obtain ⟨result, mid⟩ := went
    dsimp only at attaching
    rw [start]
    cases attaching with
    | @refused e _ why registry unclassed =>
      refine ⟨[], _, _, _, rfl, outcome_bind_error bound,
        .nothing (registry ▸ .refl _) unclassed, .inr ⟨name, c, es, e, rfl, rfl, ?_⟩⟩
      exact .inl ((judged e).mp why)
    | @bound ref _ free grown soundly texts binds unclassed =>
      have free : ∀ e, ¬ origin.Rejects c name e := fun e why => free e ((judged e).mpr why)
      have displays' := displays.of_unclassed grown soundly texts unclassed
      by_cases reserved : name ∈ Interface.reserved
      · obtain ⟨e, refused⟩ :=
          outcome_writeAttribute_reserved mid i ref reserved
        refine ⟨[], _, _, mid, rfl, ?_, .nothing grown unclassed,
          .inr ⟨name, c, es, e, rfl, rfl, .inr ⟨reserved, free⟩⟩⟩
        rw [outcome_bind_ok bound, outcome_bind_error refused]
      · have shown := outcome_writeAttribute_showing displays' ref reserved
        have bare : (mid.showing i name ref).Bare (.connection k) :=
          ⟨displays'.bare.extras, displays'.bare.refined⟩
        have noted : (noteConnection k .info (fun st =>
            s!"Defined model '{st.plainText (.str name)}' on {st.text (.handle (.connection k))}")).outcome
              (mid.showing i name ref) = (.ok (), mid.announced k i name ref) :=
          outcome_noteConnection bare ..
        have registry := Store.registry_announced mid k i name ref
        have grown' : st.registry.Enlarges (mid.announced k i name ref).registry := registry ▸ grown
        have later := ih (enlarges.trans grown') (displays'.announced name ref)
          (fun e member => classes e (List.mem_cons_of_mem _ member)) (List.nodup_cons.mp once).2
        obtain ⟨front, rest, result, after, rfl, done, shows, ends⟩ := later
        refine ⟨_ :: front, rest, result, after, rfl, ?_, ?_, ends⟩
        · rw [outcome_bind_ok bound, outcome_bind_ok shown, outcome_bind_ok noted, done]
        · have unshown : mid.unshown = st.unshown :=
            congrArg (fun st : Store => { st with spaces := #[] }) unclassed
          have same : mid.spaceAt = st.spaceAt := (congrArg Store.spaceAt unclassed :)
          have binds' : origin.Binds (mid.announced k i name ref) k c name ref :=
            (binds.earlier sound made there enlarges).later (registry ▸ .refl _)
          refine .cons ((Store.unshown_announced ..).trans unshown) grown' (fun j => ?_) binds' free
            reserved shows fun member => (List.nodup_cons.mp once).1 ?_
          · rw [Store.spaceAt, Store.spaces_announced, ← same]
            exact Store.spaceAt_showing displays'.room j
          · change Value.str name ∈ (front ++ rest).map Prod.fst
            rw [List.map_append]
            exact List.mem_append_left _ member

end Act

/-- An entry of a name and a class that is there. -/
def Registry.Lists (r : Registry) (e : Value × Value) : Prop :=
  ∃ name c, e = (.str name, .cls c) ∧ r.Present c

namespace Entries

variable {r : Registry} {es fs : Entries} {f : Value × Value}

theorem nodup_keys_put (once : (keys es).Nodup) (name : String) (v : Value) :
    (keys (put es (.str name) v)).Nodup := by
  rw [keys_put]
  split
  · exact once
  · rename_i free
    refine List.nodup_append.mpr ⟨once, by simp, fun k member l last same => free ?_⟩
    obtain rfl := List.mem_singleton.mp last
    obtain ⟨e, there, rfl⟩ := List.mem_map.mp member
    exact List.any_eq_true.mpr ⟨e, there, by simp [same]⟩

theorem lists_put (lists : ∀ e ∈ es, r.Lists e) (new : r.Lists f) :
    ∀ e ∈ put es f.1 f.2, r.Lists e := by
  obtain ⟨name, c, rfl, there⟩ := new
  intro e member
  obtain old | new := of_mem_put member
  · exact lists e old
  · have key : e.1 ∈ keys (put es (.str name) (.cls c)) := List.mem_map_of_mem member
    rw [keys_put] at key
    have among : e.1 ∈ keys es ∨ e.1 = .str name := by
      split at key
      · exact .inl key
      · simpa using key
    obtain old | same := among
    · obtain ⟨f, there', same⟩ := List.mem_map.mp old
      obtain ⟨other, _, rfl, -⟩ := lists f there'
      exact ⟨other, c, Prod.ext same.symm new, there⟩
    · exact ⟨name, c, Prod.ext same new, there⟩

/-- Entries that were put over others are of names and classes too, and no name comes twice. -/
theorem lists_merge (once : (keys es).Nodup) (lists : ∀ e ∈ es ++ fs, r.Lists e) :
    (keys (merge es fs)).Nodup ∧ ∀ e ∈ merge es fs, r.Lists e := by
  induction fs generalizing es with
  | nil => exact ⟨once, fun e member => lists e (List.mem_append_left _ member)⟩
  | cons f fs ih =>
    have new := lists f (by simp)
    have both := lists_put (fun e member => lists e (List.mem_append_left _ member)) new
    have onceMore : (keys (put es f.1 f.2)).Nodup := by
      obtain ⟨name, c, rfl, -⟩ := new
      exact nodup_keys_put once name _
    exact ih onceMore fun e member => (List.mem_append.mp member).elim (both e) fun later =>
      lists e (by simp [later])

end Entries

/-- A model that a connection has: a new class under the one that was given, of the name that it is
under, which has the connection and the collection that the class had. -/
structure Store.Attaches (st after : Store) (k : Nat) (name : String) (c ref : ClassRef) : Prop where
  fresh : ¬ st.registry.Present ref
  named : after.registry.className ref = name
  under : after.registry.bases ref = [c]
  lineage : after.registry.ancestors ref = ref :: st.registry.ancestors c
  connection : (Act.readClass ref "connection").outcome after =
    (.ok (.handle (.connection k)), after)
  collection : Akin ((Act.readClass c "collection").outcome st).1
    ((Act.readClass ref "collection").outcome after).1

/-- What binding a class comes to. -/
def Store.verdict (d : Dispatch) (st : Store) (k : Nat) (name : String) (c : ClassRef) :
    Except Fault Value :=
  ((Act.bindModel d (.cls c) (.str name) (.handle (.connection k))).outcome st).1

/-- The posts are kept in a collection; the root model has none. -/
def Store.hosting : Store :=
  { posts [] with
    connections := #[{ database := .handle (.database 0), models := .handle (.space 0) }]
    spaces := #[[]] }

namespace Store

theorem declaration?_hosting {c : ClassRef} {d : Declaration}
    (found : hosting.registry.declaration? c = some d) :
    Registry.initial.declaration? c = some d ∨
      d.ref = .model 1 ∧ d.ancestors = [.model 1, .root, .object] ∧ d.maker = .known "ModelMeta" := by
  cases c with
  | known => cases found
  | _ slot =>
    obtain ⟨within, rfl⟩ := Array.getElem?_eq_some_iff.mp found
    obtain rfl | rfl : slot = 0 ∨ slot = 1 := by
      have two : slot < 2 := within
      omega
    · exact .inl rfl
    · exact .inr ⟨rfl, rfl, rfl⟩

theorem displays_hosting : hosting.Displays 0 0 where
  sound := by
    constructor
    · intro c d found own
      obtain found | ⟨named, all, -⟩ := declaration?_hosting found
      · exact Registry.sound_initial.first found own
      · rw [all, ← own, named]
        rfl
    · intro c d found own a member
      obtain found | ⟨named, all, -⟩ := declaration?_hosting found
      · rw [(Registry.declaration?_initial found).2] at member
        obtain rfl | rfl : a = .root ∨ a = .object := by simpa using member
        · exact ⟨_, rfl, rfl⟩
        · trivial
      · rw [all] at member
        obtain rfl | rfl | rfl : a = .model 1 ∨ a = .root ∨ a = .object := by simpa using member
        · exact ⟨_, rfl, rfl⟩
        · exact ⟨_, rfl, rfl⟩
        · trivial
  texts c v own := by
    by_cases post : c = .model 1
    · subst post
      exact ⟨"posts", (Option.some.inj own).symm⟩
    · have other : (Holder.cls c == Holder.cls (.model 1)) = false := by simpa using post
      have none : hosting.registry.ownCollection? c = none := by
        simp [Registry.ownCollection?, Registry.config?, hosting, posts, List.lookup_cons, other]
      rw [none] at own
      cases own
  owned := nofun
  called := nofun
  pristine _ _ := rfl
  bare := ⟨fun _ => rfl, rfl⟩
  space := ⟨fun _ => rfl, rfl⟩
  models := rfl
  room := Nat.one_pos

theorem made_hosting : hosting.registry.Made := by
  intro c d found
  obtain found | ⟨-, -, maker⟩ := declaration?_hosting found
  · cases c with
    | known => cases found
    | _ slot =>
      obtain ⟨within, rfl⟩ := Array.getElem?_eq_some_iff.mp found
      obtain rfl : slot = 0 := by simpa [Registry.initial] using within
      trivial
  · rw [maker]
    trivial

theorem rejects_hosting : hosting.Rejects .root "Draft" (.noCollection (.cls .root)) :=
  .inl rfl

theorem not_rejects_hosting {name : String} (named : name.contains '\x00' = false) (e : Fault) :
    ¬ hosting.Rejects (.model 1) name e :=
  not_rejects (v := .str "posts") rfl
    (Registry.declare_eq_ok (.model 2) (.known "ModelMeta") named rfl rfl rfl rfl) e

end Store

section

variable {d : Dispatch} {st : Store} {k i : Nat} {a : Arguments} {listed : Entries}

/-- The mapping that is given is read as it is, and none as an empty one. -/
theorem Act.outcome_defining (st : Store)
    (given : a.at 1 = .null ∧ listed = [] ∨ a.at 1 = .dict listed ∨ a.at 1 = .mapping listed) :
    (connectionMethod d k "define" a).outcome st =
      (do define d k (Entries.merge listed a.options); return .null : Act Value).outcome st := by
  change (if (a.at 1).truthy then entriesOf (a.at 1) >>= fun listed =>
      define d k (Entries.merge listed a.options) >>= fun _ => pure .null
    else pure [] >>= fun listed => define d k (Entries.merge listed a.options) >>= fun _ =>
      pure .null : Act Value).outcome st = _
  obtain ⟨given, rfl⟩ | given | given := given
  · rw [given]
    rfl
  all_goals
    rw [given]
    cases listed <;> rfl

/-- A connection defines the models of the merged mapping one after another.  It returns if each can
be bound, as things are before the call, and shown under its name; otherwise it raises what the first
raises that cannot.  The models before that one, and no others, are shown from then on. -/
theorem define_attaches (displays : st.Displays k i) (made : st.registry.Made)
    (given : a.at 1 = .null ∧ listed = [] ∨ a.at 1 = .dict listed ∨ a.at 1 = .mapping listed)
    (once : (Entries.keys listed).Nodup) (lists : ∀ e ∈ listed ++ a.options, st.registry.Lists e) :
    ∃ front rest result after, Entries.merge listed a.options = front ++ rest ∧
      (Act.connectionMethod d k "define" a).outcome st = (result, after) ∧
      (rest = [] ∧ result = .ok .null ∨
        ∃ name c later e, rest = (.str name, .cls c) :: later ∧ result = .error e ∧
          (st.verdict d k name c = .error e ∨
            name ∈ Interface.reserved ∧ ∃ v, st.verdict d k name c = .ok v)) ∧
      (∀ name c, (.str name, .cls c) ∈ front →
        name ∉ Interface.reserved ∧ (∃ v, st.verdict d k name c = .ok v) ∧
        ∃ ref, (after.spaceAt i).field? name = some (.cls ref) ∧ st.Attaches after k name c ref) ∧
      (∀ name, .str name ∉ Entries.keys front →
        (after.spaceAt i).field? name = (st.spaceAt i).field? name) ∧
      after.connectionAt k = st.connectionAt k ∧ ∀ j, j ≠ i → after.spaceAt j = st.spaceAt j := by
  obtain ⟨once, lists⟩ := Entries.lists_merge once lists
  obtain ⟨front, rest, result, after, split, done, shown, ends⟩ :=
    Act.outcome_define_shown (d := d) displays.sound made (.refl _) displays lists once
  have judged {name : String} {c : ClassRef} (member : (.str name, .cls c) ∈ front ++ rest)
      (e : Fault) : st.verdict d k name c = .error e ↔ st.Rejects c name e := by
    obtain ⟨_, _, same, there⟩ := lists _ (split ▸ member)
    cases same
    exact Act.bindModel_error displays.toFiled there displays.bare name e
  have free {name : String} {c : ClassRef} (member : (.str name, .cls c) ∈ front ++ rest)
      (free : ∀ e, ¬ st.Rejects c name e) : ∃ v, st.verdict d k name c = .ok v := by
    cases went : st.verdict d k name c with
    | ok v => exact ⟨v, rfl⟩
    | error e => exact absurd ((judged member e).mp went) (free e)
  refine ⟨front, rest, result.map fun _ => .null, after, split, ?_, ?_, ?_, shown.keeps, ?_,
    shown.others⟩
  · rw [Act.outcome_defining st given]
    cases result with
    | ok v => exact Act.outcome_bind_ok done
    | error e => exact Act.outcome_bind_error done
  · obtain ⟨rfl, rfl⟩ | ⟨name, c, later, e, rfl, rfl, why⟩ := ends
    · exact .inl ⟨rfl, rfl⟩
    · have member : (.str name, .cls c) ∈ front ++ (.str name, .cls c) :: later := by simp
      refine .inr ⟨name, c, later, e, rfl, rfl, why.imp (judged member e).mpr ?_⟩
      exact fun ⟨reserved, clear⟩ => ⟨reserved, free member clear⟩
  · intro name c member
    obtain ⟨usual, clear, ref, held, binds⟩ := shown.shows name c member
    have reads := binds.reads
    exact ⟨usual, free (List.mem_append_left _ member) clear, ref, held, binds.fresh, binds.named,
      binds.under, binds.lineage, reads.1, reads.2⟩
  · exact (congrArg (fun st : Store => st.connectionAt k) shown.unshown :)

end

theorem define_attaches_hosting :
    ∃ ref after, (Act.connectionMethod (dispatch [] 0) 0 "define"
        ⟨[.handle (.connection 0), .null], [], [(.str "Post", .cls (.model 1))]⟩).outcome .hosting =
        (.ok .null, after) ∧
      (after.spaceAt 0).field? "Post" = some (.cls ref) ∧
      Store.hosting.Attaches after 0 "Post" (.model 1) ref := by
  have there : Store.hosting.registry.Present (.model 1) := ⟨_, rfl, rfl⟩
  have accepted (e : Fault) :
      Store.hosting.verdict (dispatch [] 0) 0 "Post" (.model 1) ≠ .error e := fun refused =>
    Store.not_rejects_hosting (by simp) e ((Act.bindModel_error Store.displays_hosting.toFiled there
      Store.displays_hosting.bare "Post" e).mp refused)
  obtain ⟨front, rest, result, after, split, done, ends, shows, -⟩ :=
    define_attaches (d := dispatch [] 0) (a := ⟨[.handle (.connection 0), .null], [],
      [(.str "Post", .cls (.model 1))]⟩) Store.displays_hosting Store.made_hosting
      (.inl ⟨rfl, rfl⟩) .nil fun e member => by
        obtain rfl := List.mem_singleton.mp member
        exact ⟨_, _, rfl, there⟩
  match front, split with
  | [], split =>
    subst split
    obtain ⟨none, -⟩ | ⟨name, c, later, e, same, -, refused | ⟨reserved, -⟩⟩ := ends
    · cases none
    · cases same
      exact absurd refused (accepted e)
    · cases same
      exact absurd reserved (by decide)
  | [_], split =>
    cases split
    obtain ⟨-, rfl⟩ | ⟨_, _, _, _, same, -⟩ := ends
    · obtain ⟨-, -, ref, held, attaches⟩ := shows "Post" (.model 1) List.mem_cons_self
      exact ⟨ref, after, done, held, attaches⟩
    · cases same
  | _ :: _ :: _, split => cases split

/-- What was shown before a class that cannot be bound is still shown after the call; and a class that
can be bound is not shown under a name that is reserved. -/
theorem define_not_undone :
    (∃ ref after, (Act.connectionMethod (dispatch [] 0) 0 "define"
        ⟨[.handle (.connection 0), .dict [(.str "Post", .cls (.model 1)), (.str "Draft", .cls .root)]],
          [], []⟩).outcome .hosting = (.error (.noCollection (.cls .root)), after) ∧
      Store.hosting.spaceAt 0 = [] ∧ (after.spaceAt 0).field? "Post" = some (.cls ref)) ∧
    ∃ e v after, (Act.connectionMethod (dispatch [] 0) 0 "define"
        ⟨[.handle (.connection 0), .dict [(.str "__class__", .cls (.model 1))]], [], []⟩).outcome
          .hosting = (.error e, after) ∧
      Store.hosting.verdict (dispatch [] 0) 0 "__class__" (.model 1) = .ok v := by
  constructor
  · have lists : ∀ e ∈ [((.str "Post", .cls (.model 1)) : Value × Value), (.str "Draft", .cls .root)],
        Store.hosting.registry.Lists e := by
      intro e member
      obtain rfl | rfl := by simpa using member
      · exact ⟨_, _, rfl, _, rfl, rfl⟩
      · exact ⟨_, _, rfl, _, rfl, rfl⟩
    obtain ⟨front, rest, result, after, split, done, shown, ends⟩ :=
      Act.outcome_define_shown (d := dispatch [] 0) Store.displays_hosting.sound Store.made_hosting
        (.refl _) Store.displays_hosting lists (by simp [Entries.keys])
    rw [Act.outcome_defining .hosting (.inr (.inl rfl))]
    rcases front with _ | ⟨first, _ | ⟨second, _ | ⟨third, front⟩⟩⟩
    · subst split
      obtain ⟨none, -⟩ | ⟨name, c, later, e, same, -, refused | ⟨reserved, -⟩⟩ := ends
      · cases none
      · cases same
        exact absurd refused (Store.not_rejects_hosting (by simp) e)
      · cases same
        exact absurd reserved (by decide)
    · cases split
      obtain ⟨none, -⟩ | ⟨name, c, later, e, same, rfl, refused | ⟨reserved, -⟩⟩ := ends
      · cases none
      · cases same
        obtain rfl := Act.rejects_unique refused Store.rejects_hosting
        obtain ⟨-, -, ref, held, -⟩ := shown.shows "Post" (.model 1) List.mem_cons_self
        exact ⟨ref, after, Act.outcome_bind_error done, rfl, held⟩
      · cases same
        exact absurd reserved (by decide)
    · cases split
      exact absurd Store.rejects_hosting ((shown.shows "Draft" .root (by simp)).2.1 _)
    · cases split
  · have there : Store.hosting.registry.Present (.model 1) := ⟨_, rfl, rfl⟩
    have bound := Act.attaching_bindModel (d := dispatch [] 0) Store.displays_hosting.toFiled there
      Store.displays_hosting.bare "__class__"
    generalize went : (Act.bindModel (dispatch [] 0) (.cls (.model 1)) (.str "__class__")
      (.handle (.connection 0))).outcome .hosting = made at bound
    obtain ⟨result, mid⟩ := made
    cases bound with
    | refused why => exact absurd why (Store.not_rejects_hosting (by simp) _)
    | @bound ref =>
      have verdict : Store.hosting.verdict (dispatch [] 0) 0 "__class__" (.model 1) = .ok (.cls ref) :=
        congrArg Prod.fst went
      obtain ⟨e, refused⟩ := Act.outcome_writeAttribute_reserved mid 0 ref
        (show "__class__" ∈ Interface.reserved by decide)
      refine ⟨e, _, mid, ?_, verdict⟩
      rw [Act.outcome_defining .hosting (.inr (.inl rfl))]
      refine Act.outcome_bind_error ?_
      exact (Act.outcome_bind_ok went).trans (Act.outcome_bind_error refused)

end DocMapper
