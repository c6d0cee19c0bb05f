import DocMapper.Proofs.Finding

/-!
Stores to which nothing but objects was added.  A model class that was connected still is, over the
same documents, and its instances are saved as they were.
-/

namespace DocMapper

section

variable {α : Type} {l : List α} {a : Array α}

theorem prefix_modify (h : l <+: a.toList) {i : Nat} (beyond : l.length ≤ i) (f : α → α) :
    l <+: (a.modify i f).toList := by
  rw [List.prefix_iff_getElem?] at h ⊢
  intro n hn
  simp [show i ≠ n by omega, h n hn]

theorem getElem?_prefix_eq {b : Array α} (h : a.toList <+: b.toList) {i : Nat}
    (present : i < a.size) : b[i]? = a[i]? := by
  have same := List.prefix_iff_getElem?.mp h i present
  rw [Array.getElem?_toList] at same
  exact same.trans (Array.getElem?_eq_getElem present).symm

theorem getD_prefix_eq {b : Array α} (h : a.toList <+: b.toList) {i : Nat} (present : i < a.size)
    (x : α) : b.getD i x = a.getD i x := by
  rw [Array.getD_eq_getD_getElem?, getElem?_prefix_eq h present, ← Array.getD_eq_getD_getElem?]

end

def Registry.Numbered (r : Registry) : Prop :=
  ∀ e ∈ r.configs, e.2.serial < r.serials

namespace Store

/-- A handle of something that documents are stored with, if it is there. -/
def Has (st : Store) : Handle → Prop
  | .document _ i => i < st.documents.size
  | .connection k => k < st.connections.size
  | .database b => b < st.databases.size
  | .collection j => j < st.collections.size
  | .shelf s => s < st.shelves.size
  | .stock t => t < st.stocks.size
  | .config serial => serial < st.registry.serials
  | _ => False

/-- What was there before, and collections that are still to come. -/
def Spared (st after : Store) (h : Handle) : Prop :=
  st.Has h ∨ ∃ j, after.collections.size ≤ j ∧ h = .collection j

/-- Classes are what they were, and what documents are stored in is. -/
structure Extends (st after : Store) : Prop where
  declarations : after.registry.declarations = st.registry.declarations
  own : after.registry.own = st.registry.own
  configs : after.registry.configs = st.registry.configs
  serials : st.registry.serials ≤ after.registry.serials
  connections : st.connections.toList <+: after.connections.toList
  databases : st.databases.toList <+: after.databases.toList
  collections : st.collections.toList <+: after.collections.toList
  shelves : st.shelves.toList <+: after.shelves.toList
  stocks : st.stocks.toList <+: after.stocks.toList

theorem Extends.refl (st : Store) : st.Extends st :=
  ⟨rfl, rfl, rfl, Nat.le_refl _, List.prefix_refl _, List.prefix_refl _, List.prefix_refl _,
    List.prefix_refl _, List.prefix_refl _⟩

/-- Objects may have come, but nothing was done to what there was. -/
structure Grows (st after : Store) : Prop extends Extends st after where
  documents : st.documents.size ≤ after.documents.size
  bare : ∀ h, st.Spared after h → st.Bare h → after.Bare h

theorem Grows.refl (st : Store) : st.Grows st :=
  ⟨.refl st, Nat.le_refl _, fun _ _ bare => bare⟩

variable {st mid after : Store} {h : Handle}

/-- An instance of a class that is connected, to be saved as instances of models are. -/
structure Ready (st : Store) (c : ClassRef) (k : Nat) (name : String) (i : Nat) : Prop where
  configured : st.Configured c k name
  numbered : st.registry.Numbered
  present : i < st.documents.size
  model : (st.documentAt i).model = c
  bare : st.Bare (.document c i)
  placed : st.registry.member? c "collection" = some (.root, .property)

variable {c : ClassRef} {k i j b t : Nat} {name : String} {ds : List Value}

theorem Ready.of_setting (h : st.Ready c k name i) (setting : after.setting = st.setting)
    (collections : st.collections.size ≤ after.collections.size)
    (present : i < after.documents.size) (model : (after.documentAt i).model = c) :
    after.Ready c k name i := by
  have registry : after.registry = st.registry := congrArg Setting.registry setting
  exact ⟨h.configured.of_setting setting collections, registry ▸ h.numbered, present, model,
    h.bare.of_setting setting, registry ▸ h.placed⟩

theorem Ready.of_aside (h : st.Ready c k name i) (aside : after.aside = st.aside)
    (collections : st.collections.size ≤ after.collections.size) : after.Ready c k name i := by
  have documents := documents_of_aside aside
  refine h.of_setting (setting_of_aside aside) collections (documents ▸ h.present) ?_
  rw [documentAt, documents]
  exact h.model

theorem Connected.known (h : st.Connected k name ds) : k < st.connections.size := by
  cases h with
  | inl kept =>
    obtain ⟨j, keeps, -⟩ := kept
    exact connection_known keeps.selected.choose_spec
  | inr lent =>
    obtain ⟨b, t, lends⟩ := lent
    exact connection_known lends.selected

namespace Extends

variable (e : st.Extends after)
include e

theorem member? (c : ClassRef) (name : String) :
    after.registry.member? c name = st.registry.member? c name := by
  simp only [Registry.member?, Registry.ancestors, Registry.declaration?, Registry.ownMember?,
    e.declarations, e.own]

theorem connectionAt (known : k < st.connections.size) :
    after.connectionAt k = st.connectionAt k :=
  getD_prefix_eq e.connections known _

theorem collectionAt (present : j < st.collections.size) :
    after.collectionAt j = st.collectionAt j :=
  getD_prefix_eq e.collections present _

theorem shelfAt {s : Nat} (present : s < st.shelves.size) : after.shelfAt s = st.shelfAt s :=
  getD_prefix_eq e.shelves present _

theorem keeps (h : st.Keeps k name j ds) : after.Keeps k name j ds := by
  obtain ⟨b, selected⟩ := h.selected
  have connection := e.connectionAt (connection_known selected)
  have collection := e.collectionAt h.present
  refine ⟨⟨b, by rw [connection, selected]⟩, by rw [connection]; exact h.kept,
    Nat.lt_of_lt_of_le h.present e.collections.length_le, by rw [collection]; exact h.calls, ?_, ?_⟩
  · rw [collection]
    exact Nat.lt_of_lt_of_le h.shelved e.shelves.length_le
  · rw [collection, e.shelfAt h.shelved]
    exact h.stored

theorem shelved (known : t < st.stocks.size) (h : st.Shelved t name ds) :
    after.Shelved t name ds := by
  rw [Shelved] at h ⊢
  rw [getD_prefix_eq e.stocks known]
  split at h
  · exact ⟨Nat.lt_of_lt_of_le h.1 e.shelves.length_le, (e.shelfAt h.1).trans h.2⟩
  all_goals exact h

theorem configured (h : st.Configured c k name) (bare : after.Bare (.connection k))
    (fresh : ∀ j, after.collections.size ≤ j → after.Bare (.collection j)) :
    after.Configured c k name where
  pristine := by
    intro c name
    rw [e.own]
    exact h.pristine c name
  connection := by
    rw [← h.connection]
    simp only [Registry.connection, Registry.ancestors, Registry.declaration?, Registry.config?,
      e.declarations, e.configs]
  collection := by
    rw [← h.collection]
    simp only [Registry.collection, Registry.config?, e.configs]
  handsOut := by
    rw [← h.handsOut]
    simp only [usual, extraOf?, Store.member?, e.member?]
  bare := bare
  fresh := fresh

end Extends

namespace Grows

variable (g : st.Grows after)
include g

theorem lends (h : st.Lends k name b t ds) : after.Lends k name b t ds := by
  have connection := g.connectionAt (connection_known h.selected)
  have known : b < st.databases.size := by
    apply Nat.lt_of_not_le
    intro beyond
    have data := h.data
    rw [databaseAt, Array.getD_eq_getD_getElem?, Array.getElem?_eq_none beyond] at data
    cases data
  have database : after.databaseAt b = st.databaseAt b := getD_prefix_eq g.databases known _
  refine ⟨by rw [connection, h.selected], by rw [database]; exact h.requests,
    g.bare _ (.inl known) h.bare, by rw [database, h.data],
    Nat.lt_of_lt_of_le h.stocked g.stocks.length_le, g.shelved h.stocked h.shelved,
    by rw [connection]; exact h.fresh⟩

theorem connected (h : st.Connected k name ds) : after.Connected k name ds := by
  cases h with
  | inl kept =>
    obtain ⟨j, keeps, bare⟩ := kept
    exact .inl ⟨j, g.keeps keeps, g.bare _ (.inl keeps.present) bare⟩
  | inr lent =>
    obtain ⟨b, t, lends⟩ := lent
    exact .inr ⟨b, t, g.lends lends⟩

theorem ready (h : st.Ready c k name i) (known : k < st.connections.size)
    (model : (after.documentAt i).model = c) : after.Ready c k name i where
  configured := g.configured h.configured (g.bare _ (.inl known) h.configured.bare) fun j hj =>
    g.bare _ (.inr ⟨j, hj, rfl⟩) (h.configured.fresh j (Nat.le_trans g.collections.length_le hj))
  numbered := by
    intro e he
    exact Nat.lt_of_lt_of_le (h.numbered e (g.configs ▸ he)) g.serials
  present := Nat.lt_of_lt_of_le h.present g.documents
  model := model
  bare := g.bare _ (.inl h.present) h.bare
  placed := (g.member? c _).trans h.placed

end Grows

end Store

end DocMapper
