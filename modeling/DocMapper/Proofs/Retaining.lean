import DocMapper.Proofs.Building
import Mathlib.Data.List.Forall2

/-!
What a copy leaves of queries and pipelines.  Everything that a copy makes is new, so the builders
that were there stay as they are, and so does what was set on them.
-/

namespace DocMapper.Store

/-- A handle of a query, of its options or of a pipeline that is there. -/
def Built (st : Store) : Handle → Prop
  | .query _ i | .queryOptions i => i < st.queries.size
  | .pipeline _ i => i < st.pipelines.size
  | _ => False

/-- A handle of a query, of its options or of a pipeline that is still to come. -/
def Coming (st : Store) : Handle → Prop
  | .query _ i | .queryOptions i => st.queries.size ≤ i
  | .pipeline _ i => st.pipelines.size ≤ i
  | _ => False

/-- Queries and pipelines may have come, but nothing was done to those that were there, nor was
anything set on those that are still to come. -/
structure Retains (st after : Store) : Prop where
  own : after.registry.own = st.registry.own
  declarations : after.registry.declarations = st.registry.declarations
  queries : st.queries.toList <+: after.queries.toList
  pipelines : st.pipelines.toList <+: after.pipelines.toList
  extras : ∀ h, st.Built h ∨ after.Coming h → ∀ name,
    after.extras.lookup (.handle h, name) = st.extras.lookup (.handle h, name)
  refined : ∀ h, st.Built h ∨ after.Coming h → after.refined.lookup h = st.refined.lookup h

namespace Retains

variable {st mid after : Store} {h : Handle}

theorem refl (st : Store) : st.Retains st :=
  ⟨rfl, rfl, List.prefix_refl _, List.prefix_refl _, fun _ _ _ => rfl, fun _ _ => rfl⟩

theorem built (r : st.Retains after) (there : st.Built h) : after.Built h := by
  cases h <;> simp only [Built] at there ⊢
  case query | queryOptions => exact Nat.lt_of_lt_of_le there r.queries.length_le
  case pipeline => exact Nat.lt_of_lt_of_le there r.pipelines.length_le

theorem coming (r : st.Retains after) (later : after.Coming h) : st.Coming h := by
  cases h <;> simp only [Coming] at later ⊢
  case query | queryOptions => exact Nat.le_trans r.queries.length_le later
  case pipeline => exact Nat.le_trans r.pipelines.length_le later

theorem trans (r : st.Retains mid) (t : mid.Retains after) : st.Retains after where
  own := t.own.trans r.own
  declarations := t.declarations.trans r.declarations
  queries := r.queries.trans t.queries
  pipelines := r.pipelines.trans t.pipelines
  extras h there name :=
    (t.extras h (there.imp_left r.built) name).trans (r.extras h (there.imp_right t.coming) name)
  refined h there :=
    (t.refined h (there.imp_left r.built)).trans (r.refined h (there.imp_right t.coming))

theorem of_setting (setting : after.setting = st.setting)
    (queries : st.queries.toList <+: after.queries.toList)
    (pipelines : st.pipelines.toList <+: after.pipelines.toList) : st.Retains after := by
  simp only [Store.setting, Setting.mk.injEq] at setting
  obtain ⟨registry, extras, refined⟩ := setting
  exact ⟨by rw [registry], by rw [registry], queries, pipelines, fun _ _ _ => by rw [extras],
    fun _ _ => by rw [refined]⟩

theorem identified (st : Store) : st.Retains st.identified :=
  of_setting rfl (List.prefix_refl _) (List.prefix_refl _)

theorem extraOf? (r : st.Retains after) (there : st.Built h) (name : String) :
    after.extraOf? (.handle h) name = st.extraOf? (.handle h) name := by
  simp only [Store.extraOf?, Holder.of?, Option.bind_some]
  exact r.extras h (.inl there) name

theorem ownMember? (r : st.Retains after) (c : ClassRef) (name : String) :
    after.registry.ownMember? c name = st.registry.ownMember? c name := by
  simp only [Registry.ownMember?, r.own]

theorem member? (r : st.Retains after) (there : st.Built h) (name : String) :
    after.member? (.handle h) name = st.member? (.handle h) name := by
  simp only [Store.member?, classOf, r.refined h (.inl there), Registry.member?, Registry.ancestors,
    Registry.declaration?, r.declarations, r.ownMember?]

theorem usual (r : st.Retains after) (there : st.Built h) (owner : ClassRef) (name : String) :
    after.usual (.handle h) owner name = st.usual (.handle h) owner name := by
  simp only [Store.usual, r.extraOf? there, r.member? there]

theorem builds {k : QueryKind} {i : Nat} {q : Query} (r : st.Retains after)
    (b : st.Builds k i q) : after.Builds k i q := by
  have there : st.Built (.query k i) := (Array.getElem?_eq_some_iff.mp b.query).1
  refine ⟨(getElem?_prefix_eq r.queries there).trans b.query, b.held, b.instead,
    fun name m found => ?_, ?_⟩
  · rw [r.usual there, r.ownMember?]
    exact b.usual name m found
  · rw [r.extraOf? there, b.logger]

end Retains

theorem Doubles.retains {st after : Store} (d : st.Doubles after) : st.Retains after := by
  have old {h : Handle} (there : st.Built h ∨ after.Coming h) : ¬st.New after h := by
    intro new
    cases there with
    | inl here => cases h <;> simp only [Built] at here <;> exact Nat.not_lt.mpr new.1 here
    | inr later => cases h <;> simp only [Coming] at later <;> exact Nat.not_lt.mpr later new.2
  exact ⟨d.own, d.declarations, d.queries, d.pipelines, fun h there => d.extras h (old there),
    fun h there => d.refined h (old there)⟩

/-- A copy leaves the queries and the pipelines alone that were there. -/
theorem cloned_retains (st : Store) (v : Value) : st.Retains (st.cloned v).2 :=
  (st.cloned_doubles v).retains

end DocMapper.Store

namespace DocMapper

/-- A value with other objects in the place of those in it, as copies of copies have them. -/
def Value.redone (css : List Store.Counterparts) (v : Value) : Value :=
  css.foldl (fun w cs => Store.renamed cs w) v

/-- One value is a copy of another, or a copy of a copy. -/
def Value.Copied (v u : Value) : Prop := ∃ css, u = v.redone css

namespace Value

variable {v u w : Value}

theorem Copied.refl (v : Value) : v.Copied v := ⟨[], rfl⟩

theorem Copied.trans (h : v.Copied u) (k : u.Copied w) : v.Copied w := by
  obtain ⟨css, rfl⟩ := h
  obtain ⟨dss, rfl⟩ := k
  exact ⟨css ++ dss, (List.foldl_append ..).symm⟩

theorem renamed_plain (plain : v.Plain) (cs : Store.Counterparts) : Store.renamed cs v = v := by
  refine rebuild_plain _ _ _ (fun v hv => ?_) plain
  cases hv <;> rfl

theorem redone_plain (plain : v.Plain) (css : List Store.Counterparts) : v.redone css = v := by
  induction css with
  | nil => rfl
  | cons cs css ih =>
    change (Store.renamed cs v).redone css = v
    rw [renamed_plain plain, ih]

/-- Plain data is its own copy. -/
theorem Copied.plain (h : v.Copied u) (plain : v.Plain) : u = v := by
  obtain ⟨css, rfl⟩ := h
  exact redone_plain plain css

theorem renamed_dict (cs : Store.Counterparts) (es : Entries) :
    Store.renamed cs (.dict es) = .dict (Entries.mapBoth (Store.renamed cs) es) := by
  simp only [Store.renamed, rebuild, rebuildEntries_eq_map, Entries.mapBoth, if_true]

theorem renamed_mapping (cs : Store.Counterparts) (es : Entries) :
    Store.renamed cs (.mapping es) = .mapping (Entries.mapBoth (Store.renamed cs) es) := by
  simp only [Store.renamed, rebuild, rebuildEntries_eq_map, Entries.mapBoth, if_true]

theorem renamed_list (cs : Store.Counterparts) (xs : List Value) :
    Store.renamed cs (.list xs) = .list (xs.map (Store.renamed cs)) := by
  simp only [Store.renamed, rebuild, rebuildItems_eq_map]
  rfl

theorem redone_dict (css : List Store.Counterparts) (es : Entries) :
    (Value.dict es).redone css = .dict (Entries.mapBoth (redone css) es) := by
  induction css generalizing es with
  | nil => exact congrArg Value.dict (List.map_id es).symm
  | cons cs css ih =>
    change (Store.renamed cs (.dict es)).redone css = _
    rw [renamed_dict, ih, Entries.mapBoth, Entries.mapBoth, List.map_map]
    rfl

theorem redone_mapping (css : List Store.Counterparts) (es : Entries) :
    (Value.mapping es).redone css = .mapping (Entries.mapBoth (redone css) es) := by
  induction css generalizing es with
  | nil => exact congrArg Value.mapping (List.map_id es).symm
  | cons cs css ih =>
    change (Store.renamed cs (.mapping es)).redone css = _
    rw [renamed_mapping, ih, Entries.mapBoth, Entries.mapBoth, List.map_map]
    rfl

theorem redone_list (css : List Store.Counterparts) (xs : List Value) :
    (Value.list xs).redone css = .list (xs.map (redone css)) := by
  induction css generalizing xs with
  | nil => exact congrArg Value.list (List.map_id xs).symm
  | cons cs css ih =>
    change (Store.renamed cs (.list xs)).redone css = _
    rw [renamed_list, ih, List.map_map]
    rfl

theorem copied_cloned (st : Store) (v : Value) : v.Copied (st.cloned v).1 := by
  unfold Store.cloned
  split
  · exact .refl v
  · exact ⟨[_], rfl⟩

end Value

theorem Value.Copied.all_plain {vs us : List Value} (h : List.Forall₂ Value.Copied vs us)
    (plain : ∀ v ∈ vs, v.Plain) : us = vs := by
  induction h with
  | nil => rfl
  | cons copied _ ih =>
    rw [copied.plain (plain _ List.mem_cons_self),
      ih fun v hv => plain v (List.mem_cons_of_mem _ hv)]

/-- Entries with copies in the place of what they hold. -/
def Entries.Copied (es cs : Entries) : Prop := ∃ css, cs = mapBoth (Value.redone css) es

theorem Entries.Copied.plain {es cs : Entries} (h : es.Copied cs) (plain : (Value.dict es).Plain) :
    cs = es := by
  obtain ⟨css, rfl⟩ := h
  have same := Value.redone_plain plain css
  rwa [Value.redone_dict, Value.dict.injEq] at same

theorem Value.Copied.entries {v u : Value} {es : Entries} (h : v.Copied u)
    (entries : v.entries? = some es) : ∃ cs, u.entries? = some cs ∧ es.Copied cs := by
  obtain ⟨css, rfl⟩ := h
  cases v <;> cases entries
  · exact ⟨_, by rw [redone_dict]; rfl, css, rfl⟩
  · exact ⟨_, by rw [redone_mapping]; rfl, css, rfl⟩

/-- A copy is made, unless something in a value cannot be copied; nothing is done for plain data. -/
theorem Act.outcome_copy_cases (v : Value) (st : Store) :
    (∃ e, (copy v).outcome st = (.error e, st) ∧ ¬v.Plain ∧ st.uncopyable? v = some e) ∨
      ∃ u after, (copy v).outcome st = (.ok u, after) ∧ v.Copied u ∧ st.Retains after ∧
        (v.Plain → after = st) ∧ st.uncopyable? v = none := by
  rw [outcome_copy_eq]
  cases refused : st.uncopyable? v with
  | some e =>
    refine .inl ⟨e, rfl, fun plain => ?_, rfl⟩
    rw [st.uncopyable?_plain plain] at refused
    cases refused
  | none =>
    exact .inr ⟨_, _, rfl, Value.copied_cloned st v, st.cloned_retains v, fun plain =>
      congrArg Prod.snd (st.cloned_plain plain), rfl⟩

end DocMapper
