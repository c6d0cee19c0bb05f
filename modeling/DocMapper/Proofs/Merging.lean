import DocMapper.Proofs.Conditions
import Mathlib.Data.List.Forall2

/-!
Criteria merged into others.  What is merged in takes the place of what stands under its keys and the
rest stays, so the merged criteria ask for the rest and for what was merged in.
-/

namespace DocMapper

namespace Entries

/-- The entries of the first whose keys the second do not have. -/
def lacking (es fs : Entries) : Entries :=
  es.filter fun e => !fs.has e.1

/-- Two dictionaries whose keys agree only if they are equal. -/
structure Merges (es fs : Entries) : Prop where
  once : (keys es).Nodup
  also : (keys fs).Nodup
  told : ∀ k ∈ keys es ++ keys fs, ∀ l ∈ keys es ++ keys fs, k.same l ↔ k = l

variable {es fs : Entries} {k v : Value} {e : Value × Value}

theorem Texts.merges (h : es.Texts) (texts : fs.Texts) (once : (keys es).Nodup)
    (also : (keys fs).Nodup) : Merges es fs := by
  refine ⟨once, also, fun k hk l hl => ?_⟩
  have text : ∀ k ∈ keys es ++ keys fs, ∃ s, k = .str s := by
    intro k hk
    rw [keys, keys, ← List.map_append] at hk
    obtain ⟨e, he, rfl⟩ := List.mem_map.mp hk
    cases List.mem_append.mp he with
    | inl old => exact h e old
    | inr new => exact texts e new
  obtain ⟨s, rfl⟩ := text k hk
  obtain ⟨t, rfl⟩ := text l hl
  rw [Value.same_str, beq_iff_eq, Value.str.injEq]

/-- Entries under texts that are told apart are put one after the other. -/
theorem merge_of_nodup (texts : (es ++ fs).Texts)
    (once : (keys (es ++ fs)).Nodup) : es.merge fs = es ++ fs := by
  induction fs generalizing es with
  | nil => exact (List.append_nil es).symm
  | cons f fs ih =>
    obtain ⟨k, v⟩ := f
    have put : es.put k v = es ++ [(k, v)] := by
      obtain ⟨-, -, puts⟩ | ⟨gs, l, w, hs, rfl, same, -⟩ := around es k
      · exact puts v
      · obtain ⟨s, rfl⟩ : ∃ s, l = .str s := texts (l, w) (by simp)
        obtain ⟨t, rfl⟩ : ∃ t, k = .str t := texts (k, v) (by simp)
        obtain rfl : s = t := by simpa using same
        simp [keys, List.nodup_append] at once
    rw [← List.singleton_append, ← List.append_assoc] at texts once ⊢
    rw [← ih texts once, ← put]
    rfl

theorem ofPairs_of_nodup (texts : es.Texts) (once : (keys es).Nodup) :
    ofPairs es = es :=
  merge_of_nodup texts once

theorem mem_put (once : (keys es).Nodup) (told : ∀ l ∈ keys es, l.same k ↔ l = k) :
    e ∈ es.put k v ↔ e = (k, v) ∨ e ∈ es ∧ e.1 ≠ k := by
  induction es with
  | nil => simp [put]
  | cons f es ih =>
    obtain ⟨fresh, once⟩ := List.nodup_cons.mp once
    obtain ⟨here, told⟩ := List.forall_mem_cons.mp told
    have rest := ih once told
    obtain ⟨l, w⟩ := f
    by_cases same : l = k
    · subst same
      have others : ∀ f ∈ es, f.1 ≠ l := by
        rintro f hf rfl
        exact fresh (List.mem_map.mpr ⟨f, hf, rfl⟩)
      rw [put, if_pos (here.mpr rfl), List.mem_cons, List.mem_cons]
      constructor
      · rintro (rfl | there)
        · exact .inl rfl
        · exact .inr ⟨.inr there, others e there⟩
      · rintro (rfl | ⟨rfl | there, apart⟩)
        · exact .inl rfl
        · exact absurd rfl apart
        · exact .inr there
    · rw [put, if_neg fun agree => same (here.mp agree), List.mem_cons, rest, List.mem_cons]
      constructor
      · rintro (rfl | rfl | ⟨there, apart⟩)
        · exact .inr ⟨.inl rfl, same⟩
        · exact .inl rfl
        · exact .inr ⟨.inr there, apart⟩
      · rintro (rfl | ⟨rfl | there, apart⟩)
        · exact .inr (.inl rfl)
        · exact .inl rfl
        · exact .inr (.inr ⟨there, apart⟩)

theorem has_iff_mem (told : ∀ l ∈ keys es, l.same k ↔ l = k) : es.has k ↔ k ∈ keys es := by
  rw [has, List.any_eq_true, keys, List.mem_map]
  exact exists_congr fun e => and_congr_right fun he => told e.1 (List.mem_map_of_mem he)

/-- Whether entries merge is told from their keys. -/
theorem Merges.of_keys {es' fs' : Entries} (h : Merges es fs) (first : keys es' = keys es)
    (second : keys fs' = keys fs) : Merges es' fs' := by
  refine ⟨first ▸ h.once, second ▸ h.also, ?_⟩
  rw [first, second]
  exact h.told

section

variable {f : Value → Value}

theorem mapBoth_merge (old : ∀ e ∈ es, f e.1 = e.1) (new : ∀ e ∈ fs, f e.1 = e.1) :
    mapBoth f (es.merge fs) = (mapBoth f es).merge (mapBoth f fs) := by
  induction fs generalizing es with
  | nil => rfl
  | cons e fs ih =>
    obtain ⟨here, later⟩ := List.forall_mem_cons.mp new
    have kept : ∀ g ∈ es.put e.1 e.2, f g.1 = g.1 := by
      have all := fun k (hk : k ∈ keys (es.put e.1 e.2)) => show f k = k by
        rw [keys_put] at hk
        have key : k ∈ keys es ∨ k = e.1 := by
          split at hk
          · exact .inl hk
          · simpa using hk
        obtain old' | rfl := key
        · obtain ⟨g, hg, rfl⟩ := List.mem_map.mp old'
          exact old g hg
        · exact here
      exact fun g hg => all g.1 (List.mem_map_of_mem hg)
    change mapBoth f ((es.put e.1 e.2).merge fs) = _
    rw [ih kept later, mapBoth_put old here]
    simp only [mapBoth, merge, List.map_cons, List.foldl_cons, here]

theorem mapBoth_lacking (old : ∀ e ∈ es, f e.1 = e.1) (new : ∀ e ∈ fs, f e.1 = e.1) :
    mapBoth f (es.lacking fs) = (mapBoth f es).lacking (mapBoth f fs) := by
  have alike : ∀ k, (mapBoth f fs).has k = fs.has k := by
    intro k
    rw [has, has, mapBoth, List.any_map, Bool.eq_iff_iff, List.any_eq_true, List.any_eq_true]
    exact exists_congr fun e => and_congr_right fun he => by rw [Function.comp_apply, new e he]
  simp only [lacking, alike]
  rw [mapBoth, mapBoth, List.filter_map]
  refine congrArg _ (List.filter_congr fun e he => ?_)
  rw [Function.comp_apply, old e he]

end

namespace Merges

theorem mem_lacking (h : Merges es fs) : e ∈ es.lacking fs ↔ e ∈ es ∧ e.1 ∉ keys fs := by
  rw [lacking, List.mem_filter, Bool.not_eq_true', ← Bool.not_eq_true]
  refine and_congr_right fun he => not_congr (has_iff_mem fun l hl => ?_)
  exact h.told l (List.mem_append_right _ hl) e.1 (List.mem_append_left _ (List.mem_map_of_mem he))

/-- What is left to be merged once the first of the entries was put. -/
theorem put (h : Merges es ((k, v) :: fs)) : Merges (es.put k v) fs := by
  have here : k ∈ keys es ++ keys ((k, v) :: fs) := by simp [keys]
  have present : es.has k ↔ k ∈ keys es :=
    has_iff_mem fun l hl => h.told l (List.mem_append_left _ hl) k here
  have sub : ∀ l ∈ keys (es.put k v) ++ keys fs, l ∈ keys es ++ keys ((k, v) :: fs) := by
    intro l hl
    have old : l ∈ keys (es.put k v) → l ∈ keys es ∨ l = k := by
      rw [keys_put]
      split
      · exact .inl
      · simp
    have head : l ∈ keys ((k, v) :: fs) ↔ l = k ∨ l ∈ keys fs := by simp [keys]
    rw [List.mem_append] at hl ⊢
    rw [head]
    exact hl.elim (fun hl => (old hl).imp id .inl) fun hl => .inr (.inr hl)
  refine ⟨?_, (List.nodup_cons.mp h.also).2, fun k hk l hl => h.told k (sub k hk) l (sub l hl)⟩
  rw [keys_put]
  split
  · exact h.once
  next absent =>
    exact (List.nodup_cons.mpr ⟨fun there => absent (present.mpr there), h.once⟩).perm
      (List.perm_append_singleton k _).symm

/-- Merged entries are those merged in, and those under other keys. -/
theorem mem_merge (h : Merges es fs) : e ∈ es.merge fs ↔ e ∈ es.lacking fs ∨ e ∈ fs := by
  rw [h.mem_lacking]
  induction fs generalizing es with
  | nil => simp [merge, keys]
  | cons f fs ih =>
    obtain ⟨k, v⟩ := f
    have told : ∀ l ∈ keys es, l.same k ↔ l = k := fun l hl =>
      h.told l (List.mem_append_left _ hl) k (by simp [keys])
    have fresh : k ∉ keys fs := (List.nodup_cons.mp h.also).1
    have other : e.1 ∉ keys ((k, v) :: fs) ↔ e.1 ≠ k ∧ e.1 ∉ keys fs := by simp [keys]
    change e ∈ (es.put k v).merge fs ↔ _
    rw [ih h.put, mem_put h.once told, List.mem_cons, other]
    constructor
    · rintro (⟨rfl | ⟨there, apart⟩, rest⟩ | new)
      · exact .inr (.inl rfl)
      · exact .inl ⟨there, apart, rest⟩
      · exact .inr (.inr new)
    · rintro (⟨there, apart, rest⟩ | rfl | new)
      · exact .inl ⟨.inr ⟨there, apart⟩, rest⟩
      · exact .inl ⟨.inl rfl, fresh⟩
      · exact .inr new

end Merges

end Entries

namespace Criteria

/-- Each condition of criteria is decided for a document. -/
def Decided (doc : Value) (es : Entries) : Prop :=
  ∀ e ∈ es, ∃ b, meets doc e.1 e.2 = .ok b

theorem holdsEach_eq_true {doc : Value} {es : Entries} :
    holdsEach doc es = .ok true ↔ ∀ e ∈ es, meets doc e.1 e.2 = .ok true := by
  induction es with
  | nil => simp
  | cons e es ih =>
    obtain ⟨k, v⟩ := e
    rw [holdsEach_cons, List.forall_mem_cons, ← ih]
    rcases meets doc k v with e | b
    · simp
    · cases b <;> simp

theorem Decided.holdsEach {doc : Value} {es : Entries} (h : Decided doc es) :
    ∃ b, holdsEach doc es = .ok b := by
  induction es with
  | nil => exact ⟨true, holdsEach_nil doc⟩
  | cons e es ih =>
    obtain ⟨k, v⟩ := e
    obtain ⟨⟨b, here⟩, later⟩ := List.forall_mem_cons.mp h
    obtain ⟨c, rest⟩ := ih later
    rw [holdsEach_cons, here, rest, both_ok]
    exact ⟨b && c, rfl⟩

/-- Merged criteria ask for what was merged in and for what stands under other keys. -/
theorem holdsEach_merge {doc : Value} {es fs : Entries} {r t : Bool} (h : es.Merges fs)
    (decided : Decided doc (es.lacking fs ++ fs)) (rest : holdsEach doc (es.lacking fs) = .ok r)
    (asked : holdsEach doc fs = .ok t) : holdsEach doc (es.merge fs) = .ok (r && t) := by
  have all : Decided doc (es.merge fs) := fun e he =>
    decided e (List.mem_append.mpr (h.mem_merge.mp he))
  obtain ⟨b, merged⟩ := all.holdsEach
  have same : b = true ↔ r = true ∧ t = true := by
    have ok (x : Except Fault Bool) (c : Bool) (hx : x = .ok c) : c = true ↔ x = .ok true := by
      rw [hx, Except.ok.injEq]
    rw [ok _ _ merged, ok _ _ rest, ok _ _ asked, holdsEach_eq_true, holdsEach_eq_true,
      holdsEach_eq_true]
    constructor
    · intro each
      exact ⟨fun e he => each e (h.mem_merge.mpr (.inl he)),
        fun e he => each e (h.mem_merge.mpr (.inr he))⟩
    · rintro ⟨old, new⟩ e he
      exact (h.mem_merge.mp he).elim (old e) (new e)
  rw [merged, Except.ok.injEq, Bool.eq_iff_iff, same, Bool.and_eq_true]

/-- What is put under a text is asked for beside what stands under the other keys. -/
theorem holdsEach_put {doc v : Value} {es : Entries} {s : String} {r t : Bool}
    (rest : holdsEach doc (es.without (.str s)) = .ok r) (asked : meets doc (.str s) v = .ok t) :
    holdsEach doc (es.put (.str s) v) = .ok (r && t) := by
  obtain ⟨-, same, put⟩ | ⟨fs, l, u, gs, rfl, here, -, erased, put⟩ := es.around (.str s)
  · rw [same] at rest
    rw [put, holdsEach_append, rest, holdsEach_cons, asked, holdsEach_nil, both_ok_true, both_ok]
  · obtain rfl := (Value.same_str_right s l).mp here
    rw [erased, holdsEach_append] at rest
    rw [put, holdsEach_append, holdsEach_cons]
    refine both_narrowed (y := .ok true) (fun b h => ?_) rest
    cases h
    exact asked

theorem holdsAll_eq_all {doc : Value} {xs : List Value} {bs : List Bool}
    (each : List.Forall₂ (fun x b => holds doc x = .ok b) xs bs) :
    holdsAll doc xs = .ok (bs.all id) := by
  induction each with
  | nil => rw [holdsAll]; rfl
  | @cons x b xs bs here _ ih =>
    rw [holdsAll, here, ih]
    cases b <;> rfl

theorem holdsAny_eq_any {doc : Value} {xs : List Value} {bs : List Bool}
    (each : List.Forall₂ (fun x b => holds doc x = .ok b) xs bs) :
    holdsAny doc xs = .ok (bs.any id) := by
  induction each with
  | nil => rw [holdsAny]; rfl
  | @cons x b xs bs here _ ih =>
    rw [holdsAny, here, ih]
    cases b <;> rfl

end Criteria

namespace Store

/-- Each condition of criteria is decided for a document, as both are seen in a store. -/
def Decides (s : Store) (doc : Value) (es : Entries) : Prop :=
  Criteria.Decided (s.comparable doc) (Entries.mapBoth s.comparable es)

variable {s : Store} {doc : Value} {es fs : Entries} {r t : Bool}

theorem holds_merge (old : s.Shows es) (new : s.Shows fs) (h : es.Merges fs)
    (decided : s.Decides doc (es.lacking fs ++ fs))
    (rest : s.holds doc (.dict (es.lacking fs)) = .ok r)
    (asked : s.holds doc (.dict fs) = .ok t) : s.holds doc (.dict (es.merge fs)) = .ok (r && t) := by
  have split : Entries.mapBoth s.comparable (es.lacking fs ++ fs) =
      (Entries.mapBoth s.comparable es).lacking (Entries.mapBoth s.comparable fs) ++
        Entries.mapBoth s.comparable fs := by
    rw [← Entries.mapBoth_lacking old new, Entries.mapBoth, List.map_append]
    rfl
  rw [Decides, split] at decided
  rw [holds_dict, Entries.mapBoth_lacking old new] at rest
  rw [holds_dict] at asked
  rw [holds_dict, Entries.mapBoth_merge old new]
  exact Criteria.holdsEach_merge (h.of_keys old.keys new.keys) decided rest asked

theorem comparable_list (s : Store) (xs : List Value) :
    s.comparable (.list xs) = .list (xs.map s.comparable) := by
  have items : ∀ v, s.comparable v = Value.rebuild _ id true v := fun _ => rfl
  rw [items, Value.rebuild]
  simp only [Value.rebuildItems_eq_map]
  rfl

end Store

end DocMapper
