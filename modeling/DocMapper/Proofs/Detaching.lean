import DocMapper.Proofs.Retaining

/-!
A copy of a query's options.  The copy is a record of its own, with copies in the place of the
objects that the options mention.
-/

namespace DocMapper.Store

variable {st now after : Store}

/-- A search goes on from what it met, and meets nothing twice. -/
theorem visits_go_on (st : Store) (n : Nat) (gs : List Holder) {met : List Holder}
    (once : met.Nodup) :
    met <+: gs.foldl (st.visit n) met ∧ (gs.foldl (st.visit n) met).Nodup := by
  induction n generalizing gs met with
  | zero =>
    induction gs with
    | nil => exact ⟨List.prefix_refl _, once⟩
    | cons g gs ih => exact ih
  | succ n deeper =>
    induction gs generalizing met with
    | nil => exact ⟨List.prefix_refl _, once⟩
    | cons g gs ih =>
      rw [List.foldl_cons, visit]
      split
      · exact ih once
      · rename_i new
        have more : (met ++ [g]).Nodup := by
          refine List.nodup_append.mpr ⟨once, List.pairwise_singleton .., fun x hx y hy same => ?_⟩
          rw [same, List.mem_singleton.mp hy] at hx
          exact new (List.contains_iff_mem.mpr hx)
        obtain ⟨here, still⟩ := deeper ((st.references g).flatMap Value.holders) more
        obtain ⟨later, last⟩ := ih still
        exact ⟨((List.prefix_append ..).trans here).trans later, last⟩

/-- An object leads to itself first. -/
theorem reachable_handle (st : Store) (h : Handle) :
    ∃ rest, st.reachable (.handle h) = .handle h :: rest ∧ .handle h ∉ rest := by
  obtain ⟨⟨rest, met⟩, once⟩ := visits_go_on st st.population
    ((st.references (.handle h)).flatMap Value.holders) (List.pairwise_singleton _ (.handle h))
  have reached : st.reachable (.handle h) = .handle h :: rest := met.symm
  rw [← met] at once
  exact ⟨rest, reached, (List.nodup_cons.mp once).1⟩

/-- The counterparts of a query's options and of what they mention: the first is a new record, and
it is as the options are. -/
structure Detached (h : Holder) (n : Nat) (o : Options) (cs : Counterparts) (now : Store) :
    Prop where
  first : ∃ ds, cs = ds ++ [(h, .handle (.options n))] ∧
    ∀ p ∈ ds, p.1 ≠ h ∧ p.2 ≠ .handle (.options n)
  record : now.options[n]? = some o

variable {h g : Holder} {n : Nat} {o : Options} {cs : Counterparts}

theorem duplicate_options {k l : Handle} (duplicate : now.duplicate k = some (l, after))
    (record : now.options[n]? = some o) : after.options[n]? = some o ∧ l ≠ .options n := by
  have there : n < now.options.size := (Array.getElem?_eq_some_iff.mp record).1
  cases k <;>
    simp only [Store.duplicate, Option.some.injEq, Prod.mk.injEq, reduceCtorEq] at duplicate
  all_goals
    obtain ⟨rfl, rfl⟩ := duplicate
    first
    | exact ⟨record, by simp⟩
    | refine ⟨?_, by simp; omega⟩
      rw [Array.getElem?_push, if_neg (Nat.ne_of_lt there)]
      exact record

namespace Detached

theorem step {l : Holder} (d : Detached h n o cs now) (record : after.options[n]? = some o)
    (other : g ≠ h) (new : l ≠ .handle (.options n)) : Detached h n o ((g, l) :: cs) after := by
  obtain ⟨ds, rfl, apart⟩ := d.first
  exact ⟨⟨(g, l) :: ds, rfl, List.forall_mem_cons.mpr ⟨⟨other, new⟩, apart⟩⟩, record⟩

theorem accompany (d : Detached h n o cs now) (other : g ≠ h) :
    Detached h n o (Store.accompany (cs, now) g).1 (Store.accompany (cs, now) g).2 := by
  unfold Store.accompany
  dsimp only
  split
  · split
    · rename_i found
      obtain ⟨-, -, m, -, rfl⟩ := counterpartOptions_eq found
      exact d.step d.record other (by simp)
    · rename_i duplicate
      obtain ⟨record, new⟩ := duplicate_options duplicate d.record
      exact d.step record other (by simpa using new)
    · exact d
  · split
    · rename_i l σ duplicate
      obtain ⟨record, new⟩ := duplicate_options duplicate d.record
      obtain ⟨more, same, -⟩ := refineLike_eq σ _ l
      rw [same]
      exact d.step record other (by simpa using new)
    · exact d
  · exact d.step d.record other (by simp)
  · exact d

theorem foldl_accompany (d : Detached h n o cs now) {gs : List Holder} (others : h ∉ gs) :
    Detached h n o (gs.foldl Store.accompany (cs, now)).1
      (gs.foldl Store.accompany (cs, now)).2 := by
  induction gs generalizing cs now with
  | nil => exact d
  | cons g gs ih =>
    rw [List.mem_cons, not_or] at others
    exact ih (d.accompany (Ne.symm others.1)) others.2

end Detached

/-- The records of other counterparts are filled in without touching it. -/
theorem adapt_apart (record : now.options[n]? = some o) {l : Holder × Holder}
    (new : l.2 ≠ .handle (.options n)) : (adapt cs now l).options[n]? = some o := by
  obtain ⟨g, l⟩ := l
  cases l with
  | handle k =>
    cases k with
    | options m =>
      have other : m ≠ n := by simpa using new
      simp [adapt, mapParts, Array.getElem?_modify, other, record]
    | _ => exact record
  | _ => exact record

theorem Detached.foldl_adapt (d : Detached h n o cs now) :
    (cs.foldl (adapt cs) now).options[n]? = some (o.mapParts (renamed cs)) := by
  obtain ⟨ds, first, apart⟩ := d.first
  have before : (ds.foldl (adapt cs) now).options[n]? = some o := by
    have record := d.record
    clear first d
    induction ds generalizing now with
    | nil => exact record
    | cons l ds ih =>
      obtain ⟨here, apart⟩ := List.forall_mem_cons.mp apart
      exact ih apart (adapt_apart record here.2)
  have whole (fs : Counterparts) : cs.foldl (adapt fs) now =
      (ds.foldl (adapt fs) now).mapParts (renamed fs) (.options n) := by
    rw [first, List.foldl_append]
    rfl
  rw [whole, mapParts, Array.getElem?_modify, if_pos rfl, before, Option.map_some]

theorem Detached.renamed_first {k : Handle} (d : Detached (.handle k) n o cs now) :
    renamed cs (.handle k) = .handle (.options n) := by
  obtain ⟨ds, rfl, apart⟩ := d.first
  have found : (ds ++ [(Holder.handle k, Holder.handle (.options n))]).lookup (.handle k) =
      some (.handle (.options n)) := by
    rw [List.lookup_append, List.lookup_eq_none_iff.mpr, Option.none_or]
    · simp
    · intro p hp
      simpa using (apart p hp).1.symm
  simp [renamed, Value.rebuild, found]

/-- A copy of a query's options is a new record, made of copies. -/
theorem cloned_options (st : Store) (i : Nat) : ∃ cs,
    (st.cloned (.handle (.queryOptions i))).1 = .handle (.options st.options.size) ∧
      (st.cloned (.handle (.queryOptions i))).2.options[st.options.size]? =
        some ((st.queries.getD i default).options.mapParts (renamed cs)) := by
  obtain ⟨rest, reached, once⟩ := reachable_handle st (.queryOptions i)
  let o := (st.queries.getD i default).options
  let pair : Holder × Holder := (.handle (.queryOptions i), .handle (.options st.options.size))
  have first : Store.accompany ([], st) (.handle (.queryOptions i)) =
    ([pair], { st with options := st.options.push o }) := rfl
  have made : Detached (.handle (.queryOptions i)) st.options.size o [pair]
      { st with options := st.options.push o } :=
    ⟨⟨[], rfl, fun p hp => absurd hp List.not_mem_nil⟩, by simp⟩
  have all := made.foldl_accompany once
  rw [cloned, reached]
  simp only [List.foldl_cons, first]
  exact ⟨_, all.renamed_first, all.foldl_adapt⟩

/-- Options of plain data can be copied, if nothing was set on them. -/
theorem uncopyable?_options {i : Nat} (bare : st.Bare (.queryOptions i))
    (plain : ∀ v ∈ (st.queries.getD i default).options.parts, v.Plain) :
    st.uncopyable? (.handle (.queryOptions i)) = none := by
  have extras : (st.extras.filter fun e => e.1.1 = .handle (.queryOptions i)) = [] := by
    rw [List.filter_eq_nil_iff]
    intro e he same
    have unset := List.lookup_eq_none_iff.mp (bare.extras e.1.2) e he
    simp [← of_decide_eq_true same] at unset
  have holders : (st.references (.handle (.queryOptions i))).flatMap Value.holders = [] := by
    rw [references, extras, List.map_nil, List.append_nil]
    exact List.flatMap_eq_nil_iff.mpr fun v hv => Value.holders_plain (plain v hv)
  have reached : st.reachable (.handle (.queryOptions i)) = [.handle (.queryOptions i)] := by
    change ((st.references _).flatMap Value.holders).foldl (st.visit st.population) _ = _
    rw [holders]
    rfl
  rw [uncopyable?, reached]
  rfl

end DocMapper.Store

namespace DocMapper.Act

/-- A query's options are copied to a new record, unless something in them cannot be copied. -/
theorem outcome_copy_options {st : Store} {i : Nat} (bare : st.Bare (.queryOptions i)) :
    (∃ e, (copy (.handle (.queryOptions i))).outcome st = (.error e, st) ∧
      st.uncopyable? (.handle (.queryOptions i)) = some e ∧
      ¬∀ v ∈ (st.queries.getD i default).options.parts, v.Plain) ∨
    ∃ cs after, (copy (.handle (.queryOptions i))).outcome st =
        (.ok (.handle (.options st.options.size)), after) ∧
      st.uncopyable? (.handle (.queryOptions i)) = none ∧
      after.options[st.options.size]? =
        some ((st.queries.getD i default).options.mapParts (Store.renamed cs)) ∧
      st.Retains after := by
  rw [copy, outcome_bind_ok (outcome_get st)]
  cases refused : st.uncopyable? (.handle (.queryOptions i)) with
  | some e =>
    refine .inl ⟨e, rfl, rfl, fun plain => ?_⟩
    rw [Store.uncopyable?_options bare plain] at refused
    cases refused
  | none =>
    obtain ⟨cs, made, record⟩ := st.cloned_options i
    refine .inr ⟨cs, _, ?_, rfl, record, st.cloned_retains _⟩
    exact congrArg (fun v => (Except.ok v, _)) made

end DocMapper.Act
