import DocMapper.Proofs.Growing

/-!
What a copy leaves alone.  Copying makes new objects and changes none that is there, nor what was set
on it; plain data in what is copied stays plain data.
-/

namespace DocMapper

/-- The place of an object among those of its kind, for the kinds of objects that are copied. -/
def Handle.slot : Handle → Nat
  | .query _ i | .queryOptions i | .pipeline _ i | .options i | .document _ i | .individual _ i
  | .record _ _ i | .cursor _ i | .source i | .connection i | .space i | .client i | .database i
  | .collection i | .shelf i | .stock i | .config i => i
  | _ => 0

namespace Store

/-- How many objects there are of the kind that a handle is of. -/
def room (st : Store) : Handle → Nat
  | .query .. | .queryOptions _ => st.queries.size
  | .pipeline .. => st.pipelines.size
  | .options _ => st.options.size
  | .document .. => st.documents.size
  | .individual .. => st.individuals
  | .record .. => st.records.size
  | .cursor .. => st.cursors.size
  | .source _ => st.sources.size
  | .connection _ => st.connections.size
  | .space _ => st.spaces.size
  | .client _ => st.clients.size
  | .database _ => st.databases.size
  | .collection _ => st.collections.size
  | .shelf _ => st.shelves.size
  | .stock _ => st.stocks.size
  | .config _ => st.registry.serials
  | _ => 0

/-- An object that came from one store to another. -/
def New (st now : Store) (h : Handle) : Prop :=
  st.room h ≤ h.slot ∧ h.slot < now.room h

/-- Objects may have come, but nothing was done to what there was, nor was anything set on what is
still to come. -/
structure Doubles (st now : Store) : Prop where
  declarations : now.registry.declarations = st.registry.declarations
  own : now.registry.own = st.registry.own
  configs : st.registry.Numbered → now.registry.configs = st.registry.configs
  room : ∀ h, st.room h ≤ now.room h
  queries : st.queries.toList <+: now.queries.toList
  pipelines : st.pipelines.toList <+: now.pipelines.toList
  documents : st.documents.toList <+: now.documents.toList
  connections : st.connections.toList <+: now.connections.toList
  databases : st.databases.toList <+: now.databases.toList
  collections : st.collections.toList <+: now.collections.toList
  shelves : st.shelves.toList <+: now.shelves.toList
  stocks : st.stocks.toList <+: now.stocks.toList
  extras : ∀ h, ¬st.New now h → ∀ name,
    now.extras.lookup (.handle h, name) = st.extras.lookup (.handle h, name)
  refined : ∀ h, ¬st.New now h → now.refined.lookup h = st.refined.lookup h

variable {st mid after : Store} {cs : Counterparts} {h k : Handle}

namespace Doubles

theorem refl (st : Store) : st.Doubles st :=
  ⟨rfl, rfl, fun _ => rfl, fun _ => Nat.le_refl _, List.prefix_refl _, List.prefix_refl _,
    List.prefix_refl _, List.prefix_refl _, List.prefix_refl _, List.prefix_refl _,
    List.prefix_refl _, List.prefix_refl _, fun _ _ _ => rfl, fun _ _ => rfl⟩

theorem numbered (d : st.Doubles after) (numbered : st.registry.Numbered) :
    after.registry.Numbered := by
  intro e he
  exact Nat.lt_of_lt_of_le (numbered e (d.configs numbered ▸ he)) (d.room (.config 0))

theorem new_left (d : mid.Doubles after) (new : st.New mid h) : st.New after h :=
  ⟨new.1, Nat.lt_of_lt_of_le new.2 (d.room h)⟩

theorem new_right (d : st.Doubles mid) (new : mid.New after h) : st.New after h :=
  ⟨Nat.le_trans (d.room h) new.1, new.2⟩

theorem trans (d : st.Doubles mid) (e : mid.Doubles after) : st.Doubles after where
  declarations := e.declarations.trans d.declarations
  own := e.own.trans d.own
  configs numbered := (e.configs (d.numbered numbered)).trans (d.configs numbered)
  room h := Nat.le_trans (d.room h) (e.room h)
  queries := d.queries.trans e.queries
  pipelines := d.pipelines.trans e.pipelines
  documents := d.documents.trans e.documents
  connections := d.connections.trans e.connections
  databases := d.databases.trans e.databases
  collections := d.collections.trans e.collections
  shelves := d.shelves.trans e.shelves
  stocks := d.stocks.trans e.stocks
  extras h old name :=
    (e.extras h (fun new => old (d.new_right new)) name).trans
      (d.extras h (fun new => old (e.new_left new)) name)
  refined h old :=
    (e.refined h fun new => old (d.new_right new)).trans
      (d.refined h fun new => old (e.new_left new))

theorem bare (d : st.Doubles after) (old : ¬st.New after h) (bare : st.Bare h) : after.Bare h :=
  ⟨fun name => (d.extras h old name).trans (bare.extras name), (d.refined h old).trans bare.refined⟩

theorem grows (d : st.Doubles after) (numbered : st.registry.Numbered) : st.Grows after where
  declarations := d.declarations
  own := d.own
  configs := d.configs numbered
  serials := d.room (.config 0)
  connections := d.connections
  databases := d.databases
  collections := d.collections
  shelves := d.shelves
  stocks := d.stocks
  documents := d.documents.length_le
  bare h spared := by
    refine d.bare fun new => ?_
    obtain here | ⟨j, later, rfl⟩ := spared
    · cases h <;> simp only [Has] at here <;> exact Nat.not_lt.mpr new.1 here
    · exact Nat.not_lt.mpr later new.2

end Doubles

/-- A second record is in a slot that was free, and nothing else is new. -/
theorem duplicate_doubles (duplicate : st.duplicate h = some (k, after)) :
    st.Doubles after ∧ after.extras = st.extras ∧ after.refined = st.refined ∧ st.New after k := by
  cases h <;> simp only [Store.duplicate, Option.some.injEq, Prod.mk.injEq, reduceCtorEq] at duplicate
  all_goals
    obtain ⟨rfl, rfl⟩ := duplicate
    refine ⟨⟨rfl, rfl, fun _ => rfl, ?_, ?_, ?_, ?_, ?_, ?_, ?_, ?_, ?_, fun _ _ _ => rfl,
      fun _ _ => rfl⟩, rfl, rfl, ?_⟩
    · intro g
      cases g <;> first | exact Nat.le_refl _ | simp [room, Registry.detach]
    all_goals simp [New, room, Handle.slot, Registry.detach]

theorem refineLike_eq (st : Store) (h k : Handle) :
    ∃ refined, st.refineLike h k = { st with refined } ∧
      ∀ g, g ≠ k → refined.lookup g = st.refined.lookup g := by
  unfold refineLike
  split
  · refine ⟨_, rfl, fun g other => ?_⟩
    have different : (g == k) = false := by simpa using other
    simp [List.lookup_cons, different]
  · exact ⟨st.refined, rfl, fun _ _ => rfl⟩

theorem counterpartOptions_eq {i : Nat} (found : counterpartOptions cs i = some k) :
    ∃ g kind n, (g, .handle (.query kind n)) ∈ cs ∧ k = .queryOptions n := by
  obtain ⟨p, there, hp⟩ := List.exists_of_findSome?_eq_some found
  split at hp
  · split at hp
    · exact ⟨_, _, _, there, (Option.some.inj hp).symm⟩
    · cases hp
  · cases hp

theorem room_mapParts (st : Store) (f : Value → Value) (h g : Handle) :
    (st.mapParts f h).room g = st.room g := by
  cases h <;> cases g <;> first | rfl | simp [mapParts, room]

/-- The counterparts made so far are new. -/
structure Copying (st : Store) (cs : Counterparts) (now : Store) : Prop extends
    Doubles st now where
  kept : now.extras = st.extras
  fresh : ∀ p ∈ cs, ∀ k, p.2 = .handle k → st.New now k

namespace Copying

theorem step {l : Holder} (c : Copying st cs mid) (d : mid.Doubles after)
    (extras : after.extras = mid.extras) (fresh : ∀ k, l = .handle k → st.New after k)
    (g : Holder) : Copying st ((g, l) :: cs) after where
  toDoubles := c.toDoubles.trans d
  kept := extras.trans c.kept
  fresh p hp k same := by
    cases List.mem_cons.mp hp with
    | inl here =>
      rw [here] at same
      exact fresh k same
    | inr old => exact d.new_left (c.fresh p old k same)

theorem accompany (c : Copying st cs mid) (h : Holder) :
    Copying st (Store.accompany (cs, mid) h).1 (Store.accompany (cs, mid) h).2 := by
  unfold Store.accompany
  dsimp only
  split
  · split
    · rename_i found
      obtain ⟨g, kind, n, counterpart, rfl⟩ := counterpartOptions_eq found
      refine c.step (.refl mid) rfl ?_ _
      rintro _ ⟨⟩
      exact c.fresh _ counterpart (.query kind n) rfl
    · rename_i duplicate
      obtain ⟨d, extras, -, new⟩ := duplicate_doubles duplicate
      refine c.step d extras ?_ _
      rintro _ ⟨⟩
      exact c.new_right new
    · exact c
  · split
    · rename_i l σ duplicate
      obtain ⟨d, extras, same, new⟩ := duplicate_doubles duplicate
      obtain ⟨more, refines, others⟩ := refineLike_eq σ _ l
      have refined : ∀ g, ¬mid.New σ g → more.lookup g = mid.refined.lookup g := by
        intro g old
        rw [others g fun is => old (is ▸ new), same]
      have d : mid.Doubles { σ with refined := more } := { d with refined }
      rw [refines]
      refine c.step d extras ?_ _
      rintro _ ⟨⟩
      exact c.new_right new
    · exact c
  · have made : mid.Doubles { mid with identities := mid.identities + 1 } :=
      { Doubles.refl mid with }
    refine c.step made rfl ?_ _
    rintro _ ⟨⟩
  · exact c

theorem foldl_accompany (c : Copying st cs mid) (hs : List Holder) :
    Copying st (hs.foldl Store.accompany (cs, mid)).1 (hs.foldl Store.accompany (cs, mid)).2 := by
  induction hs generalizing cs mid with
  | nil => exact c
  | cons h hs ih => exact ih (c.accompany h)

theorem mapParts (c : Copying st cs mid) {h : Handle} (new : st.New mid h) (f : Value → Value) :
    Copying st cs (mid.mapParts f h) := by
  have beyond := new.1
  have same {g : Handle} : st.New (mid.mapParts f h) g ↔ st.New mid g := by
    rw [New, room_mapParts, New]
  have extras : (mid.mapParts f h).extras = mid.extras := by cases h <;> rfl
  have refined : (mid.mapParts f h).refined = mid.refined := by cases h <;> rfl
  have doubles : st.Doubles (mid.mapParts f h) := by
    refine ⟨?_, ?_, fun numbered => ?_, fun g => ?_, ?_, ?_, ?_, ?_, ?_, ?_, ?_, ?_,
      fun g old name => ?_, fun g old => ?_⟩
    · cases h <;> exact c.declarations
    · cases h <;> exact c.own
    · cases h
      case config serial =>
        -- records that classes have are numbered below the copies of records
        refine Eq.trans ?_ (c.configs numbered)
        refine (List.map_congr_left fun e he => ?_).trans (List.map_id _)
        have before := numbered e (c.configs numbered ▸ he)
        have beyond : st.registry.serials ≤ serial := beyond
        simp [show e.2.serial ≠ serial by omega]
      all_goals exact c.configs numbered
    · rw [room_mapParts]
      exact c.room g
    · cases h
      case query => exact prefix_modify c.queries beyond _
      all_goals exact c.queries
    · cases h
      case pipeline => exact prefix_modify c.pipelines beyond _
      all_goals exact c.pipelines
    · cases h
      case document => exact prefix_modify c.documents beyond _
      all_goals exact c.documents
    · cases h
      case connection => exact prefix_modify c.connections beyond _
      all_goals exact c.connections
    · cases h
      case database => exact prefix_modify c.databases beyond _
      all_goals exact c.databases
    · cases h
      case collection => exact prefix_modify c.collections beyond _
      all_goals exact c.collections
    · cases h
      case shelf => exact prefix_modify c.shelves beyond _
      all_goals exact c.shelves
    · cases h
      case stock => exact prefix_modify c.stocks beyond _
      all_goals exact c.stocks
    · rw [extras, c.extras g fun new => old (same.mpr new)]
    · rw [refined, c.refined g fun new => old (same.mpr new)]
  exact ⟨doubles, extras.trans c.kept, fun p hp k is => same.mpr (c.fresh p hp k is)⟩

theorem foldl_adapt (c : Copying st cs mid) (ds : Counterparts) (sub : ds ⊆ cs) :
    Copying st cs (ds.foldl (adapt cs) mid) := by
  induction ds generalizing mid with
  | nil => exact c
  | cons p ds ih =>
    refine ih ?_ fun q hq => sub (List.mem_cons_of_mem p hq)
    obtain ⟨g, l⟩ := p
    cases l with
    | handle k => exact c.mapParts (c.fresh _ (sub List.mem_cons_self) k rfl) _
    | _ => exact c

theorem spread (c : Copying st cs mid) : st.Doubles (Store.spread cs mid) := by
  refine { c.toDoubles with extras := fun h old name => ?_ }
  -- what is set on counterparts is set on new objects only
  have none : (mid.extras.filterMap fun e =>
      (cs.lookup e.1.1).map fun h => ((h, e.1.2), renamed cs e.2)).lookup (.handle h, name) =
      none := by
    rw [List.lookup_eq_none_iff]
    intro p hp
    obtain ⟨e, -, he⟩ := List.mem_filterMap.mp hp
    obtain ⟨l, found, rfl⟩ := Option.map_eq_some_iff.mp he
    obtain ⟨before, behind, split, -⟩ := List.lookup_eq_some_iff.mp found
    have counterpart : (e.1.1, l) ∈ cs := split ▸ by simp
    have other : ¬(.handle h = l ∧ name = e.1.2) := fun same =>
      old (c.fresh _ counterpart h same.1.symm)
    simpa using other
  rw [Store.spread, List.lookup_append, none, c.kept, Option.none_or]

end Copying

/-- A copy leaves alone what was there, and what is still to come. -/
theorem cloned_doubles (st : Store) (v : Value) : st.Doubles (st.cloned v).2 := by
  unfold cloned
  split
  · exact .refl st
  · have none : Copying st [] st := ⟨.refl st, rfl, fun p hp => absurd hp List.not_mem_nil⟩
    have made := none.foldl_accompany (st.reachable v)
    exact (made.foldl_adapt _ (List.Subset.refl _)).spread

/-- A copy of a dictionary is one, and plain data in it stays as it is. -/
theorem cloned_dict (st : Store) (es : Entries) :
    ∃ f : Value → Value, (∀ u, u.Plain → f u = u) ∧
      (st.cloned (.dict es)).1 = .dict (Entries.mapBoth f es) := by
  unfold cloned
  split
  · exact ⟨id, fun _ _ => rfl, by simp [Entries.mapBoth]⟩
  · let cs := ((st.reachable (.dict es)).foldl accompany ([], st)).1
    refine ⟨renamed cs, fun u plain => ?_, ?_⟩
    · refine Value.rebuild_plain _ _ _ (fun v hv => ?_) plain
      cases hv <;> rfl
    · simp only [renamed, Value.rebuild, Value.rebuildEntries_eq_map, Entries.mapBoth, if_true]
      rfl

end Store

theorem Act.outcome_copy_eq (v : Value) (st : Store) : (Act.copy v).outcome st =
    match st.uncopyable? v with
    | some e => (.error e, st)
    | none => (.ok (st.cloned v).1, (st.cloned v).2) := by
  rw [Act.copy, Act.outcome_bind_ok (Act.outcome_get st)]
  cases st.uncopyable? v <;> rfl

end DocMapper
