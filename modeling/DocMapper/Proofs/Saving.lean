import DocMapper.Proofs.Converting

/-!
Saving an instance twice.  The first time its document is inserted, under the stored form of its id;
the second time the document is asked for by the id itself.
-/

namespace DocMapper

namespace Store

/-- An instance that was inserted: its document stands at the end of those of its class. -/
structure Inserted (st : Store) (c : ClassRef) (k : Nat) (name : String) (i j : Nat)
    (ds : List Value) (stored : Entries) (key : Value) : Prop where
  ready : st.Ready c k name i
  keeps : st.Keeps k name j (ds ++ [.dict stored])
  bare : st.Bare (.collection j)
  old : (st.documentAt i).isNew = .bool false
  texts : stored.Texts
  here : stored.field? "_id" = some key

variable {st after : Store} {c : ClassRef} {k i j : Nat} {name : String} {ds : List Value}
variable {stored : Entries} {key : Value}

theorem Grows.inserted (g : st.Grows after) (h : st.Inserted c k name i j ds stored key)
    (model : (after.documentAt i).model = (st.documentAt i).model)
    (isNew : (after.documentAt i).isNew = (st.documentAt i).isNew) :
    after.Inserted c k name i j ds stored key where
  ready := g.ready h.ready (connection_known h.keeps.selected.choose_spec)
    (model.trans h.ready.model)
  keeps := g.keeps h.keeps
  bare := g.bare (.collection j) (.inl h.keeps.present) h.bare
  old := isNew.trans h.old
  texts := h.texts
  here := h.here

theorem noted_grows (st : Store) (log : String) (level : Level) (message : Store → String) :
    st.Grows (st.noted log level message) := by
  unfold noted
  split
  · exact { Grows.refl st with bare := fun _ _ bare => bare.of_setting rfl }
  · exact .refl st

theorem documentAt_noted (st : Store) (log : String) (level : Level) (message : Store → String)
    (i : Nat) : (st.noted log level message).documentAt i = st.documentAt i := by
  unfold noted
  split <;> rfl

theorem Inserted.noted (h : st.Inserted c k name i j ds stored key) (log : String) (level : Level)
    (message : Store → String) :
    (st.noted log level message).Inserted c k name i j ds stored key := by
  apply (st.noted_grows log level message).inserted h <;> rw [documentAt_noted]

end Store

namespace Act

variable {d : Dispatch} {st mid after : Store} {c : ClassRef} {k i j : Nat} {name : String}
variable {ds : List Value} {es now : Entries} {key id : Value}

theorem outcome_isIn (x container : Value) (st : Store) :
    (isIn x container).outcome st = (x.isIn (st.walked container), st) := by
  rw [isIn, outcome_bind_ok (outcome_get st), outcome_ofExcept]

theorem outcome_instanceCollection (bare : st.Bare (.document c i))
    (placed : st.registry.member? c "collection" = some (.root, .property))
    (configured : st.Configured c k name) :
    (instanceCollection d (.handle (.document c i))).outcome st =
      (handleOf d k (.str name)).outcome st := by
  have classOf : st.classOf (.handle (.document c i)) = c := bare.classOf
  have usual : st.usual (.handle (.document c i)) .root "collection" := by
    simp [Store.usual, bare.extraOf?, member?_document bare, placed]
  rw [instanceCollection, outcome_bind_ok (outcome_get st), if_pos usual,
    outcome_bind_ok (outcome_get st), classOf]
  exact outcome_collectionFor configured

theorem isIn_text {v : Value} (entries : v.entries? = some es) (name : String) :
    Value.isIn (.str name) v = .ok (es.field? name).isSome := by
  have any : (es.map Prod.fst).any (Value.str name).same = (es.field? name).isSome := by
    rw [← Entries.has_eq_isSome, Entries.has, List.any_map]
    congr 1
    funext e
    rw [Bool.eq_iff_iff, Function.comp_apply, Value.same_str_left, Value.same_str_right]
  cases v <;> cases entries <;> exact congrArg Except.ok any

theorem outcome_withKey {fields keyed : Value}
    (done : (withKey fields key).outcome st = (.ok keyed, after)) :
    after = st ∧ ∀ fs, fields.entries? = some fs → fs.field? "_id" = none →
      ∀ id, fieldOf keyed "_id" = .ok id → id = key := by
  have asked := outcome_isIn (.str "_id") fields st
  unfold withKey at done
  obtain ⟨held, mid, answer, done⟩ := outcome_bind_eq_ok done
  rw [asked, Prod.mk.injEq] at answer
  obtain ⟨answer, rfl⟩ := answer
  -- fields that were given the key hold it under `_id`, those that were not hold nothing there
  have new (fs : Entries) (none : fs.field? "_id" = none) (id : Value)
      (there : fieldOf (.dict (fs ++ [(.str "_id", key)])) "_id" = .ok id) : id = key := by
    have last : Entries.field? (fs ++ [(.str "_id", key)]) "_id" = some key := by
      simp [Entries.field?_append, none, Entries.field?_cons]
    simp only [fieldOf, Value.entries?, last] at there
    cases there
    rfl
  have old (fs : Entries) (entries : fields.entries? = some fs) (none : fs.field? "_id" = none)
      (id : Value) (there : fieldOf fields "_id" = .ok id) : id = key := by
    simp only [fieldOf, entries, none] at there
    cases there
  cases held with
  | true =>
    cases done
    exact ⟨rfl, old⟩
  | false =>
    simp only [Bool.false_eq_true, if_false] at done
    split at done
    · cases done
      exact ⟨rfl, old⟩
    · cases done
      refine ⟨rfl, fun fs entries none => ?_⟩
      cases entries
      exact new _ none
    · cases done
      refine ⟨rfl, fun fs entries none => ?_⟩
      cases entries
      exact new _ none
    · cases done

theorem outcome_insertThrough (bare : st.Bare (.collection j)) (pristine : st.registry.Pristine)
    (v : Value) : (insertThrough d (.handle (.collection j)) v).outcome st =
      (insertOne j v).outcome st := by
  have usual := bare.usual pristine rfl
    (show Interface.inherited? "MockCollection" "insert_one" = some (.known "MockCollection", _)
      from rfl)
  rw [insertThrough, outcome_bind_ok (outcome_get st), if_pos usual]

theorem outcome_saveNew (keeps : st.Keeps k name j ds) (bare : st.Bare (.collection j))
    (ready : st.Ready c k name i) (texts : es.Texts)
    (done : (saveNew d i (.handle (.collection j)) (.dict es)).outcome st = (.ok (), after)) :
    ∃ stored key, after.Inserted c k name i j ds stored key ∧
      (∀ v, es.field? "_id" = some v → v.Plain → key = v) ∧
      (es.field? "_id" = none → ∃ n, key = generatedId n) ∧
      ∀ fs, (st.documentAt i).fields.entries? = some fs → fs.field? "_id" = none →
        ∀ id, fieldOf (after.documentAt i).fields "_id" = .ok id → id = key := by
  rw [saveNew] at done
  obtain ⟨key, placed, inserted, done⟩ := outcome_bind_eq_ok done
  rw [outcome_insertThrough bare ready.configured.pristine] at inserted
  obtain ⟨stored, keeps, bare, ready, document, texts, here, given, generated⟩ :=
    outcome_insertOne keeps bare ready texts inserted
  rw [outcome_bind_ok (outcome_document i placed)] at done
  obtain ⟨keyed, mid, picked, done⟩ := outcome_bind_eq_ok done
  obtain ⟨rfl, picks⟩ := outcome_withKey picked
  -- the instance takes the key and is new no more; the documents of its class are not touched
  let made : Document := { mid.documentAt i with fields := keyed, isNew := .bool false }
  let kept : Store := { mid with documents := mid.documents.setIfInBounds i made }
  have put : (setDocument i made).outcome mid = (.ok (), kept) := rfl
  have there : kept.documentAt i = made := by
    simp [kept, Store.documentAt, Array.getD_eq_getD_getElem?, ready.present]
  have saved : kept.Inserted c k name i j ds stored key := by
    refine ⟨ready.of_setting rfl (Nat.le_refl _) ?_ ?_, ?_, bare.of_setting rfl, by rw [there],
      texts, here⟩
    · simpa [kept] using ready.present
    · rw [there]
      exact ready.model
    · exact ⟨keeps.selected, keeps.kept, keeps.present, keeps.calls, keeps.shelved, keeps.stored⟩
  rw [outcome_bind_ok put] at done
  have picks : ∀ fs, (st.documentAt i).fields.entries? = some fs → fs.field? "_id" = none →
      ∀ id, fieldOf (kept.documentAt i).fields "_id" = .ok id → id = key := by
    rw [there, ← document]
    exact picks
  split at done
  · simp only [noteSaved, note, outcome_noteIn] at done
    cases done
    refine ⟨stored, key, saved.noted .., given, generated, ?_⟩
    rw [Store.documentAt_noted]
    exact picks
  · cases done

/-- An update by the id of an instance reaches its document if the id that this is stored under
equals it. -/
theorem outcome_saveStored {stored : Entries} (h : st.Inserted c k name i j ds stored key)
    (entry : fieldOf (st.documentAt i).fields "_id" = .ok id) (texts : now.Texts)
    (once : (Entries.keys now).Nodup) (simple : ∀ fs, st.comparable id ≠ .dict fs)
    (apart : ∀ x ∈ ds, st.Apart id x) :
    ∃ new after, (saveStored d i (.handle (.collection j)) (.dict now)).outcome st =
        (.ok (), after) ∧
      after.Inserted c k name i j ds new key ∧
      if (st.comparable key).equal (st.comparable id) then stored.Revised now new
      else new = stored := by
  let changes : Entries := List.filter (fun e => !e.1.equal (.str "_id")) now
  obtain ⟨mid, updated, aside, size, keeps⟩ :=
    outcome_updateOne h.keeps h.texts h.here simple apart changes
  have usual := h.bare.usual h.ready.configured.pristine rfl
    (show Interface.inherited? "MockCollection" "update_one" = some (.known "MockCollection", _)
      from rfl)
  have through : (updateThrough d (.handle (.collection j)) (.dict [(.str "_id", id)])
      (.dict [(.str "$set", .dict changes)])).outcome st = (.ok (), mid) := by
    rw [updateThrough, outcome_bind, outcome_callOr_usual usual, outcome_bind_ok updated]
    rfl
  have changed : changesOf (.dict now) = .ok changes := rfl
  have document : mid.documentAt i = st.documentAt i := by
    rw [Store.documentAt, Store.documents_of_aside aside, Store.documentAt]
  have asked : updateReadFirst d (.handle (.collection j)) =
      pure (updateThrough d (.handle (.collection j))) := rfl
  have inserted {new : Entries} (keeps : mid.Keeps k name j (ds ++ [.dict new]))
      (texts : new.Texts) (here : new.field? "_id" = some key) :
      mid.Inserted c k name i j ds new key :=
    ⟨h.ready.of_aside aside (Nat.le_of_eq size.symm), keeps,
      h.bare.of_setting (Store.setting_of_aside aside), document ▸ h.old, texts, here⟩
  have revised := Entries.revised_merge h.texts texts once
  rw [saveStored, changed, outcome_bind_ok (outcome_ofExcept ..),
    outcome_bind_ok (outcome_document i st), asked, pure_bind, entry,
    outcome_bind_ok (outcome_ofExcept ..), outcome_bind_ok through]
  simp only [noteSaved, note, outcome_noteIn]
  cases same : (st.comparable key).equal (st.comparable id) with
  | false =>
    rw [same] at keeps
    exact ⟨stored, _, rfl, (inserted keeps h.texts h.here).noted .., rfl⟩
  | true =>
    rw [same] at keeps
    have merged : Entries.Texts (Entries.merge stored changes) :=
      Entries.texts_merge h.texts (Entries.texts_filter texts _)
    have here := (revised "_id").trans h.here
    exact ⟨_, _, rfl, (inserted keeps merged here).noted .., revised⟩

theorem outcome_save {held : Store} {v : Value} (ready : st.Ready c k name i)
    (known : k < st.connections.size)
    (converted : (do
      validate d (.handle (.document c i))
      documentJson d (.handle (.document c i))).outcome st = (.ok v, held))
    (grows : st.Grows held) (same : held.documentAt i = st.documentAt i) :
    held.Ready c k name i ∧ (save d i).outcome st = (do
      let h ← handleOf d k (.str name)
      if (← document i).isNew.truthy then saveNew d i h v else saveStored d i h v).outcome held := by
  have still : held.Ready c k name i := grows.ready ready known (same ▸ ready.model)
  rw [save, outcome_bind_ok (outcome_document i st), ready.model]
  rw [← bind_assoc, outcome_bind_ok converted, outcome_bind,
    outcome_instanceCollection still.bare still.placed still.configured,
    ← outcome_bind]
  exact ⟨still, rfl⟩

end Act

section

open Act

variable {d : Dispatch} {st held mid later seen : Store} {c : ClassRef} {k i : Nat}
variable {name : String} {ds : List Value} {es now : Entries} {fields id : Value}

/-- An instance that was inserted is changed and saved again.  Its document then holds what the
instance holds if the id that it is stored under equals that of the instance; if not, the change is
lost.  The other documents stay as they are. -/
theorem save_reaches_inserted (ready : st.Ready c k name i) (connected : st.Connected k name ds)
    (isNew : (st.documentAt i).isNew.truthy) (first : st.Converts d c i es held)
    (plain : ∀ v, es.field? "_id" = some v → v.Plain)
    (inserted : (save d i).outcome st = (.ok (), mid))
    (entry : fieldOf (mid.documentAt i).fields "_id" = .ok id) (grows : mid.Grows later)
    (edited : later.documentAt i = { mid.documentAt i with fields })
    (kept : fieldOf fields "_id" = .ok id) (second : later.Converts d c i now seen)
    (simple : ∀ fs, seen.comparable id ≠ .dict fs) (apart : ∀ x ∈ ds, seen.Apart id x) :
    ∃ j stored key new after, (save d i).outcome later = (.ok (), after) ∧
      mid.Inserted c k name i j ds stored key ∧ after.Inserted c k name i j ds new key ∧
      (∀ v, es.field? "_id" = some v → key = v) ∧
      (es.field? "_id" = none → ∃ n, key = generatedId n) ∧
      (∀ fs, (st.documentAt i).fields.entries? = some fs → fs.field? "_id" = none → id = key) ∧
      if key.equal (seen.comparable id) then stored.Revised now new else new = stored := by
  obtain ⟨ready, saving⟩ := outcome_save ready connected.known first.outcome first.grows first.same
  obtain ⟨j, handed, handle, hands⟩ :=
    outcome_handleOf (d := d) ready.configured (first.grows.connected connected)
  have ready : handed.Ready c k name i := ready.of_aside hands.aside hands.more
  have document : handed.documentAt i = st.documentAt i := by
    rw [← first.same, Store.documentAt, Store.documents_of_aside hands.aside, Store.documentAt]
  rw [saving, outcome_bind_ok handle, outcome_bind_ok (outcome_document i handed), document,
    if_pos isNew] at inserted
  obtain ⟨stored, key, saved, given, generated, taken⟩ :=
    outcome_saveNew hands.keeps hands.bare ready first.texts inserted
  have changed : later.Inserted c k name i j ds stored key :=
    grows.inserted saved (by rw [edited]) (by rw [edited])
  -- the second save: the same handle is given again, and asked for the id of the instance
  have there : seen.Inserted c k name i j ds stored key :=
    second.grows.inserted changed (by rw [second.same]) (by rw [second.same])
  have asked : fieldOf (seen.documentAt i).fields "_id" = .ok id := by
    rw [second.same, edited]
    exact kept
  obtain ⟨new, after, updated, again, revised⟩ := outcome_saveStored (d := d) there asked
    second.texts second.once simple apart
  have updating : (save d i).outcome later = (.ok (), after) := by
    rw [(outcome_save changed.ready (Store.connection_known changed.keeps.selected.choose_spec)
        second.outcome second.grows second.same).2,
      outcome_bind_ok (outcome_handleOf_kept there.keeps),
      outcome_bind_ok (outcome_document i seen), there.old]
    exact updated
  -- what plain data compares as is itself, so the key needs no store to be looked at
  have bare : key.Plain := by
    cases here : es.field? "_id" with
    | some v => exact given v here (plain v here) ▸ plain v here
    | none =>
      obtain ⟨n, rfl⟩ := generated here
      exact .objectId _
  rw [seen.comparable_plain bare] at revised
  exact ⟨j, stored, key, new, after, updating, saved, again,
    fun v here => given v here (plain v here), generated,
    fun fs entries none => taken fs (document ▸ entries) none id entry, revised⟩

/-- A post under a set as its id. -/
def Document.titled (title : String) (isNew : Bool) : Document where
  model := .model 1
  fields := .dict [(.str "_id", .set [.int 1]), (.str "title", .str title)]
  isNew := .bool isNew

def otherPost : Value := .dict [(.str "_id", .int 7), (.str "title", .str "other")]

def Store.drafted : Store := { posts [otherPost] with documents := #[.titled "old" true] }

def Store.inserted : Store := ((save (dispatch [] 0) 0).outcome drafted).2

def Store.retitled : Store := { inserted with documents := #[.titled "new" false] }

def Store.resaved : Store := ((save (dispatch [] 0) 0).outcome retitled).2

theorem Store.bare_drafted (h : Handle) : drafted.Bare h := ⟨fun _ => rfl, rfl⟩

theorem Store.bare_retitled (h : Handle) : retitled.Bare h := ⟨fun _ => rfl, rfl⟩

theorem Store.ready_drafted : drafted.Ready (.model 1) 0 "posts" 0 where
  configured := ⟨fun _ _ => rfl, rfl, rfl, rfl, bare_drafted _, fun _ _ => bare_drafted _⟩
  numbered := by
    intro e he
    rw [List.mem_singleton.mp he]
    decide
  present := by decide
  model := rfl
  bare := bare_drafted _
  placed := rfl

theorem Store.connected_drafted : drafted.Connected 0 "posts" [otherPost] :=
  .inr ⟨0, 0, rfl, ⟨[], rfl⟩, bare_drafted _, rfl, Nat.one_pos, ⟨Nat.one_pos, rfl⟩, [], rfl, rfl⟩

theorem Store.converts_titled {title : String} {isNew : Bool} {owner : ClassRef} {m f : Method}
    (bare : st.Bare (.document (.model 1) 0))
    (validate : st.registry.member? (.model 1) "validate" = some (owner, .method m))
    (json : st.registry.member? (.model 1) "to_json" = some (.root, .method f))
    (document : st.documentAt 0 = .titled title isNew) :
    st.Converts d (.model 1) 0 [(.str "_id", .list [.int 1]), (.str "title", .str title)] st := by
  have fields : (st.documentAt 0).fields =
      .dict [(.str "_id", .set [.int 1]), (.str "title", .str title)] := by
    rw [document]
    rfl
  apply converts_data bare validate json fields
  · apply Value.Data.dict
    simp only [List.forall_mem_cons]
    exact ⟨.set _ (by simpa using .int 1), .str title, by simp⟩
  · simp [Entries.Texts]
  · simp [Entries.keys]

/-- A set is stored as a list, which equals no set: the new title is lost. -/
theorem save_reaches_inserted_set :
    (save (dispatch [] 0) 0).outcome .drafted = (.ok (), .inserted) ∧
      (save (dispatch [] 0) 0).outcome .retitled = (.ok (), .resaved) ∧
      (∃ j stored, Store.Inserted .inserted (.model 1) 0 "posts" 0 j [otherPost] stored
          (.list [.int 1]) ∧
        Store.Inserted .resaved (.model 1) 0 "posts" 0 j [otherPost] stored (.list [.int 1])) ∧
      Store.resaved.shelfAt 0 =
        .list [otherPost, .dict [(.str "_id", .list [.int 1]), (.str "title", .str "old")]] := by
  have first : (save (dispatch [] 0) 0).outcome .drafted = (.ok (), .inserted) := rfl
  have converts : Store.Converts (dispatch [] 0) (.model 1) 0 .drafted
      [(.str "_id", .list [.int 1]), (.str "title", .str "old")] .drafted :=
    Store.converts_titled (Store.bare_drafted _) rfl rfl rfl
  have again : Store.Converts (dispatch [] 0) (.model 1) 0 .retitled
      [(.str "_id", .list [.int 1]), (.str "title", .str "new")] .retitled :=
    Store.converts_titled (Store.bare_retitled _) rfl rfl rfl
  have plain : ∀ v, Entries.field? [(.str "_id", .list [.int 1]), (.str "title", .str "old")] "_id" =
      some v → v.Plain := by
    intro v hv
    cases hv
    exact .list _ (by simpa using Value.Plain.int 1)
  have entry : fieldOf (Store.inserted.documentAt 0).fields "_id" = .ok (.set [.int 1]) := rfl
  have grows : Store.inserted.Grows .retitled :=
    { Store.Grows.refl .inserted with bare := fun _ _ bare => bare.of_setting rfl }
  have apart : ∀ x ∈ [otherPost], Store.retitled.Apart (.set [.int 1]) x := by
    intro x hx
    rw [List.mem_singleton.mp hx]
    exact ⟨_, _, rfl, rfl, rfl⟩
  obtain ⟨j, stored, key, new, after, second, saved, resaved, given, -, -, lost⟩ :=
    save_reaches_inserted Store.ready_drafted Store.connected_drafted rfl converts plain first
      entry grows rfl rfl again (fun _ => Value.noConfusion) apart
  obtain rfl : Store.resaved = after := congrArg Prod.snd second
  obtain rfl := given _ rfl
  obtain rfl : new = stored := lost
  exact ⟨first, second, ⟨j, new, saved, resaved⟩, rfl⟩

end

end DocMapper
