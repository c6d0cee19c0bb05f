import DocMapper.Registry

/-!
What is configured on a class itself.  Each change of a registry is an equation for the connection
and for the collection that stand on every class by themselves, from which the two look-ups are
read: a collection is looked up on the class alone, a connection along its ancestors.
-/

namespace DocMapper.Registry

/-- The connection that is set on a class itself. -/
def ownConnection? (r : Registry) (c : ClassRef) : Option Value :=
  ((r.config? (.cls c)).map Config.connection).filter isSet

/-- The collection that is set on a class itself. -/
def ownCollection? (r : Registry) (c : ClassRef) : Option Value :=
  ((r.config? (.cls c)).map Config.collection).filter Value.truthy

section

variable (es : List (Holder × Config)) (h k : Holder) (config : Config)

theorem lookup_cons_eq :
    ((k, config) :: es).lookup h = if h = k then some config else es.lookup h := by
  rw [List.lookup_cons]
  by_cases same : h = k
  · simp [same]
  · rw [beq_eq_false_iff_ne.mpr same, if_neg same]

theorem lookup_replaced :
    (es.map fun e => if e.1 = k then (k, config) else e).lookup h =
      if h = k then (es.lookup k).map fun _ => config else es.lookup h := by
  induction es with
  | nil => simp
  | cons e es ih =>
    obtain ⟨k', old⟩ := e
    by_cases same : k' = k
    · subst same
      simp only [List.map_cons, if_true, lookup_cons_eq, ih]
      split <;> rfl
    · simp only [List.map_cons, if_neg same, lookup_cons_eq, ih]
      by_cases found : h = k' <;> simp [found, same, Ne.symm same]

theorem lookup_without :
    (es.filter fun e => e.1 ≠ k).lookup h = if h = k then none else es.lookup h := by
  induction es with
  | nil => simp
  | cons e es ih =>
    obtain ⟨k', old⟩ := e
    by_cases same : k' = k
    · simp only [same, List.filter_cons, ne_eq, not_true, decide_false, ↓reduceIte, ih,
        lookup_cons_eq, Bool.false_eq_true]
      split <;> rfl
    · simp only [same, List.filter_cons, ne_eq, not_false_eq_true, decide_true, ↓reduceIte, ih,
        lookup_cons_eq]
      by_cases found : h = k' <;> simp [found, same]

end

variable (r : Registry) (c d : ClassRef)

theorem holderOf_cls : holderOf (.cls c) = .ok (.cls c) := by
  unfold holderOf Value.ofClass
  dsimp only
  cases c.isModel <;> rfl

theorem connection_eq : r.connection c =
    match (r.ancestors c).findSome? r.ownConnection? with
    | some v => .ok v
    | none => .error (.noConnection (.cls c)) := rfl

theorem collection_eq : r.collection (.cls c) =
    match r.ownCollection? c with
    | some v => .ok v
    | none => .error (.noCollection (.cls c)) := by
  rw [collection, holderOf_cls]
  rfl

theorem config?_putConfig (config : Config) (h : Holder) :
    (r.putConfig (.cls c) config).config? h =
      if h = .cls c then some config else r.config? h := by
  unfold putConfig
  split
  · contradiction
  · rename_i known _
    change (r.configs.map _).lookup h = _
    rw [lookup_replaced]
    change r.configs.lookup _ = _ at known
    simp [known, config?]
  · rename_i unknown _
    change (r.configs ++ _).lookup h = _
    change r.configs.lookup _ = _ at unknown
    rw [List.lookup_append]
    by_cases same : h = .cls c
    · simp [same, unknown]
    · have other : (h == .cls c) = false := by simpa using same
      simp [same, List.lookup_cons, other, config?]

theorem config?_clear (h k : Holder) :
    (r.clear k).config? h = if h = k then none else r.config? h :=
  lookup_without r.configs h k

@[simp] theorem declarations_putConfig (h : Holder) (config : Config) :
    (r.putConfig h config).declarations = r.declarations := by
  unfold putConfig
  split <;> rfl

@[simp] theorem declarations_clear (h : Holder) : (r.clear h).declarations = r.declarations := rfl

theorem ownConnection?_of_configs {after : Registry} (same : after.configs = r.configs) :
    after.ownConnection? = r.ownConnection? := by
  funext c
  simp only [ownConnection?, config?, same]

theorem ownCollection?_of_configs {after : Registry} (same : after.configs = r.configs) :
    after.ownCollection? = r.ownCollection? := by
  funext c
  simp only [ownCollection?, config?, same]

theorem ownConnection?_putConfig (config : Config) :
    (r.putConfig (.cls c) config).ownConnection? d =
      if d = c then (some config.connection).filter isSet else r.ownConnection? d := by
  simp only [ownConnection?, config?_putConfig, Holder.cls.injEq]
  split <;> rfl

theorem ownCollection?_putConfig (config : Config) :
    (r.putConfig (.cls c) config).ownCollection? d =
      if d = c then (some config.collection).filter Value.truthy else r.ownCollection? d := by
  simp only [ownCollection?, config?_putConfig, Holder.cls.injEq]
  split <;> rfl

/-- Whoever has no record has an empty one. -/
theorem ownConnection?_configOf :
    (some (r.configOf (.cls c)).connection).filter isSet = r.ownConnection? c := by
  unfold configOf ownConnection?
  cases r.config? (.cls c) <;> rfl

theorem ownCollection?_configOf :
    (some (r.configOf (.cls c)).collection).filter Value.truthy = r.ownCollection? c := by
  unfold configOf ownCollection?
  cases r.config? (.cls c) <;> rfl

theorem ownConnection?_clear :
    (r.clear (.cls c)).ownConnection? d = if d = c then none else r.ownConnection? d := by
  simp only [ownConnection?, config?_clear, Holder.cls.injEq]
  split <;> rfl

theorem ownCollection?_clear :
    (r.clear (.cls c)).ownCollection? d = if d = c then none else r.ownCollection? d := by
  simp only [ownCollection?, config?_clear, Holder.cls.injEq]
  split <;> rfl

theorem record_cls :
    (r.record (.cls c)).2 = r.putConfig (.cls c) (r.configOf (.cls c)) := rfl

theorem ownConnection?_record : (r.record (.cls c)).2.ownConnection? d = r.ownConnection? d := by
  rw [record_cls, ownConnection?_putConfig, ownConnection?_configOf]
  split <;> simp [*]

theorem ownCollection?_record : (r.record (.cls c)).2.ownCollection? d = r.ownCollection? d := by
  rw [record_cls, ownCollection?_putConfig, ownCollection?_configOf]
  split <;> simp [*]

end DocMapper.Registry
