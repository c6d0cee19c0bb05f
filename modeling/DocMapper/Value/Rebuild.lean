import DocMapper.Value.Basic

/-!
Rebuilding a value with some of its parts replaced.  A replacement is asked about every part before
the part is looked into; the parts of a function are its own and are left alone, and so are the keys
of entries unless they are asked for.
-/

namespace DocMapper

namespace Value

section

variable (replace : Value → Option Value) (identity : Option Nat → Option Nat) (keys : Bool)

mutual

/-- Replaces what `replace` replaces, and gives the objects left a new identity. -/
def rebuild (v : Value) : Value :=
  match replace v with
  | some u => u
  | none =>
    match v with
    | .list xs => .list (rebuildItems xs)
    | .tuple xs => .tuple (rebuildItems xs)
    | .set xs => .set (rebuildItems xs)
    | .frozenSet xs => .frozenSet (rebuildItems xs)
    | .dict es => .dict (rebuildEntries es)
    | .mapping es => .mapping (rebuildEntries es)
    | .object i (.function cs r) => .object i (.function cs r)
    | .object i s => .object (identity i) (rebuildShape s)
    | v => v
termination_by structural v

def rebuildItems (xs : List Value) : List Value :=
  match xs with
  | [] => []
  | x :: xs => rebuild x :: rebuildItems xs
termination_by structural xs

def rebuildEntries (es : List (Value × Value)) : List (Value × Value) :=
  match es with
  | [] => []
  | (k, v) :: es => (if keys then rebuild k else k, rebuild v) :: rebuildEntries es
termination_by structural es

def rebuildOptions (o : Options) : Options :=
  match o with
  | ⟨a, b, c, d⟩ => ⟨rebuild a, rebuild b, rebuild c, rebuild d⟩
termination_by structural o

def rebuildShape (s : Shape) : Shape :=
  match s with
  | .record k c es => .record k c (rebuildEntries es)
  | .document c v b => .document c (rebuild v) (rebuild b)
  | .options o => .options (rebuildOptions o)
  | .config a b => .config (rebuild a) (rebuild b)
  | .namespaced es => .namespaced (rebuildEntries es)
  | .bound r f => .bound (rebuild r) (rebuild f)
  | .inert c => .inert c
  | .raised c m => .raised c m
  | .function cs r => .function cs r
  | .refusing m => .refusing m
termination_by structural s

end

end

/-- Plain data holds no handle and no object. -/
inductive Plain : Value → Prop
  | null : Plain .null
  | bool (b) : Plain (.bool b)
  | int (n) : Plain (.int n)
  | float (t) : Plain (.float t)
  | nan (i) : Plain (.nan i)
  | str (s) : Plain (.str s)
  | bytes (bs) : Plain (.bytes bs)
  | objectId (hex) : Plain (.objectId hex)
  | dateTime (iso) : Plain (.dateTime iso)
  | cls (c) : Plain (.cls c)
  | list (xs) : (∀ x ∈ xs, Plain x) → Plain (.list xs)
  | tuple (xs) : (∀ x ∈ xs, Plain x) → Plain (.tuple xs)
  | set (xs) : (∀ x ∈ xs, Plain x) → Plain (.set xs)
  | frozenSet (xs) : (∀ x ∈ xs, Plain x) → Plain (.frozenSet xs)
  | dict (es) : (∀ e ∈ es, Plain e.1) → (∀ e ∈ es, Plain e.2) → Plain (.dict es)
  | mapping (es) : (∀ e ∈ es, Plain e.1) → (∀ e ∈ es, Plain e.2) → Plain (.mapping es)

theorem rebuildItems_eq_map (f : Value → Option Value) (g : Option Nat → Option Nat) (k : Bool)
    (xs : List Value) : rebuildItems f g k xs = xs.map (rebuild f g k) := by
  induction xs with
  | nil => rfl
  | cons x xs ih => simp [rebuildItems, ih]

theorem rebuildEntries_eq_map (f : Value → Option Value) (g : Option Nat → Option Nat)
    (k : Bool) (es : List (Value × Value)) :
    rebuildEntries f g k es =
      es.map fun e => (if k then rebuild f g k e.1 else e.1, rebuild f g k e.2) := by
  induction es with
  | nil => rfl
  | cons e es ih => simp [rebuildEntries, ih]

/-- Plain data that nothing replaces a part of is left as it is. -/
theorem rebuild_plain (f : Value → Option Value) (g : Option Nat → Option Nat) (k : Bool)
    (hf : ∀ v, Plain v → f v = none) {v : Value} (h : Plain v) : rebuild f g k v = v := by
  have items {xs : List Value} (ih : ∀ x ∈ xs, rebuild f g k x = x) :
      rebuildItems f g k xs = xs := by
    rw [rebuildItems_eq_map]
    exact (List.map_congr_left ih).trans (List.map_id _)
  have entries {es : List (Value × Value)} (ihk : ∀ e ∈ es, rebuild f g k e.1 = e.1)
      (ihv : ∀ e ∈ es, rebuild f g k e.2 = e.2) : rebuildEntries f g k es = es := by
    rw [rebuildEntries_eq_map]
    refine (List.map_congr_left fun e he => ?_).trans (List.map_id _)
    simp [ihk e he, ihv e he]
  induction h with
  | list xs h ih => simp [rebuild, hf _ (.list xs h), items ih]
  | tuple xs h ih => simp [rebuild, hf _ (.tuple xs h), items ih]
  | set xs h ih => simp [rebuild, hf _ (.set xs h), items ih]
  | frozenSet xs h ih => simp [rebuild, hf _ (.frozenSet xs h), items ih]
  | dict es hk hv ihk ihv => simp [rebuild, hf _ (.dict es hk hv), entries ihk ihv]
  | mapping es hk hv ihk ihv => simp [rebuild, hf _ (.mapping es hk hv), entries ihk ihv]
  | null => simp [rebuild, hf _ .null]
  | bool b => simp [rebuild, hf _ (.bool b)]
  | int n => simp [rebuild, hf _ (.int n)]
  | float t => simp [rebuild, hf _ (.float t)]
  | nan i => simp [rebuild, hf _ (.nan i)]
  | str t => simp [rebuild, hf _ (.str t)]
  | bytes bs => simp [rebuild, hf _ (.bytes bs)]
  | objectId hex => simp [rebuild, hf _ (.objectId hex)]
  | dateTime iso => simp [rebuild, hf _ (.dateTime iso)]
  | cls c => simp [rebuild, hf _ (.cls c)]

end Value

end DocMapper
