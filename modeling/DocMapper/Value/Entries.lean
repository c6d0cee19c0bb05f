import DocMapper.Value.Equality

/-!
Keys and values in insertion order.  A key that is equal to one already present takes its place and
its spelling, and brings a new value; `keys_put` says so.
-/

namespace DocMapper

@[simp] theorem Value.equal_str (s t : String) : (Value.str s).equal (.str t) = (s == t) := by
  simp [Value.equal]

@[simp] theorem Value.same_str (s t : String) : (Value.str s).same (.str t) = (s == t) := by
  simp [Value.same, Value.sameNan]

namespace Entries

def get? (es : Entries) (k : Value) : Option Value :=
  (List.find? (fun e => e.1.same k) es).map Prod.snd

def has (es : Entries) (k : Value) : Bool :=
  es.any fun e => e.1.same k

def put : Entries → Value → Value → Entries
  | [], k, v => [(k, v)]
  | (l, w) :: es, k, v => if l.same k then (l, v) :: es else (l, w) :: put es k v

/-- The second entries put after the first, one by one. -/
def merge (es fs : Entries) : Entries :=
  fs.foldl (fun es f => put es f.1 f.2) es

def ofPairs (ps : Entries) : Entries :=
  merge [] ps

/-- The value under a text. -/
def field? (es : Entries) (name : String) : Option Value :=
  get? es (.str name)

def keys (es : Entries) : List Value :=
  es.map Prod.fst

theorem keys_put (es : Entries) (k v : Value) :
    keys (put es k v) = if has es k then keys es else keys es ++ [k] := by
  induction es with
  | nil => simp [put, keys, has]
  | cons e es ih =>
    obtain ⟨l, w⟩ := e
    by_cases h : l.same k
    · simp [put, keys, has, h]
    · have step : keys (put ((l, w) :: es) k v) = l :: keys (put es k v) := by
        simp [put, keys, h]
      have here : has ((l, w) :: es) k = has es k := by simp [has, h]
      rw [step, here, ih]
      split <;> simp [keys]

theorem get?_put_str (es : Entries) (s t : String) (v : Value)
    (h : ∀ e ∈ es, ∃ n, e.1 = .str n) :
    get? (put es (.str s) v) (.str t) = if s = t then some v else get? es (.str t) := by
  induction es with
  | nil =>
    by_cases hs : s = t <;> simp [put, get?, hs]
  | cons e es ih =>
    obtain ⟨l, w⟩ := e
    obtain ⟨n, rfl⟩ : ∃ n, l = .str n := h (l, w) List.mem_cons_self
    have ih := ih fun e he => h e (List.mem_cons_of_mem _ he)
    by_cases hn : n = s
    · subst hn
      by_cases ht : n = t <;> simp [put, get?, ht]
    · by_cases ht : n = t
      · subst ht
        have : ¬s = n := fun e => hn e.symm
        simp [put, get?, hn, this]
      · simpa [put, get?, hn, ht] using ih

end Entries

end DocMapper
