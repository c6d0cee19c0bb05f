import DocMapper.Proofs.Delivery
import DocMapper.Results

/-!
Reading the items of a cursor one by one, through a stream or not.
-/

namespace DocMapper

/-- As many of the documents as are wanted, all of them without a limit. -/
def wanted (limit : Option Nat) (xs : List Value) : List Value :=
  match limit with
  | none => xs
  | some k => xs.take k

def unwanted (limit : Option Nat) (xs : List Value) : List Value :=
  match limit with
  | none => []
  | some k => xs.drop k

@[simp] theorem wanted_append_unwanted (limit : Option Nat) (xs : List Value) :
    wanted limit xs ++ unwanted limit xs = xs := by
  cases limit <;> simp [wanted, unwanted]

@[simp] theorem wanted_nil (limit : Option Nat) : wanted limit [] = [] := by
  cases limit <;> simp [wanted]

@[simp] theorem unwanted_nil (limit : Option Nat) : unwanted limit [] = [] := by
  cases limit <;> simp [unwanted]

theorem wanted_cons {limit : Option Nat} (h : limit ≠ some 0) (x : Value) (xs : List Value) :
    wanted limit (x :: xs) = x :: wanted (limit.map (· - 1)) xs := by
  rcases limit with _ | _ | k
  · rfl
  · exact absurd rfl h
  · rfl

theorem unwanted_cons {limit : Option Nat} (h : limit ≠ some 0) (x : Value) (xs : List Value) :
    unwanted limit (x :: xs) = unwanted (limit.map (· - 1)) xs := by
  rcases limit with _ | _ | k
  · rfl
  · exact absurd rfl h
  · rfl

namespace Act

variable {d : Dispatch} {i s n : Nat} {st mid after : Store} {limit : Option Nat}

theorem outcome_nextItem (h : st.Reads i s) :
    (nextItem d (st.reader i)).outcome st = (next d i).outcome st := by
  have usual := h.functions "next" (by simp)
  rw [Store.reader] at usual ⊢
  exact outcome_callOr_usual usual

theorem outcome_readUpTo_zero (self : Value) (st : Store) :
    (readUpTo d self n (some 0)).outcome st = (.ok [], st) := by
  cases n <;> rfl

theorem outcome_readUpTo_null {self : Value} (hn : (nextItem d self).outcome st = (.ok .null, mid))
    (hl : limit ≠ some 0) : (readUpTo d self (n + 1) limit).outcome st = (.ok [], mid) := by
  rcases limit with _ | _ | k
  · rw [readUpTo, outcome_bind_ok hn, outcome_pure]
    simp
  · exact absurd rfl hl
  · rw [readUpTo, outcome_bind_ok hn, outcome_pure]
    simp

theorem outcome_readUpTo_some {self v : Value} (hn : (nextItem d self).outcome st = (.ok v, mid))
    (hv : v ≠ .null) (hl : limit ≠ some 0) :
    (readUpTo d self (n + 1) limit).outcome st =
      (((readUpTo d self n (limit.map (· - 1))).outcome mid).1.map (v :: ·),
        ((readUpTo d self n (limit.map (· - 1))).outcome mid).2) := by
  rw [readUpTo, outcome_bind_ok hn]
  · cases v
    case null => exact absurd rfl hv
    all_goals simp only [bind_pure_comp, outcome_map]
  · exact hl

end Act

namespace Store

variable {E : Effect} {d : Dispatch} {i s n : Nat} {st after : Store} {limit : Option Nat}

theorem Follows.reader (f : st.Follows after i s) : after.reader i = st.reader i := by
  rw [Store.reader, f.kind, Store.reader]

theorem Yields.delivers_upTo (adds : E.Adds) (h : st.Yields E d i s)
    (enough : (wanted limit (st.sourceAt s).pending).length < n) :
    ∃ vs after, (Act.readUpTo d (st.reader i) n limit).outcome st = (.ok vs, after) ∧
      Delivers E d i s st after vs ∧
      (after.sourceAt s).pending = unwanted limit (st.sourceAt s).pending ∧
      ((limit.all fun k => vs.length < k) = true → (after.cursorAt i).state = .exhausted) := by
  -- on the number of items that may be read; one item less is left and wanted after each
  induction n generalizing st limit with
  | zero => exact absurd enough (Nat.not_lt_zero _)
  | succ n ih =>
    by_cases hl : limit = some 0
    · subst hl
      exact ⟨[], st, Act.outcome_readUpTo_zero .., .refl adds h, by simp [unwanted], by simp⟩
    have first := Act.outcome_nextItem (d := d) h.reads
    rcases hn : (Act.next d i).outcome st with ⟨result, mid⟩
    have one := h.delivers_next adds
    rw [hn] at one first
    cases one with
    | inl ended =>
      obtain ⟨none, answer, delivers, closed⟩ := ended
      obtain rfl : result = .ok .null := answer
      refine ⟨[], mid, Act.outcome_readUpTo_null first hl, delivers, ?_, fun _ => closed⟩
      obtain ⟨ys, split, -⟩ := delivers.share
      rw [none] at split
      rw [none, unwanted_nil]
      exact (List.append_eq_nil_iff.mp split.symm).2
    | inr given =>
      obtain ⟨x, xs, v, some, answer, hv, delivers, rest⟩ := given
      obtain rfl : result = .ok v := answer
      obtain rfl : (mid.sourceAt s).pending = xs := rest
      rw [some, wanted_cons hl] at enough
      obtain ⟨vs, last, hvs, more, left, closes⟩ :=
        ih delivers.yields (Nat.lt_of_succ_lt_succ enough)
      rw [delivers.follows.reader] at hvs
      refine ⟨v :: vs, last, ?_, delivers.trans adds more, ?_, fun short => closes ?_⟩
      · rw [Act.outcome_readUpTo_some first hv hl, hvs]
        rfl
      · rw [some, unwanted_cons hl, left]
      · rcases limit with _ | _ | k
        · rfl
        · exact absurd rfl hl
        · simpa using short

theorem le_foldl_pending (xs : List Source) (k : Nat) :
    k ≤ xs.foldl (fun n x => n + x.pending.length) k := by
  induction xs generalizing k with
  | nil => exact Nat.le_refl k
  | cons x xs ih => exact Nat.le_trans (Nat.le_add_right ..) (ih _)

theorem length_le_foldl_pending {xs : List Source} {x : Source} (h : x ∈ xs) (k : Nat) :
    x.pending.length ≤ xs.foldl (fun n x => n + x.pending.length) k := by
  induction xs generalizing k with
  | nil => exact absurd h List.not_mem_nil
  | cons y xs ih =>
    rcases List.mem_cons.mp h with rfl | h
    · exact Nat.le_trans (Nat.le_add_left ..) (le_foldl_pending xs _)
    · exact ih h _

theorem length_pending_lt (h : s < st.sources.size) :
    (st.sourceAt s).pending.length < Act.pendingInAll st + 1 := by
  have present : st.sourceAt s ∈ st.sources.toList := by
    simp [sourceAt, Array.getD_eq_getD_getElem?, h]
  rw [Act.pendingInAll, ← Array.foldl_toList]
  exact Nat.lt_succ_of_le (length_le_foldl_pending present _)

/-- A stream that is not done gives what it is asked for, as far as there is that much. -/
theorem Yields.delivers_some (adds : E.Adds) (h : st.Yields E d i s) (limit : Option Nat) :
    ∃ vs after, (Act.readSome d (st.reader i) limit).outcome st = (.ok vs, after) ∧
      Delivers E d i s st after vs ∧
      (after.sourceAt s).pending = unwanted limit (st.sourceAt s).pending ∧
      ((limit.all fun k => vs.length < k) = true → (after.cursorAt i).state = .exhausted) := by
  have enough : (wanted limit (st.sourceAt s).pending).length <
      limit.getD (Act.pendingInAll st) + 1 := by
    cases limit with
    | none => exact length_pending_lt h.reads.source_lt
    | some k => exact Nat.lt_succ_of_le (List.length_take_le k _)
  obtain ⟨vs, after, hvs, delivers, left, closes⟩ := h.delivers_upTo adds enough
  refine ⟨vs, after, ?_, delivers, left, closes⟩
  rw [Act.readSome, Act.outcome_bind_ok (Act.outcome_get st), hvs]

end Store

namespace Act

variable {d : Dispatch} {i s g : Nat} {st after : Store} {limit : Option Nat}

theorem outcome_stream (g : Nat) (st : Store) :
    (stream g).outcome st = (.ok (st.streams.getD g default), st) := by
  rw [stream, bind_pure_comp, outcome_map]
  rfl

theorem outcome_readStream_done (h : (st.streams.getD g default).done = true) :
    (readStream d g limit).outcome st = (.ok [], st) := by
  rw [readStream, outcome_bind_ok (outcome_stream g st)]
  simp only [h, if_true, outcome_pure]

/-- A stream gives what its cursor gives, and is done once that was less than it was asked for. -/
theorem outcome_readStream {vs : List Value} (h : (st.streams.getD g default).done = false)
    (read : (readSome d (st.streams.getD g default).cursor limit).outcome st = (.ok vs, after)) :
    ∃ last, (readStream d g limit).outcome st = (.ok vs, last) ∧ last.beyond = after.beyond ∧
      last.desk = after.desk := by
  rw [readStream, outcome_bind_ok (outcome_stream g st)]
  simp only [h, Bool.false_eq_true, if_false]
  rw [outcome_bind]
  simp only [outcome_tryCatch, read]
  split
  · exact ⟨_, rfl, rfl, rfl⟩
  · exact ⟨_, rfl, rfl, rfl⟩

end Act

end DocMapper
