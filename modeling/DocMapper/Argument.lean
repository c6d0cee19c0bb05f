import DocMapper.Fault

/-!
Checks that several calls make of their arguments.
-/

namespace DocMapper.Argument

/-- A mapping's entries. -/
def mapping (what : String) (v : Value) : Except Fault Entries :=
  match v.entries? with
  | some es => .ok es
  | none => .error (.notMapping what v)

/-- A number of documents; truth values are no numbers here. -/
def count (what : String) (v : Value) : Except Fault Nat :=
  match v with
  | .int (.ofNat n) => .ok n
  | v => .error (.notCount what v)

theorem mapping_eq_ok {what : String} {v : Value} {es : Entries} :
    mapping what v = .ok es ↔ v.entries? = some es := by
  unfold mapping
  split <;> simp_all

theorem count_eq_ok {what : String} {v : Value} {n : Nat} :
    count what v = .ok n ↔ v = .int n := by
  unfold count
  split
  · rename_i m
    constructor
    · rintro ⟨⟩
      rfl
    · intro h
      cases h
      rfl
  · rename_i h
    constructor
    · rintro ⟨⟩
    · rintro rfl
      exact absurd rfl (h n)

end DocMapper.Argument
