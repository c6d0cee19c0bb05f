/-!
The exact value of a number written in decimal.  A written fraction stands for the double precision
number nearest to it, and every such number is a whole multiple of the smallest subnormal one, so a
finite value is counted in that unit.  Whole numbers are exact: they share the unit and are never
rounded, and a whole number and a fraction are therefore compared without loss.
-/

namespace DocMapper.Number

/-- A point of the extended line, or no number at all. -/
inductive Point
  | nan
  | negInf
  | finite (units : Int)
  | posInf
  deriving DecidableEq

/-- The smallest subnormal number is two to the minus this. -/
def unitExponent : Nat := 1074

/-- The number of units in one. -/
def unitsPerOne : Nat := Nat.pow 2 unitExponent

theorem unitsPerOne_pos : 0 < unitsPerOne := by
  unfold unitsPerOne
  generalize unitExponent = k
  exact Nat.two_pow_pos k

/-- The quotient rounded to the nearest whole number, a half to the even one. -/
def roundHalfEven (num den : Nat) : Nat :=
  let q := num / den
  let r := num % den
  if 2 * r < den then q
  else if den < 2 * r then q + 1
  else if q % 2 = 0 then q else q + 1

/-- The spacing of double precision numbers at a size given in units. -/
def spacing (units : Nat) : Nat :=
  Nat.pow 2 (units.log2 - 52)

namespace Point

def ofInt (n : Int) : Point :=
  .finite (n * unitsPerOne)

/-- The double precision number nearest to `digits * 10 ^ (up - down)`. -/
def ofScientific (negative : Bool) (digits up down : Nat) : Point :=
  let num := digits * Nat.pow 10 up * unitsPerOne
  let den := Nat.pow 10 down
  let step := spacing (num / den)
  let units : Int := roundHalfEven num (den * step) * step
  .finite (if negative then -units else units)

/-- Reads an optional sign, digits with an optional point, and an optional exponent. -/
def ofDigits (cs : List Char) : Option Point :=
  let (negative, cs) := match cs with
    | '-' :: r => (true, r)
    | r => (false, r)
  let whole := cs.takeWhile Char.isDigit
  let cs := cs.drop whole.length
  let (fraction, cs) := match cs with
    | '.' :: r => (r.takeWhile Char.isDigit, r.dropWhile Char.isDigit)
    | r => ([], r)
  let value (ds : List Char) : Nat := ds.foldl (fun n c => n * 10 + (c.toNat - 0x30)) 0
  let digits := value (whole ++ fraction)
  let scaled (up down : Nat) : Point :=
    ofScientific negative digits (up - (down + fraction.length)) (down + fraction.length - up)
  match cs with
  | [] => some (scaled 0 0)
  | 'e' :: '-' :: ds => if ds.all Char.isDigit then some (scaled 0 (value ds)) else none
  | 'e' :: '+' :: ds => if ds.all Char.isDigit then some (scaled (value ds) 0) else none
  | 'e' :: ds => if ds.all Char.isDigit then some (scaled (value ds) 0) else none
  | _ => none

def ofText (s : String) : Point :=
  if s = "inf" then .posInf
  else if s = "-inf" then .negInf
  else (ofDigits s.toList).getD .nan

/-- Not-a-number is ordered with nothing, itself included. -/
def compare : Point → Point → Option Ordering
  | .nan, _ => none
  | _, .nan => none
  | .negInf, .negInf => some .eq
  | .negInf, _ => some .lt
  | _, .negInf => some .gt
  | .posInf, .posInf => some .eq
  | .posInf, _ => some .gt
  | _, .posInf => some .lt
  | .finite a, .finite b => some (Ord.compare a b)

def equal (a b : Point) : Bool :=
  a.compare b == some .eq

@[simp] theorem equal_nan (b : Point) : Point.nan.equal b = false := by cases b <;> rfl

theorem equal_finite (a b : Int) : (finite a).equal (finite b) = decide (a = b) := by
  by_cases h : a = b <;> simp [equal, compare, h]

/-- Whole numbers are never rounded, so they are equal as points only if they are equal. -/
theorem equal_ofInt (m n : Int) : (ofInt m).equal (ofInt n) = decide (m = n) := by
  have h : (0 : Int) < (unitsPerOne : Int) := Int.natCast_pos.2 unitsPerOne_pos
  rw [ofInt, ofInt, equal_finite]
  exact decide_eq_decide.2 (Int.mul_eq_mul_right_iff (Int.ne_of_gt h))

end Point

end DocMapper.Number
