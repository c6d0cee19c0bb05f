import DocMapper.Text.Printable

/-!
Quoted text.  A text stands between single quotes, or between double quotes if it holds a single
quote and no double one.  Inside, the backslash, the quote in use and the three blanks tab, newline
and carriage return are escaped by a letter; every other unprintable character by its number.
-/

namespace DocMapper.Text

def hexDigit (n : Nat) : Char :=
  if n < 10 then Char.ofNat (0x30 + n) else Char.ofNat (0x57 + n)

/-- The last `width` lower case hexadecimal digits of a number. -/
def hexDigits : (width : Nat) → Nat → List Char
  | 0, _ => []
  | w + 1, n => hexDigits w (n / 16) ++ [hexDigit (n % 16)]

@[simp] theorem length_hexDigits (w n : Nat) : (hexDigits w n).length = w := by
  induction w generalizing n with
  | zero => rfl
  | succ w ih => simp [hexDigits, ih]

/-- The quote that needs the fewest escapes, the single one if both need as many. -/
def quoteFor (cs : List Char) : Char :=
  if cs.contains '\'' && !cs.contains '"' then '"' else '\''

/-- A number in the shortest of the widths two, four and eight that holds it. -/
def escapeNumber (n : Nat) : List Char :=
  if n < 0x100 then '\\' :: 'x' :: hexDigits 2 n
  else if n < 0x10000 then '\\' :: 'u' :: hexDigits 4 n
  else '\\' :: 'U' :: hexDigits 8 n

def escapeChar (quote c : Char) : List Char :=
  if c = quote || c = '\\' then ['\\', c]
  else if c = '\t' then ['\\', 't']
  else if c = '\n' then ['\\', 'n']
  else if c = '\r' then ['\\', 'r']
  else if isPrintable c then [c]
  else escapeNumber c.toNat

def quoteChars (cs : List Char) : List Char :=
  let q := quoteFor cs
  q :: cs.flatMap (escapeChar q) ++ [q]

def quoted (s : String) : String :=
  String.ofList (quoteChars s.toList)

/-- Bytes are quoted as the text of the same code points, all those beyond ASCII escaped. -/
def quotedBytes (bs : List UInt8) : String :=
  let cs := bs.map fun b => Char.ofNat b.toNat
  let q := quoteFor cs
  let escape (c : Char) : List Char :=
    if c.toNat < 0x80 then escapeChar q c else escapeNumber c.toNat
  String.ofList ('b' :: q :: cs.flatMap escape ++ [q])

theorem quoted_empty : quoted "" = "''" := by decide

theorem quoted_apostrophe : quoteChars ['i', '\'', 's'] = ['"', 'i', '\'', 's', '"'] := by decide

theorem quoted_both :
    quoteChars ['\'', '"'] = ['\'', '\\', '\'', '"', '\''] := by decide

end DocMapper.Text
