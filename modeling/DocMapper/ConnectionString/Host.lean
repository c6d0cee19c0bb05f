import DocMapper.Fault

/-!
Hosts that a connection string writes in brackets: addresses of eight groups of hexadecimal digits,
of which one run of zeros may be left out, or addresses of a later version.  Addresses of four
decimal numbers are recognized in order to be refused.
-/

namespace DocMapper.ConnectionString

def isHexadecimal (c : Char) : Bool :=
  c.isDigit || ('a' ≤ c && c ≤ 'f') || ('A' ≤ c && c ≤ 'F')

/-- The pieces between separators. -/
def pieces (separator : Char) : List Char → List (List Char)
  | [] => [[]]
  | c :: cs =>
    if c = separator then [] :: pieces separator cs
    else
      match pieces separator cs with
      | [] => [[c]]
      | p :: ps => (c :: p) :: ps

theorem pieces_ne_nil (separator : Char) (cs : List Char) : pieces separator cs ≠ [] := by
  induction cs with
  | nil => simp [pieces]
  | cons c cs ih =>
    unfold pieces
    split
    · simp
    · split <;> simp

/-- A number below 256 without needless zeros in front. -/
def isOctet (ds : List Char) : Bool :=
  !ds.isEmpty && ds.all Char.isDigit && ds.length ≤ 3 &&
    (ds.length = 1 || ds.head? ≠ some '0') && decimalValue (String.ofList ds) ≤ 255

/-- Four numbers between points. -/
def isNumberAddress (cs : List Char) : Bool :=
  (pieces '.' cs).length = 4 && (pieces '.' cs).all isOctet

def isGroup (ds : List Char) : Bool :=
  !ds.isEmpty && ds.length ≤ 4 && ds.all isHexadecimal

/-- Groups with a gap at `place`, which stands for at least one group of zeros; an end of the
address may be empty only next to the gap. -/
def areGroupsAround (groups : List (List Char)) (place : Nat) : Bool :=
  let front := groups.take place
  let rest := groups.drop (place + 1)
  let front := if front.head? = some [] then front.tail else front
  let frontOk := groups.head? ≠ some [] || front.isEmpty
  let back := if rest.getLast? = some [] then rest.dropLast else rest
  let backOk := groups.getLast? ≠ some [] || back.isEmpty
  frontOk && backOk && front.length + back.length < 8 && front.all isGroup && back.all isGroup

/-- Groups between colons; numbers at the end count as two groups. -/
def isGroupAddress (cs : List Char) : Bool :=
  let given := pieces ':' cs
  let last := given.getLastD []
  let numbers := last.contains '.'
  let groups := if numbers then given.dropLast ++ [['0'], ['0']] else given
  let gaps := (List.range groups.length).filter fun i =>
    0 < i && i + 1 < groups.length && groups.getD i [] = []
  3 ≤ given.length && (!numbers || isNumberAddress last) && groups.length ≤ 9 &&
    match gaps with
    | [] => groups.length = 8 && groups.all isGroup
    | [place] => areGroupsAround groups place
    | _ => false

/-- A zone may follow a percent sign. -/
def isZonedAddress (cs : List Char) : Bool :=
  match cs.dropWhile (· ≠ '%') with
  | [] => isGroupAddress cs
  | _ :: zone => !zone.isEmpty && !zone.contains '%' && isGroupAddress (cs.takeWhile (· ≠ '%'))

/-- A version in hexadecimal digits, a point, and anything. -/
def isVersioned (cs : List Char) : Bool :=
  let version := cs.takeWhile isHexadecimal
  !version.isEmpty &&
    match cs.drop version.length with
    | '.' :: _ :: _ => true
    | _ => false

def checkBracketedHost (host : List Char) : Except Fault Unit :=
  match host with
  | 'v' :: rest => if isVersioned rest then .ok () else .error .bracketedVersion
  | host =>
    if isNumberAddress host then .error .bracketedNumbers
    else if isZonedAddress host then .ok ()
    else .error (.bracketedHost (String.ofList host))

/-- What stands after the last at sign. -/
def afterUser (authority : List Char) : List Char :=
  (authority.reverse.takeWhile (· ≠ '@')).reverse

/-- The host of an authority that has brackets: only a port may follow it, and nothing precede. -/
def checkBracketed (authority : List Char) : Except Fault Unit :=
  let place := afterUser authority
  match place.dropWhile (· ≠ '[') with
  | _ :: bracketed =>
    let host := bracketed.takeWhile (· ≠ ']')
    match place.head? == some '[', (bracketed.drop host.length).drop 1 with
    | false, _ => .error .brackets
    | true, [] => checkBracketedHost host
    | true, ':' :: _ => checkBracketedHost host
    | true, _ => .error .brackets
  | [] => checkBracketedHost (place.takeWhile (· ≠ ':'))

end DocMapper.ConnectionString
