import DocMapper.ConnectionString.Host

/-!
Connection strings.  A string is split in stages into scheme, authority and path, and the path names
the database.  Blanks and control characters in front are skipped, and tabs and line breaks are left
out wherever they stand.
-/

namespace DocMapper.ConnectionString

/-- The parts of a connection string that matter for the database. -/
structure Parts where
  scheme : List Char
  authority : List Char
  path : List Char
  deriving DecidableEq

def isLetter (c : Char) : Bool :=
  ('a' ≤ c && c ≤ 'z') || ('A' ≤ c && c ≤ 'Z')

def isSchemeChar (c : Char) : Bool :=
  isLetter c || c.isDigit || c = '+' || c = '-' || c = '.'

def isScheme : List Char → Bool
  | [] => false
  | c :: cs => isLetter c && (c :: cs).all isSchemeChar

def cleaned (cs : List Char) : List Char :=
  (cs.dropWhile fun c => c.toNat ≤ 0x20).filter fun c => c ≠ '\t' && c ≠ '\r' && c ≠ '\n'

/-- The scheme in lower case, and what follows its colon; without a scheme, nothing and all. -/
def splitScheme (cs : List Char) : List Char × List Char :=
  let name := cs.takeWhile (· ≠ ':')
  match cs.dropWhile (· ≠ ':') with
  | ':' :: rest => if isScheme name then (name.map Char.toLower, rest) else ([], cs)
  | _ => ([], cs)

def endsAuthority (c : Char) : Bool :=
  c = '/' || c = '?' || c = '#'

/-- The authority between two slashes and the path, query or fragment. -/
def splitAuthority : List Char → List Char × List Char
  | '/' :: '/' :: cs =>
    (cs.takeWhile fun c => !endsAuthority c, cs.dropWhile fun c => !endsAuthority c)
  | cs => ([], cs)

/-- The characters whose compatibility decomposition holds a delimiter. -/
def foldsToDelimiter : List Nat :=
  [0x2047, 0x2048, 0x2049, 0x2100, 0x2101, 0x2105, 0x2106, 0x2A74, 0xFE13, 0xFE16, 0xFE55, 0xFE56,
   0xFE5F, 0xFE6B, 0xFF03, 0xFF0F, 0xFF1A, 0xFF1F, 0xFF20]

def checkBrackets (authority : List Char) : Except Fault Unit :=
  match authority.contains '[', authority.contains ']' with
  | true, true => checkBracketed authority
  | false, false => .ok ()
  | _, _ => .error .brackets

def checkAuthority (authority : List Char) : Except Fault Unit := do
  checkBrackets authority
  if authority.any fun c => foldsToDelimiter.contains c.toNat then
    throw (.foldedAuthority (String.ofList authority))

def withoutQuery (cs : List Char) : List Char :=
  (cs.takeWhile (· ≠ '#')).takeWhile (· ≠ '?')

/-- The schemes whose paths may end in parameters; a string without a scheme may as well. -/
def parameterSchemes : List String :=
  ["", "ftp", "hdl", "prospero", "http", "imap", "https", "shttp", "rtsp", "rtspu", "sip", "sips",
   "mms", "sftp", "tel"]

/-- The last segment of a path cut at its first semicolon. -/
def withoutParameters (path : List Char) : List Char :=
  let last := (path.reverse.takeWhile (· ≠ '/')).reverse
  let front := (path.reverse.dropWhile (· ≠ '/')).reverse
  front ++ last.takeWhile (· ≠ ';')

def split (cs : List Char) : Except Fault Parts := do
  let (scheme, rest) := splitScheme (cleaned cs)
  let (authority, rest) := splitAuthority rest
  checkAuthority authority
  let path := withoutQuery rest
  let path := if String.ofList scheme ∈ parameterSchemes then withoutParameters path else path
  return { scheme, authority, path }

/-- One slash in front of a path is no part of the name. -/
def withoutSlash : List Char → List Char
  | '/' :: cs => cs
  | cs => cs

/-- The database that a connection string names. -/
def databaseName (url : String) : Except Fault String := do
  match withoutSlash (← split url.toList).path with
  | [] => throw (.noDatabase url)
  | name => return String.ofList name

/-- The position and the value of the first byte that is no ASCII character. -/
def firstForeign? (bs : List UInt8) : Option (Nat × Nat) :=
  (bs.findIdx? fun b => 128 ≤ b).map fun i => ((bs.getD i 0).toNat, i)

/-- The database that a value names.  Bytes can be split like a text but name nothing, and whatever
counts as false is split like the empty one. -/
def databaseNameOf (v : Value) : Except Fault String :=
  match v with
  | .str url => databaseName url
  | .bytes bs =>
    match firstForeign? bs with
    | some (byte, position) => .error (.notAscii byte position)
    | none => do
      let _ ← split (bs.map fun b => Char.ofNat b.toNat)
      throw .notText
  | v => .error (if v.truthy then v.lacks "decode" else .notText)

/-- A string without a path names nothing. -/
theorem databaseName_ne_empty {url name : String} (h : databaseName url = .ok name) :
    name ≠ "" := by
  unfold databaseName at h
  cases hs : split url.toList with
  | error e => simp [hs, bind, Except.bind] at h
  | ok p =>
    simp only [hs, bind, Except.bind] at h
    split at h
    · cases h
    · rename_i cs hne
      cases h
      intro he
      exact hne (by simpa using congrArg String.toList he)

end DocMapper.ConnectionString
