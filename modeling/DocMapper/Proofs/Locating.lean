import DocMapper.ConnectionString

/-!
Connection strings as they are written: a scheme, an authority, the name of a database, and a query
and a fragment that may be left out.  Whatever delimiters a name shares with the other parts, it is
read back as it was written.
-/

namespace DocMapper.ConnectionString

theorem toList_toLower (s : String) : s.toList.map Char.toLower = s.toLower.toList :=
  String.toList_map.symm

theorem isLetter_of_toLower {c : Char} (h : isLetter c.toLower) : isLetter c := by
  unfold Char.toLower at h
  split at h
  · rename_i upper
    simp only [isLetter, Bool.or_eq_true, Bool.and_eq_true, decide_eq_true_eq]
    exact .inr upper
  · exact h

theorem isSchemeChar_of_toLower {c : Char} (h : isSchemeChar c.toLower) : isSchemeChar c := by
  unfold Char.toLower at h
  split at h
  · rename_i upper
    have letter : isLetter c := by
      simp only [isLetter, Bool.or_eq_true, Bool.and_eq_true, decide_eq_true_eq]
      exact .inr upper
    simp [isSchemeChar, letter]
  · exact h

/-- Schemes may be written in capitals. -/
theorem isScheme_of_map_toLower {cs : List Char} (h : isScheme (cs.map Char.toLower)) :
    isScheme cs := by
  cases cs with
  | nil => exact h
  | cons c cs =>
    simp only [List.map_cons, isScheme, Bool.and_eq_true, List.all_eq_true] at h ⊢
    obtain ⟨letter, rest⟩ := h
    refine ⟨isLetter_of_toLower letter, fun d hd => isSchemeChar_of_toLower (rest _ ?_)⟩
    rw [← List.map_cons (f := Char.toLower)]
    exact List.mem_map_of_mem hd

/-- The characters that are left out wherever they stand. -/
def isBreak (c : Char) : Bool :=
  c = '\t' || c = '\r' || c = '\n'

/-- A string that starts with a letter is cleaned of its breaks only. -/
theorem cleaned_of_isScheme {name : List Char} (scheme : isScheme name) (cs : List Char) :
    cleaned (name ++ cs) = (name ++ cs).filter (!isBreak ·) := by
  cases name with
  | nil => cases scheme
  | cons c name =>
    have letter : isLetter c := by
      simp only [isScheme, Bool.and_eq_true] at scheme
      exact scheme.1
    have visible : ¬ c.toNat ≤ 0x20 := by
      intro blank
      simp only [isLetter, Bool.or_eq_true, Bool.and_eq_true, decide_eq_true_eq, Char.le_def,
        UInt32.le_iff_toNat_le] at letter
      change c.val.toNat ≤ 0x20 at blank
      rcases letter with ⟨low, -⟩ | ⟨low, -⟩
      · exact absurd (Nat.le_trans low blank) (by decide)
      · exact absurd (Nat.le_trans low blank) (by decide)
    have kept : (fun c => c ≠ '\t' && c ≠ '\r' && c ≠ '\n') = fun c => !isBreak c := by
      funext c
      simp [isBreak, Bool.and_assoc]
    rw [cleaned, List.cons_append, List.dropWhile_cons_of_neg (by simpa using visible), kept]

theorem not_isBreak_of_isSchemeChar {c : Char} (h : isSchemeChar c) : isBreak c = false := by
  rw [Bool.eq_false_iff]
  intro hc
  simp only [isBreak, Bool.or_eq_true, decide_eq_true_eq] at hc
  obtain (rfl | rfl) | rfl := hc <;> revert h <;> decide

theorem ne_colon_of_isSchemeChar {c : Char} (h : isSchemeChar c) : c ≠ ':' := by
  rintro rfl
  revert h
  decide

theorem all_isSchemeChar {name : List Char} (scheme : isScheme name) :
    ∀ c ∈ name, isSchemeChar c := by
  cases name with
  | nil => cases scheme
  | cons c name =>
    simp only [isScheme, Bool.and_eq_true, List.all_eq_true] at scheme
    exact scheme.2

/-- A text is cut at the first character that ends it. -/
theorem cut_append {p : Char → Bool} {front : List Char} {c : Char} (inside : ∀ d ∈ front, p d)
    (ends : p c = false) (cs : List Char) :
    (front ++ c :: cs).takeWhile p = front ∧ (front ++ c :: cs).dropWhile p = c :: cs := by
  rw [List.takeWhile_append_of_pos inside, List.dropWhile_append_of_pos inside]
  simp [ends]

/-- A scheme ends at the first colon. -/
theorem splitScheme_append {name : List Char} (scheme : isScheme name) (cs : List Char) :
    splitScheme (name ++ ':' :: cs) = (name.map Char.toLower, cs) := by
  obtain ⟨front, rest⟩ := cut_append (p := fun c => decide (c ≠ ':')) (c := ':')
    (fun c hc => decide_eq_true (ne_colon_of_isSchemeChar (all_isSchemeChar scheme c hc)))
    (by decide) cs
  simp only [splitScheme, front, rest, scheme, if_true]

/-- An authority ends at the first slash. -/
theorem splitAuthority_append {authority : List Char}
    (inside : ∀ c ∈ authority, endsAuthority c = false) (cs : List Char) :
    splitAuthority ('/' :: '/' :: (authority ++ '/' :: cs)) = (authority, '/' :: cs) := by
  have before : ∀ c ∈ authority, (!endsAuthority c) = true := fun c hc => by simp [inside c hc]
  obtain ⟨front, rest⟩ := cut_append (c := '/') before (by decide) cs
  simp only [splitAuthority, front, rest]

/-- Authorities of ASCII characters without brackets are accepted. -/
theorem checkAuthority_plain {authority : List Char} (ascii : ∀ c ∈ authority, c.toNat < 128)
    (opening : '[' ∉ authority) (closing : ']' ∉ authority) :
    checkAuthority authority = .ok () := by
  have above : ∀ n ∈ foldsToDelimiter, 128 ≤ n := by decide
  have folds : ∀ c ∈ authority, c.toNat ∉ foldsToDelimiter := fun c hc held =>
    absurd (above c.toNat held) (Nat.not_le.2 (ascii c hc))
  simpa [checkAuthority, checkBrackets, opening, closing, bind, Except.bind, pure,
    Except.pure] using folds

/-- What may follow the path: nothing, or a query or a fragment with its delimiter. -/
def IsTail (tail : List Char) : Prop :=
  ∀ c ∈ tail.head?, c = '?' ∨ c = '#'

theorem IsTail.filter {tail : List Char} (ends : IsTail tail) :
    IsTail (tail.filter (!isBreak ·)) := by
  cases tail with
  | nil => exact ends
  | cons c tail =>
    have kept : isBreak c = false := by rcases ends c rfl with rfl | rfl <;> rfl
    rw [List.filter_cons_of_pos (by simp [kept])]
    exact ends

/-- A path ends where a query or a fragment begins. -/
theorem withoutQuery_append {path tail : List Char} (inside : ∀ c ∈ path, c ≠ '?' ∧ c ≠ '#')
    (ends : IsTail tail) : withoutQuery (path ++ tail) = path := by
  have query : ∀ c ∈ path, decide (c ≠ '?') = true := fun c hc => by simpa using (inside c hc).1
  have fragment : ∀ c ∈ path, decide (c ≠ '#') = true := fun c hc => by simpa using (inside c hc).2
  rw [withoutQuery, List.takeWhile_append_of_pos fragment, List.takeWhile_append_of_pos query]
  cases tail with
  | nil => simp
  | cons c tail =>
    rcases ends c rfl with rfl | rfl
    · simp
    · simp

/-- The parts that a connection string is written from. -/
structure Locator where
  scheme : String
  authority : String
  database : String
  query : Option String
  fragment : Option String

namespace Locator

/-- What follows the name of the database. -/
def tail (l : Locator) : String :=
  l.query.elim "" ("?" ++ ·) ++ l.fragment.elim "" ("#" ++ ·)

/-- The connection string. -/
def text (l : Locator) : String :=
  l.scheme ++ "://" ++ l.authority ++ "/" ++ l.database ++ l.tail

/-- What the parts are written with.  The scheme may be written in capitals, the authority in ASCII
characters, and the name with every delimiter that does not end a path.  Nothing is asked of the
query and of the fragment. -/
structure Plain (l : Locator) : Prop where
  scheme : l.scheme.toLower = "mongodb" ∨ l.scheme.toLower = "mongodb+srv"
  authority : ∀ c ∈ l.authority.toList,
    c.toNat < 128 ∧ c ∉ ['/', '?', '#', '[', ']', '\t', '\r', '\n']
  database : ∀ c ∈ l.database.toList, c ∉ ['?', '#', '\t', '\r', '\n']

variable {l : Locator}

theorem Plain.isScheme (plain : l.Plain) : isScheme l.scheme.toList := by
  refine isScheme_of_map_toLower ?_
  rw [toList_toLower]
  rcases plain.scheme with h | h <;> rw [h] <;> decide

theorem Plain.scheme_takes_no_parameters (plain : l.Plain) :
    String.ofList l.scheme.toLower.toList ∉ parameterSchemes := by
  rw [String.ofList_toList]
  rcases plain.scheme with h | h <;> rw [h] <;> decide

theorem isTail_tail (l : Locator) : IsTail l.tail.toList := by
  obtain ⟨_, _, _, query, fragment⟩ := l
  intro c hc
  cases query with
  | some q => exact .inl (by simpa [tail] using hc.symm)
  | none =>
    cases fragment with
    | some f => exact .inr (by simpa [tail] using hc.symm)
    | none => simp [tail] at hc

/-- Breaks can only stand behind the name, where they are left out with what they stand in. -/
theorem Plain.filter_text (plain : l.Plain) :
    l.text.toList.filter (!isBreak ·) =
      l.scheme.toList ++ ':' :: '/' :: '/' :: (l.authority.toList ++ '/' ::
        (l.database.toList ++ l.tail.toList.filter (!isBreak ·))) := by
  have scheme : l.scheme.toList.filter (!isBreak ·) = l.scheme.toList :=
    List.filter_eq_self.2 fun c hc => by
      simp [not_isBreak_of_isSchemeChar (all_isSchemeChar plain.isScheme c hc)]
  have authority : l.authority.toList.filter (!isBreak ·) = l.authority.toList :=
    List.filter_eq_self.2 fun c hc => by
      have outside := (plain.authority c hc).2
      simp only [List.mem_cons, not_or] at outside
      simp [isBreak, outside]
  have database : l.database.toList.filter (!isBreak ·) = l.database.toList :=
    List.filter_eq_self.2 fun c hc => by
      have outside := plain.database c hc
      simp only [List.mem_cons, not_or] at outside
      simp [isBreak, outside]
  simp only [text, String.toList_append, List.filter_append, scheme, authority, database]
  simp [isBreak]

/-- The parts of a connection string are those it was written from. -/
theorem Plain.split_text (plain : l.Plain) :
    split l.text.toList = .ok {
      scheme := l.scheme.toLower.toList
      authority := l.authority.toList
      path := '/' :: l.database.toList } := by
  have authority : ∀ c ∈ l.authority.toList, endsAuthority c = false := fun c hc => by
    have outside := (plain.authority c hc).2
    simp only [List.mem_cons, not_or] at outside
    simp [endsAuthority, outside]
  have path : ∀ c ∈ '/' :: l.database.toList, c ≠ '?' ∧ c ≠ '#' := by
    intro c hc
    rcases List.mem_cons.1 hc with rfl | hc
    · decide
    · have outside := plain.database c hc
      simp only [List.mem_cons, not_or] at outside
      exact ⟨outside.1, outside.2.1⟩
  have written : cleaned l.text.toList = l.scheme.toList ++ ':' :: '/' :: '/' ::
      (l.authority.toList ++ '/' ::
        (l.database.toList ++ l.tail.toList.filter (!isBreak ·))) := by
    rw [← plain.filter_text]
    simp only [text, String.append_assoc]
    rw [String.toList_append, cleaned_of_isScheme plain.isScheme]
  have accepted : checkAuthority l.authority.toList = .ok () :=
    checkAuthority_plain (fun c hc => (plain.authority c hc).1)
      (fun held => (plain.authority _ held).2 (by decide))
      (fun held => (plain.authority _ held).2 (by decide))
  have whole := withoutQuery_append path l.isTail_tail.filter
  rw [List.cons_append] at whole
  simp only [split, written, splitScheme_append plain.isScheme, splitAuthority_append authority,
    accepted, whole, plain.scheme_takes_no_parameters, if_false, bind, Except.bind, pure,
    Except.pure, toList_toLower]

end Locator

/-- The name of a database is what comes after the slash. -/
theorem databaseName_text {l : Locator} (plain : l.Plain) :
    databaseName l.text =
      if l.database = "" then .error (.noDatabase l.text) else .ok l.database := by
  simp only [databaseName, plain.split_text, bind, Except.bind, withoutSlash]
  split
  · rename_i empty
    rw [if_pos (String.toList_eq_nil_iff.1 empty)]
    rfl
  · rename_i name nonempty
    rw [if_neg (fun empty => nonempty (by simp [empty])), String.ofList_toList]
    rfl

/-- Bytes name nothing, and neither does any other value that is no text. -/
theorem eq_str_of_databaseNameOf {v : Value} {name : String} (named : databaseNameOf v = .ok name) :
    ∃ url, v = .str url ∧ databaseName url = .ok name := by
  unfold databaseNameOf at named
  split at named
  · rename_i url
    exact ⟨url, rfl, named⟩
  · rename_i bs
    split at named
    · cases named
    · cases parts : split (bs.map fun b => Char.ofNat b.toNat) <;> simp [parts, bind, Except.bind,
        throw, throwThe, MonadExceptOf.throw] at named
  · cases named

/-- The name of a database survives being written into a connection string, whatever delimiters it
holds and whatever stands around it; an empty name is refused, and no value at all names the empty
database. -/
theorem databaseNameOf_text :
    (∀ l : Locator, l.Plain → l.database ≠ "" → databaseNameOf (.str l.text) = .ok l.database) ∧
    (∀ l : Locator, l.Plain → l.database = "" →
      databaseNameOf (.str l.text) = .error (.noDatabase l.text) ∧
        (Fault.noDatabase l.text).kind = .configuration) ∧
    ∀ v name, databaseNameOf v = .ok name → name ≠ "" := by
  refine ⟨fun l plain nonempty => ?_, fun l plain empty => ⟨?_, rfl⟩, fun v name named => ?_⟩
  · exact (databaseName_text plain).trans (if_neg nonempty)
  · exact (databaseName_text plain).trans (if_pos empty)
  · obtain ⟨url, rfl, named⟩ := eq_str_of_databaseNameOf named
    exact databaseName_ne_empty named

/-- A name that holds the delimiters of a scheme, of an authority and of parameters, behind an
authority with a user and two hosts. -/
def Locator.delimited : Locator where
  scheme := "MongoDB+SRV"
  authority := "user:p%40ss@h1:27017,h2"
  database := "a/b;c:d@e%2F"
  query := some "w=1?"
  fragment := some "f/g\n?#"

theorem Locator.plain_delimited : Locator.delimited.Plain where
  scheme := .inr (by rw [← String.toList_inj, ← toList_toLower]; decide)
  authority := by simp [delimited]
  database := by simp [delimited]

theorem databaseNameOf_delimited :
    databaseNameOf (.str Locator.delimited.text) = .ok "a/b;c:d@e%2F" ∧
    databaseNameOf (.str { Locator.delimited with database := "" }.text) =
      .error (.noDatabase { Locator.delimited with database := "" }.text) :=
  ⟨databaseNameOf_text.1 _ Locator.plain_delimited (by decide),
   (databaseNameOf_text.2.1 { Locator.delimited with database := "" }
    { Locator.plain_delimited with database := nofun } rfl).1⟩

end DocMapper.ConnectionString
