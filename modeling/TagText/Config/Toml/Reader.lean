import TagText.Config.Draft
import TagText.Config.Toml.Date
import TagText.Config.Toml.Scalar

/-!
# Reading TOML documents

A document is lines: headers of tables, entries, comments and empty lines. `Toml.read?` gives the
root table of a document, or nothing when the text is no document. Arrays and tables in braces may
nest 80 deep.

Mirroring notes:
- This is the reader that the command runs with. It follows the language as the usual library reads
  it, not the code of that; configurations take any reader (`DocumentReader`), and what is proved of
  them holds with any.
- Dates and times are read as texts (`readMoment`), as a configuration has no other place for them.
- A whole number that 64 bits do not hold, and a number too large for a double, refuse the document.
- A document is read or it is not: where and why it is not is left out.
-/

namespace TagText

namespace Toml

/-! ## Comments and ends of lines -/

/-- The text from the end of the line on, of which a comment is left. -/
def skipComment (s : List Char) : Option (List Char) :=
  let line := s.takeWhile (· != '\n')
  let rest := s.dropWhile (· != '\n')
  let line := if rest.isEmpty || line.getLast? != some '\r' then line else line.dropLast
  if line.any isControl then none else some rest

theorem skipComment_length_le {s rest : List Char} (h : skipComment s = some rest) :
    rest.length ≤ s.length := by
  unfold skipComment at h
  simp only [Option.ite_none_left_eq_some, Option.some.injEq] at h
  exact h.2 ▸ (List.dropWhile_suffix _).length_le

/-- The next line, when no more than spaces and a comment is left of this one. -/
def endLine (s : List Char) : Option (List Char) :=
  match skipSpaces s with
  | [] => some []
  | '\n' :: rest => some rest
  | '\r' :: '\n' :: rest => some rest
  | '#' :: rest => (skipComment rest).map dropNewline
  | _ => none

theorem endLine_length_lt {s rest : List Char} (h : endLine s = some rest) (hne : rest ≠ []) :
    rest.length < s.length := by
  have hle := skipSpaces_length_le s
  unfold endLine at h
  split at h
  · simp at h
    exact absurd h hne
  · next hs =>
    simp at h
    simp [hs, h] at hle
    omega
  · next hs =>
    simp at h
    simp [hs, h] at hle
    omega
  · next r hs =>
    obtain ⟨r', hr', rfl⟩ := Option.map_eq_some_iff.1 h
    have := skipComment_length_le hr'
    have := dropNewline_length_le r'
    simp [hs] at hle
    omega
  · simp at h

/-- The text after spaces, ends of lines and comments. -/
def skipTrivia (s : List Char) : Option (List Char) :=
  match h : skipSpaces s with
  | '\n' :: rest =>
    have := length_lt_of_skipSpaces h
    skipTrivia rest
  | '\r' :: '\n' :: rest =>
    have := Nat.lt_of_succ_lt (length_lt_of_skipSpaces h)
    skipTrivia rest
  | '#' :: rest =>
    match hc : skipComment rest with
    | none => none
    | some more =>
      have := Nat.lt_of_le_of_lt (skipComment_length_le hc) (length_lt_of_skipSpaces h)
      skipTrivia more
  | rest => some rest
termination_by s.length

theorem skipTrivia_length_le {s rest : List Char} (h : skipTrivia s = some rest) :
    rest.length ≤ s.length := by
  fun_induction skipTrivia s with
  | case1 _ _ _ hlt ih => exact Nat.le_of_lt (Nat.lt_of_le_of_lt (ih h) hlt)
  | case2 _ _ _ hlt ih => exact Nat.le_of_lt (Nat.lt_of_le_of_lt (ih h) hlt)
  | case3 => simp at h
  | case4 _ _ _ _ _ hlt ih => exact Nat.le_of_lt (Nat.lt_of_le_of_lt (ih h) hlt)
  | case5 s => simp only [Option.some.injEq] at h; exact h ▸ skipSpaces_length_le s

/-! ## Keys -/

/-- Whether a character may stand in a key without marks. -/
def isBare (c : Char) : Bool := c.isAlphanum || c == '_' || c == '-'

theorem length_dropWhile_lt {p : Char → Bool} {s : List Char}
    (h : (s.takeWhile p).isEmpty = false) : (s.dropWhile p).length < s.length := by
  have := congrArg List.length (List.takeWhile_append_dropWhile (p := p) (l := s))
  have : 0 < (s.takeWhile p).length := by
    rw [List.length_pos_iff]
    simpa using h
  simp only [List.length_append] at *
  omega

/-- Reads a key without dots, of bare characters or in marks on one line. -/
def readName (s : List Char) : Option (Reading String s.length) :=
  match s with
  | '"' :: rest =>
    match h : takeLine '"' [] rest with
    | none => none
    | some (cs, after) =>
      some ⟨String.ofList cs, after, Nat.lt_succ_of_lt (takeLine_length_lt h)⟩
  | '\'' :: rest =>
    match h : takeLine '\'' [] rest with
    | none => none
    | some (cs, after) =>
      some ⟨String.ofList cs, after, Nat.lt_succ_of_lt (takeLine_length_lt h)⟩
  | s =>
    if h : (s.takeWhile isBare).isEmpty = false then
      some ⟨String.ofList (s.takeWhile isBare), s.dropWhile isBare, length_dropWhile_lt h⟩
    else none

/-- Reads the rest of a key that may have dots, after the names `taken`, the last first. -/
def readKeyAfter (taken : List String) (s : List Char) :
    Option (Reading (List String) s.length) :=
  have hs := skipSpaces_length_le s
  match readName (skipSpaces s) with
  | none => none
  | some ⟨name, rest, hr⟩ =>
    have hle := skipSpaces_length_le rest
    match hm : skipSpaces rest with
    | '.' :: more =>
      have : more.length < s.length := by simp [hm] at hle; omega
      (readKeyAfter (name :: taken) more).map (·.widen (Nat.le_of_lt this))
    | after => some ⟨(name :: taken).reverse, after, by rw [hm] at hle; omega⟩
termination_by s.length

/-- Reads a key that may have dots, with the spaces around it. -/
def readKey (s : List Char) : Option (Reading (List String) s.length) :=
  readKeyAfter [] s

/-! ## Values -/

/-- A way to read a value off the front of a text. -/
abbrev SettingReader := (s : List Char) → Option (Reading Setting s.length)

/-- Reads an entry: a key, an equals sign and a value. -/
def readEntry (read : SettingReader) (s : List Char) :
    Option (Reading (List String × Setting) s.length) :=
  match readKey s with
  | some ⟨key, '=' :: rest, h⟩ =>
    have := skipSpaces_length_le rest
    (read (skipSpaces rest)).map fun r =>
      (r.map fun v => (key, v)).widen (by simp at h; omega)
  | _ => none

/-- Reads the items of an array and its closing bracket, after those taken, the last first. -/
def readItems (read : SettingReader) {n : Nat} (taken : List Setting) (s : List Char)
    (h : s.length ≤ n) : Option (Reading Setting n) :=
  match hs : skipTrivia s with
  | none => none
  | some (']' :: after) =>
    some ⟨.array taken.reverse, after, by have := skipTrivia_length_le hs; simp at this; omega⟩
  | some items =>
    have h₁ := skipTrivia_length_le hs
    match read items with
    | none => none
    | some ⟨v, rest, h₂⟩ =>
      match hr : skipTrivia rest with
      | some (',' :: more) =>
        have : more.length < s.length := by
          have := skipTrivia_length_le hr
          simp at this
          omega
        readItems read (v :: taken) more (by omega)
      | some (']' :: after) =>
        some ⟨.array (v :: taken).reverse, after, by
          have := skipTrivia_length_le hr
          simp at this
          omega⟩
      | _ => none
termination_by s.length

/-- Reads the entries of a table in braces and its closing brace, after those taken. -/
def readEntries (read : SettingReader) {n : Nat} (taken : Named Draft) (s : List Char)
    (h : s.length ≤ n) : Option (Reading Setting n) :=
  match readEntry read s with
  | none => none
  | some ⟨(key, v), rest, hr⟩ =>
    match Draft.assign v taken key with
    | none => none
    | some taken =>
      have hle := skipSpaces_length_le rest
      match hm : skipSpaces rest with
      | ',' :: more =>
        have : more.length < s.length := by simp [hm] at hle; omega
        readEntries read taken more (by omega)
      | '\x7d' :: after =>
        some ⟨.table (Draft.toEntries taken), after, by simp [hm] at hle; omega⟩
      | _ => none
termination_by s.length

/-- What a number or truth value is made of. -/
def isScalarChar (c : Char) : Bool := c.isAlphanum || c == '+' || c == '-' || c == '.' || c == '_'

/-- A value in whose arrays and tables others may nest `depth` deep. -/
def readValue : (depth : Nat) → SettingReader
  | depth, s =>
    match s with
    | '"' :: rest => (readString '"' rest).map fun r => (r.map .string).widen (by simp)
    | '\'' :: rest => (readString '\'' rest).map fun r => (r.map .string).widen (by simp)
    | '[' :: rest =>
      match depth with
      | 0 => none
      | depth + 1 => readItems (readValue depth) [] rest (by simp)
    | '\x7b' :: rest =>
      match depth with
      | 0 => none
      | depth + 1 =>
        have hle := skipSpaces_length_le rest
        match hr : skipSpaces rest with
        | '\x7d' :: after => some ⟨.table [], after, by simp [hr] at hle ⊢; omega⟩
        | _ => readEntries (readValue depth) [] rest (by simp)
    | s =>
      match readMoment s with
      | some r => some (r.map .string)
      | none =>
        if h : (s.takeWhile isScalarChar).isEmpty = false then
          (scalarOf? (s.takeWhile isScalarChar)).map fun v =>
            ⟨v, s.dropWhile isScalarChar, length_dropWhile_lt h⟩
        else none

/-- How deep arrays and tables in braces may nest. -/
def maxDepth : Nat := 80

/-! ## Documents -/

/-- A document as far as it is read: its root table, and the path of the table that the next
entries belong to. -/
structure State where
  root : Named Draft
  current : List String

/-- The document with the table of a header defined, or one more element in a list of tables. -/
def State.open? (state : State) (element : Bool) (path : List String) : Option State :=
  match path.getLast? with
  | none => none
  | some key =>
    let change := if element then Draft.append key else Draft.define key
    (Draft.modify change state.root path.dropLast).map fun root => ⟨root, path⟩

/-- The document with one more entry in its current table. -/
def State.assign? (state : State) (key : List String) (v : Setting) : Option State :=
  (Draft.modify (fun entries => Draft.assign v entries key) state.root state.current).map
    fun root => { state with root }

/-- Reads a header after its opening bracket. -/
def readHeader (state : State) (s : List Char) : Option (Reading State s.length) :=
  match s with
  | '[' :: rest =>
    match readKey rest with
    | some ⟨path, ']' :: ']' :: after, h⟩ =>
      (state.open? true path).map fun state => ⟨state, after, by simp at *; omega⟩
    | _ => none
  | s =>
    match readKey s with
    | some ⟨path, ']' :: after, h⟩ =>
      (state.open? false path).map fun state => ⟨state, after, by simp at *; omega⟩
    | _ => none

/-- Reads what a line holds besides spaces and a comment: nothing, a header or an entry. -/
def readLine (state : State) (s : List Char) : Option (State × List Char) :=
  match s with
  | [] | '#' :: _ | '\n' :: _ | '\r' :: _ => some (state, s)
  | '[' :: rest => (readHeader state rest).map fun r => (r.value, r.rest)
  | s =>
    match readEntry (readValue maxDepth) s with
    | none => none
    | some ⟨(key, v), rest, _⟩ => (state.assign? key v).map (·, rest)

theorem readLine_length_le {state state' : State} {s rest : List Char}
    (h : readLine state s = some (state', rest)) : rest.length ≤ s.length := by
  unfold readLine at h
  split at h
  any_goals
    simp only [Option.some.injEq, Prod.mk.injEq] at h
    exact h.2 ▸ Nat.le_refl _
  · obtain ⟨r, -, hr⟩ := Option.map_eq_some_iff.1 h
    have := r.shorter
    simp only [Prod.mk.injEq] at hr
    simp [← hr.2]
    omega
  · split at h
    · simp at h
    · next hs _ _ =>
      obtain ⟨_, -, hr⟩ := Option.map_eq_some_iff.1 h
      simp only [Prod.mk.injEq] at hr
      exact hr.2 ▸ Nat.le_of_lt (by assumption)

/-- Reads the lines of a document. -/
def readLines (state : State) (s : List Char) : Option State :=
  match hl : readLine state (skipSpaces s) with
  | none => none
  | some (state, rest) =>
    match he : endLine rest with
    | none => none
    | some [] => some state
    | some (c :: more) =>
      have : (c :: more).length < s.length := by
        have := endLine_length_lt he (by simp)
        have := readLine_length_le hl
        have := skipSpaces_length_le s
        omega
      readLines state (c :: more)
termination_by s.length

/-- The text without a byte order mark in front. -/
def dropMark : List Char → List Char
  | '\ufeff' :: s => s
  | s => s

/-- The root table of a document. -/
def read? (text : String) : Option (Named Setting) :=
  (readLines ⟨[], []⟩ (dropMark text.toList)).map fun state => Draft.toEntries state.root

end Toml

end TagText
