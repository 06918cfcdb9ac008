import TagText.Template.Error
import TagText.Template.Identifier
import TagText.Template.Loop
import TagText.Template.Node

/-!
# Scanning a template

With the default tokens a template is made of

    template  := (text | escape | tag)*
    escape    := '\' ('\' | '{' | '}')
    tag       := '{' ws path ws modifiers ws '}'
    path      := segment ('.' segment)*
    modifiers := ('|' ws modifier ws)*

The scanner works on the characters that are still ahead, so a fault carries what was ahead of
it. Three loops do the work: over the pieces of the template, the segments of a path, and the
modifiers of a tag. Each is given by its pass, with the proof that a pass which goes on has taken
a character (`Scan.piecePass_lt`, `Scan.pathPass_lt`, `Scan.modifierPass_lt`); that is where the
literals must not be empty.

Blanks are whatever `blank` says: from the characters ahead, how many of them to pass over.

Mirroring notes: the scanner that goes by a cursor is `CursorScan`, which has the same loops and asks
the same questions in the same order. Here the cursor is gone. `next_is` is that the literal begins
what is ahead, `skip` and `seek_whitespace` drop characters, and a text that is built is kept as its
characters, the last first. That both agree is `CursorScan.parse_eq`.
-/

namespace TagText

namespace Scan

/-- The five literals, none of them empty. -/
structure Literals where
  of : Role → List Char
  of_ne_nil : ∀ role, of role ≠ []

/-- The literals of tokens that are all non-empty. -/
def Literals.ofTokens (t : Tokens) (h : t.firstEmpty? = none) : Literals where
  of role := (t.get role).toList
  of_ne_nil role := by simpa using Tokens.firstEmpty?_eq_none_iff.mp h role

/-- A fault with the characters ahead of its place. -/
structure Fault where
  kind : ParseError.Kind
  ahead : List Char
  deriving DecidableEq

/-- Whether the literal of a role stands next. -/
def Literals.starts (l : Literals) (role : Role) (ahead : List Char) : Bool :=
  (l.of role).isPrefixOf ahead

/-- What is ahead after the literal of a role. -/
def Literals.skip (l : Literals) (role : Role) (ahead : List Char) : List Char :=
  ahead.drop (l.of role).length

/-- What is ahead after blanks. -/
def skipBlank (blank : List Char → Nat) (ahead : List Char) : List Char :=
  ahead.drop (blank ahead)

/-- The next character as a text, empty at the end. -/
def found (ahead : List Char) : String := String.ofList (ahead.take 1)

variable (l : Literals) (blank : List Char → Nat)

theorem skip_length_le (role : Role) (ahead : List Char) :
    (l.skip role ahead).length ≤ ahead.length := by
  simp [Literals.skip]

theorem skip_length_lt {role : Role} {ahead : List Char} (h : l.starts role ahead = true) :
    (l.skip role ahead).length < ahead.length := by
  have hle := (List.isPrefixOf_iff_prefix.1 h).length_le
  have := List.length_pos_iff.2 (l.of_ne_nil role)
  simp only [Literals.skip, List.length_drop]
  omega

theorem skipBlank_length_le (ahead : List Char) :
    (skipBlank blank ahead).length ≤ ahead.length := by
  simp [skipBlank]

/-! ## The path of a tag -/

/-- The segments read so far, the last first, and whether a separator stands after them. -/
structure PathState where
  segments : List String
  awaiting : Bool
  ahead : List Char

/-- Takes a segment or a separator. A separator must follow a segment. -/
def pathPass (s : PathState) : Except Fault (Option PathState) :=
  if s.ahead = [] then .ok none
  else
    let n := Identifier.segment.prefixLength s.ahead
    if n ≠ 0 then
      .ok (some ⟨String.ofList (s.ahead.take n) :: s.segments, false, s.ahead.drop n⟩)
    else if l.starts .tagPathSeparator s.ahead then
      if s.segments.isEmpty || s.awaiting then .error ⟨.emptyPathSegment, s.ahead⟩
      else .ok (some { s with awaiting := true, ahead := l.skip .tagPathSeparator s.ahead })
    else .ok none

theorem pathPass_lt (s t : PathState) (h : pathPass l s = .ok (some t)) :
    t.ahead.length < s.ahead.length := by
  unfold pathPass at h
  split at h
  · simp at h
  · next hne =>
    have := List.length_pos_iff.2 hne
    dsimp only at h
    split at h
    · next hn =>
      simp only [Except.ok.injEq, Option.some.injEq] at h
      subst h
      simp only [List.length_drop]
      omega
    · split at h
      · next hs =>
        split at h
        · simp at h
        · simp only [Except.ok.injEq, Option.some.injEq] at h
          subst h
          exact skip_length_lt l hs
      · simp at h

/-- Reads the path of a tag, of which at least one segment must be there. -/
def readPath (ahead : List Char) : Except Fault (List String × List Char) :=
  match loop (fun s => s.ahead.length) (pathPass l) (pathPass_lt l) ⟨[], false, ahead⟩ with
  | .error e => .error e
  | .ok s =>
    if s.segments.isEmpty then .error ⟨.emptyTag, s.ahead⟩
    else .ok (s.segments.reverse, s.ahead)

theorem readPath_length_le {ahead rest : List Char} {path : List String}
    (h : readPath l ahead = .ok (path, rest)) : rest.length ≤ ahead.length := by
  unfold readPath at h
  split at h
  · simp at h
  · next s hs =>
    split at h
    · simp at h
    · simp only [Except.ok.injEq, Prod.mk.injEq] at h
      obtain ⟨-, rfl⟩ := h
      have := size_le_of_loop hs
      exact this

/-! ## The modifiers of a tag -/

/-- The modifiers read so far, the last first. -/
structure ModifierState where
  modifiers : List String
  ahead : List Char

/-- Takes a modifier mark and the name after it, with the blanks around the name. -/
def modifierPass (s : ModifierState) : Except Fault (Option ModifierState) :=
  if s.ahead = [] then .ok none
  else if l.starts .tagModifier s.ahead then
    let name := skipBlank blank (l.skip .tagModifier s.ahead)
    let n := Identifier.modifier.prefixLength name
    if n = 0 then .error ⟨.unexpectedModifierValue (found name), name⟩
    else
      .ok (some ⟨String.ofList (name.take n) :: s.modifiers, skipBlank blank (name.drop n)⟩)
  else .ok none

theorem modifierPass_lt (s t : ModifierState) (h : modifierPass l blank s = .ok (some t)) :
    t.ahead.length < s.ahead.length := by
  unfold modifierPass at h
  split at h
  · simp at h
  · split at h
    · next hs =>
      dsimp only at h
      split at h
      · simp at h
      · simp only [Except.ok.injEq, Option.some.injEq] at h
        subst h
        refine Nat.lt_of_le_of_lt (skipBlank_length_le ..) ?_
        refine Nat.lt_of_le_of_lt ?_ (skip_length_lt l hs)
        refine Nat.le_trans ?_ (skipBlank_length_le blank _)
        simp
    · simp at h

/-- Reads the modifiers of a tag, which may be none. -/
def readModifiers (ahead : List Char) : Except Fault (List String × List Char) :=
  match loop (fun s => s.ahead.length) (modifierPass l blank) (modifierPass_lt l blank)
      ⟨[], ahead⟩ with
  | .error e => .error e
  | .ok s => .ok (s.modifiers.reverse, s.ahead)

theorem readModifiers_length_le {ahead rest : List Char} {modifiers : List String}
    (h : readModifiers l blank ahead = .ok (modifiers, rest)) : rest.length ≤ ahead.length := by
  unfold readModifiers at h
  split at h
  · simp at h
  · next s hs =>
    simp only [Except.ok.injEq, Prod.mk.injEq] at h
    obtain ⟨-, rfl⟩ := h
    have := size_le_of_loop hs
    exact this

/-! ## Tags -/

/-- Reads a tag whose opening literal stands next. -/
def readTag (ahead : List Char) : Except Fault (Tag × List Char) :=
  match readPath l (skipBlank blank (l.skip .tagOpen ahead)) with
  | .error e => .error e
  | .ok (path, rest) =>
    match readModifiers l blank (skipBlank blank rest) with
    | .error e => .error e
    | .ok (modifiers, rest) =>
      let close := skipBlank blank rest
      if l.starts .tagClose close then .ok (⟨path, modifiers⟩, l.skip .tagClose close)
      else .error ⟨.expectedTagClose (found close), close⟩

theorem readTag_length_lt {ahead rest : List Char} {tag : Tag}
    (hopen : l.starts .tagOpen ahead = true) (h : readTag l blank ahead = .ok (tag, rest)) :
    rest.length < ahead.length := by
  unfold readTag at h
  split at h
  · simp at h
  · next path r hp =>
    split at h
    · simp at h
    · next modifiers r' hm =>
      dsimp only at h
      split at h
      · simp only [Except.ok.injEq, Prod.mk.injEq] at h
        obtain ⟨-, rfl⟩ := h
        have h1 := skip_length_lt l hopen
        have h2 := skipBlank_length_le blank (l.skip .tagOpen ahead)
        have h3 := readPath_length_le l hp
        have h4 := skipBlank_length_le blank r
        have h5 := readModifiers_length_le l blank hm
        have h6 := skipBlank_length_le blank r'
        have h7 := skip_length_le l .tagClose (skipBlank blank r')
        omega
      · simp at h

/-! ## The pieces of a template -/

/-- The nodes finished so far, the last first; the characters of the text that is being built,
the last first; and whether the escape literal was just read. -/
structure State where
  nodes : List Node
  pending : List Char
  escaping : Bool
  ahead : List Char
  deriving DecidableEq

namespace State

/-- Nothing read yet. -/
def start (ahead : List Char) : State := ⟨[], [], false, ahead⟩

/-- The nodes with the text being built, if it has characters. -/
def flush (s : State) : List Node :=
  if s.pending.isEmpty then s.nodes else .text (String.ofList s.pending.reverse) :: s.nodes

/-- Whether the last finished node, if there is one, is text. -/
def inText (s : State) : Bool :=
  match s.nodes with
  | [] => true
  | node :: _ => node.isText

/-- The state after the literal of a role that is taken into the text. -/
def takeLiteral (l : Literals) (s : State) (role : Role) : State :=
  { s with
    pending := (l.of role).reverse ++ s.pending
    escaping := false
    ahead := l.skip role s.ahead }

end State

/-- Takes the literal that an escape makes into text. The two delimiters of tags are taken only
while no tag has been finished. -/
def escapedPass (s : State) : Except Fault State :=
  if l.starts .escape s.ahead then .ok (s.takeLiteral l .escape)
  else if l.starts .tagOpen s.ahead then
    if s.inText then .ok (s.takeLiteral l .tagOpen)
    else .error ⟨.delimiterEscapedOutsideString .tagOpen, s.ahead⟩
  else if l.starts .tagClose s.ahead then
    if s.inText then .ok (s.takeLiteral l .tagClose)
    else .error ⟨.delimiterEscapedOutsideString .tagClose, s.ahead⟩
  else .error ⟨.unexpectedEscapedCharacter (found s.ahead), s.ahead⟩

/-- Takes the next piece: what an escape makes text, the escape literal, a tag, or a character
of text. -/
def piecePass (s : State) : Except Fault (Option State) :=
  match s.ahead with
  | [] => .ok none
  | c :: rest =>
    if s.escaping then
      match escapedPass l s with
      | .error e => .error e
      | .ok t => .ok (some t)
    else if l.starts .escape s.ahead then
      .ok (some { s with escaping := true, ahead := l.skip .escape s.ahead })
    else if l.starts .tagOpen s.ahead then
      match readTag l blank s.ahead with
      | .error e => .error e
      | .ok (tag, rest) => .ok (some ⟨.tag tag :: s.flush, [], false, rest⟩)
    else if l.starts .tagClose s.ahead then .error ⟨.tagCloseOutsideTag, s.ahead⟩
    else .ok (some { s with pending := c :: s.pending, ahead := rest })

theorem escapedPass_lt (s t : State) (h : escapedPass l s = .ok t) :
    t.ahead.length < s.ahead.length := by
  unfold escapedPass at h
  repeat' split at h
  all_goals first
    | simp at h
      done
    | simp only [Except.ok.injEq] at h
      subst h
      exact skip_length_lt l (by assumption)

theorem piecePass_lt (s t : State) (h : piecePass l blank s = .ok (some t)) :
    t.ahead.length < s.ahead.length := by
  unfold piecePass at h
  split at h
  · simp at h
  · next c rest hs =>
    split at h
    · split at h
      · simp at h
      · next u hu =>
        simp only [Except.ok.injEq, Option.some.injEq] at h
        exact h ▸ escapedPass_lt l s u hu
    · split at h
      · next he =>
        simp only [Except.ok.injEq, Option.some.injEq] at h
        subst h
        exact skip_length_lt l he
      · split at h
        · next ho =>
          split at h
          · simp at h
          · next tag r hr =>
            simp only [Except.ok.injEq, Option.some.injEq] at h
            subst h
            exact readTag_length_lt l blank ho hr
        · split at h
          · simp at h
          · simp only [Except.ok.injEq, Option.some.injEq] at h
            subst h
            simp [hs]

/-- Reads a whole template into its nodes. -/
def readTemplate (template : List Char) : Except Fault Tree :=
  match loop (fun s => s.ahead.length) (piecePass l blank) (piecePass_lt l blank)
      (.start template) with
  | .error e => .error e
  | .ok s =>
    if s.escaping then .error ⟨.unexpectedEndWhileEscaping, s.ahead⟩
    else .ok s.flush.reverse

end Scan

end TagText
