import TagText.ByteCursor
import TagText.Failing
import TagText.Template.Error
import TagText.Template.Identifier
import TagText.Template.Loop
import TagText.Template.Node

/-!
# Scanning with a cursor

The scanner as it goes over a template: its only way to look and to move is a `ByteCursor`. Its
loops are those over the pieces of the template, the segments of a path and the modifiers of a tag,
each given by its pass. A fault is told with the place of the cursor. A cursor that is asked for what
it does not have ends the scan (`Stop.lost`).

`Scan` is the same in terms of the characters that are ahead, without a cursor, and that is where
templates are reasoned about. That the two agree, and that no cursor is ever lost, is shown apart.

A pass that goes on leaves fewer characters ahead (`ByteCursor.left`), whatever cursor it begins
with, so the loops end.

Mirroring notes:
- `template`, `escaped`, `tag`, `tag_path` and `tag_modifiers` are here as `readTemplate` with
  `piecePass`, `escapedPass`, `readTag`, `readPath` with `pathPass`, and `readModifiers` with
  `modifierPass`. A pass is one round of a `while`; a `continue` is a state to go on with, and the end
  of the loop is `none`.
- The nodes of the tree are in a list with the last one first until all are read. So the current node
  is the head of the list, and there is none before the first.
- `escaped` looks for the delimiter and then at the current node; here the two delimiters are a case
  each.
- The names in a tag are found by `Identifier.segment` and `Identifier.modifier`. The pattern for
  blanks is any `Finder`.
-/

namespace TagText

namespace CursorScan

/-- Why a scan ends early. -/
inductive Stop where
  /-- The cursor was asked for what it does not have. -/
  | lost
  | fault (e : ParseError)

/-- What the cursor has. -/
def had {α : Type} : Option α → Except Stop α
  | some a => .ok a
  | none => .error .lost

theorem had_eq_ok_iff {α : Type} {x : Option α} {a : α} : had x = .ok a ↔ x = some a := by
  cases x <;> simp [had]

/-- A fault where the cursor stands. -/
def failAt {α : Type} (c : ByteCursor) (kind : ParseError.Kind) : Except Stop α :=
  .error (.fault ⟨kind, c.index.toNat, c.source⟩)

/-- A fault that shows the next character. -/
def failShowing {α : Type} (c : ByteCursor) (kind : String → ParseError.Kind) : Except Stop α := do
  let found ← had (c.peek? 1)
  failAt c (kind found)

@[simp] theorem failAt_ne_ok {α : Type} {c : ByteCursor} {kind : ParseError.Kind} {a : α} :
    failAt c kind ≠ .ok a :=
  nofun

@[simp] theorem failShowing_ne_ok {α : Type} {c : ByteCursor} {kind : String → ParseError.Kind}
    {a : α} : failShowing c kind ≠ .ok a := by
  intro h
  obtain ⟨found, -, h⟩ := bind_eq_ok_iff.mp h
  exact failAt_ne_ok h

/-- What finds one segment of a path. -/
def segment : Finder := .ofMatcher Identifier.segment.matcher

/-- What finds the name of a modifier. -/
def modifier : Finder := .ofMatcher Identifier.modifier.matcher

variable (tokens : Tokens)

/-- Whether the literal of a role stands next. -/
def nextIs (c : ByteCursor) (role : Role) : Except Stop Bool := had (c.nextEquals? (tokens.get role))

/-- The cursor after the literal of a role. -/
def skip (c : ByteCursor) (role : Role) : ByteCursor := c.seekSame (tokens.get role)

variable (full : tokens.firstEmpty? = none)

theorem left_skip_le (c : ByteCursor) (role : Role) : (skip tokens c role).left ≤ c.left :=
  c.left_seek_le _

include full in
theorem left_skip_lt {c : ByteCursor} (hleft : 0 < c.left) (role : Role) :
    (skip tokens c role).left < c.left :=
  ByteCursor.left_seekSame_lt hleft (tokens.firstEmpty?_eq_none_iff.mp full role)

/-! ## The path of a tag -/

/-- The segments read so far, the last first, and whether a separator stands after them. -/
structure PathState where
  segments : List String
  awaiting : Bool
  cursor : ByteCursor

/-- Takes a segment or a separator. A separator must follow a segment. -/
def pathPass (s : PathState) : Except Stop (Option PathState) :=
  if s.cursor.isAtEnd then .ok none
  else do
    let (value, after) ← had (s.cursor.readPattern? segment)
    if !value.isEmpty then
      return some ⟨value :: s.segments, false, after⟩
    else if ← nextIs tokens after .tagPathSeparator then
      if s.segments.isEmpty || s.awaiting then failAt after .emptyPathSegment
      else return some ⟨s.segments, true, skip tokens after .tagPathSeparator⟩
    else return none

include full in
theorem pathPass_lt (s t : PathState) (h : pathPass tokens s = .ok (some t)) :
    t.cursor.left < s.cursor.left := by
  unfold pathPass at h
  split at h
  · simp at h
  · next hend =>
    have hleft := ByteCursor.left_pos_of_isAtEnd hend
    obtain ⟨⟨value, after⟩, hread, h⟩ := bind_eq_ok_iff.mp h
    have hafter := ByteCursor.left_readPattern? (had_eq_ok_iff.mp hread)
    dsimp only at h
    split at h
    · next hvalue =>
      obtain rfl := Option.some.inj (Except.ok.inj h)
      have hpos := countChars_pos (s := value) (by simpa using hvalue)
      change after.left < _
      omega
    · next hvalue =>
      -- No segment was taken, so as much is left as before, and it is the separator that counts.
      obtain rfl : value = "" := by simpa using hvalue
      have hsame : after.left = s.cursor.left := hafter
      obtain ⟨separated, -, h⟩ := bind_eq_ok_iff.mp h
      split at h
      · split at h
        · exact absurd h failAt_ne_ok
        · obtain rfl := Option.some.inj (Except.ok.inj h)
          exact hsame ▸ left_skip_lt tokens full (hsame ▸ hleft) _
      · exact absurd h (by simp [pure, Except.pure])

/-- Reads the path of a tag, of which at least one segment must be there. -/
def readPath (c : ByteCursor) : Except Stop (List String × ByteCursor) := do
  let s ← loop (fun s => s.cursor.left) (pathPass tokens) (pathPass_lt tokens full) ⟨[], false, c⟩
  if s.segments.isEmpty then failAt s.cursor .emptyTag
  else return (s.segments.reverse, s.cursor)

theorem left_readPath_le {c d : ByteCursor} {path : List String}
    (h : readPath tokens full c = .ok (path, d)) : d.left ≤ c.left := by
  obtain ⟨s, hloop, h⟩ := bind_eq_ok_iff.mp h
  split at h
  · exact absurd h failAt_ne_ok
  · obtain ⟨-, rfl⟩ := Prod.mk.inj (Except.ok.inj h)
    have := size_le_of_loop hloop
    exact this

/-! ## The modifiers of a tag -/

/-- The modifiers read so far, the last first. -/
structure ModifierState where
  modifiers : List String
  cursor : ByteCursor

/-- Takes a modifier mark and the name after it, with the blanks around the name. -/
def modifierPass (s : ModifierState) : Except Stop (Option ModifierState) :=
  if s.cursor.isAtEnd then .ok none
  else do
    if ← nextIs tokens s.cursor .tagModifier then
      let before ← had (skip tokens s.cursor .tagModifier).seekBlanks?
      let (name, after) ← had (before.readPattern? modifier)
      if name.isEmpty then failShowing after .unexpectedModifierValue
      else
        let after ← had after.seekBlanks?
        return some ⟨name :: s.modifiers, after⟩
    else return none

include full in
theorem modifierPass_lt (s t : ModifierState) (h : modifierPass tokens s = .ok (some t)) :
    t.cursor.left < s.cursor.left := by
  unfold modifierPass at h
  split at h
  · simp at h
  · next hend =>
    obtain ⟨marked, -, h⟩ := bind_eq_ok_iff.mp h
    split at h
    · obtain ⟨before, hbefore, h⟩ := bind_eq_ok_iff.mp h
      obtain ⟨⟨name, after⟩, hread, h⟩ := bind_eq_ok_iff.mp h
      dsimp only at h
      split at h
      · exact absurd h failShowing_ne_ok
      · obtain ⟨last, hlast, h⟩ := bind_eq_ok_iff.mp h
        obtain rfl := Option.some.inj (Except.ok.inj h)
        have hskip := left_skip_lt tokens full (ByteCursor.left_pos_of_isAtEnd hend) .tagModifier
        have hblanks := ByteCursor.left_seekBlanks?_le (had_eq_ok_iff.mp hbefore)
        have hname := ByteCursor.left_readPattern? (had_eq_ok_iff.mp hread)
        have hmore := ByteCursor.left_seekBlanks?_le (had_eq_ok_iff.mp hlast)
        change last.left < _
        omega
    · exact absurd h (by simp [pure, Except.pure])

/-- Reads the modifiers of a tag, which may be none. -/
def readModifiers (c : ByteCursor) : Except Stop (List String × ByteCursor) := do
  let s ← loop (fun s => s.cursor.left) (modifierPass tokens) (modifierPass_lt tokens full) ⟨[], c⟩
  return (s.modifiers.reverse, s.cursor)

theorem left_readModifiers_le {c d : ByteCursor} {modifiers : List String}
    (h : readModifiers tokens full c = .ok (modifiers, d)) : d.left ≤ c.left := by
  obtain ⟨s, hloop, h⟩ := bind_eq_ok_iff.mp h
  obtain ⟨-, rfl⟩ := Prod.mk.inj (Except.ok.inj h)
  have := size_le_of_loop hloop
  exact this

/-! ## Tags -/

/-- Reads a tag whose opening literal stands next. -/
def readTag (c : ByteCursor) : Except Stop (Tag × ByteCursor) := do
  let c ← had (skip tokens c .tagOpen).seekBlanks?
  let (path, c) ← readPath tokens full c
  let c ← had c.seekBlanks?
  let (modifiers, c) ← readModifiers tokens full c
  let c ← had c.seekBlanks?
  if ← nextIs tokens c .tagClose then return (⟨path, modifiers⟩, skip tokens c .tagClose)
  else failShowing c .expectedTagClose

theorem left_readTag_lt {c d : ByteCursor} {tag : Tag} (hleft : 0 < c.left)
    (h : readTag tokens full c = .ok (tag, d)) : d.left < c.left := by
  obtain ⟨c₁, h₁, h⟩ := bind_eq_ok_iff.mp h
  obtain ⟨⟨path, c₂⟩, h₂, h⟩ := bind_eq_ok_iff.mp h
  obtain ⟨c₃, h₃, h⟩ := bind_eq_ok_iff.mp h
  obtain ⟨⟨modifiers, c₄⟩, h₄, h⟩ := bind_eq_ok_iff.mp h
  obtain ⟨c₅, h₅, h⟩ := bind_eq_ok_iff.mp h
  obtain ⟨closed, -, h⟩ := bind_eq_ok_iff.mp h
  split at h
  · obtain ⟨-, rfl⟩ := Prod.mk.inj (Except.ok.inj h)
    have hopen := left_skip_lt tokens full hleft .tagOpen
    have hclose := left_skip_le tokens c₅ .tagClose
    have hpath := left_readPath_le tokens full h₂
    have hmodifiers := left_readModifiers_le tokens full h₄
    have hblanks₁ := ByteCursor.left_seekBlanks?_le (had_eq_ok_iff.mp h₁)
    have hblanks₂ := ByteCursor.left_seekBlanks?_le (had_eq_ok_iff.mp h₃)
    have hblanks₃ := ByteCursor.left_seekBlanks?_le (had_eq_ok_iff.mp h₅)
    omega
  · exact absurd h failShowing_ne_ok

/-! ## The pieces of a template -/

/-- The nodes finished so far, the last first; the text that is being built; and whether the escape
literal was just read. -/
structure State where
  nodes : List Node
  pending : String
  escaping : Bool
  cursor : ByteCursor

namespace State

/-- The nodes with the text being built, if it has characters. -/
def flush (s : State) : List Node :=
  if s.pending.isEmpty then s.nodes else .text s.pending :: s.nodes

/-- Whether the last finished node, if there is one, is text. -/
def inText (s : State) : Bool :=
  match s.nodes with
  | [] => true
  | node :: _ => node.isText

/-- The state after the literal of a role that is taken into the text. -/
def takeLiteral (s : State) (role : Role) : State :=
  { s with
    pending := s.pending ++ tokens.get role
    escaping := false
    cursor := skip tokens s.cursor role }

end State

/-- Takes the literal that an escape makes into text. The two delimiters of tags are taken only
while no tag has been finished. -/
def escapedPass (s : State) : Except Stop State := do
  if ← nextIs tokens s.cursor .escape then return s.takeLiteral tokens .escape
  else if ← nextIs tokens s.cursor .tagOpen then
    if s.inText then return s.takeLiteral tokens .tagOpen
    else failAt s.cursor (.delimiterEscapedOutsideString .tagOpen)
  else if ← nextIs tokens s.cursor .tagClose then
    if s.inText then return s.takeLiteral tokens .tagClose
    else failAt s.cursor (.delimiterEscapedOutsideString .tagClose)
  else failShowing s.cursor .unexpectedEscapedCharacter

/-- Takes the next piece: what an escape makes text, the escape literal, a tag, or a character
of text. -/
def piecePass (s : State) : Except Stop (Option State) :=
  if s.cursor.isAtEnd then .ok none
  else if s.escaping then some <$> escapedPass tokens s
  else do
    if ← nextIs tokens s.cursor .escape then
      return some { s with escaping := true, cursor := skip tokens s.cursor .escape }
    else if ← nextIs tokens s.cursor .tagOpen then
      let (tag, after) ← readTag tokens full s.cursor
      return some ⟨.tag tag :: s.flush, "", false, after⟩
    else if ← nextIs tokens s.cursor .tagClose then failAt s.cursor .tagCloseOutsideTag
    else
      let (next, after) ← had (s.cursor.read? 1)
      return some { s with pending := s.pending ++ next, cursor := after }

theorem escapedPass_eq_ok {s t : State} (h : escapedPass tokens s = .ok t) :
    ∃ role, t = s.takeLiteral tokens role := by
  obtain ⟨escaped, -, h⟩ := bind_eq_ok_iff.mp h
  split at h
  · exact ⟨.escape, (Except.ok.inj h).symm⟩
  · obtain ⟨opened, -, h⟩ := bind_eq_ok_iff.mp h
    split at h
    · split at h
      · exact ⟨.tagOpen, (Except.ok.inj h).symm⟩
      · exact absurd h failAt_ne_ok
    · obtain ⟨closed, -, h⟩ := bind_eq_ok_iff.mp h
      split at h
      · split at h
        · exact ⟨.tagClose, (Except.ok.inj h).symm⟩
        · exact absurd h failAt_ne_ok
      · exact absurd h failShowing_ne_ok

theorem piecePass_lt (s t : State) (h : piecePass tokens full s = .ok (some t)) :
    t.cursor.left < s.cursor.left := by
  unfold piecePass at h
  split at h
  · simp at h
  · next hend =>
    have hleft := ByteCursor.left_pos_of_isAtEnd hend
    split at h
    · obtain ⟨u, hescaped, hu⟩ := map_eq_ok_iff.mp h
      obtain rfl := Option.some.inj hu
      obtain ⟨role, rfl⟩ := escapedPass_eq_ok tokens hescaped
      exact left_skip_lt tokens full hleft role
    · obtain ⟨escape, -, h⟩ := bind_eq_ok_iff.mp h
      split at h
      · obtain rfl := Option.some.inj (Except.ok.inj h)
        exact left_skip_lt tokens full hleft .escape
      · obtain ⟨opened, -, h⟩ := bind_eq_ok_iff.mp h
        split at h
        · obtain ⟨⟨tag, after⟩, htag, h⟩ := bind_eq_ok_iff.mp h
          obtain rfl := Option.some.inj (Except.ok.inj h)
          exact left_readTag_lt tokens full hleft htag
        · obtain ⟨closed, -, h⟩ := bind_eq_ok_iff.mp h
          split at h
          · exact absurd h failAt_ne_ok
          · obtain ⟨⟨next, after⟩, hread, h⟩ := bind_eq_ok_iff.mp h
            obtain rfl := Option.some.inj (Except.ok.inj h)
            exact ByteCursor.left_read?_lt hleft (by decide) (had_eq_ok_iff.mp hread)

/-- Reads a whole template into its nodes. -/
def readTemplate (c : ByteCursor) : Except Stop Tree := do
  let s ← loop (fun s => s.cursor.left) (piecePass tokens full) (piecePass_lt tokens full)
    ⟨[], "", false, c⟩
  if s.escaping then failAt s.cursor .unexpectedEndWhileEscaping
  else return s.flush.reverse

/-- The tree of a template, or the first fault in it. An empty literal is a fault at the front of
every template. -/
def parse (blanks : Finder) (template : String) : Except Stop Tree :=
  let cursor := ByteCursor.ofString template blanks
  match h : tokens.firstEmpty? with
  | some role => failAt cursor (.emptyToken role)
  | none => Tree.prune <$> readTemplate tokens h cursor

end CursorScan

end TagText
