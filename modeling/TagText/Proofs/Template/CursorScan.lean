import TagText.Proofs.Cursor.Bytes
import TagText.Template.CursorScan
import TagText.Template.Parser

/-!
# The scanner and its cursor

`CursorScan` goes over the bytes of a template with a cursor, `Scan` takes characters from those that
are ahead. Here the first is shown to be the second: each step of the one, with the cursor where
certain characters are ahead (`CursorScan.At`), comes to what the same step of the other comes to
with these characters (`CursorScan.Agrees`), up to the place of a fault, which one counts from the
front and the other from the end.

> `CursorScan.parse_eq`: of a template whose characters can be counted, both parsers tell the same
> tree or the same fault, and the cursor is never lost.

What is proved of the trees and the faults of templates is so proved of the parser with the cursor.
-/

namespace TagText

namespace CursorScan

open Scan (Literals Fault skipBlank found)

variable {tokens : Tokens} {template : String}
  {blank : List Char → Nat} {α β : Type}

/-! ## What agrees -/

/-- A cursor in `template` stands where `ahead` is ahead, and skips what `blank` counts. -/
def At (template : String) (blank : List Char → Nat) (c : ByteCursor) (ahead : List Char) : Prop :=
  ∃ p, c.Refines p ∧ p.source = template.toList ∧ p.blanks.prefixLength = blank ∧ p.ahead = ahead

/-- Both scans succeed with results that belong together, or have the same fault at the same
place. -/
inductive Agrees (template : String) (R : α → β → Prop) : Except Stop α → Except Fault β → Prop
  | ok {a : α} {b : β} (h : R a b) : Agrees template R (.ok a) (.ok b)
  | fault (kind : ParseError.Kind) (ahead : List Char) :
    Agrees template R
      (.error (.fault ⟨kind, template.length - ahead.length, template⟩)) (.error ⟨kind, ahead⟩)

variable {R : α → β → Prop} {x : Except Stop α} {y : Except Fault β}

theorem Agrees.ok_or_fault (h : Agrees template R x y) :
    (∃ a b, x = .ok a ∧ y = .ok b ∧ R a b) ∨
      ∃ kind ahead, y = .error ⟨kind, ahead⟩ ∧
        x = .error (.fault ⟨kind, template.length - ahead.length, template⟩) := by
  cases h with
  | ok h => exact .inl ⟨_, _, rfl, rfl, h⟩
  | fault kind ahead => exact .inr ⟨kind, ahead, rfl, rfl⟩

/-- Two loops agree if their passes do. -/
theorem loop_agrees {σ τ : Type} {R : σ → τ → Prop} {size : σ → Nat} {size' : τ → Nat}
    {pass : σ → Except Stop (Option σ)} {pass' : τ → Except Fault (Option τ)}
    {shrinks : ∀ s t, pass s = .ok (some t) → size t < size s}
    {shrinks' : ∀ s t, pass' s = .ok (some t) → size' t < size' s}
    (step : ∀ s t, R s t → Agrees template (Option.Rel R) (pass s) (pass' t))
    {s : σ} {t : τ} (h : R s t) :
    Agrees template R (loop size pass shrinks s) (loop size' pass' shrinks' t) := by
  -- The induction is on the rounds with a cursor. The other loop has a round for each of them, so
  -- its own measure is not needed.
  fun_induction loop size pass shrinks s generalizing t with
  | case1 s e he =>
    obtain ⟨_, _, hok, -⟩ | ⟨kind, ahead, hpass', hpass⟩ := (step s t h).ok_or_fault
    · exact absurd (he.symm.trans hok) (by simp)
    · obtain rfl := Except.error.inj (he.symm.trans hpass)
      rw [loop_of_error hpass']
      exact .fault kind ahead
  | case2 s hnone =>
    obtain ⟨a, b, hpass, hpass', hab⟩ | ⟨_, _, -, hpass⟩ := (step s t h).ok_or_fault
    · obtain rfl := Except.ok.inj (hnone.symm.trans hpass)
      cases hab
      rw [loop_of_none hpass']
      exact .ok h
    · exact absurd (hnone.symm.trans hpass) (by simp)
  | case3 s u hsome _ ih =>
    obtain ⟨a, b, hpass, hpass', hab⟩ | ⟨_, _, -, hpass⟩ := (step s t h).ok_or_fault
    · obtain rfl := Except.ok.inj (hsome.symm.trans hpass)
      cases hab with
      | some hu =>
        rw [loop_of_some hpass']
        exact ih hu
    · exact absurd (hsome.symm.trans hpass) (by simp)

/-! ## Looking and moving -/

namespace At

variable {c : ByteCursor} {ahead : List Char}

theorem ofString (h : template.length < UInt64.size) (blanks : Finder) :
    At template blanks.matcher.prefixLength (.ofString template blanks) template.toList :=
  ⟨_, ByteCursor.refines_ofString h blanks, rfl, rfl, rfl⟩

theorem source_eq (h : At template blank c ahead) : c.source = template := by
  obtain ⟨p, hp, hsource, -, -⟩ := h
  exact String.toList_inj.mp (hp.source.trans hsource)

theorem index_eq (h : At template blank c ahead) :
    c.index.toNat = template.length - ahead.length := by
  obtain ⟨p, hp, hsource, -, rfl⟩ := h
  rw [hp.index, Cursor.index, hsource, String.length_toList]

theorem isAtEnd_eq (h : At template blank c ahead) : c.isAtEnd = ahead.isEmpty := by
  obtain ⟨p, hp, -, -, rfl⟩ := h
  exact hp.isAtEnd_eq

theorem nextIs_eq (h : At template blank c ahead) (full : tokens.firstEmpty? = none)
    (role : Role) :
    nextIs tokens c role = .ok ((Literals.ofTokens tokens full).starts role ahead) := by
  obtain ⟨p, hp, -, -, rfl⟩ := h
  rw [nextIs, hp.nextEquals?_eq, Cursor.nextEquals_eq]
  rfl

theorem skip (h : At template blank c ahead) (full : tokens.firstEmpty? = none) (role : Role) :
    At template blank (skip tokens c role) ((Literals.ofTokens tokens full).skip role ahead) := by
  obtain ⟨p, hp, hsource, hblanks, rfl⟩ := h
  refine ⟨_, hp.seekSame _, hsource, hblanks, ?_⟩
  rw [Literals.skip, Literals.ofTokens, String.length_toList]
  rfl

theorem seekBlanks (h : At template blank c ahead) :
    ∃ d, had c.seekBlanks? = .ok d ∧ At template blank d (skipBlank blank ahead) := by
  obtain ⟨p, hp, hsource, rfl, rfl⟩ := h
  obtain ⟨d, hd, hrefines⟩ := hp.seekBlanks?_eq
  exact ⟨d, had_eq_ok_iff.mpr hd, _, hrefines, hsource, rfl, rfl⟩

theorem read_one (h : At template blank c ahead) :
    ∃ d, had (c.read? 1) = .ok (.ofList (ahead.take 1), d) ∧
      At template blank d (ahead.drop 1) := by
  obtain ⟨p, hp, hsource, hblanks, rfl⟩ := h
  exact ⟨_, had_eq_ok_iff.mpr (hp.read?_eq 1), _, hp.seek 1, hsource, hblanks, rfl⟩

theorem readPattern (h : At template blank c ahead) (m : Matcher) :
    ∃ d, had (c.readPattern? (.ofMatcher m)) =
        .ok (.ofList (ahead.take (m.prefixLength ahead)), d) ∧
      At template blank d (ahead.drop (m.prefixLength ahead)) := by
  obtain ⟨p, hp, hsource, hblanks, rfl⟩ := h
  obtain ⟨d, hd, hrefines⟩ := hp.readPattern?_ofMatcher m
  exact ⟨d, had_eq_ok_iff.mpr hd, _, hrefines, hsource, hblanks, rfl⟩

theorem failAt (h : At template blank c ahead) (kind : ParseError.Kind) :
    Agrees template R (failAt c kind) (.error ⟨kind, ahead⟩) := by
  rw [CursorScan.failAt, h.index_eq, h.source_eq]
  exact .fault kind ahead

theorem failShowing (h : At template blank c ahead) (kind : String → ParseError.Kind) :
    Agrees template R (failShowing c kind) (.error ⟨kind (found ahead), ahead⟩) := by
  have hpeek : had (c.peek? 1) = .ok (found ahead) := by
    obtain ⟨p, hp, -, -, rfl⟩ := h
    exact had_eq_ok_iff.mpr (hp.peek?_eq 1)
  rw [CursorScan.failShowing, hpeek]
  exact h.failAt _

end At

/-! ## Paths, modifiers and tags -/

variable (full : tokens.firstEmpty? = none)

/-- What a name takes is empty only if it takes nothing, as nothing is taken where nothing is. -/
theorem isEmpty_take_iff {p : Pattern} (hnil : p.prefixLength [] = 0) (s : List Char) :
    (String.ofList (s.take (p.prefixLength s))).isEmpty = true ↔ p.prefixLength s = 0 := by
  rw [String.isEmpty_iff, ← String.toList_inj, String.toList_ofList, String.toList_empty,
    List.take_eq_nil_iff]
  refine ⟨?_, Or.inl⟩
  rintro (hzero | rfl)
  · exact hzero
  · exact hnil

/-- Both have read the same segments, and stand at the same place. -/
structure PathState.Agrees (template : String) (blank : List Char → Nat) (s : PathState)
    (t : Scan.PathState) : Prop where
  segments : s.segments = t.segments
  awaiting : s.awaiting = t.awaiting
  place : At template blank s.cursor t.ahead

theorem pathPass_agrees (s : PathState) (t : Scan.PathState) (h : s.Agrees template blank t) :
    Agrees template (Option.Rel (PathState.Agrees template blank)) (pathPass tokens s)
      (Scan.pathPass (.ofTokens tokens full) t) := by
  obtain ⟨segments, awaiting, c⟩ := s
  obtain ⟨_, _, ahead⟩ := t
  obtain ⟨rfl, rfl, hat : At template blank c ahead⟩ := h
  unfold pathPass Scan.pathPass
  simp only [hat.isAtEnd_eq, List.isEmpty_iff]
  split
  next => exact .ok .none
  next =>
    have hvalue := isEmpty_take_iff (p := Identifier.segment) rfl ahead
    obtain ⟨d, hread, hafter⟩ := hat.readPattern Identifier.segment.matcher
    rw [Pattern.prefixLength_matcher] at hread hafter
    rw [segment, hread, ok_bind]
    simp only [Bool.not_eq_true', ← Bool.not_eq_true, hvalue]
    split
    next => exact .ok (.some ⟨rfl, rfl, hafter⟩)
    next hn =>
      -- Where no segment is taken the cursor has not moved.
      rw [Decidable.not_not.mp hn, List.drop_zero] at hafter
      rw [hafter.nextIs_eq full, ok_bind]
      split
      next =>
        split
        next => exact hafter.failAt _
        next => exact .ok (.some ⟨rfl, rfl, hafter.skip full _⟩)
      next => exact .ok .none

/-- Both have read the same, and stand at the same place. -/
def ReadAgrees (template : String) (blank : List Char → Nat) (r : α × ByteCursor)
    (q : α × List Char) : Prop :=
  r.1 = q.1 ∧ At template blank r.2 q.2

variable {c : ByteCursor} {ahead : List Char}

theorem readPath_agrees (h : At template blank c ahead) :
    Agrees template (ReadAgrees template blank) (readPath tokens full c)
      (Scan.readPath (.ofTokens tokens full) ahead) := by
  unfold readPath Scan.readPath
  have hstart : PathState.Agrees template blank ⟨[], false, c⟩ ⟨[], false, ahead⟩ := ⟨rfl, rfl, h⟩
  obtain ⟨s, t, hs, ht, hst⟩ | ⟨kind, ahead', ht, hs⟩ :=
    (loop_agrees (pathPass_agrees full) hstart).ok_or_fault
  · rw [hs, ht, ok_bind, hst.segments]
    dsimp only
    split
    · exact hst.place.failAt _
    · exact .ok ⟨rfl, hst.place⟩
  · rw [hs, ht]
    exact .fault kind ahead'

/-- Both have read the same modifiers, and stand at the same place. -/
structure ModifierState.Agrees (template : String) (blank : List Char → Nat) (s : ModifierState)
    (t : Scan.ModifierState) : Prop where
  modifiers : s.modifiers = t.modifiers
  place : At template blank s.cursor t.ahead

theorem modifierPass_agrees (s : ModifierState) (t : Scan.ModifierState)
    (h : s.Agrees template blank t) :
    Agrees template (Option.Rel (ModifierState.Agrees template blank)) (modifierPass tokens s)
      (Scan.modifierPass (.ofTokens tokens full) blank t) := by
  obtain ⟨modifiers, c⟩ := s
  obtain ⟨_, ahead⟩ := t
  obtain ⟨rfl, hat : At template blank c ahead⟩ := h
  unfold modifierPass Scan.modifierPass
  simp only [hat.isAtEnd_eq, List.isEmpty_iff]
  split
  next => exact .ok .none
  next =>
    rw [hat.nextIs_eq full, ok_bind]
    split
    next =>
      obtain ⟨before, hbefore, hat⟩ := (hat.skip full .tagModifier).seekBlanks
      have hname := isEmpty_take_iff (p := Identifier.modifier) rfl
        (skipBlank blank ((Literals.ofTokens tokens full).skip .tagModifier ahead))
      obtain ⟨d, hread, hafter⟩ := hat.readPattern Identifier.modifier.matcher
      obtain ⟨last, hlast, hend⟩ := hafter.seekBlanks
      rw [Pattern.prefixLength_matcher] at hread hafter hend
      rw [hbefore, ok_bind, modifier, hread, ok_bind]
      simp only [hname]
      split
      next hn =>
        rw [hn, List.drop_zero] at hafter
        exact hafter.failShowing _
      next =>
        rw [hlast]
        exact .ok (.some ⟨rfl, hend⟩)
    next => exact .ok .none

theorem readModifiers_agrees (h : At template blank c ahead) :
    Agrees template (ReadAgrees template blank) (readModifiers tokens full c)
      (Scan.readModifiers (.ofTokens tokens full) blank ahead) := by
  unfold readModifiers Scan.readModifiers
  have hstart : ModifierState.Agrees template blank ⟨[], c⟩ ⟨[], ahead⟩ := ⟨rfl, h⟩
  obtain ⟨s, t, hs, ht, hst⟩ | ⟨kind, ahead', ht, hs⟩ :=
    (loop_agrees (modifierPass_agrees full) hstart).ok_or_fault
  · rw [hs, ht, ok_bind, hst.modifiers]
    exact .ok ⟨rfl, hst.place⟩
  · rw [hs, ht]
    exact .fault kind ahead'

theorem readTag_agrees (h : At template blank c ahead) :
    Agrees template (ReadAgrees template blank) (readTag tokens full c)
      (Scan.readTag (.ofTokens tokens full) blank ahead) := by
  unfold readTag Scan.readTag
  obtain ⟨c₁, hc₁, hpath⟩ := (h.skip full .tagOpen).seekBlanks
  rw [hc₁, ok_bind]
  obtain ⟨⟨path, c₂⟩, ⟨_, ahead₂⟩, hs, ht, rfl, hat₂⟩ | ⟨kind, ahead', ht, hs⟩ :=
    (readPath_agrees full hpath).ok_or_fault
  case inr =>
    rw [hs, ht]
    exact .fault kind ahead'
  obtain ⟨c₃, hc₃, hmodifiers⟩ := hat₂.seekBlanks
  rw [hs, ht, ok_bind]
  dsimp only
  rw [hc₃, ok_bind]
  obtain ⟨⟨modifiers, c₄⟩, ⟨_, ahead₄⟩, hs, ht, rfl, hat₄⟩ | ⟨kind, ahead', ht, hs⟩ :=
    (readModifiers_agrees full hmodifiers).ok_or_fault
  case inr =>
    rw [hs, ht]
    exact .fault kind ahead'
  obtain ⟨c₅, hc₅, hclose⟩ := hat₄.seekBlanks
  rw [hs, ht, ok_bind]
  dsimp only
  rw [hc₅, ok_bind, hclose.nextIs_eq full, ok_bind]
  split
  · exact .ok ⟨rfl, hclose.skip full _⟩
  · exact hclose.failShowing _

/-! ## The pieces of a template -/

/-- Both have the same nodes and the same text in hand, and stand at the same place. -/
structure State.Agrees (template : String) (blank : List Char → Nat) (s : State)
    (t : Scan.State) : Prop where
  nodes : s.nodes = t.nodes
  pending : s.pending = .ofList t.pending.reverse
  escaping : s.escaping = t.escaping
  place : At template blank s.cursor t.ahead

namespace State.Agrees

variable {s : State} {t : Scan.State}

theorem flush (h : s.Agrees template blank t) : s.flush = t.flush := by
  have hempty : s.pending.isEmpty = t.pending.isEmpty := by
    rw [h.pending, Bool.eq_iff_iff]
    simp
  rw [State.flush, Scan.State.flush, hempty, h.nodes, h.pending]

theorem inText (h : s.Agrees template blank t) : s.inText = t.inText := by
  obtain ⟨nodes, pending, escaping, cursor⟩ := s
  obtain ⟨_, pending', escaping', ahead⟩ := t
  obtain rfl := h.nodes
  cases nodes <;> rfl

theorem takeLiteral (h : s.Agrees template blank t) (role : Role) :
    (s.takeLiteral tokens role).Agrees template blank
      (t.takeLiteral (.ofTokens tokens full) role) where
  nodes := h.nodes
  pending := by
    simp [State.takeLiteral, Scan.State.takeLiteral, h.pending, Literals.ofTokens,
      String.ofList_append]
  escaping := rfl
  place := h.place.skip full role

end State.Agrees

theorem escapedPass_agrees {s : State} {t : Scan.State} (h : s.Agrees template blank t) :
    Agrees template (State.Agrees template blank) (escapedPass tokens s)
      (Scan.escapedPass (.ofTokens tokens full) t) := by
  unfold escapedPass Scan.escapedPass
  simp only [h.place.nextIs_eq full, ok_bind, h.inText]
  split
  · exact .ok (h.takeLiteral full .escape)
  split
  · split
    · exact .ok (h.takeLiteral full .tagOpen)
    · exact h.place.failAt _
  split
  · split
    · exact .ok (h.takeLiteral full .tagClose)
    · exact h.place.failAt _
  · exact h.place.failShowing _

theorem piecePass_agrees (s : State) (t : Scan.State) (h : s.Agrees template blank t) :
    Agrees template (Option.Rel (State.Agrees template blank)) (piecePass tokens full s)
      (Scan.piecePass (.ofTokens tokens full) blank t) := by
  have hend := h.place.isAtEnd_eq
  unfold piecePass Scan.piecePass
  rw [hend]
  cases hahead : t.ahead with
  | nil => exact .ok .none
  | cons next rest =>
    rw [List.isEmpty_cons, if_neg Bool.false_ne_true, h.escaping]
    dsimp only
    -- What an escape makes text comes first, then what stands next.
    split
    · obtain ⟨u, v, hu, hv, huv⟩ | ⟨kind, ahead', hv, hu⟩ :=
        (escapedPass_agrees full h).ok_or_fault
      · rw [hu, hv]
        exact .ok (.some huv)
      · rw [hu, hv]
        exact .fault kind ahead'
    simp only [h.place.nextIs_eq full, ok_bind, ← hahead]
    split
    · exact .ok (.some ⟨h.nodes, h.pending, rfl, h.place.skip full _⟩)
    split
    · obtain ⟨⟨tag, d⟩, ⟨_, rest⟩, hs, ht, rfl, hat⟩ | ⟨kind, ahead', ht, hs⟩ :=
        (readTag_agrees full h.place).ok_or_fault
      · rw [hs, ht, ok_bind]
        exact .ok (.some ⟨congrArg _ h.flush, rfl, rfl, hat⟩)
      · rw [hs, ht]
        exact .fault kind ahead'
    split
    · exact h.place.failAt _
    · obtain ⟨d, hread, hat⟩ := h.place.read_one
      rw [hahead] at hread hat
      rw [hread, ok_bind]
      refine .ok (.some ⟨h.nodes, ?_, rfl, hat⟩)
      simp [h.pending, String.ofList_append]

theorem readTemplate_agrees (h : At template blank c ahead) :
    Agrees template Eq (readTemplate tokens full c)
      (Scan.readTemplate (.ofTokens tokens full) blank ahead) := by
  unfold readTemplate Scan.readTemplate
  have hstart : State.Agrees template blank ⟨[], "", false, c⟩ (.start ahead) :=
    ⟨rfl, rfl, rfl, h⟩
  obtain ⟨s, t, hs, ht, hst⟩ | ⟨kind, ahead', ht, hs⟩ :=
    (loop_agrees (piecePass_agrees full) hstart).ok_or_fault
  · rw [hs, ht, ok_bind, hst.escaping, hst.flush]
    dsimp only
    split
    · exact hst.place.failAt _
    · exact .ok rfl
  · rw [hs, ht]
    exact .fault kind ahead'

theorem parse_of_firstEmpty? {role : Role} (h : tokens.firstEmpty? = some role) (blanks : Finder)
    (template : String) :
    parse tokens blanks template = .error (.fault ⟨.emptyToken role, 0, template⟩) := by
  unfold parse
  split
  next first hfirst => rw [Option.some.inj (h.symm.trans hfirst)]; rfl
  next hnone => exact absurd (h.symm.trans hnone) (by simp)

theorem parse_of_full (blanks : Finder) (template : String) :
    parse tokens blanks template =
      Tree.prune <$> readTemplate tokens full (.ofString template blanks) := by
  unfold parse
  split
  next role hrole => exact absurd (full.symm.trans hrole) (by simp)
  next => rfl

/-- **The scanner with a cursor.** It parses as the scanner without one does, and never loses its
cursor. -/
theorem parse_eq (tokens : Tokens) (blanks : Finder) {template : String}
    (h : template.length < UInt64.size) :
    parse tokens blanks template =
      (Parser.parse ⟨tokens, blanks.matcher⟩ template).mapError .fault := by
  rw [Parser.parse]
  cases hfirst : tokens.firstEmpty? with
  | some role => rw [parse_of_firstEmpty? hfirst, parseWith_of_firstEmpty? hfirst, mapError_error]
  | none =>
    rw [parse_of_full hfirst, parseWith_of_full hfirst]
    obtain ⟨tree, _, hs, ht, rfl⟩ | ⟨kind, ahead', ht, hs⟩ :=
      (readTemplate_agrees hfirst (At.ofString h blanks)).ok_or_fault
    · rw [hs, ht]
      rfl
    · rw [hs, ht]
      rfl

end CursorScan

end TagText
