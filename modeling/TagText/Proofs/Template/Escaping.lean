import TagText.Proofs.Template.TemplateReading
import TagText.Proofs.Template.TextPieces
import TagText.Renderer

/-!
# Escaped text comes back

A text in which every escape, opening and closing literal has the escape literal in front of it is a
template whose tree is that text alone, and rendering gives it back. For literals of more than one
character this is not true in general: an escape literal put into a text could complete a literal
that was not there before. It is true when the first character of the escape literal occurs nowhere
else in the three literals (`parseWith_escapeWith`). The two delimiters may then still overlap,
begin with one another, or be equal.

The argument compares a text `s` with its encoding at one place. Any literal that stands in the
encoding, `v ++ encode s` for some `v`, also stands in `v ++ s` (`starts_of_starts_encode`): what is
inserted begins with a character that a literal could only have at its front, so the literal ends
before the first insertion, and up to there nothing was changed.
-/

namespace TagText

open Scan

/-- A text with the escape literal in front of every escape, opening and closing literal. -/
def escapeWith (l : Literals) (text : String) : String :=
  String.ofList (Piece.writeAll l (Piece.ofText l text.toList))

/-- The tree of a template that is text: none for the empty text, else that text alone. -/
def Tree.ofText (text : String) : Tree := if text = "" then [] else [.text text]

variable {l : Literals} {first : Char}

/-! ## Literals in an encoded text -/

/-- Characters in front of an encoded text that cannot be of an escape literal are of the text. -/
theorem prefix_of_prefix_encode (hescape : (l.of .escape).head? = some first) {w s : List Char}
    (hw : first ∉ w) (h : w <+: Piece.writeAll l (Piece.ofText l s)) : w <+: s := by
  induction s using text_induction l generalizing w with
  | nil => exact h
  | char c s hliteral ih =>
    rw [ofText_cons l hliteral, Piece.writeAll_cons] at h
    cases w with
    | nil => exact List.nil_prefix
    | cons d w =>
      obtain ⟨rfl, htail⟩ := List.cons_prefix_cons.mp h
      exact List.cons_prefix_cons.mpr ⟨rfl, ih (List.not_mem_of_not_mem_cons hw) htail⟩
  | literal role s hliteral ih =>
    rw [ofText_append l hliteral, Piece.writeAll_cons] at h
    cases w with
    | nil => exact List.nil_prefix
    | cons d w =>
      -- Here the encoding begins with the escape literal, so `d` would be its first character.
      obtain ⟨r, hr⟩ := List.head?_eq_some_iff.mp hescape
      rw [Piece.write, hr] at h
      obtain ⟨rfl, -⟩ := List.cons_prefix_cons.mp h
      exact absurd List.mem_cons_self hw

theorem prefix_append_of_prefix_encode (hescape : (l.of .escape).head? = some first)
    {w v s : List Char} (hw : first ∉ w)
    (h : w <+: v ++ Piece.writeAll l (Piece.ofText l s)) : w <+: v ++ s := by
  induction v generalizing w with
  | nil => exact prefix_of_prefix_encode hescape hw h
  | cons c v ih =>
    cases w with
    | nil => exact List.nil_prefix
    | cons d w =>
      obtain ⟨rfl, htail⟩ := List.cons_prefix_cons.mp h
      exact List.cons_prefix_cons.mpr ⟨rfl, ih (List.not_mem_of_not_mem_cons hw) htail⟩

/-- A literal that stands where the encoding of `s` follows stands there also when `s` itself
follows. Only its first character may be the one that escape literals begin with. -/
theorem starts_of_starts_encode (hescape : (l.of .escape).head? = some first) {role : Role}
    (hrole : first ∉ (l.of role).tail) {c : Char} {v s : List Char}
    (h : l.starts role (c :: (v ++ Piece.writeAll l (Piece.ofText l s))) = true) :
    l.starts role (c :: (v ++ s)) = true := by
  obtain ⟨d, r, hd⟩ := List.exists_cons_of_ne_nil (l.of_ne_nil role)
  rw [Literals.starts, List.isPrefixOf_iff_prefix, hd] at h ⊢
  rw [hd, List.tail_cons] at hrole
  obtain ⟨rfl, htail⟩ := List.cons_prefix_cons.mp h
  exact List.cons_prefix_cons.mpr ⟨rfl, prefix_append_of_prefix_encode hescape hrole htail⟩

/-- So the first literal at a place is the same in front of `s` and of its encoding, as long as the
encoding leaves the literal itself alone. -/
theorem literalAt_encode (hescape : (l.of .escape).head? = some first)
    (htails : ∀ role, role = .escape ∨ role = .tagOpen ∨ role = .tagClose →
      first ∉ (l.of role).tail) {c : Char} {v s : List Char}
    (hkeeps : ∀ role, literalAt l (c :: (v ++ s)) = some role →
      l.starts role (c :: (v ++ Piece.writeAll l (Piece.ofText l s))) = true) :
    literalAt l (c :: (v ++ Piece.writeAll l (Piece.ofText l s))) =
      literalAt l (c :: (v ++ s)) := by
  have hfalse : ∀ role, role = .escape ∨ role = .tagOpen ∨ role = .tagClose →
      l.starts role (c :: (v ++ s)) = false →
        l.starts role (c :: (v ++ Piece.writeAll l (Piece.ofText l s))) = false := by
    intro role hrole hs
    rw [← Bool.not_eq_true] at hs ⊢
    exact fun h => hs (starts_of_starts_encode hescape (htails role hrole) h)
  cases hliteral : literalAt l (c :: (v ++ s)) with
  | none =>
    obtain ⟨he, ho, hc⟩ := literalAt_eq_none_iff.mp hliteral
    exact literalAt_eq_none_iff.mpr ⟨hfalse _ (by simp) he, hfalse _ (by simp) ho,
      hfalse _ (by simp) hc⟩
  | some role =>
    have hstarts := hkeeps role hliteral
    rcases literalAt_eq_some_iff.mp hliteral with ⟨rfl, -⟩ | ⟨rfl, he, -⟩ | ⟨rfl, he, ho, -⟩
    · exact literalAt_eq_some_iff.mpr (Or.inl ⟨rfl, hstarts⟩)
    · exact literalAt_eq_some_iff.mpr (Or.inr (Or.inl ⟨rfl, hfalse _ (by simp) he, hstarts⟩))
    · exact literalAt_eq_some_iff.mpr
        (Or.inr (Or.inr ⟨rfl, hfalse _ (by simp) he, hfalse _ (by simp) ho, hstarts⟩))

/-- The pieces of a text are read as they are spelled. -/
theorem spelled_ofText {blank : List Char → Nat} (hescape : (l.of .escape).head? = some first)
    (htails : ∀ role, role = .escape ∨ role = .tagOpen ∨ role = .tagClose →
      first ∉ (l.of role).tail) (s : List Char) :
    Spelled l blank false (Piece.ofText l s) := by
  induction s using text_induction l with
  | nil => exact .done
  | char c s hliteral ih =>
    rw [ofText_cons l hliteral]
    refine .char ?_ ih
    -- No literal stands at `c` in the text, so the encoding has no literal to keep.
    have hsame := literalAt_encode (v := []) hescape htails fun role hrole =>
      absurd (hrole.symm.trans hliteral) (by simp)
    exact hsame.trans hliteral
  | literal role s hliteral ih =>
    rw [ofText_append l hliteral]
    refine .escaped ?_ (Or.inr rfl) ih
    -- The literal `c :: r` is copied behind its escape literal, and nothing is inserted into it.
    obtain ⟨c, r, hrole⟩ := List.exists_cons_of_ne_nil (l.of_ne_nil role)
    have hsame := literalAt_encode (c := c) (v := r) (s := s) hescape htails fun other hother => by
      rw [← List.cons_append, ← hrole] at hother ⊢
      obtain rfl : role = other := Option.some.inj (hliteral.symm.trans hother)
      exact starts_append l role _
    rw [← List.cons_append, ← List.cons_append, ← hrole] at hsame
    exact hsame.trans hliteral

/-! ## The round trip -/

theorem joinText_toList (text : String) : Piece.joinText text.toList [] = Tree.ofText text := by
  by_cases h : text = ""
  · subst h
    rfl
  · obtain ⟨c, s, hs⟩ := List.exists_cons_of_ne_nil (mt String.toList_eq_nil_iff.mp h)
    rw [Tree.ofText, if_neg h, hs]
    show [Node.text (String.ofList (c :: s))] = _
    rw [← hs, String.ofList_toList]

/-- Text is rendered as it stands, whatever the values are. -/
theorem render_ofText (objects : Objects) (r : Renderer) (text : String) (extra : Entries)
    (processor : Option Processor) :
    r.render objects (Tree.ofText text) extra processor = .ok text := by
  rw [Renderer.render, Tree.ofText]
  by_cases h : text = ""
  · rw [if_pos h, h]
    rfl
  · rw [if_neg h]
    simp [Renderer.renderOnto, Renderer.renderNode]

/-- **Escaping round-trips.** When the first character of the escape literal occurs nowhere else in
it and in neither delimiter, escaped text parses to that text alone, and is rendered as it. -/
theorem parseWith_escapeWith {tokens : Tokens} (hne : ∀ role, tokens.get role ≠ "")
    {others : List Char} (hescape : (tokens.get .escape).toList = first :: others)
    (hothers : first ∉ others) (hopen : first ∉ (tokens.get .tagOpen).toList)
    (hclose : first ∉ (tokens.get .tagClose).toList) (blank : List Char → Nat) (text : String) :
    parseWith tokens blank (escapeWith (tokens.literals hne) text) = .ok (Tree.ofText text) ∧
      ∀ objects (r : Renderer) extra processor,
        r.render objects (Tree.ofText text) extra processor = .ok text := by
  refine ⟨?_, fun objects r extra processor => render_ofText objects r text extra processor⟩
  have hhead : ((tokens.literals hne).of .escape).head? = some first :=
    (congrArg List.head? hescape).trans List.head?_cons
  have htails : ∀ role, role = .escape ∨ role = .tagOpen ∨ role = .tagClose →
      first ∉ ((tokens.literals hne).of role).tail := by
    rintro role (rfl | rfl | rfl)
    · show first ∉ (tokens.get .escape).toList.tail
      rw [hescape]
      exact hothers
    · exact fun hmem => hopen (List.mem_of_mem_tail hmem)
    · exact fun hmem => hclose (List.mem_of_mem_tail hmem)
  refine (parseWith_eq_ok_iff hne).mpr
    ⟨Piece.ofText _ text.toList, spelled_ofText hhead htails _, ?_, ?_⟩
  · rw [escapeWith, String.toList_ofList]
  · rw [assemble_ofText, joinText_toList]

/-- Of these delimiters one begins with the other. -/
def Tokens.nested : Tokens := ⟨"!~", "[[", "[[[", ">", "->"⟩

theorem Tokens.get_nested_ne_empty : ∀ role, Tokens.nested.get role ≠ "" :=
  Tokens.firstEmpty?_eq_none_iff.mp (by decide)

theorem parseWith_escapeWith_nested :
    (∀ role, Tokens.nested.get role ≠ "") ∧
      (Tokens.nested.get .escape).toList = ['!', '~'] ∧ '!' ∉ ['~'] ∧
      '!' ∉ (Tokens.nested.get .tagOpen).toList ∧ '!' ∉ (Tokens.nested.get .tagClose).toList ∧
      escapeWith (Tokens.nested.literals Tokens.get_nested_ne_empty) "a![[[!~" =
        "a!!~[[[!~!~" ∧
      parseWith .nested Pattern.blanks.prefixLength
        (escapeWith (Tokens.nested.literals Tokens.get_nested_ne_empty) "a![[[!~") =
          .ok (Tree.ofText "a![[[!~") ∧
      ∀ objects (r : Renderer) extra processor,
        r.render objects (Tree.ofText "a![[[!~") extra processor = .ok "a![[[!~" :=
  ⟨Tokens.get_nested_ne_empty, rfl, by decide, by decide, by decide, by decide +kernel,
    parseWith_escapeWith Tokens.get_nested_ne_empty rfl (by decide) (by decide) (by decide) _ _⟩

end TagText
