import TagText.Proofs.Template.TemplateReading

/-!
# Every character of a template is in its tree

A template that parses is, from front to back, the text of the pieces that its tree stands for, so
the scanner loses no character, takes none twice and never changes their order. This needs nothing
of the literals but that they are not empty, and nothing at all of the matcher of blanks.

> `exists_pieces_of_parseWith`: the template is the text of pieces, each of which is what
> `Piece.StandsBefore` asks for in front of the text of the pieces behind it, and their tree is the
> parsed one.
-/

namespace TagText

open Scan

/-- What a piece is in front of `rest`: a character where none of the three literals stands, one of
the three behind the escape literal, or a tag with at least one segment and with the blanks that the
matcher takes at their places. -/
def Piece.StandsBefore (l : Literals) (blank : List Char → Nat) : Piece → List Char → Prop
  | .char c, rest => l.starts .escape (c :: rest) = false ∧ l.starts .tagOpen (c :: rest) = false ∧
      l.starts .tagClose (c :: rest) = false
  | .escaped role, _ => role = .escape ∨ role = .tagOpen ∨ role = .tagClose
  | .tag t, rest => t.path ≠ [] ∧ TagSpelled l blank t rest

variable {l : Literals} {blank : List Char → Nat}

/-- The first of spelled pieces stands before the others, which are spelled too. -/
theorem standsBefore_of_spelled {afterTag : Bool} {p : Piece} {ps : List Piece}
    (h : Spelled l blank afterTag (p :: ps)) :
    p.StandsBefore l blank (Piece.writeAll l ps) ∧ ∃ afterTag, Spelled l blank afterTag ps := by
  cases h with
  | char hliteral hps => exact ⟨literalAt_eq_none_iff.mp hliteral, _, hps⟩
  | escaped hliteral _ hps =>
    refine ⟨?_, _, hps⟩
    rcases literalAt_eq_some_iff.mp hliteral with ⟨hrole, -⟩ | ⟨hrole, -⟩ | ⟨hrole, -⟩
    · exact Or.inl hrole
    · exact Or.inr (Or.inl hrole)
    · exact Or.inr (Or.inr hrole)
  | tag _ htag hps => exact ⟨⟨htag.path_ne_nil, htag⟩, _, hps⟩

/-- Wherever spelled pieces are divided, the piece there stands before the text of the others. -/
theorem standsBefore_of_spelled_append {afterTag : Bool} {before after : List Piece} {p : Piece}
    (h : Spelled l blank afterTag (before ++ p :: after)) :
    p.StandsBefore l blank (Piece.writeAll l after) := by
  induction before generalizing afterTag with
  | nil => exact (standsBefore_of_spelled h).1
  | cons q before ih =>
    obtain ⟨-, afterTag, hrest⟩ := standsBefore_of_spelled h
    exact ih hrest

/-- **No character is lost, doubled or moved.** A template that parses is the text of pieces that
stand one before the other, and the tree is theirs: the characters and escaped literals between two
tags are one text, without the escape literals in front of the latter, and every tag has exactly the
path and the modifiers that are written there. -/
theorem exists_pieces_of_parseWith {tokens : Tokens} (hne : ∀ role, tokens.get role ≠ "")
    {template : String} {tree : Tree} (h : parseWith tokens blank template = .ok tree) :
    ∃ ps : List Piece,
      (∀ before p after, ps = before ++ p :: after →
        p.StandsBefore (tokens.literals hne) blank
          (Piece.writeAll (tokens.literals hne) after)) ∧
      Piece.writeAll (tokens.literals hne) ps = template.toList ∧
      Piece.assemble (tokens.literals hne) ps = tree := by
  obtain ⟨ps, hps, htext, htree⟩ := (parseWith_eq_ok_iff hne).mp h
  refine ⟨ps, ?_, htext, htree⟩
  intro before p after hsplit
  exact standsBefore_of_spelled_append (hsplit ▸ hps)

/-- Literals that overlap: the escape literal goes on where the opening one ends. -/
def Tokens.overlapping : Tokens := ⟨"<<<", "<<", ">>", "|", "::"⟩

theorem Tokens.get_overlapping_ne_empty : ∀ role, Tokens.overlapping.get role ≠ "" :=
  Tokens.firstEmpty?_eq_none_iff.mp (by decide)

theorem exists_pieces_of_parseWith_overlapping :
    ∃ hne : ∀ role, Tokens.overlapping.get role ≠ "",
      parseWith .overlapping Pattern.blanks.prefixLength "<<<<<a<< x::y:: |up >>" =
        .ok [.text "<<a", .tag ⟨["x", "y"], ["up"]⟩] ∧
      ∃ ps : List Piece,
        (∀ before p after, ps = before ++ p :: after →
          p.StandsBefore (Tokens.overlapping.literals hne) Pattern.blanks.prefixLength
            (Piece.writeAll (Tokens.overlapping.literals hne) after)) ∧
        Piece.writeAll (Tokens.overlapping.literals hne) ps =
          "<<<<<a<< x::y:: |up >>".toList ∧
        Piece.assemble (Tokens.overlapping.literals hne) ps =
          [.text "<<a", .tag ⟨["x", "y"], ["up"]⟩] := by
  have hparse : parseWith .overlapping Pattern.blanks.prefixLength "<<<<<a<< x::y:: |up >>" =
      .ok [.text "<<a", .tag ⟨["x", "y"], ["up"]⟩] := by
    decide +kernel
  exact ⟨Tokens.get_overlapping_ne_empty, hparse,
    exists_pieces_of_parseWith Tokens.get_overlapping_ne_empty hparse⟩

end TagText
