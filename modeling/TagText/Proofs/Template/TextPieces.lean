import TagText.Proofs.Template.Spelling

/-!
# The pieces of a text

`Piece.ofText` cuts a text into copied characters and escaped literals, left to right. It passes
over the characters of a literal by counting them; the equations here (`ofText_cons`,
`ofText_append`) say the same without a count, and `text_induction` is the induction that goes with
them.
-/

namespace TagText

open Scan

variable (l : Literals)

theorem ofTextFrom_eq_drop (skip : Nat) (s : List Char) :
    Piece.ofTextFrom l skip s = Piece.ofText l (s.drop skip) := by
  induction s generalizing skip with
  | nil => simp [Piece.ofText, Piece.ofTextFrom]
  | cons c s ih =>
    cases skip with
    | zero => rfl
    | succ skip => rw [Piece.ofTextFrom, ih, List.drop_succ_cons]

/-- A character where no literal stands is copied. -/
theorem ofText_cons {c : Char} {s : List Char} (h : literalAt l (c :: s) = none) :
    Piece.ofText l (c :: s) = .char c :: Piece.ofText l s := by
  rw [Piece.ofText, Piece.ofTextFrom, show List.find? _ _ = none from h]
  rfl

/-- The literal that stands first is escaped as a whole. -/
theorem ofText_append {role : Role} {s : List Char}
    (h : literalAt l (l.of role ++ s) = some role) :
    Piece.ofText l (l.of role ++ s) = .escaped role :: Piece.ofText l s := by
  obtain ⟨c, r, hrole⟩ := List.exists_cons_of_ne_nil (l.of_ne_nil role)
  rw [hrole, List.cons_append] at h ⊢
  rw [Piece.ofText, Piece.ofTextFrom, show List.find? _ _ = some role from h]
  dsimp only
  rw [ofTextFrom_eq_drop, hrole, List.length_cons, Nat.add_sub_cancel, List.drop_left]

/-- A text is empty, or begins with a character where no literal stands, or with the literal that
stands first: what holds of the pieces of each case holds of all texts. -/
theorem text_induction {P : List Char → Prop} (nil : P [])
    (char : ∀ c s, literalAt l (c :: s) = none → P s → P (c :: s))
    (literal : ∀ role s, literalAt l (l.of role ++ s) = some role → P s → P (l.of role ++ s))
    (s : List Char) : P s := by
  induction hn : s.length using Nat.strongRecOn generalizing s with
  | ind n ih =>
    subst hn
    cases s with
    | nil => exact nil
    | cons c s =>
      cases hliteral : literalAt l (c :: s) with
      | none => exact char c s hliteral (ih s.length (by simp) s rfl)
      | some role =>
        obtain ⟨rest, hrest⟩ := starts_eq_true_iff.mp (starts_of_literalAt hliteral)
        have hlt : rest.length < (c :: s).length := by
          have hpos := List.length_pos_iff.mpr (l.of_ne_nil role)
          rw [hrest, List.length_append]
          omega
        rw [hrest] at hliteral ⊢
        exact literal role rest hliteral (ih rest.length hlt rest rfl)

/-- The pieces of a text stand for that text in front of what follows them. -/
theorem assemble_ofText_append (s : List Char) (ps : List Piece) :
    Piece.assemble l (Piece.ofText l s ++ ps) = Piece.joinText s (Piece.assemble l ps) := by
  induction s using text_induction l with
  | nil => exact (Piece.joinText_nil _).symm
  | char c s hliteral ih =>
    rw [ofText_cons l hliteral, List.cons_append, Piece.assemble, ih, Piece.joinText_joinText]
    rfl
  | literal role s hliteral ih =>
    rw [ofText_append l hliteral, List.cons_append, Piece.assemble, ih, Piece.joinText_joinText]

theorem assemble_ofText (s : List Char) :
    Piece.assemble l (Piece.ofText l s) = Piece.joinText s [] := by
  have happend := assemble_ofText_append l s []
  rwa [List.append_nil] at happend

end TagText
