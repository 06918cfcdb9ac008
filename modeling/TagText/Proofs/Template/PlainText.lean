import TagText.Proofs.Template.Conservation
import TagText.Proofs.Template.Escaping
import TagText.Proofs.Template.Placement

/-!
# Text that parses to itself

A template without the escape, opening and closing literals is one text. With literals of any
length and overlap the converse is true as well, since nothing that the scanner takes otherwise can
come out as what it was:

> `parse_eq_text_iff`: a template parses to itself as a text iff none of the three literals occurs
> in it. Where it parses to some text, it is longer than that by one escape literal for each that
> was accepted.

As long as no tag was read, every character behind the scanner is in the text being built, or of an
escape literal (`Run.length_eq`). So a template that comes out as long as it was had no escape
literal read, and then the scanner stood at each of its characters and found no literal there
(`Run.literalAt_eq_none`).
-/

namespace TagText

open Scan

variable {l : Literals} {blank : List Char → Nat} {template : List Char} {passed : List State}
  {s : State}

/-! ## Before the first tag -/

/-- Before the first tag what was read is in the text, but for an escape literal of each escape. -/
theorem Scan.Run.length_eq (h : Run l blank template passed s) (hnodes : s.nodes = []) :
    template.length = s.pending.length + (if s.escaping then (l.of .escape).length else 0) +
      (l.of .escape).length * passed.countP State.escaping + s.ahead.length := by
  induction h with
  | start => simp [State.start]
  | @pass passed s t _ hpass ih =>
    cases pieceStep_of_piecePass hpass with
    | @char c rest hescaping hahead =>
      rw [ih hnodes, List.countP_cons_of_neg (by simp [hescaping]), hahead]
      simp only [List.length_cons]
      omega
    | escape hescaping hliteral =>
      obtain ⟨rest, hahead⟩ := starts_eq_true_iff.mp (starts_of_literalAt hliteral)
      rw [ih hnodes, List.countP_cons_of_neg (by simp [hescaping]), hescaping, hahead, skip_append]
      simp only [if_true, Bool.false_eq_true, if_false, List.length_append]
      omega
    | @escaped role hescaping hliteral =>
      obtain ⟨rest, hahead⟩ := starts_eq_true_iff.mp (starts_of_literalAt hliteral)
      rw [ih hnodes, List.countP_cons_of_pos hescaping, hescaping, hahead]
      simp only [State.takeLiteral, hahead, skip_append, if_true, Bool.false_eq_true, if_false,
        List.length_append, List.length_reverse, Nat.mul_succ]
      omega
    | tag => exact absurd hnodes (List.cons_ne_nil _ _)

/-- A run without tags and escapes has seen that no literal stands at the characters behind it. -/
theorem Scan.Run.literalAt_eq_none (h : Run l blank template passed s) (hnodes : s.nodes = [])
    (hpassed : passed.countP State.escaping = 0) (hescaping : s.escaping = false)
    {back : List Char} (hback : back <:+ template) (hlength : s.ahead.length < back.length) :
    literalAt l back = none := by
  induction h with
  | start => exact absurd hback.length_le (Nat.not_le.mpr hlength)
  | @pass passed s t hrun hpass ih =>
    rw [List.countP_cons] at hpassed
    have hplain : s.escaping = false := by
      cases hs : s.escaping with
      | false => rfl
      | true => simp [hs] at hpassed
    have hpassed : passed.countP State.escaping = 0 := by omega
    cases pieceStep_of_piecePass hpass with
    | @char c rest _ hahead hliteral =>
      -- The place is where this pass was, or further behind.
      rcases Nat.lt_or_ge s.ahead.length back.length with hlt | hge
      · exact ih hnodes hpassed hplain hlt
      · have hle : s.ahead.length ≤ back.length := by rw [hahead]; exact hlength
        have hsame : back = s.ahead :=
          (List.suffix_of_suffix_length_le hback hrun.ahead_suffix hge).eq_of_length_le hle
        exact hsame ▸ hliteral
    | escape => exact absurd hescaping (by simp)
    | escaped habs => exact absurd habs (by simp [hplain])
    | tag => exact absurd hnodes (List.cons_ne_nil _ _)

/-- A run to the end of a template that is one text has read no tag, and has built that text. -/
theorem Scan.Run.pending_eq_of_text (h : Run l blank template passed s) (hend : s.ahead = [])
    {text : String} (htree : readTemplate l blank template = .ok [.text text]) :
    s.escaping = false ∧ s.nodes = [] ∧ s.pending.reverse = text.toList := by
  obtain ⟨hescaping, hflush⟩ := h.flush_eq hend htree
  rw [flush_reverse] at hflush
  have hnodes : s.nodes = [] := by
    -- The last finished node would be a tag, but the only node is the text.
    rw [← List.reverse_eq_nil_iff]
    by_contra hne
    obtain ⟨node, nodes, hcons⟩ := List.exists_cons_of_ne_nil hne
    rw [hcons, List.cons_append] at hflush
    injection hflush with hnode hrest
    rw [(List.append_eq_nil_iff.mp hrest).1] at hcons
    have htext := h.settled.current node (by rw [hcons]; rfl)
    exact absurd htext (by simp [hnode, Node.isText])
  refine ⟨hescaping, hnodes, ?_⟩
  rw [hnodes] at hflush
  cases hpending : s.pending.reverse with
  | nil => simp [hpending, Piece.joinText_nil] at hflush
  | cons c rest =>
    rw [hpending] at hflush
    injection hflush with hnode
    injection hnode with htext
    rw [← htext, String.toList_ofList]

/-- A template that is one text is as long as that and the escape literals that were read. -/
theorem Scan.Run.length_eq_of_text (h : Run l blank template passed s) (hend : s.ahead = [])
    {text : String} (htree : readTemplate l blank template = .ok [.text text]) :
    template.length =
      text.length + (l.of .escape).length * passed.countP State.escaping := by
  obtain ⟨hescaping, hnodes, hpending⟩ := h.pending_eq_of_text hend htree
  have hlength : s.pending.length = text.length := by
    rw [← List.length_reverse, hpending, String.length_toList]
  rw [h.length_eq hnodes, hescaping, hend, hlength]
  simp

/-- No literal stands in a template that is read as itself. -/
theorem literalAt_eq_none_of_readTemplate {text : String}
    (htree : readTemplate l blank text.toList = .ok [.text text]) {back : List Char}
    (hback : back <:+ text.toList) : literalAt l back = none := by
  obtain ⟨passed, last, hrun, hend, -⟩ := exists_run_of_readTemplate_eq_ok htree
  obtain ⟨hescaping, hnodes, -⟩ := hrun.pending_eq_of_text hend htree
  have hpassed : passed.countP State.escaping = 0 := by
    have hlength := hrun.length_eq_of_text hend htree
    rw [String.length_toList] at hlength
    have hzero : (l.of .escape).length * passed.countP State.escaping = 0 := by omega
    exact (Nat.mul_eq_zero.mp hzero).resolve_left
      (mt List.length_eq_zero_iff.mp (l.of_ne_nil .escape))
  cases back with
  | nil => exact literalAt_eq_none_iff.mpr ⟨starts_nil _ _, starts_nil _ _, starts_nil _ _⟩
  | cons c back =>
    exact hrun.literalAt_eq_none hnodes hpassed hescaping hback (by simp [hend])

/-! ## Text without literals -/

/-- No literal that means something outside a tag occurs iff none stands at any place. -/
theorem forall_not_infix_iff {text : List Char} :
    (∀ role, role = .escape ∨ role = .tagOpen ∨ role = .tagClose → ¬l.of role <:+: text) ↔
      ∀ back, back <:+ text → literalAt l back = none := by
  constructor
  · intro h back hback
    refine literalAt_eq_none_iff_forall.mpr fun role hrole hfront => ?_
    exact h role hrole (hfront.isInfix.trans hback.isInfix)
  · intro h role hrole hinfix
    obtain ⟨back, hfront, hback⟩ := List.infix_iff_prefix_suffix.mp hinfix
    exact literalAt_eq_none_iff_forall.mp (h back hback) role hrole hfront

/-- Text without literals is spelled as it is. -/
theorem spelled_ofText_of_forall (blank : List Char → Nat) {text : List Char}
    (h : ∀ back, back <:+ text → literalAt l back = none) :
    Spelled l blank false (Piece.ofText l text) ∧
      Piece.writeAll l (Piece.ofText l text) = text := by
  induction text with
  | nil => exact ⟨.done, rfl⟩
  | cons c text ih =>
    have hliteral := h (c :: text) (List.suffix_refl _)
    obtain ⟨hspelled, hwrite⟩ := ih fun back hback => h back (hback.trans (List.suffix_cons c text))
    rw [ofText_cons l hliteral]
    refine ⟨.char (by rwa [hwrite]) hspelled, ?_⟩
    rw [Piece.writeAll_cons, hwrite]
    rfl

/-- **Text parses to itself iff it has no literals in it.** With literals of any length and overlap,
a template that is not empty parses to itself as a text iff the escape, opening and closing literals
do not occur in it. A template that parses to one text is longer than that by the length of the
escape literal times the number of escapes that were accepted, which are the passes from a state
behind an escape literal. -/
theorem parse_eq_text_iff {tokens : Tokens} (hne : ∀ role, tokens.get role ≠ "")
    (blank : List Char → Nat) (template : String) :
    (template ≠ "" → (parseWith tokens blank template = .ok [.text template] ↔
      ∀ role, role = .escape ∨ role = .tagOpen ∨ role = .tagClose →
        ¬(tokens.get role).toList <:+: template.toList)) ∧
    ∀ text, parseWith tokens blank template = .ok [.text text] →
      (∃ passed last, Run (tokens.literals hne) blank template.toList passed last ∧
        last.ahead = []) ∧
      ∀ passed last, Run (tokens.literals hne) blank template.toList passed last →
        last.ahead = [] → template.length =
          text.length + (tokens.get .escape).length * passed.countP State.escaping := by
  refine ⟨fun hnonempty => ⟨fun htree => ?_, fun hnone => ?_⟩, fun text htree => ?_⟩
  · have hread := (parseWith_eq_ok_iff_readTemplate hne).mp htree
    have hnone := forall_not_infix_iff.mpr fun back => literalAt_eq_none_of_readTemplate hread
    exact hnone
  · have hnone := (forall_not_infix_iff (l := tokens.literals hne)).mp hnone
    obtain ⟨hspelled, hwrite⟩ := spelled_ofText_of_forall blank hnone
    refine (parseWith_eq_ok_iff hne).mpr ⟨_, hspelled, hwrite, ?_⟩
    rw [assemble_ofText, joinText_toList, Tree.ofText, if_neg hnonempty]
  · have hread := (parseWith_eq_ok_iff_readTemplate hne).mp htree
    obtain ⟨passed, last, hrun, hend, -⟩ := exists_run_of_readTemplate_eq_ok hread
    exact ⟨⟨passed, last, hrun, hend⟩, fun _ _ hrun hend => hrun.length_eq_of_text hend hread⟩

theorem parse_eq_text_iff_overlapping :
    parseWith .overlapping Pattern.blanks.prefixLength "a<b|c" = .ok [.text "a<b|c"] ∧
      parseWith .overlapping Pattern.blanks.prefixLength "x<<<>>y" = .ok [.text "x>>y"] ∧
      ∃ passed last, Run (Tokens.overlapping.literals Tokens.get_overlapping_ne_empty)
        Pattern.blanks.prefixLength "x<<<>>y".toList passed last ∧ last.ahead = [] ∧
          7 = 4 + 3 * passed.countP State.escaping := by
  have hplain := (parse_eq_text_iff Tokens.get_overlapping_ne_empty Pattern.blanks.prefixLength
    "a<b|c").1 (by decide)
  have hescape : parseWith .overlapping Pattern.blanks.prefixLength "x<<<>>y" =
      .ok [.text "x>>y"] := by
    decide +kernel
  obtain ⟨⟨passed, last, hrun, hend⟩, hcount⟩ := (parse_eq_text_iff Tokens.get_overlapping_ne_empty
    Pattern.blanks.prefixLength "x<<<>>y").2 _ hescape
  refine ⟨hplain.mpr ?_, hescape, passed, last, hrun, hend, hcount passed last hrun hend⟩
  rintro role (rfl | rfl | rfl) <;> decide

end TagText
