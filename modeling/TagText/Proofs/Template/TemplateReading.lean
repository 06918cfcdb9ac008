import TagText.Proofs.Template.TagReading
import TagText.Template.Parser

/-!
# Templates are read as they are spelled

This is the theorem that everything about parsed templates comes from:

> `parseWith_eq_ok_iff`: with non-empty literals of any form, and any matcher of blanks, a template
> parses to a tree iff it is the text of pieces that are spelled in the sense of `Spelling`, and
> the tree is what these pieces stand for.

As inside a tag, one lemma tells everything that a pass without a fault can do
(`piecePass_eq_ok_iff`), and both directions are inductions over such steps. A piece takes one pass
or, if it is an escaped literal, two; the invariant of `spelled_of_loop` therefore counts an escape
literal that was read in the pass before as text still ahead. The nodes that are finished and the
text being built are in front of the tree of the pieces still to come (`flush_reverse`).
-/

namespace TagText

open Scan

variable {l : Literals} {blank : List Char → Nat}

/-- What a pass over the pieces of a template does when it finds no fault. -/
inductive PieceStep (l : Literals) (blank : List Char → Nat) : State → Option State → Prop where
  | done {s : State} (hahead : s.ahead = []) : PieceStep l blank s none
  | char {s : State} {c : Char} {rest : List Char} (hescaping : s.escaping = false)
      (hahead : s.ahead = c :: rest) (hliteral : literalAt l s.ahead = none) :
      PieceStep l blank s (some { s with pending := c :: s.pending, ahead := rest })
  | escape {s : State} (hescaping : s.escaping = false)
      (hliteral : literalAt l s.ahead = some .escape) :
      PieceStep l blank s (some { s with escaping := true, ahead := l.skip .escape s.ahead })
  | escaped {s : State} {role : Role} (hescaping : s.escaping = true)
      (hliteral : literalAt l s.ahead = some role) (hplace : role = .escape ∨ s.inText = true) :
      PieceStep l blank s (some (s.takeLiteral l role))
  | tag {s : State} {tag : Tag} {rest : List Char} (hescaping : s.escaping = false)
      (hliteral : literalAt l s.ahead = some .tagOpen)
      (htag : readTag l blank s.ahead = .ok (tag, rest)) :
      PieceStep l blank s (some ⟨.tag tag :: s.flush, [], false, rest⟩)

theorem escapedPass_eq_ok_iff {s t : State} :
    escapedPass l s = .ok t ↔ ∃ role, literalAt l s.ahead = some role ∧
      (role = .escape ∨ s.inText = true) ∧ t = s.takeLiteral l role := by
  simp only [literalAt_eq_some_iff, escapedPass]
  cases l.starts .escape s.ahead <;> cases l.starts .tagOpen s.ahead <;>
    cases l.starts .tagClose s.ahead <;> cases s.inText <;> simp [eq_comm]

theorem pieceStep_of_piecePass {s : State} {r : Option State}
    (h : piecePass l blank s = .ok r) : PieceStep l blank s r := by
  unfold piecePass at h
  split at h
  next hahead =>
    injection h with h
    exact h ▸ .done hahead
  next c rest hahead =>
    split at h
    next hescaping =>
      split at h
      next => exact absurd h (by simp)
      next t ht =>
        injection h with h
        obtain ⟨role, hliteral, hplace, rfl⟩ := escapedPass_eq_ok_iff.mp ht
        exact h ▸ .escaped hescaping hliteral hplace
    next hescaping =>
      have hescaping : s.escaping = false := by simpa using hescaping
      split at h
      next hescape =>
        injection h with h
        exact h ▸ .escape hescaping (literalAt_eq_some_iff.mpr (Or.inl ⟨rfl, hescape⟩))
      next hescape =>
        have hescape : l.starts .escape s.ahead = false := by simpa using hescape
        split at h
        next hopen =>
          split at h
          next => exact absurd h (by simp)
          next tag rest htag =>
            injection h with h
            exact h ▸ .tag hescaping
              (literalAt_eq_some_iff.mpr (Or.inr (Or.inl ⟨rfl, hescape, hopen⟩))) htag
        next hopen =>
          split at h
          next => exact absurd h (by simp)
          next hclose =>
            injection h with h
            exact h ▸ .char hescaping hahead (literalAt_eq_none_iff.mpr
              ⟨hescape, by simpa using hopen, by simpa using hclose⟩)

theorem piecePass_of_pieceStep {s : State} {r : Option State}
    (h : PieceStep l blank s r) : piecePass l blank s = .ok r := by
  cases h with
  | done hahead => simp [piecePass, hahead]
  | char hescaping hahead hliteral =>
    obtain ⟨hescape, hopen, hclose⟩ := literalAt_eq_none_iff.mp hliteral
    rw [hahead] at hescape hopen hclose
    simp [piecePass, hahead, hescaping, hescape, hopen, hclose]
  | escape hescaping hliteral =>
    have hescape := starts_of_literalAt hliteral
    unfold piecePass
    split
    next hnil => exact absurd hnil (ne_nil_of_literalAt hliteral)
    next => simp [hescaping, hescape]
  | escaped hescaping hliteral hplace =>
    have hpass := escapedPass_eq_ok_iff.mpr ⟨_, hliteral, hplace, rfl⟩
    unfold piecePass
    split
    next hnil => exact absurd hnil (ne_nil_of_literalAt hliteral)
    next => simp [hescaping, hpass]
  | tag hescaping hliteral htag =>
    have hopen := starts_of_literalAt hliteral
    have hescape : l.starts .escape s.ahead = false := by
      simpa using literalAt_eq_some_iff.mp hliteral |>.resolve_left (by simp) |>.resolve_right
        (by simp) |>.2.1
    unfold piecePass
    split
    next hnil => exact absurd hnil (ne_nil_of_literalAt hliteral)
    next => simp [hescaping, hescape, hopen, htag]

theorem piecePass_eq_ok_iff {s : State} {r : Option State} :
    piecePass l blank s = .ok r ↔ PieceStep l blank s r :=
  ⟨pieceStep_of_piecePass, piecePass_of_pieceStep⟩

/-! ## The loop over the pieces -/

/-- The finished nodes, and the text being built as the front of what comes next. -/
theorem flush_reverse (s : State) :
    s.flush.reverse = s.nodes.reverse ++ Piece.joinText s.pending.reverse [] := by
  obtain ⟨nodes, pending, escaping, ahead⟩ := s
  cases pending with
  | nil => simp [State.flush, Piece.joinText]
  | cons c pending =>
    have hcons : (c :: pending).reverse ≠ [] := by simp
    obtain ⟨d, text, htext⟩ := List.exists_cons_of_ne_nil hcons
    simp [State.flush, Piece.joinText, htext]

/-- What the loop takes are spelled pieces, and it leaves their tree behind the nodes and the text
that it started with. -/
theorem spelled_of_loop {s u : State}
    (h : loop (fun s => s.ahead.length) (piecePass l blank) (piecePass_lt l blank) s = .ok u)
    (hu : u.escaping = false) :
    ∃ ps, Spelled l blank (!s.inText) ps ∧
      Piece.writeAll l ps = (if s.escaping then l.of .escape else []) ++ s.ahead ∧
      u.flush.reverse = s.nodes.reverse ++
        Piece.joinText s.pending.reverse (Piece.assemble l ps) := by
  -- Over the passes, of which each but the one over an escape literal finishes a piece.
  fun_induction loop (fun s => s.ahead.length) (piecePass l blank) (piecePass_lt l blank) s with
  | case1 s e he => exact absurd h (by simp)
  | case2 s hs =>
    injection h with h
    subst h
    cases piecePass_eq_ok_iff.mp hs with
    | done hahead =>
      refine ⟨[], .done, ?_, flush_reverse s⟩
      simp [hahead, hu]
  | case3 s t hs _ ih =>
    obtain ⟨ps, hps, htext, htree⟩ := ih h
    cases piecePass_eq_ok_iff.mp hs with
    | @char c rest hescaping hahead hliteral =>
      have htext : Piece.writeAll l ps = rest := by simpa [hescaping] using htext
      refine ⟨.char c :: ps, .char (by rwa [htext, ← hahead]) hps, ?_, ?_⟩
      · simp [hescaping, hahead, htext, Piece.write]
      · rw [htree, List.reverse_cons, Piece.assemble, Piece.joinText_joinText]
    | escape hescaping hliteral =>
      obtain ⟨rest, hahead⟩ := starts_eq_true_iff.mp (starts_of_literalAt hliteral)
      refine ⟨ps, hps, ?_, htree⟩
      rw [htext, if_pos rfl, hescaping, hahead, skip_append]
      rfl
    | @escaped role hescaping hliteral hplace =>
      obtain ⟨rest, hahead⟩ := starts_eq_true_iff.mp (starts_of_literalAt hliteral)
      have htext : Piece.writeAll l ps = rest := by
        simpa [State.takeLiteral, hahead, skip_append] using htext
      refine ⟨.escaped role :: ps, .escaped (by rwa [htext, ← hahead]) ?_ hps, ?_, ?_⟩
      · exact hplace.imp_right fun hin => by simp [hin]
      · simp [hescaping, hahead, htext, Piece.write]
      · rw [htree, Piece.assemble, Piece.joinText_joinText]
        simp [State.takeLiteral]
    | @tag tag rest hescaping hliteral htag =>
      obtain ⟨t, ht, rfl, hahead⟩ :=
        (readTag_eq_ok_iff (starts_of_literalAt hliteral)).mp htag
      have htext : Piece.writeAll l ps = rest := by simpa using htext
      subst htext
      refine ⟨.tag t :: ps, .tag (by rwa [← hahead]) ht hps, ?_, ?_⟩
      · simp [hescaping, hahead, Piece.write]
      · rw [htree, List.reverse_cons, flush_reverse, Piece.assemble, Piece.joinText_tag]
        simp [Piece.joinText_nil]

/-- Pieces that are spelled are read to their end, in front of whatever was read before. -/
theorem loop_of_spelled {afterTag : Bool} {ps : List Piece} (h : Spelled l blank afterTag ps)
    {s : State} (hescaping : s.escaping = false) (hahead : s.ahead = Piece.writeAll l ps)
    (hplace : afterTag = !s.inText) :
    ∃ u, loop (fun s => s.ahead.length) (piecePass l blank) (piecePass_lt l blank) s = .ok u ∧
      u.escaping = false ∧
      u.flush.reverse = s.nodes.reverse ++
        Piece.joinText s.pending.reverse (Piece.assemble l ps) := by
  induction h generalizing s with
  | done =>
    exact ⟨s, loop_of_none (piecePass_of_pieceStep (.done hahead)), hescaping, flush_reverse s⟩
  | @char afterTag c ps hliteral _ ih =>
    rw [loop_of_some (piecePass_of_pieceStep (.char hescaping hahead (hahead ▸ hliteral)))]
    obtain ⟨u, hu, hend, htree⟩ :=
      ih (s := { s with pending := c :: s.pending, ahead := Piece.writeAll l ps })
        hescaping rfl hplace
    refine ⟨u, hu, hend, ?_⟩
    rw [htree, List.reverse_cons, Piece.assemble, Piece.joinText_joinText]
  | @escaped afterTag role ps hliteral hrole _ ih =>
    have hahead : s.ahead = l.of .escape ++ (l.of role ++ Piece.writeAll l ps) := by
      simpa [Piece.write] using hahead
    have hescape : literalAt l s.ahead = some .escape :=
      literalAt_eq_some_iff.mpr (Or.inl ⟨rfl, hahead ▸ starts_append l _ _⟩)
    -- Two passes: over the escape literal, and over the literal that it makes text.
    rw [loop_of_some (piecePass_of_pieceStep (.escape hescaping hescape)), hahead, skip_append]
    let mid : State := { s with escaping := true, ahead := l.of role ++ Piece.writeAll l ps }
    have hin : role = .escape ∨ mid.inText = true :=
      hrole.imp_right fun hfirst => show s.inText = true by simpa [hfirst] using hplace
    rw [show loop _ _ _ mid = _ from
      loop_of_some (piecePass_of_pieceStep (.escaped (s := mid) rfl hliteral hin))]
    obtain ⟨u, hu, hend, htree⟩ :=
      ih (s := mid.takeLiteral l role) rfl (skip_append l role _) hplace
    refine ⟨u, hu, hend, ?_⟩
    rw [htree, Piece.assemble, Piece.joinText_joinText]
    simp [State.takeLiteral, mid]
  | @tag afterTag t ps hliteral htag _ ih =>
    have hahead : s.ahead = t.write l ++ Piece.writeAll l ps := hahead
    have hopen : literalAt l s.ahead = some .tagOpen := hahead ▸ hliteral
    have hread := (readTag_eq_ok_iff (starts_of_literalAt hopen)).mpr ⟨t, htag, rfl, hahead⟩
    rw [loop_of_some (piecePass_of_pieceStep (.tag hescaping hopen hread))]
    obtain ⟨u, hu, hend, htree⟩ :=
      ih (s := ⟨.tag t.toTag :: s.flush, [], false, Piece.writeAll l ps⟩) rfl rfl rfl
    refine ⟨u, hu, hend, ?_⟩
    rw [htree, List.reverse_cons, flush_reverse, Piece.assemble, Piece.joinText_tag]
    simp [Piece.joinText_nil]

/-- A template is read iff it is the text of spelled pieces, and gives their tree. -/
theorem readTemplate_eq_ok_iff {template : List Char} {tree : Tree} :
    readTemplate l blank template = .ok tree ↔
      ∃ ps, Spelled l blank false ps ∧ Piece.writeAll l ps = template ∧
        Piece.assemble l ps = tree := by
  constructor
  · intro h
    unfold readTemplate at h
    split at h
    next => exact absurd h (by simp)
    next u hu =>
      split at h
      next => exact absurd h (by simp)
      next hend =>
        injection h with h
        obtain ⟨ps, hps, htext, htree⟩ := spelled_of_loop hu (by simpa using hend)
        refine ⟨ps, hps, htext, ?_⟩
        rw [← h, htree]
        exact (Piece.joinText_nil _).symm
  · rintro ⟨ps, hps, rfl, rfl⟩
    obtain ⟨u, hu, hend, htree⟩ :=
      loop_of_spelled hps (s := .start (Piece.writeAll l ps)) rfl rfl rfl
    rw [readTemplate, hu]
    dsimp only
    rw [hend, if_neg Bool.false_ne_true, htree]
    exact congrArg Except.ok (Piece.joinText_nil _)

/-! ## Parsers -/

/-- The literals of tokens of which none is empty. -/
def Tokens.literals (tokens : Tokens) (hne : ∀ role, tokens.get role ≠ "") : Literals :=
  .ofTokens tokens (Tokens.firstEmpty?_eq_none_iff.mpr hne)

/-- With literals that are not empty, a template parses to a tree iff it is the text of spelled
pieces that stand for that tree. -/
theorem parseWith_eq_ok_iff {tokens : Tokens} (hne : ∀ role, tokens.get role ≠ "")
    {template : String} {tree : Tree} :
    parseWith tokens blank template = .ok tree ↔
      ∃ ps, Spelled (tokens.literals hne) blank false ps ∧
        Piece.writeAll (tokens.literals hne) ps = template.toList ∧
        Piece.assemble (tokens.literals hne) ps = tree := by
  have hnone := Tokens.firstEmpty?_eq_none_iff.mpr hne
  rw [← readTemplate_eq_ok_iff, parseWith_of_full hnone, Tokens.literals]
  cases hread : readTemplate (.ofTokens tokens hnone) blank template.toList with
  | error fault => simp
  | ok found =>
    obtain ⟨ps, -, -, rfl⟩ := readTemplate_eq_ok_iff.mp hread
    simp [Piece.prune_assemble]

/-- With literals that are not empty, what is parsed is what is read: nothing is left to prune. -/
theorem parseWith_eq_ok_iff_readTemplate {tokens : Tokens} (hne : ∀ role, tokens.get role ≠ "")
    {template : String} {tree : Tree} : parseWith tokens blank template = .ok tree ↔
      readTemplate (tokens.literals hne) blank template.toList = .ok tree :=
  (parseWith_eq_ok_iff hne).trans readTemplate_eq_ok_iff.symm

/-- With literals that are not empty, a template is an error iff reading it stops with a fault, and
the offset counts the characters behind that. -/
theorem parseWith_eq_error_iff {tokens : Tokens} (hne : ∀ role, tokens.get role ≠ "")
    {template : String} {e : ParseError} :
    parseWith tokens blank template = .error e ↔ ∃ f : Fault,
      readTemplate (tokens.literals hne) blank template.toList = .error f ∧
        e = ⟨f.kind, template.length - f.ahead.length, template⟩ := by
  have hnone := Tokens.firstEmpty?_eq_none_iff.mpr hne
  rw [parseWith_of_full hnone, Tokens.literals]
  cases hread : readTemplate (.ofTokens tokens hnone) blank template.toList with
  | error fault => simp [eq_comm]
  | ok tree => simp

end TagText
