import TagText.Proofs.Template.PieceTags
import TagText.Proofs.Template.Run
import TagText.Proofs.Template.TagFault

/-!
# What goes wrong in a template

A template that does not parse is the text of a derivation, what was read behind it before the
fault, and the characters ahead of the fault. `Halts` lists the ways in which reading may stop
behind pieces that are all right:

> `parse_eq_error_iff`: a template is an error iff it is divided like this, and the offset of the
> error is the number of characters in front of the fault.

What a pass keeps is that the template is the text of a derivation in front of what is ahead
(`Behind`). In the other direction pieces are read in front of whatever follows them
(`exists_readFrom_of_derivation`).
-/

namespace TagText

open Scan

variable {tokens : Tokens} {mark : Role → Char}

/-! ## Derivations one behind the other -/

/-- Whether there is a tag among the pieces. -/
def Piece.hasTag (ps : List Piece) : Bool := ps.any fun p => p.tag?.isSome

theorem hasTag_append (ps qs : List Piece) :
    Piece.hasTag (ps ++ qs) = (Piece.hasTag ps || Piece.hasTag qs) :=
  List.any_append

theorem writeAll_append (l : Literals) (ps qs : List Piece) :
    Piece.writeAll l (ps ++ qs) = Piece.writeAll l ps ++ Piece.writeAll l qs :=
  List.flatMap_append

section
variable {afterTag : Bool} {ps qs : List Piece}

theorem derivation_char_iff {c : Char} : Derivation mark afterTag (.char c :: ps) ↔
    (c ≠ mark .escape ∧ c ≠ mark .tagOpen ∧ c ≠ mark .tagClose) ∧ Derivation mark afterTag ps := by
  constructor
  · rintro (_ | ⟨hc, hps⟩)
    exact ⟨hc, hps⟩
  · exact fun ⟨hc, hps⟩ => .text hc hps

theorem derivation_escaped_iff {role : Role} : Derivation mark afterTag (.escaped role :: ps) ↔
    (role = .escape ∨ afterTag = false ∧ (role = .tagOpen ∨ role = .tagClose)) ∧
      Derivation mark afterTag ps := by
  constructor
  · intro h
    cases h with
    | escape hps => exact ⟨Or.inl rfl, hps⟩
    | delimiter hrole hps => exact ⟨Or.inr ⟨rfl, hrole⟩, hps⟩
  · rintro ⟨rfl | ⟨rfl, hrole⟩, hps⟩
    · exact .escape hps
    · exact .delimiter hrole hps

theorem derivation_tag_iff {t : WrittenTag} : Derivation mark afterTag (.tag t :: ps) ↔
    TagDerivation t ∧ Derivation mark true ps := by
  constructor
  · intro h
    cases h with
    | tag ht hps => exact ⟨ht, hps⟩
  · exact fun ⟨ht, hps⟩ => .tag ht hps

/-- Pieces go on from others as what they are before or behind a tag. -/
theorem derivation_append_iff : Derivation mark afterTag (ps ++ qs) ↔
    Derivation mark afterTag ps ∧ Derivation mark (afterTag || Piece.hasTag ps) qs := by
  induction ps generalizing afterTag with
  | nil => simp [Piece.hasTag, Derivation.done]
  | cons p ps ih =>
    cases p with
    | char c =>
      rw [List.cons_append, derivation_char_iff, derivation_char_iff, ih]
      exact and_assoc.symm
    | escaped role =>
      rw [List.cons_append, derivation_escaped_iff, derivation_escaped_iff, ih]
      exact and_assoc.symm
    | tag t =>
      rw [List.cons_append, derivation_tag_iff, derivation_tag_iff, ih, and_assoc]
      simp [Piece.hasTag, Piece.tag?]

end

/-! ## The faults -/

/-- A fault of a template before (`false`) or behind (`true`) its first tag, and what was read
before it behind the last piece that is all right. -/
inductive Halts (mark : Role → Char) : (afterTag : Bool) → List Char → Fault → Prop where
  | close {afterTag : Bool} {rest : List Char} :
      Halts mark afterTag [] ⟨.tagCloseOutsideTag, mark .tagClose :: rest⟩
  | ending {afterTag : Bool} :
      Halts mark afterTag [mark .escape] ⟨.unexpectedEndWhileEscaping, []⟩
  | escaped {afterTag : Bool} {c : Char} {rest : List Char}
      (hc : c ≠ mark .escape ∧ c ≠ mark .tagOpen ∧ c ≠ mark .tagClose) :
      Halts mark afterTag [mark .escape]
        ⟨.unexpectedEscapedCharacter (found (c :: rest)), c :: rest⟩
  | delimiter {role : Role} {rest : List Char} (hrole : role = .tagOpen ∨ role = .tagClose) :
      Halts mark true [mark .escape] ⟨.delimiterEscapedOutsideString role, mark role :: rest⟩
  | tag {afterTag : Bool} {read : List Char} {f : Fault} (hread : TagHalts mark read f) :
      Halts mark afterTag (mark .tagOpen :: read) f

/-! ## From the fault back to the pieces -/

/-- What is ahead in a state, with the escape literal if it was just read. -/
def Scan.State.left (mark : Role → Char) (s : State) : List Char :=
  (if s.escaping then [mark .escape] else []) ++ s.ahead

/-- The template is the text of a derivation in front of what is left in this state. -/
def Behind (mark : Role → Char) (template : List Char) (s : State) : Prop :=
  ∃ ps, Derivation mark false ps ∧ Piece.hasTag ps = !s.inText ∧
    template = Piece.writeAll (.single mark) ps ++ s.left mark

theorem behind_start (template : List Char) : Behind mark template (.start template) :=
  ⟨[], .done, rfl, rfl⟩

theorem exists_of_literalAt_single {s : List Char} {role : Role}
    (h : literalAt (.single mark) s = some role) : ∃ rest, s = mark role :: rest :=
  exists_of_starts_single (starts_of_literalAt h)

/-- What was read before a pass and in it is the text of a derivation. -/
theorem behind_of_pieceStep {template : List Char} {s t : State} (hs : Behind mark template s)
    (h : PieceStep (.single mark) Pattern.blanks.prefixLength s (some t)) :
    Behind mark template t := by
  obtain ⟨ps, hps, hplace, htext⟩ := hs
  cases h with
  | @char c rest hescaping hahead hliteral =>
    rw [hahead] at hliteral
    refine ⟨ps ++ [.char c], derivation_append_iff.mpr ⟨hps, .text ?_ .done⟩, ?_, ?_⟩
    · exact (literalAt_single_eq_none_iff _ _).mp hliteral
    · exact (hasTag_append ps _).trans ((Bool.or_false _).trans hplace)
    · simp [htext, State.left, hescaping, hahead, writeAll_append, Piece.write]
  | escape hescaping hliteral =>
    obtain ⟨rest, hahead⟩ := exists_of_literalAt_single hliteral
    refine ⟨ps, hps, hplace, ?_⟩
    simp [htext, State.left, hescaping, hahead, Literals.skip, Literals.single]
  | @escaped role hescaping hliteral hrole =>
    obtain ⟨rest, hahead⟩ := exists_of_literalAt_single hliteral
    refine ⟨ps ++ [.escaped role], derivation_append_iff.mpr
      ⟨hps, derivation_escaped_iff.mpr ⟨?_, .done⟩⟩, ?_, ?_⟩
    · rcases literalAt_eq_some_iff.mp hliteral with ⟨rfl, -⟩ | ⟨rfl, -⟩ | ⟨rfl, -⟩
      · exact Or.inl rfl
      all_goals
        rw [Bool.false_or, hplace, hrole.resolve_left (by decide)]
        simp
    · exact (hasTag_append ps _).trans ((Bool.or_false _).trans hplace)
    · simp [htext, State.left, State.takeLiteral, hescaping, hahead, Literals.skip, Literals.single,
        writeAll_append, Piece.write]
  | @tag tag rest hescaping hliteral htag =>
    obtain ⟨t, ht, rfl, hahead⟩ := (readTag_eq_ok_iff (starts_of_literalAt hliteral)).mp htag
    refine ⟨ps ++ [.tag t], derivation_append_iff.mpr
      ⟨hps, .tag (tagDerivation_of_tagSpelled ht) .done⟩, ?_, ?_⟩
    · exact (hasTag_append ps _).trans (Bool.or_true _)
    · simp [htext, State.left, hescaping, hahead, writeAll_append, Piece.write]

/-- A pass that finds a fault halts behind what it found the pieces to be. -/
theorem halts_of_piecePass {s : State} {f : Fault}
    (h : piecePass (.single mark) Pattern.blanks.prefixLength s = .error f) :
    ∃ read, Halts mark (!s.inText) read f ∧ s.left mark = read ++ f.ahead := by
  unfold State.left
  cases pieceFault_of_piecePass h with
  | close hescaping hliteral =>
    obtain ⟨rest, hahead⟩ := exists_of_literalAt_single hliteral
    rw [hahead, hescaping]
    exact ⟨[], .close, rfl⟩
  | character hescaping hne hliteral =>
    obtain ⟨c, rest, hahead⟩ := List.exists_cons_of_ne_nil hne
    rw [hahead] at hliteral ⊢
    rw [hescaping]
    exact ⟨[mark .escape], .escaped ((literalAt_single_eq_none_iff _ _).mp hliteral), rfl⟩
  | @delimiter role hescaping hliteral hrole hplace =>
    obtain ⟨rest, hahead⟩ := exists_of_literalAt_single hliteral
    rw [hahead, hescaping, hplace]
    refine ⟨[mark .escape], .delimiter ?_, rfl⟩
    rcases literalAt_eq_some_iff.mp hliteral with ⟨habs, -⟩ | ⟨hopen, -⟩ | ⟨hclose, -⟩
    · exact absurd habs hrole
    · exact Or.inl hopen
    · exact Or.inr hclose
  | tag hescaping hliteral htag =>
    obtain ⟨behind, hopened⟩ := exists_of_literalAt_single hliteral
    rw [hopened] at htag
    obtain ⟨read, hbehind, hread⟩ := tagHalts_of_readTag htag
    refine ⟨mark .tagOpen :: read, .tag hread, ?_⟩
    rw [hescaping, hopened, hbehind]
    rfl

/-! ## From the pieces on to the fault -/

/-- The escape literal is taken by a pass of its own. -/
theorem readFrom_of_escape (h : tokens.OneCharacter mark) {s : State}
    (hescaping : s.escaping = false) {rest : List Char} (hahead : s.ahead = mark .escape :: rest) :
    readFrom (.single mark) Pattern.blanks.prefixLength s =
      readFrom (.single mark) Pattern.blanks.prefixLength
        { s with escaping := true, ahead := rest } := by
  have hliteral : literalAt (.single mark) s.ahead = some .escape := by
    rw [hahead]
    exact literalAt_single_mark h .escape _ (by simp)
  rw [readFrom_of_step (.escape hescaping hliteral), hahead]
  rfl

/-- Two passes take a literal with the escape literal before it. -/
theorem exists_readFrom_of_escaped (h : tokens.OneCharacter mark) {s : State} {role : Role}
    (hrole : role = .escape ∨ role = .tagOpen ∨ role = .tagClose)
    (hplace : role = .escape ∨ s.inText = true) (hescaping : s.escaping = false)
    {rest : List Char} (hahead : s.ahead = mark .escape :: mark role :: rest) :
    ∃ t, readFrom (.single mark) Pattern.blanks.prefixLength s =
        readFrom (.single mark) Pattern.blanks.prefixLength t ∧
      t.escaping = false ∧ t.ahead = rest ∧ t.inText = s.inText := by
  let mid : State := { s with escaping := true, ahead := mark role :: rest }
  have hliteral : literalAt (.single mark) mid.ahead = some role :=
    literalAt_single_mark h role rest hrole
  refine ⟨mid.takeLiteral (.single mark) role, ?_, rfl, rfl, rfl⟩
  rw [readFrom_of_escape h hescaping hahead]
  exact readFrom_of_step (s := mid) (.escaped rfl hliteral hplace)

/-- Pieces of a derivation are read whatever stands behind them. -/
theorem exists_readFrom_of_derivation (h : tokens.OneCharacter mark) {afterTag : Bool}
    {ps : List Piece} (hps : Derivation mark afterTag ps) {s : State}
    (hplace : afterTag = !s.inText) (hescaping : s.escaping = false) {rest : List Char}
    (hahead : s.ahead = Piece.writeAll (.single mark) ps ++ rest) :
    ∃ t, readFrom (.single mark) Pattern.blanks.prefixLength s =
        readFrom (.single mark) Pattern.blanks.prefixLength t ∧
      t.escaping = false ∧ t.ahead = rest ∧ (!t.inText) = (afterTag || Piece.hasTag ps) := by
  induction hps generalizing s with
  | done => exact ⟨s, rfl, hescaping, hahead, by simp [hplace, Piece.hasTag]⟩
  | @text afterTag c ps hc _ ih =>
    have hliteral : literalAt (.single mark) s.ahead = none := by
      rw [hahead]
      exact (literalAt_single_eq_none_iff _ _).mpr hc
    rw [readFrom_of_step (.char hescaping hahead hliteral)]
    exact ih hplace hescaping rfl
  | @escape afterTag ps _ ih =>
    obtain ⟨t, ht, hnext, hrest, hin⟩ :=
      exists_readFrom_of_escaped h (by simp) (Or.inl rfl) hescaping hahead
    rw [ht]
    exact ih (hplace.trans (congrArg _ hin.symm)) hnext hrest
  | @delimiter role ps hrole _ ih =>
    have hintext : s.inText = true := by simpa using hplace.symm
    obtain ⟨t, ht, hnext, hrest, hin⟩ :=
      exists_readFrom_of_escaped h (Or.inr hrole) (Or.inr hintext) hescaping hahead
    rw [ht]
    exact ih (hplace.trans (congrArg _ hin.symm)) hnext hrest
  | @tag afterTag t ps ht _ ih =>
    have hahead : s.ahead = t.write (.single mark) ++
        (Piece.writeAll (.single mark) ps ++ rest) := by
      rw [hahead, Piece.writeAll_cons, List.append_assoc]
      rfl
    have hliteral : literalAt (.single mark) s.ahead = some .tagOpen := by
      rw [hahead]
      exact literalAt_single_mark h .tagOpen _ (by simp)
    have hread := (readTag_eq_ok_iff (starts_of_literalAt hliteral)).mpr
      ⟨t, tagSpelled_of_tagDerivation h ht, rfl, hahead⟩
    rw [readFrom_of_step (.tag hescaping hliteral hread)]
    obtain ⟨u, hu, hend, hrest, hafter⟩ :=
      ih (s := ⟨.tag t.toTag :: s.flush, [], false, _⟩) rfl rfl rfl
    exact ⟨u, hu, hend, hrest, hafter.trans (by simp [Piece.hasTag, Piece.tag?])⟩

/-- Whatever halts a template is the fault that reading it stops with. -/
theorem readFrom_of_halts (h : tokens.OneCharacter mark) {s : State} {read : List Char} {f : Fault}
    (hread : Halts mark (!s.inText) read f) (hescaping : s.escaping = false)
    (hahead : s.ahead = read ++ f.ahead) :
    readFrom (.single mark) Pattern.blanks.prefixLength s = .error f := by
  generalize hafter : (!s.inText) = afterTag at hread
  cases hread with
  | @close _ rest =>
    have hahead : s.ahead = mark .tagClose :: rest := hahead
    have hliteral := literalAt_single_mark h .tagClose rest (by simp)
    rw [← hahead] at hliteral ⊢
    exact readFrom_of_error (piecePass_of_pieceFault (.close hescaping hliteral))
  | ending =>
    rw [readFrom_of_escape h hescaping hahead, readFrom,
      loop_of_none (piecePass_of_pieceStep (.done rfl))]
    rfl
  | @escaped _ c rest hc =>
    rw [readFrom_of_escape h hescaping hahead]
    exact readFrom_of_error (piecePass_of_pieceFault
      (.character rfl (List.cons_ne_nil c rest) ((literalAt_single_eq_none_iff c rest).mpr hc)))
  | @delimiter role rest hrole =>
    have hne : role ≠ .escape := by
      rintro rfl
      exact absurd hrole (by decide)
    have hin : s.inText = false := by simpa using hafter
    rw [readFrom_of_escape h hescaping hahead]
    exact readFrom_of_error (piecePass_of_pieceFault
      (.delimiter rfl (literalAt_single_mark h role rest (Or.inr hrole)) hne hin))
  | @tag _ read _ hread =>
    have hahead : s.ahead = mark .tagOpen :: (read ++ f.ahead) := hahead
    have hliteral := literalAt_single_mark h .tagOpen (read ++ f.ahead) (by simp)
    have hfail := readTag_of_tagHalts h hread
    rw [← hahead] at hliteral hfail
    exact readFrom_of_error (piecePass_of_pieceFault (.tag hescaping hliteral hfail))

/-! ## Templates and parsers -/

/-- Reading a template stops with a fault iff it does so behind pieces that are all right. -/
theorem readTemplate_eq_error_iff (h : tokens.OneCharacter mark) {template : List Char}
    {f : Fault} :
    readTemplate (.single mark) Pattern.blanks.prefixLength template = .error f ↔
      ∃ ps read, Derivation mark false ps ∧ Halts mark (Piece.hasTag ps) read f ∧
        template = Piece.writeAll (.single mark) ps ++ (read ++ f.ahead) := by
  constructor
  · intro hfail
    have hstep : ∀ s t, Behind mark template s →
        piecePass (.single mark) Pattern.blanks.prefixLength s = .ok (some t) →
        Behind mark template t :=
      fun s t hs hst => behind_of_pieceStep hs (pieceStep_of_piecePass hst)
    unfold readTemplate at hfail
    split at hfail
    next e hloop =>
      injection hfail with hfail
      subst hfail
      obtain ⟨s, ⟨ps, hps, hplace, htext⟩, hs⟩ :=
        loop_error_induction hstep (behind_start template) hloop
      obtain ⟨read, hread, hleft⟩ := halts_of_piecePass hs
      exact ⟨ps, read, hps, hplace ▸ hread, hleft ▸ htext⟩
    next s hloop =>
      split at hfail
      next hescaping =>
        injection hfail with hfail
        subst hfail
        obtain ⟨⟨ps, hps, -, htext⟩, hs⟩ := loop_induction hstep (behind_start template) hloop
        -- The loop is left only where nothing is ahead.
        cases pieceStep_of_piecePass hs with
        | done hahead =>
          refine ⟨ps, [mark .escape], hps, ?_, ?_⟩
          · rw [hahead]
            exact .ending
          · rw [htext, State.left, if_pos hescaping]
      next => exact absurd hfail (by simp)
  · rintro ⟨ps, read, hps, hread, rfl⟩
    obtain ⟨s, hs, hescaping, hahead, hplace⟩ :=
      exists_readFrom_of_derivation h hps (s := .start _) rfl rfl rfl
    rw [readTemplate_eq_readFrom, hs]
    exact readFrom_of_halts h (by rwa [hplace, Bool.false_or]) hescaping hahead

/-- A template is an error iff it is pieces of a derivation, what halts them, and what is ahead, and
the offset counts the characters of the first two. -/
theorem parse_eq_error_iff (h : tokens.OneCharacter mark) {template : String} {e : ParseError} :
    (Parser.mk tokens .blanks).parse template = .error e ↔
      e.template = template ∧ ∃ ps read ahead, Derivation mark false ps ∧
        Halts mark (Piece.hasTag ps) read ⟨e.kind, ahead⟩ ∧
        template.toList = Piece.writeAll (.single mark) ps ++ read ++ ahead ∧
        e.offset = (Piece.writeAll (.single mark) ps ++ read).length := by
  rw [Parser.parse, Matcher.prefixLength_blanks, parseWith_eq_error_iff h.get_ne_empty,
    h.literals_eq]
  constructor
  · rintro ⟨f, hf, rfl⟩
    obtain ⟨ps, read, hps, hread, htext⟩ := (readTemplate_eq_error_iff h).mp hf
    rw [← List.append_assoc] at htext
    exact ⟨rfl, ps, read, f.ahead, hps, hread, htext, length_sub_length htext⟩
  · rintro ⟨rfl, ps, read, ahead, hps, hread, htext, hoffset⟩
    refine ⟨⟨e.kind, ahead⟩, ?_, ?_⟩
    · refine (readTemplate_eq_error_iff h).mpr ⟨ps, read, hps, hread, ?_⟩
      rw [htext, List.append_assoc]
    · rw [length_sub_length htext, ← hoffset]

end TagText