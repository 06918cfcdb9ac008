import TagText.Proofs.Template.TemplateReading

/-!
# The states of a scan

What a template is read to is told in `TemplateReading` without the scanner's states. Some rules are
about the scanner on its way, though: which places it comes to, and what it has finished by then.
`Scan.Run` is the way itself, the states that the loop over the pieces goes through:

> `exists_run_of_readTemplate_eq_ok`, `exists_run_of_readTemplate_eq_error`: a template that is read
> has a run to its end, and a fault is found in a state that a run leads to.

> `Run.readTemplate_eq`: from every state of a run the template is read to the same result.

`PieceFault` tells what a pass may stop at, as `PieceStep` tells how it goes on. So what holds at
the start, and after a pass if before it, is an induction over `Run`. Two such facts are here: the
text ahead is always the end of the template (`Run.ahead_suffix`), and between the two passes over
an escaped literal the escape literal stands right behind the scanner (`Run.exists_front`).
-/

namespace TagText

open Scan

namespace Scan

/-- The loop over the pieces of `template` has gone through the states `passed`, the last first, and
is in a state before its next pass. -/
inductive Run (l : Literals) (blank : List Char → Nat) (template : List Char) :
    (passed : List State) → State → Prop where
  | start : Run l blank template [] (.start template)
  | pass {passed : List State} {s t : State} (h : Run l blank template passed s)
      (hpass : piecePass l blank s = .ok (some t)) : Run l blank template (s :: passed) t

/-- What becomes of a template of which a state was reached. -/
def readFrom (l : Literals) (blank : List Char → Nat) (s : State) : Except Fault Tree :=
  match loop (fun s => s.ahead.length) (piecePass l blank) (piecePass_lt l blank) s with
  | .error e => .error e
  | .ok s =>
    if s.escaping then .error ⟨.unexpectedEndWhileEscaping, s.ahead⟩
    else .ok s.flush.reverse

end Scan

variable {l : Literals} {blank : List Char → Nat} {template : List Char} {passed : List State}
  {s t : State} {f : Fault}

/-! ## The faults of a pass -/

/-- What a pass over the pieces of a template does when it finds a fault. -/
inductive PieceFault (l : Literals) (blank : List Char → Nat) : State → Fault → Prop where
  | close {s : State} (hescaping : s.escaping = false)
      (hliteral : literalAt l s.ahead = some .tagClose) :
      PieceFault l blank s ⟨.tagCloseOutsideTag, s.ahead⟩
  | character {s : State} (hescaping : s.escaping = true) (hahead : s.ahead ≠ [])
      (hliteral : literalAt l s.ahead = none) :
      PieceFault l blank s ⟨.unexpectedEscapedCharacter (found s.ahead), s.ahead⟩
  | delimiter {s : State} {role : Role} (hescaping : s.escaping = true)
      (hliteral : literalAt l s.ahead = some role) (hrole : role ≠ .escape)
      (hplace : s.inText = false) :
      PieceFault l blank s ⟨.delimiterEscapedOutsideString role, s.ahead⟩
  | tag {s : State} {f : Fault} (hescaping : s.escaping = false)
      (hliteral : literalAt l s.ahead = some .tagOpen) (htag : readTag l blank s.ahead = .error f) :
      PieceFault l blank s f

theorem escapedPass_eq_error_iff : escapedPass l s = .error f ↔
    literalAt l s.ahead = none ∧ f = ⟨.unexpectedEscapedCharacter (found s.ahead), s.ahead⟩ ∨
    ∃ role, literalAt l s.ahead = some role ∧ role ≠ .escape ∧ s.inText = false ∧
      f = ⟨.delimiterEscapedOutsideString role, s.ahead⟩ := by
  simp only [literalAt_eq_none_iff, literalAt_eq_some_iff, escapedPass]
  cases l.starts .escape s.ahead <;> cases l.starts .tagOpen s.ahead <;>
    cases l.starts .tagClose s.ahead <;> cases s.inText <;> simp [eq_comm]

theorem pieceFault_of_piecePass (h : piecePass l blank s = .error f) :
    PieceFault l blank s f := by
  unfold piecePass at h
  split at h
  next => exact absurd h (by simp)
  next c rest hahead =>
    have hne : s.ahead ≠ [] := by simp [hahead]
    split at h
    next hescaping =>
      split at h
      next e he =>
        injection h with h
        subst h
        rcases escapedPass_eq_error_iff.mp he with
          ⟨hliteral, rfl⟩ | ⟨role, hliteral, hrole, hplace, rfl⟩
        · exact .character hescaping hne hliteral
        · exact .delimiter hescaping hliteral hrole hplace
      next => exact absurd h (by simp)
    next hescaping =>
      have hescaping : s.escaping = false := by simpa using hescaping
      split at h
      next => exact absurd h (by simp)
      next hescape =>
        have hescape : l.starts .escape s.ahead = false := by simpa using hescape
        split at h
        next hopen =>
          split at h
          next e htag =>
            injection h with h
            subst h
            exact .tag hescaping
              (literalAt_eq_some_iff.mpr (Or.inr (Or.inl ⟨rfl, hescape, hopen⟩))) htag
          next => exact absurd h (by simp)
        next hopen =>
          split at h
          next hclose =>
            injection h with h
            subst h
            exact .close hescaping (literalAt_eq_some_iff.mpr
              (Or.inr (Or.inr ⟨rfl, hescape, by simpa using hopen, hclose⟩)))
          next => exact absurd h (by simp)

theorem piecePass_of_pieceFault (h : PieceFault l blank s f) : piecePass l blank s = .error f := by
  have hne : s.ahead ≠ [] := by
    cases h with
    | character _ hahead _ => exact hahead
    | close _ hliteral | delimiter _ hliteral | tag _ hliteral => exact ne_nil_of_literalAt hliteral
  unfold piecePass
  split
  next hnil => exact absurd hnil hne
  next =>
    cases h with
    | close hescaping hliteral =>
      obtain ⟨hescape, hopen, hclose⟩ : _ ∧ _ ∧ _ := by
        simpa using literalAt_eq_some_iff.mp hliteral
      simp [hescaping, hescape, hopen, hclose]
    | character hescaping _ hliteral =>
      simp [hescaping, escapedPass_eq_error_iff.mpr (Or.inl ⟨hliteral, rfl⟩)]
    | @delimiter role hescaping hliteral hrole hplace =>
      simp [hescaping,
        escapedPass_eq_error_iff.mpr (Or.inr ⟨role, hliteral, hrole, hplace, rfl⟩)]
    | tag hescaping hliteral htag =>
      obtain ⟨hescape, hopen⟩ : _ ∧ _ := by
        simpa using literalAt_eq_some_iff.mp hliteral
      simp [hescaping, hescape, hopen, htag]

theorem piecePass_eq_error_iff : piecePass l blank s = .error f ↔ PieceFault l blank s f :=
  ⟨pieceFault_of_piecePass, piecePass_of_pieceFault⟩

/-! ## Reading on from a state -/

theorem readTemplate_eq_readFrom (template : List Char) :
    readTemplate l blank template = readFrom l blank (.start template) :=
  rfl

theorem readFrom_of_step (h : PieceStep l blank s (some t)) :
    readFrom l blank s = readFrom l blank t := by
  rw [readFrom, loop_of_some (piecePass_of_pieceStep h), ← readFrom]

theorem readFrom_of_error (h : piecePass l blank s = .error f) :
    readFrom l blank s = .error f := by
  rw [readFrom, loop_of_error h]

/-- From every state of a run the template is read to the same result. -/
theorem Scan.Run.readTemplate_eq (h : Run l blank template passed s) :
    readTemplate l blank template = readFrom l blank s := by
  induction h with
  | start => exact readTemplate_eq_readFrom template
  | pass _ hpass ih => exact ih.trans (readFrom_of_step (pieceStep_of_piecePass hpass))

/-- A run to the end of a template that is read has come to its tree. -/
theorem Scan.Run.flush_eq (h : Run l blank template passed s) (hend : s.ahead = []) {tree : Tree}
    (htree : readTemplate l blank template = .ok tree) :
    s.escaping = false ∧ s.flush.reverse = tree := by
  rw [h.readTemplate_eq, readFrom, loop_of_none (piecePass_of_pieceStep (.done hend))] at htree
  dsimp only at htree
  split at htree
  next => exact absurd htree (by simp)
  next hescaping =>
    injection htree with htree
    exact ⟨by simpa using hescaping, htree⟩

/-! ## The run of a template -/

theorem exists_run_of_pass (s t : State) (h : ∃ passed, Run l blank template passed s)
    (hpass : piecePass l blank s = .ok (some t)) : ∃ passed, Run l blank template passed t := by
  obtain ⟨passed, h⟩ := h
  exact ⟨s :: passed, h.pass hpass⟩

/-- A template that is read has a run to its end. -/
theorem exists_run_of_readTemplate_eq_ok {tree : Tree}
    (h : readTemplate l blank template = .ok tree) :
    ∃ passed s, Run l blank template passed s ∧ s.ahead = [] ∧ s.escaping = false ∧
      s.flush.reverse = tree := by
  unfold readTemplate at h
  split at h
  next => exact absurd h (by simp)
  next s hloop =>
    obtain ⟨⟨passed, hrun⟩, hdone⟩ := loop_induction exists_run_of_pass ⟨[], .start⟩ hloop
    split at h
    next => exact absurd h (by simp)
    next hescaping =>
      injection h with h
      cases pieceStep_of_piecePass hdone with
      | done hahead => exact ⟨passed, s, hrun, hahead, by simpa using hescaping, h⟩

/-- A fault is found by a pass in a state that a run leads to, or at the end of the template behind
an escape literal. -/
theorem exists_run_of_readTemplate_eq_error (h : readTemplate l blank template = .error f) :
    ∃ passed s, Run l blank template passed s ∧
      (piecePass l blank s = .error f ∨
        s.ahead = [] ∧ s.escaping = true ∧ f = ⟨.unexpectedEndWhileEscaping, []⟩) := by
  unfold readTemplate at h
  split at h
  next e hloop =>
    injection h with h
    obtain ⟨s, ⟨passed, hrun⟩, hfail⟩ :=
      loop_error_induction exists_run_of_pass ⟨[], .start⟩ hloop
    exact ⟨passed, s, hrun, Or.inl (h ▸ hfail)⟩
  next s hloop =>
    obtain ⟨⟨passed, hrun⟩, hdone⟩ := loop_induction exists_run_of_pass ⟨[], .start⟩ hloop
    split at h
    next hescaping =>
      injection h with h
      cases pieceStep_of_piecePass hdone with
      | done hahead =>
        rw [hahead] at h
        exact ⟨passed, s, hrun, Or.inr ⟨hahead, hescaping, h.symm⟩⟩
    next => exact absurd h (by simp)

/-- The fault of a pass is the fault of the template. -/
theorem Scan.Run.parseWith_eq_error {tokens : Tokens} (hne : ∀ role, tokens.get role ≠ "")
    {template : String} (h : Run (tokens.literals hne) blank template.toList passed s)
    (hfail : piecePass (tokens.literals hne) blank s = .error f) :
    parseWith tokens blank template =
      .error ⟨f.kind, template.length - f.ahead.length, template⟩ := by
  refine (parseWith_eq_error_iff hne).mpr ⟨f, ?_, rfl⟩
  rw [h.readTemplate_eq, readFrom_of_error hfail]

/-! ## What is behind and what is ahead -/

/-- The characters before the rest of a text are those in front of it. -/
theorem length_sub_length {text : String} {front back : List Char}
    (h : text.toList = front ++ back) : text.length - back.length = front.length := by
  rw [← String.length_toList, h, List.length_append, Nat.add_sub_cancel]

/-- A pass takes its text from what is ahead. -/
theorem ahead_suffix_of_pieceStep (h : PieceStep l blank s (some t)) : t.ahead <:+ s.ahead := by
  cases h with
  | char _ hahead _ => exact hahead ▸ List.suffix_cons _ _
  | escape => exact List.drop_suffix _ _
  | escaped => exact List.drop_suffix _ _
  | tag _ hliteral htag =>
    obtain ⟨w, -, -, hahead⟩ := (readTag_eq_ok_iff (starts_of_literalAt hliteral)).mp htag
    exact hahead ▸ List.suffix_append _ _

theorem Scan.Run.ahead_suffix (h : Run l blank template passed s) : s.ahead <:+ template := by
  induction h with
  | start => exact List.suffix_refl _
  | pass _ hpass ih => exact (ahead_suffix_of_pieceStep (pieceStep_of_piecePass hpass)).trans ih

/-- Behind the scanner stands the escape literal when it comes to what that escapes. -/
theorem Scan.Run.exists_front (h : Run l blank template passed s) (hescaping : s.escaping = true) :
    ∃ front, template = front ++ l.of .escape ++ s.ahead := by
  cases h with
  | start => exact absurd hescaping (by simp [State.start])
  | @pass passed r _ h hpass =>
    -- Of all passes only the one over an escape literal leaves the scanner like this.
    cases pieceStep_of_piecePass hpass with
    | char hplain _ _ => exact absurd hescaping (by simp [hplain])
    | escaped => exact absurd hescaping (by simp [State.takeLiteral])
    | tag => exact absurd hescaping (by simp)
    | escape _ hliteral =>
      obtain ⟨front, hfront⟩ := h.ahead_suffix
      obtain ⟨rest, hrest⟩ := starts_eq_true_iff.mp (starts_of_literalAt hliteral)
      refine ⟨front, ?_⟩
      rw [← hfront, hrest, skip_append, List.append_assoc]

end TagText
