import TagText.Proofs.Template.Conservation
import TagText.Proofs.Template.Run

/-!
# What an error says about its place

An error has a cause and an offset, and the cause says what stands at the offset: a literal that
begins or ends there, a character that is shown, or something that is missing there
(`ParseError.Kind.Describes`). With literals of any length and any matcher of blanks this is true:

> `parse_error_describes`: every error describes the text around its offset, unless a literal is
> empty, and then it names the first such literal and is at the front.

A cause looks at the end of the text behind its place and at the front of the text ahead. So what it
says about a part of the template that goes to the end it says about the whole template
(`Fault.Describes.of_suffix`), and each scanner is only asked about the text that it was given.
-/

namespace TagText

open Scan

variable {l : Literals} {blank : List Char → Nat}

/-! ## What a cause says -/

/-- What a cause says about the text behind its place and ahead of it. -/
def ParseError.Kind.Describes (l : Literals) (blank : List Char → Nat) (behind ahead : List Char) :
    ParseError.Kind → Prop
  | .tagCloseOutsideTag => l.of .tagClose <+: ahead
  | .unexpectedEndWhileEscaping => ahead = [] ∧ l.of .escape <:+ behind
  | .unexpectedEscapedCharacter found =>
    (∃ c, ahead.head? = some c ∧ found = String.singleton c) ∧ l.of .escape <:+ behind ∧
      ∀ role, role = .escape ∨ role = .tagOpen ∨ role = .tagClose → ¬l.of role <+: ahead
  | .delimiterEscapedOutsideString role =>
    (role = .tagOpen ∨ role = .tagClose) ∧ l.of .escape <:+ behind ∧ l.of role <+: ahead
  | .emptyPathSegment => l.of .tagPathSeparator <+: ahead
  | .emptyTag => (∀ name, IsSegment name → ¬name <+: ahead) ∧ ¬l.of .tagPathSeparator <+: ahead
  | .unexpectedModifierValue found =>
    found = String.ofList (ahead.take 1) ∧ (∀ name, IsModifierName name → ¬name <+: ahead) ∧
      ∃ blanks, Passes blank blanks ahead ∧ l.of .tagModifier ++ blanks <:+ behind
  | .expectedTagClose found => found = String.ofList (ahead.take 1) ∧ ¬l.of .tagClose <+: ahead
  | .emptyToken _ => False

/-- The place of a fault is in `text`, and its cause says what is around it. -/
def Scan.Fault.Describes (l : Literals) (blank : List Char → Nat) (text : List Char) (f : Fault) :
    Prop :=
  ∃ behind, text = behind ++ f.ahead ∧ f.kind.Describes l blank behind f.ahead

/-- Of the text behind its place a cause sees only the end. -/
theorem ParseError.Kind.Describes.append {behind ahead : List Char} {kind : ParseError.Kind}
    (h : kind.Describes l blank behind ahead) (front : List Char) :
    kind.Describes l blank (front ++ behind) ahead := by
  cases kind with
  | unexpectedEndWhileEscaping => exact h.imp_right (List.suffix_append_of_suffix ·)
  | unexpectedEscapedCharacter =>
    obtain ⟨hfound, hescape, hnone⟩ := h
    exact ⟨hfound, List.suffix_append_of_suffix hescape, hnone⟩
  | delimiterEscapedOutsideString =>
    obtain ⟨hrole, hescape, hliteral⟩ := h
    exact ⟨hrole, List.suffix_append_of_suffix hescape, hliteral⟩
  | unexpectedModifierValue =>
    obtain ⟨hfound, hname, blanks, hblanks, hmark⟩ := h
    exact ⟨hfound, hname, blanks, hblanks, List.suffix_append_of_suffix hmark⟩
  | tagCloseOutsideTag | emptyPathSegment | emptyTag | expectedTagClose | emptyToken => exact h

theorem Scan.Fault.Describes.of_suffix {text whole : List Char} {f : Fault}
    (h : f.Describes l blank text) (hsuffix : text <:+ whole) : f.Describes l blank whole := by
  obtain ⟨behind, rfl, hkind⟩ := h
  obtain ⟨front, rfl⟩ := hsuffix
  exact ⟨front ++ behind, (List.append_assoc ..).symm, hkind.append front⟩

/-- Where a pattern takes nothing no name begins. -/
theorem not_prefix_of_eq_zero {p : Pattern} {x : Char → Bool} (hp : Identifier.ReadsNames p x)
    {s name : List Char} (h : p.prefixLength s = 0) (hname : IsName x name) : ¬name <+: s := by
  rintro ⟨rest, rfl⟩
  obtain ⟨first, others, rfl, hfirst⟩ := hname.exists_cons
  have hnone := hp.eq_zero_iff.mp h first rfl
  simp [hfirst] at hnone

/-! ## Inside a tag -/

theorem ahead_suffix_of_pathPass {s t : PathState} (h : pathPass l s = .ok (some t)) :
    t.ahead <:+ s.ahead := by
  cases pathPass_eq_ok_iff.mp h with
  | segment => exact List.suffix_append _ _
  | separator => exact List.suffix_append _ _

theorem ahead_suffix_of_modifierPass {s t : ModifierState}
    (h : modifierPass l blank s = .ok (some t)) : t.ahead <:+ s.ahead := by
  cases modifierPass_eq_ok_iff.mp h with
  | modifier => exact List.suffix_append _ _

theorem describes_of_readPath {ahead : List Char} {f : Fault} (h : readPath l ahead = .error f) :
    f.Describes l blank ahead := by
  have hstep : ∀ s t : PathState, s.ahead <:+ ahead → pathPass l s = .ok (some t) →
      t.ahead <:+ ahead := fun s t hs hst => (ahead_suffix_of_pathPass hst).trans hs
  unfold readPath at h
  split at h
  next e hloop =>
    injection h with h
    subst h
    obtain ⟨s, ⟨behind, hbehind⟩, hs⟩ := loop_error_induction hstep (List.suffix_refl _) hloop
    obtain ⟨-, hsep, -, rfl⟩ := pathPass_eq_error_iff.mp hs
    exact ⟨behind, hbehind.symm, prefix_iff_starts.mpr hsep⟩
  next s hloop =>
    obtain ⟨⟨behind, hbehind⟩, hs⟩ := loop_induction hstep (List.suffix_refl _) hloop
    split at h
    next =>
      injection h with h
      subst h
      cases pathPass_eq_ok_iff.mp hs with
      | stop hname hsep =>
        refine ⟨behind, hbehind.symm, fun name hsegment => ?_, not_prefix_iff_starts.mpr hsep⟩
        exact not_prefix_of_eq_zero Identifier.readsNames_segment hname hsegment
    next => exact absurd h (by simp)

theorem describes_of_readModifiers {ahead : List Char} {f : Fault}
    (h : readModifiers l blank ahead = .error f) : f.Describes l blank ahead := by
  have hstep : ∀ s t : ModifierState, s.ahead <:+ ahead →
      modifierPass l blank s = .ok (some t) → t.ahead <:+ ahead :=
    fun s t hs hst => (ahead_suffix_of_modifierPass hst).trans hs
  unfold readModifiers at h
  split at h
  next e hloop =>
    injection h with h
    subst h
    obtain ⟨s, hs, hfail⟩ := loop_error_induction hstep (List.suffix_refl _) hloop
    obtain ⟨rest, hahead, hname, rfl⟩ := modifierPass_eq_error_iff.mp hfail
    obtain ⟨blanks, hrest, hblanks⟩ := exists_passes blank rest
    -- The mark and the blanks are the end of what was read.
    have hfault : Fault.Describes l blank s.ahead
        ⟨.unexpectedModifierValue (found (skipBlank blank rest)), skipBlank blank rest⟩ := by
      refine ⟨l.of .tagModifier ++ blanks, ?_, rfl, fun name hmodifier => ?_, blanks, hblanks,
        List.suffix_refl _⟩
      · rw [hahead, List.append_assoc, ← hrest]
      · exact not_prefix_of_eq_zero Identifier.readsNames_modifier hname hmodifier
    exact hfault.of_suffix hs
  next => exact absurd h (by simp)

theorem rest_suffix_of_readPath {ahead rest : List Char} {path : List String}
    (h : readPath l ahead = .ok (path, rest)) : rest <:+ ahead := by
  obtain ⟨trailing, -, hahead⟩ := readPath_eq_ok_iff.mp h
  exact hahead ▸ List.suffix_append _ _

theorem rest_suffix_of_readModifiers {ahead rest : List Char} {names : List String}
    (h : readModifiers l blank ahead = .ok (names, rest)) : rest <:+ ahead := by
  obtain ⟨ms, -, -, hahead⟩ := readModifiers_eq_ok_iff.mp h
  exact hahead ▸ List.suffix_append _ _

/-- What is said of the place of a fault in a tag. -/
theorem describes_of_readTag {ahead : List Char} {f : Fault}
    (h : readTag l blank ahead = .error f) : f.Describes l blank ahead := by
  have hopen : skipBlank blank (l.skip .tagOpen ahead) <:+ ahead :=
    (skipBlank_suffix _ _).trans (List.drop_suffix _ _)
  unfold readTag at h
  split at h
  next e hpath =>
    injection h with h
    subst h
    exact (describes_of_readPath hpath).of_suffix hopen
  next path afterPath hpath =>
    have hafterPath : skipBlank blank afterPath <:+ ahead :=
      (skipBlank_suffix _ _).trans ((rest_suffix_of_readPath hpath).trans hopen)
    split at h
    next e hmodifiers =>
      injection h with h
      subst h
      exact (describes_of_readModifiers hmodifiers).of_suffix hafterPath
    next names rest hmodifiers =>
      have hrest : rest <:+ ahead := (rest_suffix_of_readModifiers hmodifiers).trans hafterPath
      obtain ⟨behind, hbehind⟩ := (skipBlank_suffix blank rest).trans hrest
      dsimp only at h
      split at h
      next => exact absurd h (by simp)
      next hclose =>
        injection h with h
        subst h
        exact ⟨behind, hbehind.symm, rfl, not_prefix_iff_starts.mpr (by simpa using hclose)⟩

/-! ## Templates -/

/-- What is said of the place of a fault that a pass over the pieces finds. -/
theorem Scan.Run.describes {template : List Char} {passed : List State} {s : State} {f : Fault}
    (h : Run l blank template passed s) (hfault : PieceFault l blank s f) :
    f.Describes l blank template := by
  cases hfault with
  | close _ hliteral =>
    obtain ⟨behind, hbehind⟩ := h.ahead_suffix
    exact ⟨behind, hbehind.symm, prefix_iff_starts.mpr (starts_of_literalAt hliteral)⟩
  | character hescaping hahead hliteral =>
    obtain ⟨front, hfront⟩ := h.exists_front hescaping
    obtain ⟨c, rest, hcons⟩ := List.exists_cons_of_ne_nil hahead
    exact ⟨front ++ l.of .escape, hfront, ⟨c, by simp [hcons], by simp [found, hcons]⟩,
      List.suffix_append _ _, literalAt_eq_none_iff_forall.mp hliteral⟩
  | @delimiter role hescaping hliteral hrole =>
    obtain ⟨front, hfront⟩ := h.exists_front hescaping
    refine ⟨front ++ l.of .escape, hfront, ?_, List.suffix_append _ _,
      prefix_iff_starts.mpr (starts_of_literalAt hliteral)⟩
    rcases literalAt_eq_some_iff.mp hliteral with ⟨rfl, -⟩ | ⟨rfl, -⟩ | ⟨rfl, -⟩
    · exact absurd rfl hrole
    · exact Or.inl rfl
    · exact Or.inr rfl
  | tag _ _ htag => exact (describes_of_readTag htag).of_suffix h.ahead_suffix

theorem describes_of_readTemplate {template : List Char} {f : Fault}
    (h : readTemplate l blank template = .error f) : f.Describes l blank template := by
  obtain ⟨passed, s, hrun, hfail | ⟨hahead, hescaping, rfl⟩⟩ :=
    exists_run_of_readTemplate_eq_error h
  · exact hrun.describes (piecePass_eq_error_iff.mp hfail)
  · obtain ⟨front, hfront⟩ := hrun.exists_front hescaping
    rw [hahead] at hfront
    exact ⟨front ++ l.of .escape, hfront, rfl, List.suffix_append _ _⟩

/-- **Errors describe the text at their offset.** An error has the template in it and an offset that
is not behind its end. It is about an empty literal iff there is one, then about the first, at the
front. Otherwise its cause says what ends and what begins at the offset. -/
theorem parse_error_describes {tokens : Tokens} {blank : List Char → Nat} {template : String}
    {e : ParseError} (h : parseWith tokens blank template = .error e) :
    e.template = template ∧ e.offset ≤ template.length ∧
      ((∃ role, e.kind = .emptyToken role) ↔ ∃ role, tokens.get role = "") ∧
      (∀ role, e.kind = .emptyToken role → e.offset = 0 ∧ tokens.get role = "" ∧
        ∃ before after,
          [Role.escape, .tagOpen, .tagClose, .tagModifier, .tagPathSeparator] =
            before ++ role :: after ∧ ∀ other ∈ before, tokens.get other ≠ "") ∧
      ∀ hne : ∀ role, tokens.get role ≠ "", e.kind.Describes (tokens.literals hne) blank
        (template.toList.take e.offset) (template.toList.drop e.offset) := by
  cases hfirst : tokens.firstEmpty? with
  | some role =>
    rw [parseWith_of_firstEmpty? hfirst] at h
    injection h with h
    subst h
    obtain ⟨hempty, before, after, hall, hbefore⟩ := List.find?_eq_some_iff_append.mp hfirst
    have hempty : tokens.get role = "" := by simpa using hempty
    refine ⟨rfl, Nat.zero_le _, ⟨fun _ => ⟨role, hempty⟩, fun _ => ⟨role, rfl⟩⟩, ?_,
      fun hne => absurd hempty (hne role)⟩
    intro other hother
    obtain rfl : role = other := by simpa using hother
    exact ⟨rfl, hempty, before, after, hall, fun other hmem => by simpa using hbefore other hmem⟩
  | none =>
    have hne := Tokens.firstEmpty?_eq_none_iff.mp hfirst
    obtain ⟨f, hf, rfl⟩ := (parseWith_eq_error_iff hne).mp h
    obtain ⟨behind, htext, hkind⟩ := describes_of_readTemplate hf
    have hnot : ∀ role, f.kind ≠ .emptyToken role := by
      intro role hrole
      rw [hrole] at hkind
      exact hkind
    refine ⟨rfl, Nat.sub_le _ _, ⟨fun ⟨role, hrole⟩ => absurd hrole (hnot role),
      fun ⟨role, hrole⟩ => absurd hrole (hne role)⟩, fun role hrole => absurd hrole (hnot role),
      fun _ => ?_⟩
    dsimp only
    rw [length_sub_length htext, htext, List.take_left, List.drop_left]
    exact hkind

theorem parse_error_describes_overlapping :
    parseWith .overlapping Pattern.blanks.prefixLength "é<<a | ?>>" =
        .error ⟨.unexpectedModifierValue "?", 7, "é<<a | ?>>"⟩ ∧
      (ParseError.Kind.unexpectedModifierValue "?").Describes
        (Tokens.overlapping.literals Tokens.get_overlapping_ne_empty) Pattern.blanks.prefixLength
        "é<<a | ".toList "?>>".toList := by
  have hfail : parseWith .overlapping Pattern.blanks.prefixLength "é<<a | ?>>" =
      .error ⟨.unexpectedModifierValue "?", 7, "é<<a | ?>>"⟩ := by
    decide +kernel
  obtain ⟨-, -, -, -, hkind⟩ := parse_error_describes hfail
  exact ⟨hfail, hkind Tokens.get_overlapping_ne_empty⟩

end TagText
