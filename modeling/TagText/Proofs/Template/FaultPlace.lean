import TagText.Proofs.Template.Fault

/-!
# A fault stands where the template goes wrong

Reading stops at the first character with which no template can go on. Everything in front of it
begins some template (`exists_derivation_of_halts`), and the fault depends on what was read and on
that character alone (`Halts.congr`), so that with it every template fails alike:

> `parse_error_place`: the characters before the offset of an error begin a template that parses;
> with the character at the offset, unless it is an underscore where a tag should be closed, none
> does, and each fails at the same place with the same fault.

An underscore behind a name is the exception because only the characters behind it decide whether
it belongs to the name. Everywhere else the next character tells whether a name, blanks, or a
literal ends (`TailSpelled.congr`, `ModifiersSpelled.congr`).
-/

namespace TagText

open Scan

variable {tokens : Tokens} {mark : Role → Char}

/-! ## Going on before a fault -/

theorem write_eq_inner {t : WrittenTag} (hclose : t.beforeClose = []) :
    t.write (.single mark) = mark .tagOpen :: (t.inner (.single mark) ++ [mark .tagClose]) := by
  rw [← List.append_nil (t.write _), WrittenTag.write_append, WrittenTag.fromPath,
    WrittenTag.fromModifiers, WrittenTag.fromClose, hclose, inner_append]
  rfl

theorem isSegment_a : IsSegment "a".toList := .one (by decide)

theorem isModifierName_a : IsModifierName "a".toList := .one (by decide)

/-- What was read of a tag before a fault begins a tag. -/
theorem exists_tag_of_tagHalts {read : List Char} {f : Fault} (h : TagHalts mark read f) :
    ∃ suffix t, TagDerivation t ∧ t.write (.single mark) = mark .tagOpen :: (read ++ suffix) := by
  have hopened : (∀ c ∈ read, isBlank c = true) →
      ∃ suffix t, TagDerivation t ∧
        t.write (.single mark) = mark .tagOpen :: (read ++ suffix) := by
    intro hblanks
    refine ⟨['a', mark .tagClose], ⟨read, ["a"], false, [], [], []⟩, ?_, ?_⟩
    · exact .of_formed hblanks (by simp) (by simpa using isSegment_a) (by simp) (by simp) rfl
    · simp [write_eq_inner, WrittenTag.inner, pathText]
  cases h with
  | nothing hblanks => exact hopened hblanks
  | leading hblanks => exact hopened hblanks
  | @doubled t rest ht => exact ⟨_, t, ht, write_eq_inner ht.beforeClose⟩
  | @modifier t blanks ahead ht hblanks =>
    let m : WrittenModifier := ⟨blanks, "a", []⟩
    have hm : ∀ m' ∈ t.modifiers ++ [m], m'.Formed := by
      refine List.forall_mem_append.mpr ⟨ht.formed, List.forall_mem_singleton.mpr ?_⟩
      exact ⟨hblanks, isModifierName_a, fun c hc => absurd hc List.not_mem_nil⟩
    refine ⟨['a', mark .tagClose], { t with modifiers := t.modifiers ++ [m] }, ?_, ?_⟩
    · exact .of_formed ht.afterOpen ht.path_ne_nil ht.path ht.afterPath hm ht.beforeClose
    · rw [write_eq_inner (t := { t with modifiers := t.modifiers ++ [m] }) ht.beforeClose]
      simp [WrittenTag.inner, WrittenModifier.write, Literals.single, m]
  | @unclosed t ahead ht => exact ⟨_, t, ht.tagDerivation, write_eq_inner ht.beforeClose⟩

/-- What was read before a fault begins a piece or is nothing. -/
theorem exists_derivation_of_halts {afterTag : Bool} {read : List Char} {f : Fault}
    (h : Halts mark afterTag read f) :
    ∃ suffix ps, Derivation mark afterTag ps ∧
      Piece.writeAll (.single mark) ps = read ++ suffix := by
  have hescaped : ∃ suffix ps, Derivation mark afterTag ps ∧
      Piece.writeAll (.single mark) ps = [mark .escape] ++ suffix :=
    ⟨[mark .escape], [.escaped .escape], .escape .done, rfl⟩
  cases h with
  | close => exact ⟨[], [], .done, rfl⟩
  | ending | escaped | delimiter => exact hescaped
  | tag hread =>
    obtain ⟨suffix, t, ht, htext⟩ := exists_tag_of_tagHalts hread
    refine ⟨suffix, [.tag t], .tag ht .done, ?_⟩
    rw [Piece.writeAll_cons, Piece.writeAll_nil, List.append_nil]
    exact htext

/-! ## The character at a fault -/

theorem head_append_congr (w : List Char) {rest other : List Char}
    (hhead : other.head? = rest.head?) : (w ++ other).head? = (w ++ rest).head? := by
  rw [List.head?_append, List.head?_append, hhead]

theorem starts_single_congr {role : Role} {rest other : List Char}
    (hhead : other.head? = rest.head?) :
    (Literals.single mark).starts role other = (Literals.single mark).starts role rest := by
  cases rest <;> cases other <;> simp_all [starts_single, starts_nil]

section
variable {rest other : List Char}

theorem passes_blanks_congr {w : List Char} (h : Passes Pattern.blanks.prefixLength w rest)
    (hhead : other.head? = rest.head?) : Passes Pattern.blanks.prefixLength w other := by
  rw [passes_blanks_iff] at h ⊢
  rwa [hhead]

/-- A segment ends in front of the same character behind its path. -/
theorem segment_takes_congr (hm : tokens.OneCharacter mark) {s : List Char} {path : List String}
    {trailing : Bool}
    (h : Identifier.segment.Takes s (pathTail (.single mark) path trailing ++ rest))
    (hhead : other.head? = rest.head?) (hunder : rest.head? ≠ some '_') :
    Identifier.segment.Takes s (pathTail (.single mark) path trailing ++ other) := by
  refine Identifier.readsNames_segment.takes_congr h (head_append_congr _ hhead) fun habs => ?_
  rcases head_of_pathTail path trailing habs with hsep | hrest
  · exact (hm.endsName (by simp)).2 hsep.symm
  · exact hunder hrest

/-- Of what is left of a path, the next character behind it tells that it ends there. -/
theorem TailSpelled.congr (hm : tokens.OneCharacter mark) {path : List String} {trailing : Bool}
    (h : TailSpelled (.single mark) rest path trailing) (hhead : other.head? = rest.head?)
    (hunder : rest.head? ≠ some '_') : TailSpelled (.single mark) other path trailing := by
  induction h with
  | stop hsep => exact .stop (starts_single_congr hhead ▸ hsep)
  | trailing hname hsep =>
    refine .trailing ?_ (starts_single_congr hhead ▸ hsep)
    rw [Identifier.readsNames_segment.eq_zero_iff] at hname ⊢
    rwa [hhead]
  | segment hname _ ih => exact .segment (segment_takes_congr hm hname hhead hunder) ih

theorem PathSpelled.congr (hm : tokens.OneCharacter mark) {path : List String} {trailing : Bool}
    (h : PathSpelled (.single mark) rest path trailing) (hhead : other.head? = rest.head?)
    (hunder : rest.head? ≠ some '_') : PathSpelled (.single mark) other path trailing := by
  cases h with
  | mk hname htail =>
    exact .mk (segment_takes_congr hm hname hhead hunder) (htail.congr hm hhead hunder)

/-- Neither blanks nor modifiers begin with an underscore. -/
theorem head_ne_underscore (hm : tokens.OneCharacter mark) {blanks : List Char}
    (hblanks : ∀ c ∈ blanks, isBlank c = true) (ms : List WrittenModifier)
    (hunder : rest.head? ≠ some '_') :
    (blanks ++ (ms.flatMap (WrittenModifier.write (.single mark)) ++ rest)).head? ≠ some '_' := by
  intro habs
  rcases mem_or_head_of_append habs with hblank | hrest
  · exact (endsName_of_isBlank (hblanks _ hblank)).2 rfl
  · rcases head_of_modifiers ms hrest with hmark | hrest
    · exact (hm.endsName (by simp)).2 hmark.symm
    · exact hunder hrest

/-- Of modifiers, the next character behind them tells that they end there. -/
theorem ModifiersSpelled.congr (hm : tokens.OneCharacter mark) {ms : List WrittenModifier}
    (h : ModifiersSpelled (.single mark) Pattern.blanks.prefixLength rest ms)
    (hhead : other.head? = rest.head?) (hunder : rest.head? ≠ some '_') :
    ModifiersSpelled (.single mark) Pattern.blanks.prefixLength other ms := by
  induction h with
  | stop hmark => exact .stop (starts_single_congr hhead ▸ hmark)
  | @modifier m ms hbefore hname hafter _ ih =>
    have hbehind := head_append_congr (ms.flatMap (WrittenModifier.write (.single mark))) hhead
    refine .modifier ?_ (Identifier.readsNames_modifier.takes_congr hname ?_ ?_) ?_ ih
    · exact passes_blanks_congr hbefore (head_append_congr _ (head_append_congr _ hbehind))
    · exact head_append_congr _ hbehind
    · exact head_ne_underscore hm (passes_blanks_iff.mp hafter).1 ms hunder
    · exact passes_blanks_congr hafter hbehind

end

theorem Unclosed.congr (hm : tokens.OneCharacter mark) {t : WrittenTag} {c : Char}
    {rest : List Char} (h : Unclosed mark t (c :: rest)) (hunder : c ≠ '_') (other : List Char) :
    Unclosed mark t (c :: other) := by
  have hhead : (c :: other).head? = (c :: rest).head? := rfl
  have hnot : (c :: rest).head? ≠ some '_' := fun habs => hunder (Option.some.inj habs)
  have hbehind :=
    head_append_congr (t.modifiers.flatMap (WrittenModifier.write (.single mark))) hhead
  have hblanks := (passes_blanks_iff.mp h.afterPath).1
  exact {
    afterOpen := h.afterOpen
    path := h.path.congr hm (head_append_congr _ hbehind)
      (head_ne_underscore hm hblanks t.modifiers hnot)
    afterPath := passes_blanks_congr h.afterPath hbehind
    modifiers := h.modifiers.congr hm hhead hnot
    beforeClose := h.beforeClose
    notClosed := h.notClosed }

/-- A fault in a tag is the same with the same character at its place. -/
theorem TagHalts.congr (hm : tokens.OneCharacter mark) {read : List Char} {kind : ParseError.Kind}
    {c : Char} {rest : List Char} (h : TagHalts mark read ⟨kind, c :: rest⟩)
    (hkind : kind ≠ .expectedTagClose "_") (other : List Char) :
    TagHalts mark read ⟨kind, c :: other⟩ := by
  cases h with
  | nothing hblanks hahead => exact .nothing hblanks hahead
  | leading hblanks => exact .leading hblanks
  | doubled ht htrailing hafterPath hmodifiers => exact .doubled ht htrailing hafterPath hmodifiers
  | @modifier t blanks _ ht hblanks hahead =>
    show TagHalts mark _ ⟨.unexpectedModifierValue (found (c :: other)), c :: other⟩
    exact .modifier ht hblanks hahead
  | unclosed ht =>
    show TagHalts mark _ ⟨.expectedTagClose (found (c :: other)), c :: other⟩
    refine .unclosed (ht.congr hm ?_ other)
    rintro rfl
    exact hkind rfl

theorem Halts.congr (hm : tokens.OneCharacter mark) {afterTag : Bool} {read : List Char}
    {kind : ParseError.Kind} {c : Char} {rest : List Char}
    (h : Halts mark afterTag read ⟨kind, c :: rest⟩) (hkind : kind ≠ .expectedTagClose "_")
    (other : List Char) : Halts mark afterTag read ⟨kind, c :: other⟩ := by
  cases h with
  | close => exact .close
  | escaped hc =>
    show Halts mark afterTag _ ⟨.unexpectedEscapedCharacter (found (c :: other)), c :: other⟩
    exact .escaped hc
  | delimiter hrole => exact .delimiter hrole
  | tag hread => exact .tag (hread.congr hm hkind other)

/-! ## The place of an error -/

/-- A text that agrees with another up to a character goes on behind it. -/
theorem exists_eq_of_take {s front back : List Char} {c : Char}
    (h : s.take (front.length + 1) = (front ++ c :: back).take (front.length + 1)) :
    ∃ rest, s = front ++ c :: rest := by
  have htake : (front ++ c :: back).take (front.length + 1) = front ++ [c] := by
    rw [List.append_cons]
    exact List.take_left' (List.length_append ..)
  refine ⟨s.drop (front.length + 1), ?_⟩
  rw [List.append_cons, ← htake, ← h, List.take_append_drop]

/-- **An error stands where the template goes wrong.** The characters before the offset begin a
template that parses. Together with the character at the offset they begin none: every such template
fails there with the same fault. Only an underscore in the place of the closing literal is
different, for with other characters behind it a name may go on. -/
theorem parse_error_place (hm : tokens.OneCharacter mark) {template : String} {e : ParseError}
    (h : (Parser.mk tokens .blanks).parse template = .error e) :
    (∃ continuation tree, (Parser.mk tokens .blanks).parse
      (String.ofList (template.toList.take e.offset) ++ continuation) = .ok tree) ∧
    (e.offset < template.length → e.kind ≠ .expectedTagClose "_" → ∀ other : String,
      other.toList.take (e.offset + 1) = template.toList.take (e.offset + 1) →
      (Parser.mk tokens .blanks).parse other = .error ⟨e.kind, e.offset, other⟩) := by
  obtain ⟨rfl, ps, read, ahead, hps, hread, htext, hoffset⟩ := (parse_eq_error_iff hm).mp h
  constructor
  · obtain ⟨suffix, qs, hqs, hsuffix⟩ := exists_derivation_of_halts hread
    refine ⟨String.ofList suffix, Piece.assemble (.single mark) (ps ++ qs),
      (parse_eq_ok_iff hm).mpr ⟨ps ++ qs, ?_, ?_, rfl⟩⟩
    · exact derivation_append_iff.mpr ⟨hps, by rwa [Bool.false_or]⟩
    · rw [htext, hoffset, List.take_left, writeAll_append, hsuffix]
      simp
  · intro hinside hkind other hother
    obtain ⟨c, rest, rfl⟩ : ∃ c rest, ahead = c :: rest := by
      refine List.exists_cons_of_ne_nil ?_
      rintro rfl
      rw [← String.length_toList, htext, List.append_nil, ← hoffset] at hinside
      exact Nat.lt_irrefl _ hinside
    rw [htext, hoffset] at hother
    obtain ⟨rest', hrest'⟩ := exists_eq_of_take hother
    exact (parse_eq_error_iff hm).mpr
      ⟨rfl, ps, read, c :: rest', hps, hread.congr hm hkind rest', hrest', hoffset⟩

theorem parse_error_place_doubled :
    Parser.default.parse "x\x7ba..b\x7d" = .error ⟨.emptyPathSegment, 4, "x\x7ba..b\x7d"⟩ ∧
      (∃ continuation tree, Parser.default.parse
        (String.ofList ("x\x7ba..b\x7d".toList.take 4) ++ continuation) = .ok tree) ∧
      Parser.default.parse "x\x7ba.. c" = .error ⟨.emptyPathSegment, 4, "x\x7ba.. c"⟩ := by
  have hfail : Parser.default.parse "x\x7ba..b\x7d" =
      .error ⟨.emptyPathSegment, 4, "x\x7ba..b\x7d"⟩ := by
    decide +kernel
  obtain ⟨hgoes, hstops⟩ := parse_error_place oneCharacter_default hfail
  exact ⟨hfail, hgoes, hstops (by decide) (by decide) "x\x7ba.. c" (by decide)⟩

/-- An underscore may yet become part of a name. -/
example :
    Parser.default.parse "\x7ba_\x7d" = .error ⟨.expectedTagClose "_", 2, "\x7ba_\x7d"⟩ ∧
      Parser.default.parse "\x7ba_b\x7d" = .ok [.tag ⟨["a_b"], []⟩] := by
  decide +kernel

end TagText
