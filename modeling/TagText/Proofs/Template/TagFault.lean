import TagText.Proofs.Template.Grammar

/-!
# What goes wrong in a tag

With literals of one character and the default blanks there are five ways in which the reading of a
tag may stop with a fault. `TagHalts` lists them by what was read of the tag before the fault, in
terms of the grammar, and the characters ahead of it:

> `readTag_eq_error_iff`: reading a tag stops with a fault iff the text behind the opening literal
> is something in the sense of `TagHalts` in front of that fault.

A path and modifiers are read to the fault by the same passes as to their end, so each of the two
loops is gone through here once for its faults (`halts_of_pathLoop`, `halts_of_modifierLoop`) and
once from what was read (`pathLoop_of_segments`, `modifierLoop_of_formed`).
-/

namespace TagText

open Scan

variable {tokens : Tokens} {mark : Role → Char} {rest : List Char}

/-- The text of a tag between the opening and the closing literal. -/
def WrittenTag.inner (l : Literals) (t : WrittenTag) : List Char :=
  t.afterOpen ++ (pathText l t.path t.trailing ++
    (t.afterPath ++ t.modifiers.flatMap (WrittenModifier.write l)))

theorem inner_append (l : Literals) (t : WrittenTag) (rest : List Char) :
    t.inner l ++ rest = t.afterOpen ++ (pathText l t.path t.trailing ++
      (t.afterPath ++ (t.modifiers.flatMap (WrittenModifier.write l) ++ rest))) := by
  simp only [WrittenTag.inner, List.append_assoc]

/-- A tag up to its end, at which neither a part of a tag nor the closing literal is ahead. -/
structure Unclosed (mark : Role → Char) (t : WrittenTag) (ahead : List Char) : Prop where
  afterOpen : ∀ c ∈ t.afterOpen, isBlank c = true
  path : PathSpelled (.single mark)
    (t.afterPath ++ (t.modifiers.flatMap (WrittenModifier.write (.single mark)) ++ ahead))
    t.path t.trailing
  afterPath : Passes Pattern.blanks.prefixLength t.afterPath
    (t.modifiers.flatMap (WrittenModifier.write (.single mark)) ++ ahead)
  modifiers : ModifiersSpelled (.single mark) Pattern.blanks.prefixLength ahead t.modifiers
  beforeClose : t.beforeClose = []
  notClosed : ∀ c, ahead.head? = some c → c ≠ mark .tagClose

/-- A fault in a tag, and what was read behind the opening literal before it. -/
inductive TagHalts (mark : Role → Char) : List Char → Fault → Prop where
  /-- No path begins. -/
  | nothing {blanks ahead : List Char} (hblanks : ∀ c ∈ blanks, isBlank c = true)
      (hahead : ∀ c, ahead.head? = some c →
        isBlank c = false ∧ c.isLower = false ∧ c ≠ mark .tagPathSeparator) :
      TagHalts mark blanks ⟨.emptyTag, ahead⟩
  /-- A separator stands before every segment. -/
  | leading {blanks rest : List Char} (hblanks : ∀ c ∈ blanks, isBlank c = true) :
      TagHalts mark blanks ⟨.emptyPathSegment, mark .tagPathSeparator :: rest⟩
  /-- A separator stands behind a separator. -/
  | doubled {t : WrittenTag} {rest : List Char} (ht : TagDerivation t)
      (htrailing : t.trailing = true) (hafterPath : t.afterPath = [])
      (hmodifiers : t.modifiers = []) :
      TagHalts mark (t.inner (.single mark)) ⟨.emptyPathSegment, mark .tagPathSeparator :: rest⟩
  /-- No name stands behind the mark of a modifier and blanks. -/
  | modifier {t : WrittenTag} {blanks ahead : List Char} (ht : TagDerivation t)
      (hblanks : ∀ c ∈ blanks, isBlank c = true)
      (hahead : ∀ c, ahead.head? = some c → isBlank c = false ∧ c.isLower = false) :
      TagHalts mark (t.inner (.single mark) ++ mark .tagModifier :: blanks)
        ⟨.unexpectedModifierValue (found ahead), ahead⟩
  /-- The closing literal is missing. -/
  | unclosed {t : WrittenTag} {ahead : List Char} (ht : Unclosed mark t ahead) :
      TagHalts mark (t.inner (.single mark)) ⟨.expectedTagClose (found ahead), ahead⟩

/-! ## Blanks and heads -/

/-- Blanks are passed over in front of what is none. -/
theorem skipBlank_blanks {blanks : List Char} (hblanks : ∀ c ∈ blanks, isBlank c = true)
    (hrest : ∀ c, rest.head? = some c → isBlank c = false) :
    skipBlank Pattern.blanks.prefixLength (blanks ++ rest) = rest :=
  skipBlank_of_passes (passes_blanks_iff.mpr ⟨hblanks, hrest⟩)

theorem skipBlank_of_head (hrest : ∀ c, rest.head? = some c → isBlank c = false) :
    skipBlank Pattern.blanks.prefixLength rest = rest := by
  have hnone : ∀ c ∈ ([] : List Char), isBlank c = true := fun c hc => absurd hc List.not_mem_nil
  exact skipBlank_blanks hnone hrest

/-- What is ahead after blanks stands behind blanks and begins with none. -/
theorem exists_blanks (s : List Char) : ∃ blanks,
    s = blanks ++ skipBlank Pattern.blanks.prefixLength s ∧ (∀ c ∈ blanks, isBlank c = true) ∧
      ∀ c, (skipBlank Pattern.blanks.prefixLength s).head? = some c → isBlank c = false := by
  obtain ⟨blanks, hs, hpasses⟩ := exists_passes Pattern.blanks.prefixLength s
  exact ⟨blanks, hs, passes_blanks_iff.mp hpasses⟩

theorem exists_of_starts_single {role : Role} {s : List Char}
    (h : (Literals.single mark).starts role s = true) : ∃ rest, s = mark role :: rest :=
  starts_eq_true_iff.mp h

theorem ne_of_starts_single {role : Role} {s : List Char}
    (h : (Literals.single mark).starts role s = false) {c : Char} (hc : s.head? = some c) :
    c ≠ mark role := by
  cases s with
  | nil => exact absurd hc (by simp)
  | cons d s =>
    rw [starts_single, beq_eq_false_iff_ne] at h
    exact Option.some.inj hc ▸ h.symm

/-! ## Paths -/

/-- Once a segment was read, the only fault of a path is a separator behind a separator. -/
theorem halts_of_pathLoop {s : PathState} {f : Fault}
    (h : loop (fun s => s.ahead.length) (pathPass (.single mark)) (pathPass_lt _) s = .error f)
    (hne : s.segments ≠ [])
    (hname : s.awaiting = false → Identifier.segment.prefixLength s.ahead = 0) :
    ∃ path rest, f = ⟨.emptyPathSegment, mark .tagPathSeparator :: rest⟩ ∧
      (∀ w ∈ path, IsSegment w.toList) ∧
      (if s.awaiting then [mark .tagPathSeparator] else []) ++ s.ahead =
        pathTail (.single mark) path true ++ f.ahead := by
  -- As for paths without a fault: a separator that was read before is text still ahead.
  fun_induction loop (fun s => s.ahead.length) (pathPass (.single mark)) (pathPass_lt _) s with
  | case1 s e he =>
    obtain ⟨-, hsep, hplace, rfl⟩ := pathPass_eq_error_iff.mp he
    obtain ⟨rest, hrest⟩ := exists_of_starts_single hsep
    injection h with h
    subst h
    refine ⟨[], rest, by rw [hrest], fun w hw => absurd hw List.not_mem_nil, ?_⟩
    rw [if_pos (hplace.resolve_left hne)]
    rfl
  | case2 => exact absurd h (by simp)
  | case3 s t hs _ ih =>
    cases pathPass_eq_ok_iff.mp hs with
    | @segment segments awaiting w rest hw =>
      cases awaiting with
      | false => exact absurd (hname rfl) (by simp [hw.2, hw.1])
      | true =>
        obtain ⟨path, rest', hf, hpath, htext⟩ :=
          ih h (List.cons_ne_nil _ _) fun _ => Identifier.readsNames_segment.next_eq_zero hw
        have htext : rest = pathTail (.single mark) path true ++ f.ahead := htext
        refine ⟨w :: path, rest', hf, List.forall_mem_cons.mpr
          ⟨Identifier.readsNames_segment.isName hw, hpath⟩, ?_⟩
        rw [htext]
        simp only [if_true, pathTail, List.flatMap_cons, List.append_assoc]
        rfl
    | @separator segments rest hzero hsegs =>
      exact ih h hsegs fun habs => Bool.noConfusion habs

/-- Reading a path stops where no segment is, or at a separator that no segment precedes. -/
theorem tagHalts_of_readPath {blanks s : List Char} {f : Fault}
    (hblanks : ∀ c ∈ blanks, isBlank c = true) (hs : ∀ c, s.head? = some c → isBlank c = false)
    (h : readPath (.single mark) s = .error f) :
    ∃ read, blanks ++ s = read ++ f.ahead ∧ TagHalts mark read f := by
  unfold readPath at h
  cases hpass : pathPass (.single mark) ⟨[], false, s⟩ with
  | error e =>
    rw [loop_of_error hpass] at h
    injection h with h
    subst h
    obtain ⟨-, hsep, -, rfl⟩ := pathPass_eq_error_iff.mp hpass
    obtain ⟨rest, rfl⟩ := exists_of_starts_single hsep
    exact ⟨blanks, rfl, .leading hblanks⟩
  | ok r =>
    cases pathPass_eq_ok_iff.mp hpass with
    | stop hname hsep =>
      rw [loop_of_none hpass] at h
      injection h with h
      subst h
      refine ⟨blanks, rfl, .nothing hblanks fun c hc => ⟨hs c hc, ?_, ne_of_starts_single hsep hc⟩⟩
      exact Identifier.readsNames_segment.eq_zero_iff.mp hname c hc
    | separator _ habs => exact absurd rfl habs
    | @segment _ _ w rest hw =>
      rw [loop_of_some hpass] at h
      split at h
      next e he =>
        injection h with h
        subst h
        obtain ⟨path, rest', rfl, hpath, htext⟩ := halts_of_pathLoop he (List.cons_ne_nil _ _)
          fun _ => Identifier.readsNames_segment.next_eq_zero hw
        have htext : rest = pathTail (.single mark) path true ++ mark .tagPathSeparator :: rest' :=
          htext
        let t : WrittenTag := ⟨blanks, w :: path, true, [], [], []⟩
        have ht : TagDerivation t :=
          .of_formed hblanks (List.cons_ne_nil w path) (List.forall_mem_cons.mpr
            ⟨Identifier.readsNames_segment.isName hw, hpath⟩) (by simp [t]) (by simp [t]) rfl
        refine ⟨t.inner (.single mark), ?_, .doubled ht rfl rfl rfl⟩
        rw [inner_append, pathText_cons, List.append_assoc, htext]
        rfl
      next u hu =>
        -- Nothing takes a segment away again.
        obtain ⟨path, -, -, hsegments, -⟩ := tailSpelled_of_loop hu (List.cons_ne_nil _ _)
          fun _ => Identifier.readsNames_segment.next_eq_zero hw
        split at h
        next hempty => simp [hsegments] at hempty
        next => exact absurd h (by simp)

theorem head_pathTail_trailing (path : List String) (rest : List Char) :
    (pathTail (.single mark) path true ++ rest).head? = some (mark .tagPathSeparator) := by
  cases path <;> rfl

/-- A separator ends a name. -/
theorem takes_before_separator (h : tokens.OneCharacter mark) {w : String}
    (hw : IsSegment w.toList) (path : List String) (rest : List Char) :
    Identifier.segment.Takes w.toList (pathTail (.single mark) path true ++ rest) := by
  refine Identifier.readsNames_segment.takes hw fun c hc => ?_
  rw [head_pathTail_trailing] at hc
  exact Option.some.inj hc ▸ h.endsName (by simp)

/-- No name begins with a separator. -/
theorem segment_separator (h : tokens.OneCharacter mark) (rest : List Char) :
    Identifier.segment.prefixLength (mark .tagPathSeparator :: rest) = 0 := by
  refine Identifier.readsNames_segment.eq_zero_cons ?_
  have hends : EndsName (mark .tagPathSeparator) := h.endsName (by simp)
  exact (Bool.or_eq_false_iff.mp hends.of_modifier.1).1

/-- Segments are read, each with a separator before it, whatever stands behind the last
separator. -/
theorem pathLoop_of_segments (h : tokens.OneCharacter mark) {path : List String}
    (hpath : ∀ w ∈ path, IsSegment w.toList) {segments : List String} (hne : segments ≠ [])
    (rest : List Char) :
    loop (fun s => s.ahead.length) (pathPass (.single mark)) (pathPass_lt _)
        ⟨segments, false, pathTail (.single mark) path true ++ rest⟩ =
      loop (fun s => s.ahead.length) (pathPass (.single mark)) (pathPass_lt _)
        ⟨path.reverse ++ segments, true, rest⟩ := by
  induction path generalizing segments with
  | nil => exact loop_of_some (pathPass_of_pathStep (.separator (segment_separator h _) hne))
  | cons w path ih =>
    obtain ⟨hw, hpath⟩ := List.forall_mem_cons.mp hpath
    have htext : pathTail (.single mark) (w :: path) true ++ rest =
        (Literals.single mark).of .tagPathSeparator ++
          (w.toList ++ (pathTail (.single mark) path true ++ rest)) := by
      simp only [pathTail, List.flatMap_cons, List.append_assoc]
    rw [htext, loop_of_some (pathPass_of_pathStep (.separator (segment_separator h _) hne)),
      loop_of_some (pathPass_of_pathStep (.segment (takes_before_separator h hw path rest))),
      ih hpath (List.cons_ne_nil _ _), List.reverse_cons, List.append_assoc,
      List.singleton_append]

theorem readPath_of_doubled (h : tokens.OneCharacter mark) {path : List String} (hne : path ≠ [])
    (hpath : ∀ w ∈ path, IsSegment w.toList) (rest : List Char) :
    readPath (.single mark)
        (pathText (.single mark) path true ++ mark .tagPathSeparator :: rest) =
      .error ⟨.emptyPathSegment, mark .tagPathSeparator :: rest⟩ := by
  obtain ⟨w, path, rfl⟩ := List.exists_cons_of_ne_nil hne
  obtain ⟨hw, hpath⟩ := List.forall_mem_cons.mp hpath
  have hsep : (Literals.single mark).starts .tagPathSeparator (mark .tagPathSeparator :: rest) =
      true := starts_append (.single mark) _ rest
  rw [readPath, pathText_cons, List.append_assoc,
    loop_of_some (pathPass_of_pathStep (.segment (takes_before_separator h hw path _))),
    pathLoop_of_segments h hpath (List.cons_ne_nil _ _),
    loop_of_error (pathPass_eq_error_iff.mpr ⟨segment_separator h rest, hsep, Or.inr rfl, rfl⟩)]

/-! ## Modifiers -/

/-- The only fault of modifiers is a mark without a name behind it. -/
theorem halts_of_modifierLoop {s : ModifierState} {f : Fault}
    (h : loop (fun s => s.ahead.length) (modifierPass (.single mark) Pattern.blanks.prefixLength)
      (modifierPass_lt _ _) s = .error f) :
    ∃ (ms : List WrittenModifier) (blanks ahead : List Char),
      f = ⟨.unexpectedModifierValue (found ahead), ahead⟩ ∧ (∀ m ∈ ms, m.Formed) ∧
      (∀ c ∈ blanks, isBlank c = true) ∧
      (∀ c, ahead.head? = some c → isBlank c = false ∧ c.isLower = false) ∧
      s.ahead = ms.flatMap (WrittenModifier.write (.single mark)) ++
        mark .tagModifier :: (blanks ++ ahead) := by
  fun_induction loop (fun s => s.ahead.length)
    (modifierPass (.single mark) Pattern.blanks.prefixLength) (modifierPass_lt _ _) s with
  | case1 s e he =>
    obtain ⟨behind, hahead, hname, rfl⟩ := modifierPass_eq_error_iff.mp he
    injection h with h
    obtain ⟨blanks, hbehind, hblanks, hhead⟩ := exists_blanks behind
    refine ⟨[], blanks, _, h.symm, fun m hm => absurd hm List.not_mem_nil, hblanks, ?_, ?_⟩
    · exact fun c hc => ⟨hhead c hc, Identifier.readsNames_modifier.eq_zero_iff.mp hname c hc⟩
    · rw [hahead]
      exact congrArg (mark .tagModifier :: ·) hbehind
  | case2 => exact absurd h (by simp)
  | case3 s t hs _ ih =>
    cases modifierPass_eq_ok_iff.mp hs with
    | @modifier names m rest hbefore hname hafter =>
      obtain ⟨ms, blanks, ahead, hf, hms, hblanks, hahead, htext⟩ := ih h
      have hm : m.Formed := ⟨(passes_blanks_iff.mp hbefore).1,
        Identifier.readsNames_modifier.isName hname, (passes_blanks_iff.mp hafter).1⟩
      refine ⟨m :: ms, blanks, ahead, hf, List.forall_mem_cons.mpr ⟨hm, hms⟩, hblanks, hahead, ?_⟩
      rw [List.flatMap_cons, List.append_assoc, ← htext]

theorem halts_of_readModifiers {s : List Char} {f : Fault}
    (h : readModifiers (.single mark) Pattern.blanks.prefixLength s = .error f) :
    ∃ (ms : List WrittenModifier) (blanks ahead : List Char),
      f = ⟨.unexpectedModifierValue (found ahead), ahead⟩ ∧ (∀ m ∈ ms, m.Formed) ∧
      (∀ c ∈ blanks, isBlank c = true) ∧
      (∀ c, ahead.head? = some c → isBlank c = false ∧ c.isLower = false) ∧
      s = ms.flatMap (WrittenModifier.write (.single mark)) ++
        mark .tagModifier :: (blanks ++ ahead) := by
  unfold readModifiers at h
  split at h
  next e hloop => exact Except.error.inj h ▸ halts_of_modifierLoop hloop
  next => exact absurd h (by simp)

/-- Modifiers are read in front of what ends a name and is no blank. -/
theorem modifierLoop_of_formed {ms : List WrittenModifier} (h : tokens.OneCharacter mark)
    (hms : ∀ m ∈ ms, m.Formed)
    (hrest : ∀ c, rest.head? = some c → EndsName c ∧ isBlank c = false) (names : List String) :
    loop (fun s => s.ahead.length) (modifierPass (.single mark) Pattern.blanks.prefixLength)
        (modifierPass_lt _ _)
        ⟨names, ms.flatMap (WrittenModifier.write (.single mark)) ++ rest⟩ =
      loop (fun s => s.ahead.length) (modifierPass (.single mark) Pattern.blanks.prefixLength)
        (modifierPass_lt _ _) ⟨(ms.map WrittenModifier.name).reverse ++ names, rest⟩ := by
  induction ms generalizing names with
  | nil => rfl
  | cons m ms ih =>
    obtain ⟨hm, hms⟩ := List.forall_mem_cons.mp hms
    obtain ⟨hbefore, hname, hafter⟩ :=
      taken_of_formed hm fun c hc => head_behind_modifiers h ms hrest hc
    rw [List.flatMap_cons, List.append_assoc,
      loop_of_some (modifierPass_of_modifierStep (.modifier hbefore hname hafter)), ih hms]
    simp

/-- A mark without a name behind it is where reading modifiers stops. -/
theorem readModifiers_of_nameless (h : tokens.OneCharacter mark) {ms : List WrittenModifier}
    (hms : ∀ m ∈ ms, m.Formed) {blanks ahead : List Char}
    (hblanks : ∀ c ∈ blanks, isBlank c = true)
    (hahead : ∀ c, ahead.head? = some c → isBlank c = false ∧ c.isLower = false) :
    readModifiers (.single mark) Pattern.blanks.prefixLength
        (ms.flatMap (WrittenModifier.write (.single mark)) ++
          mark .tagModifier :: (blanks ++ ahead)) =
      .error ⟨.unexpectedModifierValue (found ahead), ahead⟩ := by
  have hmark : ∀ c, (mark .tagModifier :: (blanks ++ ahead)).head? = some c →
      EndsName c ∧ isBlank c = false :=
    fun c hc => Option.some.inj hc ▸ ⟨h.endsName (by simp), h.not_blank (by simp)⟩
  have hskip : skipBlank Pattern.blanks.prefixLength (blanks ++ ahead) = ahead :=
    skipBlank_blanks hblanks fun c hc => (hahead c hc).1
  have hname : Identifier.modifier.prefixLength
      (skipBlank Pattern.blanks.prefixLength (blanks ++ ahead)) = 0 := by
    rw [hskip]
    exact Identifier.readsNames_modifier.eq_zero_iff.mpr fun c hc => (hahead c hc).2
  rw [readModifiers, modifierLoop_of_formed h hms hmark,
    loop_of_error (modifierPass_eq_error_iff.mpr ⟨blanks ++ ahead, rfl, hname, rfl⟩), hskip]

/-! ## Tags -/

theorem Unclosed.tagDerivation {t : WrittenTag} {ahead : List Char} (h : Unclosed mark t ahead) :
    TagDerivation t := by
  obtain ⟨hne, hpath⟩ := isSegment_of_pathSpelled h.path
  exact .of_formed h.afterOpen hne hpath (passes_blanks_iff.mp h.afterPath).1
    (forms_of_modifiersSpelled h.modifiers) h.beforeClose

/-- Every fault in a tag halts it in one of the five ways. -/
theorem tagHalts_of_readTag {behind : List Char} {f : Fault}
    (h : readTag (.single mark) Pattern.blanks.prefixLength (mark .tagOpen :: behind) = .error f) :
    ∃ read, behind = read ++ f.ahead ∧ TagHalts mark read f := by
  obtain ⟨afterOpen, hbehind, hafterOpen, hhead⟩ := exists_blanks behind
  have hskip : (Literals.single mark).skip .tagOpen (mark .tagOpen :: behind) = behind := rfl
  unfold readTag at h
  rw [hskip] at h
  split at h
  next e hpath =>
    injection h with h
    subst h
    rw [hbehind]
    exact tagHalts_of_readPath hafterOpen hhead hpath
  next path afterPath hpath =>
    obtain ⟨trailing, hspelled, htext⟩ := readPath_eq_ok_iff.mp hpath
    obtain ⟨hne, hsegments⟩ := isSegment_of_pathSpelled hspelled
    obtain ⟨blanks, hafterPath, hblanks⟩ := exists_passes Pattern.blanks.prefixLength afterPath
    split at h
    next e hmodifiers =>
      injection h with h
      subst h
      obtain ⟨ms, before, ahead, rfl, hms, hbefore, hahead, hmsText⟩ :=
        halts_of_readModifiers hmodifiers
      let t : WrittenTag := ⟨afterOpen, path, trailing, blanks, ms, []⟩
      have ht : TagDerivation t :=
        .of_formed hafterOpen hne hsegments (passes_blanks_iff.mp hblanks).1 hms rfl
      refine ⟨t.inner (.single mark) ++ mark .tagModifier :: before, ?_,
        .modifier ht hbefore hahead⟩
      rw [List.append_assoc, inner_append, hbehind, htext, hafterPath, hmsText]
      rfl
    next names rest hmodifiers =>
      obtain ⟨ms, hms, rfl, hmsText⟩ := readModifiers_eq_ok_iff.mp hmodifiers
      rw [hmsText] at hafterPath hblanks
      -- The blanks behind the parts were passed over with the last of them.
      have hrest : skipBlank Pattern.blanks.prefixLength rest = rest :=
        skipBlank_of_head fun c hc => head_not_blank_behind_parts hblanks hms hc
      dsimp only at h
      rw [hrest] at h
      split at h
      next => exact absurd h (by simp)
      next hclose =>
        injection h with h
        subst h
        let t : WrittenTag := ⟨afterOpen, path, trailing, blanks, ms, []⟩
        have ht : Unclosed mark t rest :=
          ⟨hafterOpen, hafterPath ▸ hspelled, hblanks, hms, rfl,
            fun c hc => ne_of_starts_single (by simpa using hclose) hc⟩
        refine ⟨t.inner (.single mark), ?_, .unclosed ht⟩
        rw [inner_append, hbehind, htext, hafterPath]

/-- A tag is read from its path on: blanks behind the opening literal are passed over. -/
theorem skipBlank_behind_open (afterOpen s : List Char)
    (hblanks : ∀ c ∈ afterOpen, isBlank c = true)
    (hs : ∀ c, s.head? = some c → isBlank c = false) :
    skipBlank Pattern.blanks.prefixLength
      ((Literals.single mark).skip .tagOpen (mark .tagOpen :: (afterOpen ++ s))) = s :=
  skipBlank_blanks hblanks hs

/-- Whatever halts a tag is the fault that reading it stops with. -/
theorem readTag_of_tagHalts (h : tokens.OneCharacter mark) {read : List Char} {f : Fault}
    (hread : TagHalts mark read f) :
    readTag (.single mark) Pattern.blanks.prefixLength (mark .tagOpen :: (read ++ f.ahead)) =
      .error f := by
  cases hread with
  | @nothing _ ahead hblanks hahead =>
    have hname : Identifier.segment.prefixLength ahead = 0 :=
      Identifier.readsNames_segment.eq_zero_iff.mpr fun c hc => (hahead c hc).2.1
    have hsep : (Literals.single mark).starts .tagPathSeparator ahead = false :=
      starts_single_eq_false fun c hc => (hahead c hc).2.2
    have hpath : readPath (.single mark) ahead = .error ⟨.emptyTag, ahead⟩ := by
      rw [readPath, loop_of_none (pathPass_of_pathStep (.stop hname hsep))]
      rfl
    rw [readTag, skipBlank_behind_open _ _ hblanks fun c hc => (hahead c hc).1, hpath]
  | @leading _ rest hblanks =>
    have hpath : readPath (.single mark) (mark .tagPathSeparator :: rest) =
        .error ⟨.emptyPathSegment, mark .tagPathSeparator :: rest⟩ := by
      rw [readPath, loop_of_error (pathPass_eq_error_iff.mpr
        ⟨segment_separator h rest, starts_append (.single mark) _ rest, Or.inl rfl, rfl⟩)]
    rw [readTag, skipBlank_behind_open _ _ hblanks, hpath]
    exact fun c hc => Option.some.inj hc ▸ h.not_blank (by simp)
  | @doubled t rest ht htrailing hafterPath hmodifiers =>
    rw [inner_append, hafterPath, hmodifiers, htrailing, readTag,
      skipBlank_behind_open _ _ ht.afterOpen fun c hc => head_of_pathText ht.path_ne_nil ht.path hc]
    exact readPath_of_doubled h ht.path_ne_nil ht.path rest ▸ rfl
  | @modifier t blanks ahead ht hblanks hahead =>
    have hhead : ∀ c, (t.modifiers.flatMap (WrittenModifier.write (.single mark)) ++
        mark .tagModifier :: (blanks ++ ahead)).head? = some c → c = mark .tagModifier :=
      fun c hc => (head_of_modifiers t.modifiers hc).elim id fun hc => (Option.some.inj hc).symm
    have hpath := readPath_of_pathSpelled <|
      pathSpelled_of_segments h ht.path_ne_nil ht.path t.trailing fun c hc =>
        head_behind_blanks h ht.afterPath
          (fun c hc => hhead c hc ▸ ⟨h.endsName (by simp), h.mark_ne (by decide)⟩) hc
    rw [List.append_assoc, inner_append, readTag, skipBlank_behind_open _ _ ht.afterOpen
      fun c hc => head_of_pathText ht.path_ne_nil ht.path hc, List.cons_append, hpath]
    dsimp only
    rw [skipBlank_blanks ht.afterPath fun c hc => hhead c hc ▸ h.not_blank (by simp),
      readModifiers_of_nameless h ht.formed hblanks hahead]
  | @unclosed t ahead ht =>
    have hpath := readPath_of_pathSpelled ht.path
    have hms := readModifiers_eq_ok_iff.mpr ⟨t.modifiers, ht.modifiers, rfl, rfl⟩
    have hahead : skipBlank Pattern.blanks.prefixLength ahead = ahead :=
      skipBlank_of_head fun c hc => head_not_blank_behind_parts ht.afterPath ht.modifiers hc
    have hopen : (Literals.single mark).starts .tagClose ahead = false :=
      starts_single_eq_false ht.notClosed
    have hderived := ht.tagDerivation
    rw [inner_append, readTag, skipBlank_behind_open _ _ ht.afterOpen
      fun c hc => head_of_pathText hderived.path_ne_nil hderived.path hc, hpath]
    dsimp only
    rw [skipBlank_of_passes ht.afterPath, hms]
    dsimp only
    rw [hahead, if_neg (by simp [hopen])]

/-- Reading a tag stops with a fault iff something in the sense of `TagHalts` was read before it. -/
theorem readTag_eq_error_iff (h : tokens.OneCharacter mark) {behind : List Char} {f : Fault} :
    readTag (.single mark) Pattern.blanks.prefixLength (mark .tagOpen :: behind) = .error f ↔
      ∃ read, behind = read ++ f.ahead ∧ TagHalts mark read f := by
  constructor
  · exact tagHalts_of_readTag
  · rintro ⟨read, rfl, hread⟩
    exact readTag_of_tagHalts h hread

end TagText
