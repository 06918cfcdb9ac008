import TagText.Proofs.Template.Spelling

/-!
# Tags are read as they are spelled

The two loops inside a tag, over the segments of its path and over its modifiers, stop without a
fault exactly at the end of a path or of modifiers in the sense of `Spelling`:

> `readTag_eq_ok_iff`: reading a tag succeeds with `rest` still ahead iff the text is a tag spelled
> in front of `rest`, and gives the tag that is meant.

For each loop one lemma tells everything that a pass without a fault can do (`pathPass_eq_ok_iff`,
`modifierPass_eq_ok_iff`), and one when there is a fault (`pathPass_eq_error_iff`,
`modifierPass_eq_error_iff`); the loops themselves are inductions over the steps. A pass over a path
would take a segment right behind a segment. That it never does is not a check in the loop but the
maximality of names: where a name ends no other name begins (`ReadsNames.next_eq_zero`), and this
is what the invariant of `tailSpelled_of_loop` carries.
-/

namespace TagText

open Scan

variable {l : Literals} {blank : List Char → Nat}

/-! ## Paths -/

/-- What a pass over a path does when it finds no fault. -/
inductive PathStep (l : Literals) : PathState → Option PathState → Prop where
  | segment {segments : List String} {awaiting : Bool} {s : String} {rest : List Char}
      (hname : Identifier.segment.Takes s.toList rest) :
      PathStep l ⟨segments, awaiting, s.toList ++ rest⟩ (some ⟨s :: segments, false, rest⟩)
  | separator {segments : List String} {rest : List Char}
      (hname : Identifier.segment.prefixLength (l.of .tagPathSeparator ++ rest) = 0)
      (hne : segments ≠ []) :
      PathStep l ⟨segments, false, l.of .tagPathSeparator ++ rest⟩ (some ⟨segments, true, rest⟩)
  | stop {segments : List String} {awaiting : Bool} {ahead : List Char}
      (hname : Identifier.segment.prefixLength ahead = 0)
      (hsep : l.starts .tagPathSeparator ahead = false) :
      PathStep l ⟨segments, awaiting, ahead⟩ none

theorem pathStep_of_pathPass {s : PathState} {r : Option PathState}
    (h : pathPass l s = .ok r) : PathStep l s r := by
  obtain ⟨segments, awaiting, ahead⟩ := s
  unfold pathPass at h
  dsimp only at h
  split at h
  next hnil =>
    injection h with h
    subst hnil h
    exact .stop Identifier.readsNames_segment.eq_zero_nil (starts_nil l _)
  next =>
    split at h
    next hname =>
      injection h with h
      obtain ⟨w, rest, rfl, hw⟩ := Identifier.readsNames_segment.exists_takes hname
      rw [hw.2, List.take_left, List.drop_left] at h
      have hstep : PathStep l ⟨segments, awaiting, (String.ofList w).toList ++ rest⟩
          (some ⟨String.ofList w :: segments, false, rest⟩) :=
        .segment (by rwa [String.toList_ofList])
      rw [String.toList_ofList] at hstep
      exact h ▸ hstep
    next hname =>
      have hzero := Decidable.not_not.mp hname
      split at h
      next hsep =>
        split at h
        next => exact absurd h (by simp)
        next hgoes =>
          injection h with h
          obtain ⟨rest, rfl⟩ := starts_eq_true_iff.mp hsep
          rw [skip_append] at h
          simp only [Bool.or_eq_true, not_or, Bool.not_eq_true, List.isEmpty_eq_false_iff] at hgoes
          obtain ⟨hne, rfl⟩ := hgoes
          exact h ▸ .separator hzero hne
      next hsep =>
        injection h with h
        exact h ▸ .stop hzero (by simpa using hsep)

theorem pathPass_of_pathStep {s : PathState} {r : Option PathState}
    (h : PathStep l s r) : pathPass l s = .ok r := by
  cases h with
  | @segment segments awaiting s rest hname =>
    have hne : Identifier.segment.prefixLength (s.toList ++ rest) ≠ 0 := by
      rw [hname.2]
      simpa using hname.1
    have hahead : s.toList ++ rest ≠ [] := List.append_ne_nil_of_left_ne_nil hname.1 _
    rw [pathPass, if_neg hahead]
    dsimp only
    rw [if_pos hne, hname.2, List.take_left, List.drop_left, String.ofList_toList]
  | @separator segments rest hname hne =>
    have hahead : l.of .tagPathSeparator ++ rest ≠ [] :=
      List.append_ne_nil_of_left_ne_nil (l.of_ne_nil _) _
    have hgoes : ¬(segments.isEmpty || false) = true := by simp [hne]
    rw [pathPass, if_neg hahead]
    dsimp only
    rw [if_neg (Decidable.not_not.mpr hname), if_pos (starts_append l _ _), if_neg hgoes,
      skip_append]
  | @stop segments awaiting ahead hname hsep =>
    have hstarts : ¬l.starts .tagPathSeparator ahead = true := by simp [hsep]
    rw [pathPass]
    dsimp only
    rw [if_neg (Decidable.not_not.mpr hname), if_neg hstarts, ite_self]

theorem pathPass_eq_ok_iff {s : PathState} {r : Option PathState} :
    pathPass l s = .ok r ↔ PathStep l s r :=
  ⟨pathStep_of_pathPass, pathPass_of_pathStep⟩

/-- A pass over a path finds a fault at a separator that no segment precedes. -/
theorem pathPass_eq_error_iff {s : PathState} {f : Fault} :
    pathPass l s = .error f ↔ Identifier.segment.prefixLength s.ahead = 0 ∧
      l.starts .tagPathSeparator s.ahead = true ∧ (s.segments = [] ∨ s.awaiting = true) ∧
      f = ⟨.emptyPathSegment, s.ahead⟩ := by
  unfold pathPass
  split
  next hnil => simp [hnil, starts_nil]
  next =>
    dsimp only
    split
    next hname => simp [hname]
    next hname =>
      rw [Decidable.not_not.mp hname]
      split
      next hsep =>
        split
        next hgoes =>
          have hgoes : s.segments = [] ∨ s.awaiting = true := by simpa using hgoes
          exact ⟨fun h => ⟨rfl, hsep, hgoes, (Except.error.inj h).symm⟩, fun h => h.2.2.2 ▸ rfl⟩
        next hgoes =>
          have hgoes : ¬(s.segments = [] ∨ s.awaiting = true) := by simpa using hgoes
          simp [hgoes]
      next hsep => simp [hsep]

/-- Once a segment was read, what the loop takes are the further segments of the path. A separator
that was read before the loop went on counts as text still ahead. -/
theorem tailSpelled_of_loop {s u : PathState}
    (h : loop (fun s => s.ahead.length) (pathPass l) (pathPass_lt l) s = .ok u)
    (hne : s.segments ≠ [])
    (hname : s.awaiting = false → Identifier.segment.prefixLength s.ahead = 0) :
    ∃ path trailing, TailSpelled l u.ahead path trailing ∧
      u.segments = path.reverse ++ s.segments ∧
      (if s.awaiting then l.of .tagPathSeparator else []) ++ s.ahead =
        pathTail l path trailing ++ u.ahead := by
  -- Over the passes: `hname`, that no name begins here, holds again behind every segment and says
  -- nothing behind a separator.
  fun_induction loop (fun s => s.ahead.length) (pathPass l) (pathPass_lt l) s with
  | case1 s e he => exact absurd h (by simp)
  | case2 s hs =>
    injection h with h
    subst h
    cases pathPass_eq_ok_iff.mp hs with
    | @stop segments awaiting ahead hzero hsep =>
      cases awaiting with
      | false => exact ⟨[], false, .stop hsep, rfl, rfl⟩
      | true => exact ⟨[], true, .trailing hzero hsep, rfl, rfl⟩
  | case3 s t hs _ ih =>
    cases pathPass_eq_ok_iff.mp hs with
    | @segment segments awaiting w rest hw =>
      cases awaiting with
      | false => exact absurd (hname rfl) (by simp [hw.2, hw.1])
      | true =>
        -- The separator that was read before is written in front of this segment.
        obtain ⟨path, trailing, htail, hsegments, htext⟩ :=
          ih h (List.cons_ne_nil _ _) fun _ => Identifier.readsNames_segment.next_eq_zero hw
        have htext : rest = pathTail l path trailing ++ u.ahead := htext
        refine ⟨w :: path, trailing, .segment (htext ▸ hw) htail, by simp [hsegments], ?_⟩
        simp only [if_true, pathTail, List.flatMap_cons, List.append_assoc] at htext ⊢
        rw [← htext]
    | @separator segments rest hzero hsegs =>
      exact ih h hsegs fun habs => Bool.noConfusion habs

/-- Reading goes through the further segments of a path to its end. -/
theorem loop_of_tailSpelled {rest : List Char} {path : List String} {trailing : Bool}
    (h : TailSpelled l rest path trailing) {segments : List String} (hne : segments ≠ [])
    (hname : Identifier.segment.prefixLength (pathTail l path trailing ++ rest) = 0) :
    ∃ awaiting, loop (fun s => s.ahead.length) (pathPass l) (pathPass_lt l)
        ⟨segments, false, pathTail l path trailing ++ rest⟩ =
      .ok ⟨path.reverse ++ segments, awaiting, rest⟩ := by
  induction h generalizing segments with
  | stop hsep => exact ⟨false, loop_of_none (pathPass_of_pathStep (.stop hname hsep))⟩
  | trailing hzero hsep =>
    refine ⟨true, ?_⟩
    rw [show pathTail l [] true = l.of .tagPathSeparator from rfl] at hname ⊢
    rw [loop_of_some (pathPass_of_pathStep (.separator hname hne)),
      loop_of_none (pathPass_of_pathStep (.stop hzero hsep))]
    rfl
  | @segment s path trailing hs htail ih =>
    have htext : pathTail l (s :: path) trailing ++ rest =
        l.of .tagPathSeparator ++ (s.toList ++ (pathTail l path trailing ++ rest)) := by
      simp only [pathTail, List.flatMap_cons, List.append_assoc]
    rw [htext] at hname ⊢
    rw [loop_of_some (pathPass_of_pathStep (.separator hname hne)),
      loop_of_some (pathPass_of_pathStep (.segment hs))]
    obtain ⟨awaiting, hloop⟩ :=
      ih (List.cons_ne_nil s segments) (Identifier.readsNames_segment.next_eq_zero hs)
    exact ⟨awaiting, by rw [hloop, List.reverse_cons, List.append_assoc, List.singleton_append]⟩

theorem pathSpelled_of_readPath {ahead rest : List Char} {path : List String}
    (h : readPath l ahead = .ok (path, rest)) :
    ∃ trailing, PathSpelled l rest path trailing ∧ ahead = pathText l path trailing ++ rest := by
  unfold readPath at h
  split at h
  next => exact absurd h (by simp)
  next u hu =>
    split at h
    next => exact absurd h (by simp)
    next hne =>
      injection h with h
      obtain ⟨rfl, rfl⟩ := Prod.mk.inj h
      -- The first pass took a segment: it found no fault, and some segment was read in the end.
      cases hs : pathPass l ⟨[], false, ahead⟩ with
      | error e =>
        rw [loop_of_error hs] at hu
        exact absurd hu (by simp)
      | ok r =>
        cases pathPass_eq_ok_iff.mp hs with
        | stop =>
          rw [loop_of_none hs] at hu
          injection hu with hu
          exact absurd (hu ▸ rfl) hne
        | separator _ habs => exact absurd rfl habs
        | @segment _ _ s rest hname =>
          rw [loop_of_some hs] at hu
          obtain ⟨path, trailing, htail, hsegments, htext⟩ :=
            tailSpelled_of_loop hu (List.cons_ne_nil _ _) fun _ =>
              Identifier.readsNames_segment.next_eq_zero hname
          have htext : rest = pathTail l path trailing ++ u.ahead := htext
          refine ⟨trailing, ?_, ?_⟩
          · rw [hsegments, List.reverse_append, List.reverse_reverse, List.reverse_singleton]
            exact .mk (htext ▸ hname) htail
          · rw [hsegments, List.reverse_append, List.reverse_reverse, List.reverse_singleton,
              List.singleton_append, pathText_cons, List.append_assoc, ← htext]

theorem readPath_of_pathSpelled {rest : List Char} {path : List String} {trailing : Bool}
    (h : PathSpelled l rest path trailing) :
    readPath l (pathText l path trailing ++ rest) = .ok (path, rest) := by
  cases h with
  | @mk s path trailing hs htail =>
    obtain ⟨awaiting, hloop⟩ := loop_of_tailSpelled htail (List.cons_ne_nil s [])
      (Identifier.readsNames_segment.next_eq_zero hs)
    rw [readPath, pathText_cons, List.append_assoc,
      loop_of_some (pathPass_of_pathStep (.segment hs)), hloop]
    simp

/-- A path is read, with `rest` still ahead, iff it is spelled in front of `rest`. -/
theorem readPath_eq_ok_iff {ahead rest : List Char} {path : List String} :
    readPath l ahead = .ok (path, rest) ↔
      ∃ trailing, PathSpelled l rest path trailing ∧
        ahead = pathText l path trailing ++ rest := by
  constructor
  · exact pathSpelled_of_readPath
  · rintro ⟨trailing, hpath, rfl⟩
    exact readPath_of_pathSpelled hpath

/-! ## Modifiers -/

/-- What a pass over modifiers does when it finds no fault. -/
inductive ModifierStep (l : Literals) (blank : List Char → Nat) :
    ModifierState → Option ModifierState → Prop where
  | modifier {names : List String} {m : WrittenModifier} {rest : List Char}
      (hbefore : Passes blank m.before (m.name.toList ++ (m.after ++ rest)))
      (hname : Identifier.modifier.Takes m.name.toList (m.after ++ rest))
      (hafter : Passes blank m.after rest) :
      ModifierStep l blank ⟨names, m.write l ++ rest⟩ (some ⟨m.name :: names, rest⟩)
  | stop {names : List String} {ahead : List Char} (hmark : l.starts .tagModifier ahead = false) :
      ModifierStep l blank ⟨names, ahead⟩ none

theorem write_modifier_append (m : WrittenModifier) (rest : List Char) :
    m.write l ++ rest =
      l.of .tagModifier ++ (m.before ++ (m.name.toList ++ (m.after ++ rest))) := by
  simp only [WrittenModifier.write, List.append_assoc]

theorem modifierStep_of_modifierPass {s : ModifierState} {r : Option ModifierState}
    (h : modifierPass l blank s = .ok r) : ModifierStep l blank s r := by
  obtain ⟨names, ahead⟩ := s
  unfold modifierPass at h
  dsimp only at h
  split at h
  next hnil =>
    injection h with h
    subst hnil h
    exact .stop (starts_nil l _)
  next =>
    split at h
    next hmark =>
      obtain ⟨behind, rfl⟩ := starts_eq_true_iff.mp hmark
      rw [skip_append] at h
      split at h
      next => exact absurd h (by simp)
      next hname =>
        injection h with h
        obtain ⟨before, hbehind, hbefore⟩ := exists_passes blank behind
        obtain ⟨w, afterName, hw, htakes⟩ :=
          Identifier.readsNames_modifier.exists_takes hname
        rw [hw, htakes.2, List.take_left, List.drop_left] at h
        obtain ⟨after, hafterName, hafter⟩ := exists_passes blank afterName
        let m : WrittenModifier := ⟨before, String.ofList w, after⟩
        have hstep : ModifierStep l blank ⟨names, m.write l ++ skipBlank blank afterName⟩
            (some ⟨m.name :: names, skipBlank blank afterName⟩) :=
          .modifier (by rwa [String.toList_ofList, ← hafterName, ← hw])
            (by rwa [String.toList_ofList, ← hafterName]) hafter
        rw [write_modifier_append, String.toList_ofList, ← hafterName, ← hw, ← hbehind] at hstep
        exact h ▸ hstep
    next hmark =>
      injection h with h
      exact h ▸ .stop (by simpa using hmark)

theorem modifierPass_of_modifierStep {s : ModifierState} {r : Option ModifierState}
    (h : ModifierStep l blank s r) : modifierPass l blank s = .ok r := by
  cases h with
  | @modifier names m rest hbefore hname hafter =>
    have hne : Identifier.modifier.prefixLength (m.name.toList ++ (m.after ++ rest)) ≠ 0 := by
      rw [hname.2]
      simpa using hname.1
    rw [write_modifier_append, modifierPass,
      if_neg (List.append_ne_nil_of_left_ne_nil (l.of_ne_nil _) _)]
    dsimp only
    rw [if_pos (starts_append l _ _), skip_append, skipBlank_of_passes hbefore, if_neg hne,
      hname.2, List.take_left, List.drop_left, skipBlank_of_passes hafter, String.ofList_toList]
  | @stop names ahead hmark =>
    have hstarts : ¬l.starts .tagModifier ahead = true := by simp [hmark]
    rw [modifierPass]
    dsimp only
    rw [if_neg hstarts, ite_self]

theorem modifierPass_eq_ok_iff {s : ModifierState} {r : Option ModifierState} :
    modifierPass l blank s = .ok r ↔ ModifierStep l blank s r :=
  ⟨modifierStep_of_modifierPass, modifierPass_of_modifierStep⟩

/-- A pass over modifiers finds a fault where no name stands behind the mark. -/
theorem modifierPass_eq_error_iff {s : ModifierState} {f : Fault} :
    modifierPass l blank s = .error f ↔ ∃ behind,
      s.ahead = l.of .tagModifier ++ behind ∧
      Identifier.modifier.prefixLength (skipBlank blank behind) = 0 ∧
      f = ⟨.unexpectedModifierValue (found (skipBlank blank behind)), skipBlank blank behind⟩ := by
  obtain ⟨names, ahead⟩ := s
  constructor
  · intro h
    unfold modifierPass at h
    dsimp only at h
    split at h
    next => exact absurd h (by simp)
    next =>
      split at h
      next hmark =>
        obtain ⟨behind, rfl⟩ := starts_eq_true_iff.mp hmark
        rw [skip_append] at h
        split at h
        next hname => exact ⟨behind, rfl, hname, (Except.error.inj h).symm⟩
        next => exact absurd h (by simp)
      next => exact absurd h (by simp)
  · rintro ⟨behind, hahead, hname, rfl⟩
    have hahead : ahead = l.of .tagModifier ++ behind := hahead
    rw [hahead, modifierPass, if_neg (List.append_ne_nil_of_left_ne_nil (l.of_ne_nil _) _)]
    dsimp only
    rw [if_pos (starts_append l _ _), skip_append, if_pos hname]

theorem modifiersSpelled_of_loop {s u : ModifierState}
    (h : loop (fun s => s.ahead.length) (modifierPass l blank) (modifierPass_lt l blank) s =
      .ok u) :
    ∃ ms, ModifiersSpelled l blank u.ahead ms ∧
      u.modifiers = (ms.map WrittenModifier.name).reverse ++ s.modifiers ∧
      s.ahead = ms.flatMap (WrittenModifier.write l) ++ u.ahead := by
  fun_induction loop (fun s => s.ahead.length) (modifierPass l blank) (modifierPass_lt l blank) s
    with
  | case1 s e he => exact absurd h (by simp)
  | case2 s hs =>
    injection h with h
    subst h
    cases modifierPass_eq_ok_iff.mp hs with
    | stop hmark => exact ⟨[], .stop hmark, rfl, rfl⟩
  | case3 s t hs _ ih =>
    cases modifierPass_eq_ok_iff.mp hs with
    | @modifier names m rest hbefore hname hafter =>
      obtain ⟨ms, hms, hnames, htext⟩ := ih h
      have htext : rest = ms.flatMap (WrittenModifier.write l) ++ u.ahead := htext
      subst htext
      exact ⟨m :: ms, .modifier hbefore hname hafter hms, by simp [hnames],
        by simp only [List.flatMap_cons, List.append_assoc]⟩

theorem loop_of_modifiersSpelled {rest : List Char} {ms : List WrittenModifier}
    (h : ModifiersSpelled l blank rest ms) (names : List String) :
    loop (fun s => s.ahead.length) (modifierPass l blank) (modifierPass_lt l blank)
        ⟨names, ms.flatMap (WrittenModifier.write l) ++ rest⟩ =
      .ok ⟨(ms.map WrittenModifier.name).reverse ++ names, rest⟩ := by
  induction h generalizing names with
  | stop hmark => exact loop_of_none (modifierPass_of_modifierStep (.stop hmark))
  | @modifier m ms hbefore hname hafter _ ih =>
    rw [List.flatMap_cons, List.append_assoc,
      loop_of_some (modifierPass_of_modifierStep (.modifier hbefore hname hafter)), ih]
    simp

/-- Modifiers are read, with `rest` still ahead, iff they are spelled in front of `rest`. -/
theorem readModifiers_eq_ok_iff {ahead rest : List Char} {names : List String} :
    readModifiers l blank ahead = .ok (names, rest) ↔
      ∃ ms, ModifiersSpelled l blank rest ms ∧ names = ms.map WrittenModifier.name ∧
        ahead = ms.flatMap (WrittenModifier.write l) ++ rest := by
  constructor
  · intro h
    unfold readModifiers at h
    split at h
    next => exact absurd h (by simp)
    next u hu =>
      injection h with h
      obtain ⟨rfl, rfl⟩ := Prod.mk.inj h
      obtain ⟨ms, hms, hnames, htext⟩ := modifiersSpelled_of_loop hu
      exact ⟨ms, hms, by simp [hnames], htext⟩
  · rintro ⟨ms, hms, rfl, rfl⟩
    rw [readModifiers, loop_of_modifiersSpelled hms]
    simp

/-! ## Tags -/

theorem tagSpelled_of_readTag {behind rest : List Char} {tag : Tag}
    (h : readTag l blank (l.of .tagOpen ++ behind) = .ok (tag, rest)) :
    ∃ t, TagSpelled l blank t rest ∧ t.toTag = tag ∧
      l.of .tagOpen ++ behind = t.write l ++ rest := by
  unfold readTag at h
  rw [skip_append] at h
  split at h
  next => exact absurd h (by simp)
  next path afterPath hpath =>
    split at h
    next => exact absurd h (by simp)
    next names afterModifiers hmodifiers =>
      dsimp only at h
      split at h
      next hclose =>
        injection h with h
        obtain ⟨rfl, rfl⟩ := Prod.mk.inj h
        obtain ⟨trailing, hspelled, hpathText⟩ := readPath_eq_ok_iff.mp hpath
        obtain ⟨ms, hms, rfl, hmsText⟩ := readModifiers_eq_ok_iff.mp hmodifiers
        obtain ⟨afterOpen, hbehind, hafterOpen⟩ := exists_passes blank behind
        obtain ⟨blanks, hafterPath, hblanks⟩ := exists_passes blank afterPath
        obtain ⟨beforeClose, hafterMs, hbeforeClose⟩ := exists_passes blank afterModifiers
        obtain ⟨rest, hrest⟩ := starts_eq_true_iff.mp hclose
        rw [hrest, skip_append]
        -- Each part was read in front of what is written behind it, from the end of the tag on.
        let t : WrittenTag := ⟨afterOpen, path, trailing, blanks, ms, beforeClose⟩
        have hclosing : afterModifiers = t.fromClose l rest := hafterMs.trans (by rw [hrest]; rfl)
        rw [hclosing] at hmsText hms
        have hpathRest : afterPath = t.afterPath ++ t.fromModifiers l rest :=
          hafterPath.trans (by rw [hmsText]; rfl)
        rw [hpathRest] at hpathText hspelled
        refine ⟨t, ⟨?_, hspelled, ?_, hms, ?_⟩, rfl, ?_⟩
        · rw [hpathText] at hafterOpen
          exact hafterOpen
        · rw [hmsText] at hblanks
          exact hblanks
        · rw [hrest] at hbeforeClose
          exact hbeforeClose
        · rw [WrittenTag.write_append, hbehind, hpathText]
          rfl
      next => exact absurd h (by simp)

theorem readTag_of_tagSpelled {t : WrittenTag} {rest : List Char} (h : TagSpelled l blank t rest) :
    readTag l blank (t.write l ++ rest) = .ok (t.toTag, rest) := by
  have hpath : readPath l (t.fromPath l rest) = .ok (t.path, _) := readPath_of_pathSpelled h.path
  have hms : readModifiers l blank (t.fromModifiers l rest) = .ok (_, t.fromClose l rest) :=
    readModifiers_eq_ok_iff.mpr ⟨t.modifiers, h.modifiers, rfl, rfl⟩
  have hclose : skipBlank blank (t.fromClose l rest) = l.of .tagClose ++ rest :=
    skipBlank_of_passes h.beforeClose
  rw [WrittenTag.write_append, readTag, skip_append, skipBlank_of_passes h.afterOpen, hpath]
  dsimp only
  rw [skipBlank_of_passes h.afterPath, hms]
  dsimp only
  rw [hclose, if_pos (starts_append l _ _), skip_append]
  rfl

/-- A tag is read, with `rest` still ahead, iff it is spelled in front of `rest`. -/
theorem readTag_eq_ok_iff {ahead rest : List Char} {tag : Tag}
    (hopen : l.starts .tagOpen ahead = true) :
    readTag l blank ahead = .ok (tag, rest) ↔
      ∃ t, TagSpelled l blank t rest ∧ t.toTag = tag ∧ ahead = t.write l ++ rest := by
  obtain ⟨behind, rfl⟩ := starts_eq_true_iff.mp hopen
  constructor
  · exact tagSpelled_of_readTag
  · rintro ⟨t, ht, rfl, htext⟩
    rw [htext]
    exact readTag_of_tagSpelled ht

end TagText
