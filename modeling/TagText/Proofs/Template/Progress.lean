import TagText.Proofs.Template.Diagnosis
import TagText.Proofs.Template.OneCharacter

/-!
# Every loop of the scanner gets somewhere

The scanner has three loops, over the pieces of a template, the segments of a path and the modifiers
of a tag. Its functions are total because a pass that goes on has taken a character. Here the same is
seen from the template: which states the loops come to in it (`Scan.Visited`), where these stand, and
how many passes a loop may need (`loopWithin`):

> `scan_makes_progress`: a pass leaves its loop or moves forward, never past the end of the template,
> so no loop needs more passes than the template has characters and one to leave. Only for empty
> literals could a pass stay where it is, and tokens with an empty literal are refused before the
> first pass.

For the last point the passes are given once more, over literals that nobody has checked
(`Scan.Unchecked`). Each pass gets somewhere iff the literals are not empty that it takes without
anything else: a mark before a modifier does not matter, as the name behind it is taken too.
-/

namespace TagText

open Scan

/-! ## Loops with a bound -/

section
variable {σ ε : Type} {size : σ → Nat} {pass : σ → Except ε (Option σ)} {n : Nat} {s : σ}

/-- What `pass` comes to when it is repeated, if `n` passes are enough for that. -/
def loopWithin (pass : σ → Except ε (Option σ)) : Nat → σ → Option (Except ε σ)
  | 0, _ => none
  | n + 1, s =>
    match pass s with
    | .error e => some (.error e)
    | .ok none => some (.ok s)
    | .ok (some t) => loopWithin pass n t

/-- A loop needs a pass for each step that its states can shrink by, and one to be left. -/
theorem loopWithin_eq (shrinks : ∀ s t, pass s = .ok (some t) → size t < size s)
    (h : size s < n) : loopWithin pass n s = some (loop size pass shrinks s) := by
  induction n generalizing s with
  | zero => exact absurd h (Nat.not_lt_zero _)
  | succ n ih =>
    rw [loopWithin]
    split
    next e hpass => rw [loop_of_error hpass]
    next hpass => rw [loop_of_none hpass]
    next t hpass =>
      have hlt := shrinks s t hpass
      rw [loop_of_some hpass]
      exact ih (by omega)

end

/-! ## The states that the loops come to -/

namespace Scan

/-- A state of one of the three loops. -/
inductive LoopState where
  | pieces (s : State)
  | path (s : PathState)
  | modifiers (s : ModifierState)

namespace LoopState

/-- What is still ahead. -/
def ahead : LoopState → List Char
  | .pieces s => s.ahead
  | .path s => s.ahead
  | .modifiers s => s.ahead

/-- The number of characters behind, in a template. -/
def index (σ : LoopState) (template : String) : Nat := template.length - σ.ahead.length

/-- One pass of the loop. -/
def pass (l : Literals) (blank : List Char → Nat) : LoopState → Except Fault (Option LoopState)
  | .pieces s => (piecePass l blank s).map (Option.map .pieces)
  | .path s => (pathPass l s).map (Option.map .path)
  | .modifiers s => (modifierPass l blank s).map (Option.map .modifiers)

end LoopState

/-- The states that the loops come to in a template. The loop over its pieces begins at its front,
the one over a path behind an opening literal and blanks, and the one over modifiers behind a path
and blanks. -/
inductive Visited (l : Literals) (blank : List Char → Nat) (template : List Char) :
    LoopState → Prop where
  | start : Visited l blank template (.pieces (.start template))
  | path {s : State} (h : Visited l blank template (.pieces s)) (hescaping : s.escaping = false)
      (hopen : literalAt l s.ahead = some .tagOpen) :
      Visited l blank template (.path ⟨[], false, skipBlank blank (l.skip .tagOpen s.ahead)⟩)
  | modifiers {s : PathState} (h : Visited l blank template (.path s))
      (hleft : pathPass l s = .ok none) (hne : s.segments ≠ []) :
      Visited l blank template (.modifiers ⟨[], skipBlank blank s.ahead⟩)
  | pass {σ τ : LoopState} (h : Visited l blank template σ)
      (hpass : σ.pass l blank = .ok (some τ)) : Visited l blank template τ

end Scan

variable {l : Literals} {blank : List Char → Nat} {template : List Char} {σ τ : LoopState}

/-- A pass that goes on has taken characters from the front of what was ahead. -/
theorem ahead_of_pass (h : σ.pass l blank = .ok (some τ)) :
    τ.ahead <:+ σ.ahead ∧ τ.ahead.length < σ.ahead.length := by
  have hmap : ∀ {α : Type} {r : Except Fault (Option α)} {f : α → LoopState},
      r.map (Option.map f) = .ok (some τ) → ∃ t, r = .ok (some t) ∧ f t = τ := by
    intro α r f hr
    match r, hr with
    | .ok (some t), hr => exact ⟨t, rfl, by simpa [Except.map] using hr⟩
  cases σ with
  | pieces s =>
    obtain ⟨t, ht, rfl⟩ := hmap h
    exact ⟨ahead_suffix_of_pieceStep (pieceStep_of_piecePass ht), piecePass_lt l blank s t ht⟩
  | path s =>
    obtain ⟨t, ht, rfl⟩ := hmap h
    exact ⟨ahead_suffix_of_pathPass ht, pathPass_lt l s t ht⟩
  | modifiers s =>
    obtain ⟨t, ht, rfl⟩ := hmap h
    exact ⟨ahead_suffix_of_modifierPass ht, modifierPass_lt l blank s t ht⟩

/-- The loops never leave the template. -/
theorem Scan.Visited.ahead_suffix (h : Visited l blank template σ) : σ.ahead <:+ template := by
  induction h with
  | start => exact List.suffix_refl _
  | path _ _ _ ih => exact ((skipBlank_suffix _ _).trans (List.drop_suffix _ _)).trans ih
  | modifiers _ _ _ ih => exact (skipBlank_suffix _ _).trans ih
  | pass _ hpass ih => exact (ahead_of_pass hpass).1.trans ih

/-- A state that is visited ends its loop before the template has no more characters to take. -/
theorem Scan.Visited.exists_outcome (h : Visited l blank template σ) :
    ∃ outcome, loopWithin (LoopState.pass l blank) (template.length + 1) σ = some outcome := by
  have hshrinks : ∀ σ τ : LoopState, σ.pass l blank = .ok (some τ) →
      τ.ahead.length < σ.ahead.length := fun σ τ hpass => (ahead_of_pass hpass).2
  exact ⟨_, loopWithin_eq hshrinks (Nat.lt_succ_of_le h.ahead_suffix.length_le)⟩

/-- What the loop over the pieces comes to decides what is parsed. -/
theorem parseWith_of_loopWithin {tokens : Tokens} (hne : ∀ role, tokens.get role ≠ "")
    (template : String) :
    (∃ f, loopWithin (piecePass (tokens.literals hne) blank) (template.length + 1)
        (.start template.toList) = some (.error f) ∧
      parseWith tokens blank template =
        .error ⟨f.kind, template.length - f.ahead.length, template⟩) ∨
    ∃ s, loopWithin (piecePass (tokens.literals hne) blank) (template.length + 1)
        (.start template.toList) = some (.ok s) ∧
      parseWith tokens blank template =
        if s.escaping then
          .error ⟨.unexpectedEndWhileEscaping, template.length - s.ahead.length, template⟩
        else .ok s.flush.reverse := by
  have hlength : (State.start template.toList).ahead.length < template.length + 1 :=
    Nat.lt_succ_of_le (Nat.le_of_eq template.length_toList)
  rw [loopWithin_eq (piecePass_lt (tokens.literals hne) blank) hlength]
  have hread : readTemplate (tokens.literals hne) blank template.toList = _ :=
    readTemplate_eq_readFrom template.toList
  rw [readFrom] at hread
  cases hloop : loop (fun s : State => s.ahead.length) (piecePass (tokens.literals hne) blank)
      (piecePass_lt (tokens.literals hne) blank) (.start template.toList) with
  | error f =>
    rw [hloop] at hread
    exact Or.inl ⟨f, rfl, (parseWith_eq_error_iff hne).mpr ⟨f, hread, rfl⟩⟩
  | ok s =>
    rw [hloop] at hread
    refine Or.inr ⟨s, rfl, ?_⟩
    dsimp only at hread
    split
    next hescaping =>
      rw [if_pos hescaping] at hread
      exact (parseWith_eq_error_iff hne).mpr ⟨_, hread, rfl⟩
    next hescaping =>
      rw [if_neg hescaping] at hread
      exact (parseWith_eq_ok_iff_readTemplate hne).mpr hread

/-! ## Literals that nobody has checked -/

namespace Scan.Unchecked

section
variable (of : Role → List Char)

/-- Whether the literal of a role stands next. -/
def starts (role : Role) (ahead : List Char) : Bool := (of role).isPrefixOf ahead

/-- What is ahead after the literal of a role. -/
def skip (role : Role) (ahead : List Char) : List Char := ahead.drop (of role).length

/-- Takes a segment or a separator. -/
def pathPass (s : PathState) : Except Fault (Option PathState) :=
  if s.ahead = [] then .ok none
  else
    let n := Identifier.segment.prefixLength s.ahead
    if n ≠ 0 then
      .ok (some ⟨String.ofList (s.ahead.take n) :: s.segments, false, s.ahead.drop n⟩)
    else if starts of .tagPathSeparator s.ahead then
      if s.segments.isEmpty || s.awaiting then .error ⟨.emptyPathSegment, s.ahead⟩
      else .ok (some { s with awaiting := true, ahead := skip of .tagPathSeparator s.ahead })
    else .ok none

/-- Takes a modifier mark and the name after it, with the blanks around the name. -/
def modifierPass (blank : List Char → Nat) (s : ModifierState) :
    Except Fault (Option ModifierState) :=
  if s.ahead = [] then .ok none
  else if starts of .tagModifier s.ahead then
    let name := skipBlank blank (skip of .tagModifier s.ahead)
    let n := Identifier.modifier.prefixLength name
    if n = 0 then .error ⟨.unexpectedModifierValue (found name), name⟩
    else
      .ok (some ⟨String.ofList (name.take n) :: s.modifiers, skipBlank blank (name.drop n)⟩)
  else .ok none

/-- The state after the literal of a role that is taken into the text. -/
def takeLiteral (s : State) (role : Role) : State :=
  { s with
    pending := (of role).reverse ++ s.pending
    escaping := false
    ahead := skip of role s.ahead }

/-- Takes the literal that an escape makes into text. -/
def escapedPass (s : State) : Except Fault State :=
  if starts of .escape s.ahead then .ok (takeLiteral of s .escape)
  else if starts of .tagOpen s.ahead then
    if s.inText then .ok (takeLiteral of s .tagOpen)
    else .error ⟨.delimiterEscapedOutsideString .tagOpen, s.ahead⟩
  else if starts of .tagClose s.ahead then
    if s.inText then .ok (takeLiteral of s .tagClose)
    else .error ⟨.delimiterEscapedOutsideString .tagClose, s.ahead⟩
  else .error ⟨.unexpectedEscapedCharacter (found s.ahead), s.ahead⟩

/-- Takes the next piece. Tags are read by `readTag`. -/
def piecePass (readTag : List Char → Except Fault (Tag × List Char)) (s : State) :
    Except Fault (Option State) :=
  match s.ahead with
  | [] => .ok none
  | c :: rest =>
    if s.escaping then
      match escapedPass of s with
      | .error e => .error e
      | .ok t => .ok (some t)
    else if starts of .escape s.ahead then
      .ok (some { s with escaping := true, ahead := skip of .escape s.ahead })
    else if starts of .tagOpen s.ahead then
      match readTag s.ahead with
      | .error e => .error e
      | .ok (tag, rest) => .ok (some ⟨.tag tag :: s.flush, [], false, rest⟩)
    else if starts of .tagClose s.ahead then .error ⟨.tagCloseOutsideTag, s.ahead⟩
    else .ok (some { s with pending := c :: s.pending, ahead := rest })

end

variable {of : Role → List Char} {readTag : List Char → Except Fault (Tag × List Char)}

theorem pathPass_of (l : Literals) : pathPass l.of = Scan.pathPass l := rfl

theorem modifierPass_of (l : Literals) (blank : List Char → Nat) :
    modifierPass l.of blank = Scan.modifierPass l blank := rfl

theorem piecePass_of (l : Literals) (blank : List Char → Nat) :
    piecePass l.of (Scan.readTag l blank) = Scan.piecePass l blank := rfl

/-- Every pass that goes on takes characters. -/
def Advances {σ : Type} (ahead : σ → List Char) (pass : σ → Except Fault (Option σ)) : Prop :=
  ∀ s t, pass s = .ok (some t) → (ahead t).length < (ahead s).length

/-- Where the opening literal stands, `readTag` takes characters if it reads a tag. -/
def TakesTags (of : Role → List Char) (readTag : List Char → Except Fault (Tag × List Char)) :
    Prop :=
  ∀ ahead tag rest, starts of .tagOpen ahead = true → readTag ahead = .ok (tag, rest) →
    rest.length < ahead.length

theorem starts_of_eq_nil {role : Role} (h : of role = []) (ahead : List Char) :
    starts of role ahead = true := by
  simp [starts, h]

theorem skip_of_eq_nil {role : Role} (h : of role = []) (ahead : List Char) :
    skip of role ahead = ahead := by
  simp [skip, h]

theorem skip_length_lt {role : Role} {ahead : List Char} (hne : of role ≠ [])
    (h : starts of role ahead = true) : (skip of role ahead).length < ahead.length := by
  have hle := (List.isPrefixOf_iff_prefix.mp h).length_le
  have hpos := List.length_pos_iff.mpr hne
  rw [skip, List.length_drop]
  omega

/-! ### Paths and modifiers -/

/-- A pass over a path gets somewhere iff the separator is not empty. -/
theorem advances_pathPass_iff :
    Advances PathState.ahead (pathPass of) ↔ of .tagPathSeparator ≠ [] := by
  constructor
  · intro hlt hnil
    -- Behind a segment an empty separator is taken at a character that begins no segment.
    have hname : Identifier.segment.prefixLength ['.'] = 0 :=
      Identifier.readsNames_segment.eq_zero_cons rfl
    have hpass : pathPass of ⟨["a"], false, ['.']⟩ = .ok (some ⟨["a"], true, ['.']⟩) := by
      simp [pathPass, hname, starts_of_eq_nil hnil, skip_of_eq_nil hnil]
    exact absurd (hlt _ _ hpass) (Nat.lt_irrefl _)
  · intro hne s t h
    unfold pathPass at h
    split at h
    next => exact absurd h (by simp)
    next hahead =>
      dsimp only at h
      split at h
      next hname =>
        simp only [Except.ok.injEq, Option.some.injEq] at h
        subst h
        have hpos := List.length_pos_iff.mpr hahead
        rw [List.length_drop]
        omega
      next =>
        split at h
        next hsep =>
          split at h
          next => exact absurd h (by simp)
          next =>
            simp only [Except.ok.injEq, Option.some.injEq] at h
            exact h ▸ skip_length_lt hne hsep
        next => exact absurd h (by simp)

/-- A pass over a modifier gets somewhere even without a mark, since it takes a name. -/
theorem advances_modifierPass : Advances ModifierState.ahead (modifierPass of blank) := by
  intro s t h
  unfold modifierPass at h
  split at h
  next => exact absurd h (by simp)
  next =>
    split at h
    next =>
      dsimp only at h
      split at h
      next => exact absurd h (by simp)
      next hname =>
        simp only [Except.ok.injEq, Option.some.injEq] at h
        subst h
        -- The name is not empty and stands in what is ahead.
        obtain ⟨w, rest, hbehind, hw⟩ := Identifier.readsNames_modifier.exists_takes hname
        have hle : (skipBlank blank (skip of .tagModifier s.ahead)).length ≤ s.ahead.length :=
          Nat.le_trans (skipBlank_length_le blank _) (List.drop_suffix _ _).length_le
        have hrest := skipBlank_length_le blank rest
        have hpos := List.length_pos_iff.mpr hw.1
        rw [hbehind, List.length_append] at hle
        rw [hbehind, hw.2, List.drop_left]
        change (skipBlank blank rest).length < s.ahead.length
        omega
    next => exact absurd h (by simp)

/-! ### Pieces -/

theorem escapedPass_lt (hne : ∀ role, role = .escape ∨ role = .tagOpen ∨ role = .tagClose →
    of role ≠ []) {s t : State} (h : escapedPass of s = .ok t) :
    t.ahead.length < s.ahead.length := by
  have htake : ∀ role, role = .escape ∨ role = .tagOpen ∨ role = .tagClose →
      starts of role s.ahead = true → (takeLiteral of s role).ahead.length < s.ahead.length :=
    fun role hrole hstarts => skip_length_lt (hne role hrole) hstarts
  unfold escapedPass at h
  split at h
  next hescape =>
    injection h with h
    exact h ▸ htake .escape (by simp) hescape
  next =>
    split at h
    next hopen =>
      split at h
      next =>
        injection h with h
        exact h ▸ htake .tagOpen (by simp) hopen
      next => exact absurd h (by simp)
    next =>
      split at h
      next hclose =>
        split at h
        next =>
          injection h with h
          exact h ▸ htake .tagClose (by simp) hclose
        next => exact absurd h (by simp)
      next => exact absurd h (by simp)

/-- With the three literals that are looked for in text, a pass over a piece gets somewhere if tags
do. -/
theorem advances_piecePass (hne : ∀ role, role = .escape ∨ role = .tagOpen ∨ role = .tagClose →
    of role ≠ []) (hread : TakesTags of readTag) :
    Advances State.ahead (piecePass of readTag) := by
  intro s t h
  unfold piecePass at h
  split at h
  next => exact absurd h (by simp)
  next c rest hahead =>
    split at h
    next =>
      split at h
      next => exact absurd h (by simp)
      next u hu =>
        simp only [Except.ok.injEq, Option.some.injEq] at h
        exact h ▸ escapedPass_lt hne hu
    next =>
      split at h
      next hescape =>
        simp only [Except.ok.injEq, Option.some.injEq] at h
        exact h ▸ skip_length_lt (hne .escape (by simp)) hescape
      next =>
        split at h
        next hopen =>
          split at h
          next => exact absurd h (by simp)
          next tag rest htag =>
            simp only [Except.ok.injEq, Option.some.injEq] at h
            exact h ▸ hread _ _ _ hopen htag
        next =>
          split at h
          next => exact absurd h (by simp)
          next =>
            simp only [Except.ok.injEq, Option.some.injEq] at h
            simp [← h, hahead]

/-- Some character is the front of neither of two literals. -/
theorem exists_not_starts {role other : Role} (hrole : of role ≠ []) (hother : of other ≠ []) :
    ∃ c, starts of role [c] = false ∧ starts of other [c] = false := by
  obtain ⟨a, u, hu⟩ := List.exists_cons_of_ne_nil hrole
  obtain ⟨b, v, hv⟩ := List.exists_cons_of_ne_nil hother
  have hc : ∃ c : Char, a ≠ c ∧ b ≠ c := by
    by_cases hx : a ≠ 'x' ∧ b ≠ 'x'
    · exact ⟨'x', hx⟩
    · by_cases hy : a ≠ 'y' ∧ b ≠ 'y'
      · exact ⟨'y', hy⟩
      · exact ⟨'z', by grind⟩
  obtain ⟨c, hac, hbc⟩ := hc
  exact ⟨c, by simp [starts, hu, List.isPrefixOf, hac], by simp [starts, hv, List.isPrefixOf, hbc]⟩

/-- Without one of the three literals some pass stays where it is, whatever tags do. -/
theorem exists_piecePass_stays
    (h : of .escape = [] ∨ of .tagOpen = [] ∨ of .tagClose = []) :
    ∃ s t, (∀ readTag, piecePass of readTag s = .ok (some t)) ∧ t.ahead = s.ahead := by
  by_cases hescape : of .escape = []
  · refine ⟨⟨[], [], false, ['x']⟩, ⟨[], [], true, ['x']⟩, fun readTag => ?_, rfl⟩
    simp [piecePass, starts_of_eq_nil hescape, skip_of_eq_nil hescape]
  by_cases hopen : of .tagOpen = []
  · obtain ⟨c, hc, -⟩ := exists_not_starts hescape hescape
    refine ⟨⟨[], [], true, [c]⟩, takeLiteral of ⟨[], [], true, [c]⟩ .tagOpen, fun readTag => ?_,
      skip_of_eq_nil hopen [c]⟩
    simp [piecePass, escapedPass, hc, starts_of_eq_nil hopen, State.inText]
  · have hclose : of .tagClose = [] := (h.resolve_left hescape).resolve_left hopen
    obtain ⟨c, hc, hc'⟩ := exists_not_starts hescape hopen
    refine ⟨⟨[], [], true, [c]⟩, takeLiteral of ⟨[], [], true, [c]⟩ .tagClose, fun readTag => ?_,
      skip_of_eq_nil hclose [c]⟩
    simp [piecePass, escapedPass, hc, hc', starts_of_eq_nil hclose, State.inText]

/-- With an empty escape literal the loop over pieces takes it, and then what it escapes, for ever. -/
theorem loopWithin_piecePass_eq_none (h : of .escape = []) {s : State} (hahead : s.ahead ≠ [])
    (n : Nat) : loopWithin (piecePass of readTag) n s = none := by
  induction n generalizing s with
  | zero => rfl
  | succ n ih =>
    obtain ⟨c, rest, hs⟩ := List.exists_cons_of_ne_nil hahead
    obtain ⟨nodes, pending, escaping, ahead⟩ := s
    obtain rfl : ahead = c :: rest := hs
    cases escaping with
    | false =>
      have hpass : piecePass of readTag ⟨nodes, pending, false, c :: rest⟩ =
          .ok (some ⟨nodes, pending, true, c :: rest⟩) := by
        simp [piecePass, starts_of_eq_nil h, skip_of_eq_nil h]
      rw [loopWithin, hpass]
      exact ih hahead
    | true =>
      have hpass : piecePass of readTag ⟨nodes, pending, true, c :: rest⟩ =
          .ok (some ⟨nodes, pending, false, c :: rest⟩) := by
        simp [piecePass, escapedPass, takeLiteral, starts_of_eq_nil h, skip_of_eq_nil h, h]
      rw [loopWithin, hpass]
      exact ih hahead

/-- A pass over a piece gets somewhere, if tags do, iff none of the three literals is empty that are
looked for in text. -/
theorem advances_piecePass_iff :
    (∀ readTag, TakesTags of readTag → Advances State.ahead (piecePass of readTag)) ↔
      of .escape ≠ [] ∧ of .tagOpen ≠ [] ∧ of .tagClose ≠ [] := by
  constructor
  · intro hall
    have hsome : ¬(of .escape = [] ∨ of .tagOpen = [] ∨ of .tagClose = []) := by
      intro hnil
      obtain ⟨s, t, hpass, hstays⟩ := exists_piecePass_stays hnil
      have hlt := hall (fun ahead => .error ⟨.emptyTag, ahead⟩) (fun _ _ _ _ h => by simp at h) s t
        (hpass _)
      rw [hstays] at hlt
      exact Nat.lt_irrefl _ hlt
    simpa using hsome
  · rintro ⟨hescape, hopen, hclose⟩ readTag hread
    refine advances_piecePass ?_ hread
    rintro role (rfl | rfl | rfl)
    · exact hescape
    · exact hopen
    · exact hclose

end Scan.Unchecked

open Scan.Unchecked in
/-- **Every loop of the scanner gets somewhere.** With literals that are not empty and any matcher of
blanks, each state that a loop comes to stands in the template; a pass from it leaves the loop or
comes to stand further behind, not past the end of the template; and the loop is left after at most
as many passes as the template has characters, and one. What the loop over the pieces comes to in so
many passes is the result of parsing. Tokens with an empty literal are refused at the front of any
template. Without that, over literals that may be empty, a pass over a path would get somewhere iff
the separator is not empty, one over a modifier always, and one over a piece iff the escape and the
two delimiters are not empty; with an empty escape no template but the empty one would ever end. -/
theorem scan_makes_progress (blank : List Char → Nat) :
    (∀ (tokens : Tokens) (hne : ∀ role, tokens.get role ≠ "") (template : String),
      (∀ σ, Visited (tokens.literals hne) blank template.toList σ →
        σ.ahead <:+ template.toList ∧ σ.index template ≤ template.length ∧
        (∀ τ, σ.pass (tokens.literals hne) blank = .ok (some τ) →
          σ.index template < τ.index template ∧ τ.index template ≤ template.length) ∧
        ∃ outcome, loopWithin (LoopState.pass (tokens.literals hne) blank) (template.length + 1) σ =
          some outcome) ∧
      ((∃ f, loopWithin (Scan.piecePass (tokens.literals hne) blank) (template.length + 1)
            (.start template.toList) = some (.error f) ∧
          parseWith tokens blank template =
            .error ⟨f.kind, template.length - f.ahead.length, template⟩) ∨
        ∃ s, loopWithin (Scan.piecePass (tokens.literals hne) blank) (template.length + 1)
            (.start template.toList) = some (.ok s) ∧
          parseWith tokens blank template =
            if s.escaping then
              .error ⟨.unexpectedEndWhileEscaping, template.length - s.ahead.length, template⟩
            else .ok s.flush.reverse)) ∧
    (∀ (tokens : Tokens) (role : Role), tokens.get role = "" → ∃ first, tokens.get first = "" ∧
      ∀ template, parseWith tokens blank template = .error ⟨.emptyToken first, 0, template⟩) ∧
    (∀ l : Literals, Unchecked.pathPass l.of = Scan.pathPass l ∧
      Unchecked.modifierPass l.of blank = Scan.modifierPass l blank ∧
      Unchecked.piecePass l.of (Scan.readTag l blank) = Scan.piecePass l blank) ∧
    ∀ of : Role → List Char,
      (Advances PathState.ahead (Unchecked.pathPass of) ↔ of .tagPathSeparator ≠ []) ∧
      Advances ModifierState.ahead (Unchecked.modifierPass of blank) ∧
      ((∀ readTag, TakesTags of readTag → Advances State.ahead (Unchecked.piecePass of readTag)) ↔
        of .escape ≠ [] ∧ of .tagOpen ≠ [] ∧ of .tagClose ≠ []) ∧
      (of .escape = [] → ∀ readTag template n, template ≠ [] →
        loopWithin (Unchecked.piecePass of readTag) n (.start template) = none) := by
  refine ⟨fun tokens hne template => ⟨fun σ hσ => ?_, parseWith_of_loopWithin hne template⟩,
    fun tokens role hrole => ?_,
    fun l => ⟨pathPass_of l, modifierPass_of l blank, piecePass_of l blank⟩,
    fun of => ⟨advances_pathPass_iff, advances_modifierPass, advances_piecePass_iff,
      fun hescape readTag template n htemplate => loopWithin_piecePass_eq_none hescape htemplate n⟩⟩
  · have hsuffix := hσ.ahead_suffix
    have hlength := hsuffix.length_le
    have houtcome := hσ.exists_outcome
    rw [String.length_toList] at hlength houtcome
    refine ⟨hsuffix, Nat.sub_le _ _, fun τ hpass => ⟨?_, Nat.sub_le _ _⟩, houtcome⟩
    have hlt := (ahead_of_pass hpass).2
    rw [LoopState.index, LoopState.index]
    omega
  · cases hfirst : tokens.firstEmpty? with
    | none => exact absurd hrole (Tokens.firstEmpty?_eq_none_iff.mp hfirst role)
    | some first =>
      have hempty := List.find?_some hfirst
      exact ⟨first, by simpa using hempty, parseWith_of_firstEmpty? hfirst _⟩

/-- The default tokens with an empty escape literal. -/
def Tokens.unescaped : Tokens := { Tokens.default with escape := "" }

theorem scan_makes_progress_unescaped :
    -- Of the three characters of a tag each loop takes some or is left.
    (∃ outcome, loopWithin
      (LoopState.pass (Tokens.default.literals oneCharacter_default.get_ne_empty) fun _ => 0) 4
      (.path ⟨[], false, "a\x7d".toList⟩) = some outcome) ∧
    parseWith .unescaped (fun _ => 0) "x" = .error ⟨.emptyToken .escape, 0, "x"⟩ ∧
    loopWithin (Unchecked.piecePass (fun role => (Tokens.unescaped.get role).toList)
      fun ahead => .error ⟨.emptyTag, ahead⟩) 100 (.start ['x']) = none := by
  obtain ⟨hparse, hrefused, -, hunchecked⟩ := scan_makes_progress fun _ => 0
  have hpath : Visited (Tokens.default.literals oneCharacter_default.get_ne_empty) (fun _ => 0)
      "\x7ba\x7d".toList (.path ⟨[], false, "a\x7d".toList⟩) :=
    .path .start rfl rfl
  obtain ⟨first, hfirst, hrefused⟩ := hrefused .unescaped .escape rfl
  obtain rfl : first = .escape := by
    cases first with
    | escape => rfl
    | tagOpen | tagClose | tagModifier | tagPathSeparator => exact absurd hfirst (by decide)
  obtain ⟨hvisited, -⟩ := hparse .default oneCharacter_default.get_ne_empty "\x7ba\x7d"
  exact ⟨(hvisited _ hpath).2.2.2, hrefused "x", (hunchecked _).2.2.2 rfl _ _ 100 (by simp)⟩

end TagText
