import Mathlib.Data.List.DropRight
import TagText.Pattern.Basic

/-!
# What greedy repetition of one character class takes

A greedy repetition of a single class goes as far as the class reaches and then gives characters
back until the rest of the pattern matches. Two cases of it occur in templates, and each has a
closed form that does not mention the search:

> `prefixLength_blanks`: the blanks between the parts of a tag are the longest run of White_Space.

> `roundsGreedy_one_then_one`: a repetition followed by one character of a narrower class takes the
> longest run, less what stands behind its last character of the narrower class.

Both follow from `roundsGreedy_one`, the one-step equation of such a repetition.
-/

namespace TagText.Pattern

variable {text : List Char}

namespace Spot

theorem step?_nil {c : CharClass} {s : Spot text} (h : s.rest = []) : s.step? c = none := by
  obtain ⟨behind, rest, total⟩ := s
  subst h
  rfl

theorem step?_cons_neg {c : CharClass} {s : Spot text} {a : Char} {r : List Char}
    (h : s.rest = a :: r) (ha : c.holds a = false) : s.step? c = none := by
  obtain ⟨behind, rest, total⟩ := s
  subst h
  simp [step?, ha]

/-- A step over a character of the class moves by exactly that character. -/
theorem step?_cons_pos {c : CharClass} {s : Spot text} {a : Char} {r : List Char}
    (h : s.rest = a :: r) (ha : c.holds a = true) :
    ∃ t : Spot text, s.step? c = some t ∧ t.behind = s.behind + 1 ∧ t.rest = r := by
  obtain ⟨behind, rest, total⟩ := s
  subst h
  exact ⟨⟨behind + 1, r, by simp at total; omega⟩, by simp [step?, ha], rfl, rfl⟩

end Spot

/-- A part that may be left out is tried before it is. -/
theorem run_optional (p : Pattern) (s : Spot text) (next : Spot text → Option Nat) :
    (Pattern.optional true p).run s next = (p.run s next).or (next s) := by
  show (Pattern.choice p .empty).run s next = _
  rw [run]
  cases p.run s next <;> rfl

/-- A repetition of one class first tries to take one more character, and goes on with `next`
here only when that comes to nothing. -/
theorem roundsGreedy_one (c : CharClass) (s : Spot text) (next : Spot text → Option Nat) :
    roundsGreedy (run (.one c)) s next =
      ((s.step? c).bind fun t => roundsGreedy (run (.one c)) t next).or (next s) := by
  have hbody : (run (.one c) s fun t =>
      if s.behind < t.behind then roundsGreedy (run (.one c)) t next else next t) =
        (s.step? c).bind fun t => roundsGreedy (run (.one c)) t next := by
    show (s.step? c).bind _ = _
    cases hr : s.rest with
    | nil => rw [Spot.step?_nil hr, Option.bind_none, Option.bind_none]
    | cons a r =>
      cases ha : c.holds a with
      | false => rw [Spot.step?_cons_neg hr ha, Option.bind_none, Option.bind_none]
      | true =>
        -- A character was taken, so the round got somewhere and the next one is tried.
        obtain ⟨t, ht, hb, -⟩ := Spot.step?_cons_pos hr ha
        have hlt : s.behind < t.behind := by omega
        rw [ht, Option.bind_some, Option.bind_some, if_pos hlt]
  rw [roundsGreedy, hbody]
  cases (s.step? c).bind fun t => roundsGreedy (run (.one c)) t next <;> rfl

theorem roundsGreedy_one_stop {c : CharClass} {s : Spot text} (next : Spot text → Option Nat)
    (h : s.step? c = none) : roundsGreedy (run (.one c)) s next = next s := by
  rw [roundsGreedy_one, h, Option.bind_none, Option.none_or]

/-- A repetition that nothing holds back takes the longest run of its class. -/
theorem roundsGreedy_one_behind (c : CharClass) (s : Spot text) :
    roundsGreedy (run (.one c)) s (fun t => some t.behind) =
      some (s.behind + (s.rest.takeWhile c.holds).length) := by
  generalize hr : s.rest = r
  induction r generalizing s with
  | nil =>
    rw [roundsGreedy_one_stop _ (Spot.step?_nil hr)]
    rfl
  | cons a r ih =>
    cases ha : c.holds a with
    | false =>
      rw [roundsGreedy_one_stop _ (Spot.step?_cons_neg hr ha)]
      simp [ha]
    | true =>
      obtain ⟨t, ht, hb, hrest⟩ := Spot.step?_cons_pos hr ha
      rw [roundsGreedy_one, ht, Option.bind_some, ih t hrest, Option.some_or, hb,
        List.takeWhile_cons_of_pos ha, List.length_cons]
      exact congrArg some (by omega)

/-- The blanks that a tag may hold between its parts are the longest run of White_Space. -/
theorem prefixLength_blanks (s : List Char) :
    Pattern.blanks.prefixLength s = (s.takeWhile isBlank).length := by
  show (((Spot.front s).step? .blank).bind fun t =>
    roundsGreedy (run (.one .blank)) t fun u => some u.behind).getD 0 = _
  cases s with
  | nil => rfl
  | cons a r =>
    have hrest : (Spot.front (a :: r)).rest = a :: r := rfl
    cases ha : isBlank a with
    | false =>
      rw [Spot.step?_cons_neg hrest (c := .blank) ha]
      simp [ha]
    | true =>
      obtain ⟨t, ht, hb, htr⟩ := Spot.step?_cons_pos hrest (c := .blank) ha
      rw [ht, Option.bind_some, roundsGreedy_one_behind, htr, hb, List.takeWhile_cons_of_pos ha]
      show (0 + 1) + (r.takeWhile isBlank).length = (r.takeWhile isBlank).length + 1
      omega

/-- Dropping from the end of a list either spares its head or empties the list. -/
theorem rdropWhile_cons {p : Char → Bool} (a : Char) (s : List Char) :
    (a :: s).rdropWhile p =
      if s.rdropWhile p = [] then (if p a then [] else [a]) else a :: s.rdropWhile p := by
  simp only [List.rdropWhile, List.reverse_cons, List.dropWhile_append, List.isEmpty_iff,
    List.reverse_eq_nil_iff]
  split
  next => cases hp : p a <;> simp [hp]
  next => simp

/-- A repetition of `inner` before one character of `last` gives back what stands behind the last
character of `last` in the run, and fails when there is none. -/
theorem roundsGreedy_one_then_one {inner last : CharClass}
    (hsub : ∀ a, last.holds a = true → inner.holds a = true) (s : Spot text) :
    roundsGreedy (run (.one inner)) s
        (fun t => (t.step? last).bind fun u => some u.behind) =
      let taken := (s.rest.takeWhile inner.holds).rdropWhile (!last.holds ·)
      if taken = [] then none else some (s.behind + taken.length) := by
  generalize hr : s.rest = r
  induction r generalizing s with
  | nil =>
    rw [roundsGreedy_one_stop _ (Spot.step?_nil hr), Spot.step?_nil hr]
    rfl
  | cons a r ih =>
    cases ha : inner.holds a with
    | false =>
      have hl : last.holds a = false := by
        cases hl : last.holds a with
        | false => rfl
        | true => rw [hsub a hl] at ha; exact absurd ha (by decide)
      rw [roundsGreedy_one_stop _ (Spot.step?_cons_neg hr ha), Spot.step?_cons_neg hr hl,
        List.takeWhile_cons_of_neg (by simp [ha])]
      rfl
    | true =>
      obtain ⟨t, ht, hb, hrest⟩ := Spot.step?_cons_pos hr ha
      rw [roundsGreedy_one, ht, Option.bind_some, ih t hrest, hb, List.takeWhile_cons_of_pos ha,
        rdropWhile_cons]
      by_cases hnil : (r.takeWhile inner.holds).rdropWhile (!last.holds ·) = []
      · -- Nothing of the run behind `a` ends a match, so `a` itself must.
        simp only [hnil, if_true]
        cases hl : last.holds a with
        | false => rw [Spot.step?_cons_neg hr hl]; rfl
        | true =>
          obtain ⟨u, hu, hub, -⟩ := Spot.step?_cons_pos hr hl
          rw [hu]
          simp [hub]
      · simp only [hnil, if_false, List.length_cons, reduceCtorEq, Option.some_or]
        exact congrArg some (by omega)

end TagText.Pattern
