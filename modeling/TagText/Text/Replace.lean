/-!
# Replacing a part of a text throughout

`replaceAll old new s` goes over `s` from the left and puts `new` where `old` stands; what it put
there it does not look at again. Replacing a single character goes character by character
(`replaceAll_singleton`), and replacing a longer part goes unit by unit where the text consists of
units that the part is aligned with (`replaceAll_flatMap`).
-/

namespace TagText

/-- Goes on replacing after passing over `skip` characters, which belong to the last `old`. -/
def replaceFrom (old new : List Char) : (skip : Nat) → List Char → List Char
  | _, [] => []
  | skip + 1, _ :: s => replaceFrom old new skip s
  | 0, c :: s =>
    if old.isPrefixOf (c :: s) then new ++ replaceFrom old new (old.length - 1) s
    else c :: replaceFrom old new 0 s

/-- The text with `new` in place of every `old`, which must not be empty. -/
def replaceAll (old new s : List Char) : List Char := replaceFrom old new 0 s

/-- Replacing a single character is replacing each character by itself. -/
theorem replaceAll_singleton (c : Char) (new s : List Char) :
    replaceAll [c] new s = s.flatMap fun d => if d = c then new else [d] := by
  unfold replaceAll
  induction s with
  | nil => rfl
  | cons d s ih =>
    by_cases h : d = c
    · simp [replaceFrom, List.isPrefixOf, h, ih]
    · simp [replaceFrom, List.isPrefixOf, h, Ne.symm h, ih]

/-! ## Texts of units -/

/-- The first character of `old` can only be the first of the unit, which then is as long as `old`.
So where `old` stands in a text of such units, it is one of them. -/
def Aligned : (old unit : List Char) → Prop
  | c :: old, d :: unit => c ∉ unit ∧ (d = c → unit.length = old.length)
  | _, _ => True

instance : (old unit : List Char) → Decidable (Aligned old unit)
  | c :: old, d :: unit =>
    inferInstanceAs (Decidable (c ∉ unit ∧ (d = c → unit.length = old.length)))
  | [], _ => .isTrue trivial
  | _ :: _, [] => .isTrue trivial

theorem replaceFrom_length_append (old new u s : List Char) :
    replaceFrom old new u.length (u ++ s) = replaceAll old new s := by
  induction u with
  | nil => rfl
  | cons c u ih => exact ih

/-- No `old` begins in a text without the first character of it. -/
theorem replaceAll_append_of_not_mem {c : Char} {old u : List Char} (h : c ∉ u)
    (new s : List Char) : replaceAll (c :: old) new (u ++ s) = u ++ replaceAll (c :: old) new s := by
  induction u with
  | nil => rfl
  | cons d u ih =>
    obtain ⟨hd, hu⟩ := not_or.mp (mt List.mem_cons.mpr h)
    have hno : (c :: old).isPrefixOf (d :: (u ++ s)) = false := by simp [List.isPrefixOf, hd]
    rw [List.cons_append, replaceAll, replaceFrom, if_neg (by simp [hno])]
    exact congrArg (List.cons d) (ih hu)

/-- A unit is replaced as a whole or stays. -/
theorem replaceAll_append_of_aligned {old unit : List Char} (hold : old ≠ [])
    (h : Aligned old unit) (new s : List Char) :
    replaceAll old new (unit ++ s) =
      (if unit = old then new else unit) ++ replaceAll old new s := by
  obtain ⟨c, old, rfl⟩ := List.exists_cons_of_ne_nil hold
  cases unit with
  | nil => simp
  | cons d unit =>
    obtain ⟨htail, hhead⟩ := h
    rw [List.cons_append, replaceAll, replaceFrom]
    by_cases hpre : (c :: old).isPrefixOf (d :: (unit ++ s)) = true
    · obtain ⟨rfl, hunit⟩ := List.cons_prefix_cons.mp (List.isPrefixOf_iff_prefix.mp hpre)
      have hlength : old.length = unit.length := (hhead rfl).symm
      obtain rfl : old = unit :=
        (List.prefix_of_prefix_length_le hunit (List.prefix_append unit s)
          (Nat.le_of_eq hlength)).eq_of_length hlength
      rw [if_pos hpre, if_pos rfl]
      exact congrArg (new ++ ·) (replaceFrom_length_append (c :: old) new old s)
    · have hne : d :: unit ≠ c :: old := by
        intro heq
        rw [← List.cons_append, heq, List.isPrefixOf_iff_prefix] at hpre
        exact hpre (List.prefix_append _ s)
      rw [if_neg hpre, if_neg hne]
      exact congrArg (List.cons d) (replaceAll_append_of_not_mem htail new s)

/-- In a text of units, replacing `old` is replacing the units that are `old`. -/
theorem replaceAll_flatMap {α : Type} {old : List Char} (hold : old ≠ []) {unit : α → List Char}
    (h : ∀ a, Aligned old (unit a)) (new : List Char) (as : List α) :
    replaceAll old new (as.flatMap unit) =
      as.flatMap fun a => if unit a = old then new else unit a := by
  induction as with
  | nil => rfl
  | cons a as ih =>
    rw [List.flatMap_cons, List.flatMap_cons, replaceAll_append_of_aligned hold (h a), ih]

end TagText
