import TagText.Proofs.Pattern.Greedy
import TagText.Template.Identifier

/-!
# What is read as a name

The names in a tag are read by matching a pattern at the place where the scanner stands. This file
says which characters such a match takes, once for the two kinds of names: `x` is the class of
letters and digits that the kind allows.

> `prefixLength_ofClass`: in front of a small letter the match is the longest run of `x` and
> underscores, cut back to its last character of `x`; elsewhere it takes nothing.

The scanner needs some consequences, which `ReadsNames` collects for either kind. What is taken is
a name; behind a name no other name begins, so two segments of a path never touch; and a name in
front of a character that belongs to none is taken whole. Only an underscore makes the match look
further ahead than that character (`ReadsNames.takes_congr`).
-/

namespace TagText

/-- A small letter, alone or with characters of `x` and underscores behind it of which the last is
no underscore. -/
inductive IsName (x : Char → Bool) : List Char → Prop where
  | one {first : Char} (hfirst : first.isLower = true) : IsName x [first]
  | more {first last : Char} {middle : List Char} (hfirst : first.isLower = true)
      (hmiddle : ∀ c ∈ middle, x c = true ∨ c = '_') (hlast : x last = true) :
      IsName x (first :: (middle ++ [last]))

theorem IsName.exists_cons {x : Char → Bool} {w : List Char} (h : IsName x w) :
    ∃ a r, w = a :: r ∧ a.isLower = true := by
  cases h with
  | one hfirst => exact ⟨_, [], rfl, hfirst⟩
  | more hfirst _ _ => exact ⟨_, _, rfl, hfirst⟩

/-- `[a-z]([a-zA-Z0-9_]*[a-zA-Z0-9])?`, the form of a segment. -/
def IsSegment (s : List Char) : Prop := IsName Char.isAlphanum s

/-- `[a-z]([a-z0-9_]*[a-z0-9])?`, the form of the name of a modifier. -/
def IsModifierName (s : List Char) : Prop := IsName (fun c => c.isLower || c.isDigit) s

/-- The match of `p` in front of `w ++ rest` is `w`, and not empty. -/
def Pattern.Takes (p : Pattern) (w rest : List Char) : Prop :=
  w ≠ [] ∧ p.prefixLength (w ++ rest) = w.length

namespace Identifier

/-- The pattern of the names over a class of letters and digits. -/
def ofClass (x : CharClass) : Pattern := pattern (.union x (.single '_')) x

/-! ## The classes -/

theorem holds_small : small.holds = Char.isLower := rfl

theorem holds_smallOrDigit : smallOrDigit.holds = fun c => c.isLower || c.isDigit := rfl

/-- A letter or digit is a capital or small letter or a digit. -/
theorem isAlphanum_eq (c : Char) : c.isAlphanum = (c.isUpper || c.isLower || c.isDigit) := rfl

theorem isUpper_eq (c : Char) : c.isUpper = (decide ('A' ≤ c) && decide (c ≤ 'Z')) :=
  Bool.decide_and ('A' ≤ c) (c ≤ 'Z')

theorem holds_letterOrDigit : letterOrDigit.holds = Char.isAlphanum := by
  funext c
  rw [isAlphanum_eq, isUpper_eq, Bool.or_comm _ c.isLower, Bool.or_assoc]
  rfl

theorem holds_inner (x : CharClass) (c : Char) :
    (CharClass.union x (.single '_')).holds c = true ↔ x.holds c = true ∨ c = '_' := by
  simp only [CharClass.holds, CharClass.single, Bool.or_eq_true, Bool.and_eq_true,
    decide_eq_true_eq]
  refine or_congr Iff.rfl ⟨fun h => Char.le_antisymm h.2 h.1, ?_⟩
  rintro rfl
  exact ⟨Char.le_refl _, Char.le_refl _⟩

theorem small_le_smallOrDigit {c : Char} (h : c.isLower = true) :
    smallOrDigit.holds c = true := by
  rw [holds_smallOrDigit]
  simp [h]

theorem small_le_letterOrDigit {c : Char} (h : c.isLower = true) :
    letterOrDigit.holds c = true := by
  rw [holds_letterOrDigit, isAlphanum_eq, h, Bool.or_true, Bool.true_or]

/-! ## What a match takes -/

section
variable {x : CharClass}

/-- The characters that a name begun at the front of `s` takes. -/
def longest (x : CharClass) (s : List Char) : List Char :=
  (s.takeWhile (CharClass.union x (.single '_')).holds).rdropWhile (!x.holds ·)

theorem prefix_longest (s : List Char) : longest x s <+: s :=
  (List.rdropWhile_prefix _ _).trans (List.takeWhile_prefix _)

theorem holds_of_mem_longest {s : List Char} {c : Char} (h : c ∈ longest x s) :
    x.holds c = true ∨ c = '_' :=
  (holds_inner x c).mp (List.mem_takeWhile_imp ((List.rdropWhile_prefix _ _).subset h))

theorem holds_last_of_longest {s w : List Char} {last : Char} (h : longest x s = w ++ [last]) :
    x.holds last = true := by
  have hne : longest x s ≠ [] := by simp [h]
  have hlast := List.rdropWhile_last_not (!x.holds ·) _ hne
  rw [longest] at h
  simpa [h] using hlast

/-- Behind the longest name stands no letter or digit. -/
theorem holds_head_after_longest {s rest : List Char} {c : Char}
    (h : s = longest x s ++ c :: rest) : x.holds c = false := by
  let inner := (CharClass.union x (.single '_')).holds
  -- The run of the class is the name and then characters that end no name.
  have hrun : longest x s ++ (s.takeWhile inner).rtakeWhile (!x.holds ·) = s.takeWhile inner :=
    List.rdropWhile_append_rtakeWhile
  have hs : s = longest x s ++
      ((s.takeWhile inner).rtakeWhile (!x.holds ·) ++ s.dropWhile inner) := by
    rw [← List.append_assoc, hrun, List.takeWhile_append_dropWhile]
  have hc : c :: rest = (s.takeWhile inner).rtakeWhile (!x.holds ·) ++ s.dropWhile inner :=
    List.append_cancel_left (h.symm.trans hs)
  cases htail : (s.takeWhile inner).rtakeWhile (!x.holds ·) with
  | cons d tail =>
    rw [htail, List.cons_append] at hc
    have hd : (!x.holds d) = true :=
      List.mem_rtakeWhile_imp (p := fun c => !x.holds c) (htail ▸ List.mem_cons_self)
    rw [(List.cons.inj hc).1]
    simpa using hd
  | nil =>
    rw [htail, List.nil_append] at hc
    have hd : inner c = false := by
      have := List.head?_dropWhile_not inner s
      rw [← hc] at this
      simpa using this
    cases hxc : x.holds c with
    | false => rfl
    | true => rw [show inner c = true from (holds_inner x c).mpr (Or.inl hxc)] at hd; exact hd

theorem prefixLength_ofClass_nil : (ofClass x).prefixLength [] = 0 := rfl

variable (hx : ∀ c : Char, c.isLower = true → x.holds c = true)
include hx

/-- In front of a small letter a name takes the longest run of its characters that ends in a letter
or digit, and elsewhere it takes nothing. -/
theorem prefixLength_ofClass (a : Char) (r : List Char) :
    (ofClass x).prefixLength (a :: r) = if a.isLower then (longest x (a :: r)).length else 0 := by
  have hsub : ∀ c, x.holds c = true → (CharClass.union x (.single '_')).holds c = true :=
    fun c hc => (holds_inner x c).mpr (Or.inl hc)
  have hrest : (Pattern.Spot.front (a :: r)).rest = a :: r := rfl
  have hfront : (Pattern.Spot.front (a :: r)).behind = 0 := rfl
  show (((Pattern.Spot.front (a :: r)).step? small).bind fun t =>
    (Pattern.optional true (.seq (.star true (.one (.union x (.single '_')))) (.one x))).run t
      fun u => some u.behind).getD 0 = _
  by_cases ha : a.isLower = true
  · obtain ⟨t, ht, hb, htr⟩ := Pattern.Spot.step?_cons_pos hrest (c := small) (holds_small ▸ ha)
    have hrounds : (Pattern.seq (.star true (.one (.union x (.single '_')))) (.one x)).run t
        (fun u => some u.behind) = _ := Pattern.roundsGreedy_one_then_one hsub t
    rw [ht, Option.bind_some, Pattern.run_optional, hrounds, htr, longest,
      List.takeWhile_cons_of_pos (hsub a (hx a ha)), Pattern.rdropWhile_cons, hx a ha]
    by_cases hnil : (r.takeWhile (CharClass.union x (.single '_')).holds).rdropWhile
        (!x.holds ·) = []
    · simp [hnil, hb, hfront, ha]
    · simp only [hnil, if_false, if_true, Option.some_or, Option.getD_some, List.length_cons, hb,
        hfront, ha]
      omega
  · rw [Pattern.Spot.step?_cons_neg hrest (by rw [holds_small]; simpa using ha), if_neg ha]
    rfl

/-- No match is longer than the text. -/
theorem prefixLength_ofClass_le (s : List Char) : (ofClass x).prefixLength s ≤ s.length := by
  cases s with
  | nil => exact Nat.le_of_eq prefixLength_ofClass_nil
  | cons a r =>
    rw [prefixLength_ofClass hx]
    split
    next => exact (prefix_longest _).length_le
    next => exact Nat.zero_le _

/-- What a match takes begins with a small letter and is the longest name there. -/
theorem eq_longest_of_takes {w rest : List Char} (h : (ofClass x).Takes w rest) :
    w = longest x (w ++ rest) ∧ ∃ a r, w = a :: r ∧ a.isLower = true := by
  obtain ⟨hne, hlen⟩ := h
  obtain ⟨a, r, rfl⟩ := List.exists_cons_of_ne_nil hne
  rw [List.cons_append, prefixLength_ofClass hx] at hlen
  by_cases ha : a.isLower = true
  · rw [if_pos ha] at hlen
    refine ⟨?_, a, r, rfl, ha⟩
    have hpre : longest x (a :: (r ++ rest)) <+: a :: (r ++ rest) := prefix_longest _
    exact ((List.prefix_of_prefix_length_le hpre (List.prefix_append (a :: r) rest)
      (Nat.le_of_eq hlen)).eq_of_length hlen).symm
  · rw [if_neg ha] at hlen
    exact absurd hlen.symm (by simp)

/-- What a match takes is a name. -/
theorem isName_of_takes {w rest : List Char} (h : (ofClass x).Takes w rest) :
    IsName x.holds w := by
  obtain ⟨hw, a, r, rfl, ha⟩ := eq_longest_of_takes hx h
  rcases List.eq_nil_or_concat r with rfl | ⟨middle, last, rfl⟩
  · exact .one ha
  · -- The last character of the match was kept by the cut, so it is of `x`.
    rw [List.concat_eq_append] at hw ⊢
    refine .more ha ?_ (holds_last_of_longest (w := a :: middle) hw.symm)
    intro c hc
    exact holds_of_mem_longest (hw ▸ List.mem_cons_of_mem a (List.mem_append_left _ hc))

/-- Behind what a match takes stands no letter or digit. -/
theorem holds_next_of_takes {w rest : List Char} {c : Char} (h : (ofClass x).Takes w (c :: rest)) :
    x.holds c = false :=
  holds_head_after_longest (by rw [← (eq_longest_of_takes hx h).1])

/-- A small letter begins a name. -/
theorem ne_zero_of_isLower {c : Char} {r : List Char} (hc : c.isLower = true) :
    (ofClass x).prefixLength (c :: r) ≠ 0 := by
  rw [prefixLength_ofClass hx, if_pos hc]
  -- The longest name keeps at least the letter, which the cut at its end does not take away.
  have hinner : (CharClass.union x (.single '_')).holds c = true :=
    (holds_inner x c).mpr (Or.inl (hx c hc))
  rw [longest, List.takeWhile_cons_of_pos hinner, Pattern.rdropWhile_cons, hx c hc]
  split <;> simp

/-- Behind a name no other name begins. -/
theorem next_eq_zero_of_takes {w rest : List Char} (h : (ofClass x).Takes w rest) :
    (ofClass x).prefixLength rest = 0 := by
  cases rest with
  | nil => exact prefixLength_ofClass_nil
  | cons c rest =>
    have hc : x.holds c = false := holds_next_of_takes hx h
    rw [prefixLength_ofClass hx, if_neg]
    intro hlower
    rw [hx c hlower] at hc
    exact absurd hc (by decide)

/-- Where a match takes something, it splits the text into a name and what follows. -/
theorem exists_takes {s : List Char} (h : (ofClass x).prefixLength s ≠ 0) :
    ∃ w rest, s = w ++ rest ∧ (ofClass x).Takes w rest := by
  have hlen := List.length_take_of_le (prefixLength_ofClass_le hx s)
  refine ⟨s.take ((ofClass x).prefixLength s), s.drop ((ofClass x).prefixLength s),
    (List.take_append_drop _ _).symm, ?_, ?_⟩
  · intro hnil
    rw [hnil] at hlen
    exact h hlen.symm
  · rw [List.take_append_drop, hlen]

/-- A name is the longest one in front of a character that belongs to no name. -/
theorem longest_append_of_isName {w rest : List Char} (hw : IsName x.holds w)
    (hrest : ∀ c, rest.head? = some c → x.holds c = false ∧ c ≠ '_') :
    longest x (w ++ rest) = w := by
  have hrun : rest.takeWhile (CharClass.union x (.single '_')).holds = [] := by
    cases rest with
    | nil => rfl
    | cons c rest =>
      obtain ⟨hc, hunder⟩ := hrest c rfl
      refine List.takeWhile_cons_of_neg fun h => ?_
      rcases (holds_inner x c).mp h with h | h
      · rw [hc] at h
        exact absurd h (by decide)
      · exact hunder h
  have hall : ∀ c ∈ w, (CharClass.union x (.single '_')).holds c = true := by
    intro c hc
    rw [holds_inner]
    cases hw with
    | one hfirst => exact Or.inl (List.mem_singleton.mp hc ▸ hx _ hfirst)
    | more hfirst hmiddle hlast =>
      rcases List.mem_cons.mp hc with rfl | hc
      · exact Or.inl (hx _ hfirst)
      · rcases List.mem_append.mp hc with hc | hc
        · exact hmiddle c hc
        · exact Or.inl (List.mem_singleton.mp hc ▸ hlast)
  -- The run of the class is all of `w`, and none of it is cut off since `w` ends in `x`.
  rw [longest, List.takeWhile_append_of_pos hall, hrun, List.append_nil]
  refine List.rdropWhile_eq_self_iff.mpr fun hne => ?_
  cases hw with
  | one hfirst => simp [hx _ hfirst]
  | more hfirst hmiddle hlast => simp [hlast]

/-- A name in front of a character that belongs to no name is taken whole. -/
theorem takes_of_isName {w rest : List Char} (hw : IsName x.holds w)
    (hrest : ∀ c, rest.head? = some c → x.holds c = false ∧ c ≠ '_') :
    (ofClass x).Takes w rest := by
  have hlongest := longest_append_of_isName hx hw hrest
  obtain ⟨a, r, rfl, ha⟩ := hw.exists_cons
  refine ⟨List.cons_ne_nil a r, ?_⟩
  rw [List.cons_append, prefixLength_ofClass hx, if_pos ha, ← List.cons_append, hlongest]

end

/-! ## The two kinds of names -/

/-- What the scanner relies on when it reads names over the letters and digits `x` with `p`. -/
structure ReadsNames (p : Pattern) (x : Char → Bool) : Prop where
  eq_zero_nil : p.prefixLength [] = 0
  eq_zero_cons : ∀ {c : Char} {r : List Char}, c.isLower = false → p.prefixLength (c :: r) = 0
  ne_zero_cons : ∀ {c : Char} {r : List Char}, c.isLower = true → p.prefixLength (c :: r) ≠ 0
  exists_takes : ∀ {s : List Char}, p.prefixLength s ≠ 0 →
    ∃ w rest, s = w ++ rest ∧ p.Takes w rest
  next_eq_zero : ∀ {w rest : List Char}, p.Takes w rest → p.prefixLength rest = 0
  holds_next : ∀ {w rest : List Char} {c : Char}, p.Takes w (c :: rest) → x c = false
  isName : ∀ {w rest : List Char}, p.Takes w rest → IsName x w
  takes : ∀ {w rest : List Char}, IsName x w →
    (∀ c, rest.head? = some c → x c = false ∧ c ≠ '_') → p.Takes w rest

theorem readsNames_ofClass {x : CharClass} (hx : ∀ c : Char, c.isLower = true → x.holds c = true) :
    ReadsNames (ofClass x) x.holds where
  eq_zero_nil := prefixLength_ofClass_nil
  eq_zero_cons := fun hc => by rw [prefixLength_ofClass hx, if_neg (by simp [hc])]
  ne_zero_cons := ne_zero_of_isLower hx
  exists_takes := exists_takes hx
  next_eq_zero := next_eq_zero_of_takes hx
  holds_next := holds_next_of_takes hx
  isName := isName_of_takes hx
  takes := takes_of_isName hx

/-- Whether a name is taken is told by the next character alone, unless that is an underscore. -/
theorem ReadsNames.takes_congr {p : Pattern} {x : Char → Bool} (hp : ReadsNames p x)
    {w rest other : List Char} (h : p.Takes w rest) (hhead : other.head? = rest.head?)
    (hunder : rest.head? ≠ some '_') : p.Takes w other := by
  refine hp.takes (hp.isName h) fun c hc => ?_
  rw [hhead] at hc
  refine ⟨?_, fun heq => hunder (heq ▸ hc)⟩
  cases rest with
  | nil => exact absurd hc (by simp)
  | cons d rest => exact Option.some.inj hc ▸ hp.holds_next h

/-- No name begins where no small letter stands. -/
theorem ReadsNames.eq_zero_iff {p : Pattern} {x : Char → Bool} (hp : ReadsNames p x)
    {s : List Char} : p.prefixLength s = 0 ↔ ∀ c, s.head? = some c → c.isLower = false := by
  cases s with
  | nil => simp [hp.eq_zero_nil]
  | cons c s =>
    simp only [List.head?_cons, Option.some.injEq, forall_eq']
    cases hc : c.isLower with
    | false => simp [hp.eq_zero_cons hc]
    | true => simp [hp.ne_zero_cons hc]

theorem readsNames_segment : ReadsNames segment Char.isAlphanum :=
  holds_letterOrDigit ▸ readsNames_ofClass fun _ => small_le_letterOrDigit

theorem readsNames_modifier : ReadsNames modifier (fun c => c.isLower || c.isDigit) :=
  holds_smallOrDigit ▸ readsNames_ofClass fun _ => small_le_smallOrDigit

end Identifier

end TagText
