import TagText.Proofs.Template.TemplateReading

/-!
# Literals of one character

With literals of one character each, what stands at a place depends on the next character alone. The
default tokens are of this kind. The three literals that may follow a name or a blank inside a tag
must be told from both, so none of them is a character of names or a blank; nothing of the sort is
asked of the escape and the opening literal.
-/

namespace TagText

open Scan

/-- Every literal of `tokens` is one character, `mark` gives it, and the literals of no two roles
are the same. Those that stand behind names in a tag belong to no name and are no blanks. -/
structure Tokens.OneCharacter (tokens : Tokens) (mark : Role → Char) : Prop where
  literal : ∀ role, (tokens.get role).toList = [mark role]
  injective : ∀ role other, mark role = mark other → role = other
  delimits : ∀ role, role = .tagModifier ∨ role = .tagPathSeparator ∨ role = .tagClose →
    (mark role).isAlphanum = false ∧ mark role ≠ '_' ∧ isBlank (mark role) = false

/-- The default literals. -/
def Role.mark : Role → Char
  | .escape => '\\'
  | .tagOpen => '\x7b'
  | .tagClose => '\x7d'
  | .tagModifier => '|'
  | .tagPathSeparator => '.'

/-- The default tokens are of one character each. -/
theorem oneCharacter_default : Tokens.default.OneCharacter Role.mark where
  literal := by
    intro role
    cases role <;> rfl
  injective := by
    intro role other
    cases role <;> cases other <;> decide
  delimits := by
    rintro role (rfl | rfl | rfl) <;> decide

/-- Literals of one character each. -/
def Scan.Literals.single (mark : Role → Char) : Literals where
  of role := [mark role]
  of_ne_nil role := List.cons_ne_nil (mark role) []

/-- A character that ends a name: no letter, no digit, no underscore. -/
def EndsName (c : Char) : Prop := c.isAlphanum = false ∧ c ≠ '_'

/-- Blanks lie below or above the characters of names. -/
theorem toNat_of_isBlank {c : Char} (h : isBlank c = true) : c.toNat ≤ 32 ∨ 133 ≤ c.toNat := by
  have le_toNat : ∀ {a b : Char}, a ≤ b → a.toNat ≤ b.toNat := fun hab => hab
  simp only [isBlank, Bool.or_eq_true, Bool.and_eq_true, decide_eq_true_eq, beq_iff_eq] at h
  -- The ranges and single characters of White_Space in their order; two of them lie below names.
  rcases h with
    (((((((((⟨-, h⟩ | rfl) | rfl) | rfl) | rfl) | ⟨h, -⟩) | rfl) | rfl) | rfl) | rfl) | rfl
  · exact Or.inl (Nat.le_trans (le_toNat h) (by decide))
  · exact Or.inl (by decide)
  · exact Or.inr (by decide)
  · exact Or.inr (by decide)
  · exact Or.inr (by decide)
  · exact Or.inr (Nat.le_trans (by decide) (le_toNat h))
  all_goals exact Or.inr (by decide)

theorem toNat_of_isAlphanum {c : Char} (h : c.isAlphanum = true) :
    48 ≤ c.toNat ∧ c.toNat ≤ 122 := by
  have between : ∀ {a b : Char}, (decide (a ≤ c) && decide (c ≤ b)) = true →
      a.toNat ≤ c.toNat ∧ c.toNat ≤ b.toNat := by
    intro a b hab
    rw [Bool.and_eq_true, decide_eq_true_eq, decide_eq_true_eq] at hab
    exact hab
  rw [Identifier.isAlphanum_eq, Bool.or_eq_true, Bool.or_eq_true, Identifier.isUpper_eq] at h
  rcases h with (h | h) | h
  · have hrange : 65 ≤ c.toNat ∧ c.toNat ≤ 90 := between h
    omega
  · have hrange : 97 ≤ c.toNat ∧ c.toNat ≤ 122 := between h
    omega
  · have hrange : 48 ≤ c.toNat ∧ c.toNat ≤ 57 := between h
    omega

theorem endsName_of_isBlank {c : Char} (h : isBlank c = true) : EndsName c := by
  have hfar := toNat_of_isBlank h
  constructor
  · cases halnum : c.isAlphanum with
    | false => rfl
    | true =>
      have hnear := toNat_of_isAlphanum halnum
      omega
  · rintro rfl
    exact absurd hfar (by decide)

theorem isBlank_of_isLower {c : Char} (h : c.isLower = true) : isBlank c = false := by
  cases hblank : isBlank c with
  | false => rfl
  | true =>
    have hends := (endsName_of_isBlank hblank).1
    rw [Identifier.isAlphanum_eq, h, Bool.or_true, Bool.true_or] at hends
    exact absurd hends (by decide)

variable {tokens : Tokens} {mark : Role → Char}

namespace Tokens.OneCharacter

theorem get_ne_empty (h : tokens.OneCharacter mark) (role : Role) : tokens.get role ≠ "" := by
  intro hempty
  have hliteral := h.literal role
  rw [hempty] at hliteral
  exact absurd hliteral (by simp)

theorem mark_ne (h : tokens.OneCharacter mark) {role other : Role} (hne : role ≠ other) :
    mark role ≠ mark other :=
  fun heq => hne (h.injective role other heq)

theorem endsName (h : tokens.OneCharacter mark) {role : Role}
    (hrole : role = .tagModifier ∨ role = .tagPathSeparator ∨ role = .tagClose) :
    EndsName (mark role) :=
  ⟨(h.delimits role hrole).1, (h.delimits role hrole).2.1⟩

theorem not_blank (h : tokens.OneCharacter mark) {role : Role}
    (hrole : role = .tagModifier ∨ role = .tagPathSeparator ∨ role = .tagClose) :
    isBlank (mark role) = false :=
  (h.delimits role hrole).2.2

theorem literals_eq (h : tokens.OneCharacter mark) :
    tokens.literals h.get_ne_empty = .single mark := by
  simp only [literals, Literals.ofTokens, Literals.single, Literals.mk.injEq]
  exact funext h.literal

end Tokens.OneCharacter

theorem starts_single (role : Role) (c : Char) (s : List Char) :
    (Literals.single mark).starts role (c :: s) = (mark role == c) := by
  simp [Literals.starts, Literals.single, List.isPrefixOf]

theorem starts_single_eq_false {role : Role} {s : List Char}
    (h : ∀ c, s.head? = some c → c ≠ mark role) : (Literals.single mark).starts role s = false := by
  cases s with
  | nil => exact starts_nil _ role
  | cons c s =>
    rw [starts_single]
    exact beq_eq_false_iff_ne.mpr (h c rfl).symm

theorem literalAt_single_eq_none_iff (c : Char) (s : List Char) :
    literalAt (.single mark) (c :: s) = none ↔
      c ≠ mark .escape ∧ c ≠ mark .tagOpen ∧ c ≠ mark .tagClose := by
  simp only [literalAt_eq_none_iff, starts_single, beq_eq_false_iff_ne, ne_comm]

/-- With literals that differ, the literal of a role stands where its character does. -/
theorem literalAt_single_mark (h : tokens.OneCharacter mark) (role : Role) (s : List Char)
    (hrole : role = .escape ∨ role = .tagOpen ∨ role = .tagClose) :
    literalAt (.single mark) (mark role :: s) = some role := by
  have hne : ∀ other, other ≠ role → (mark other == mark role) = false :=
    fun other hother => beq_eq_false_iff_ne.mpr (h.mark_ne hother)
  simp only [literalAt_eq_some_iff, starts_single]
  rcases hrole with rfl | rfl | rfl
  · exact Or.inl ⟨rfl, beq_self_eq_true _⟩
  · exact Or.inr (Or.inl ⟨rfl, hne _ (by decide), beq_self_eq_true _⟩)
  · exact Or.inr (Or.inr ⟨rfl, hne _ (by decide), hne _ (by decide), beq_self_eq_true _⟩)

/-! ## Blanks by default -/

/-- By default the blanks that are passed over are all that stand there. -/
theorem passes_blanks_iff {w rest : List Char} :
    Passes Pattern.blanks.prefixLength w rest ↔
      (∀ c ∈ w, isBlank c = true) ∧ ∀ c, rest.head? = some c → isBlank c = false := by
  have hrun : Passes Pattern.blanks.prefixLength w rest ↔ (w ++ rest).takeWhile isBlank = w := by
    rw [Passes, Pattern.prefixLength_blanks,
      ← List.prefix_iff_eq_take.mp (List.takeWhile_prefix isBlank)]
  rw [hrun]
  constructor
  · intro h
    have hall : ∀ c ∈ w, isBlank c = true := fun c hc => List.mem_takeWhile_imp (h ▸ hc)
    refine ⟨hall, ?_⟩
    intro c hc
    rw [List.takeWhile_append_of_pos hall] at h
    cases rest with
    | nil => exact absurd hc (by simp)
    | cons d rest =>
      obtain rfl : d = c := by simpa using hc
      cases hd : isBlank d with
      | false => rfl
      | true =>
        rw [List.takeWhile_cons_of_pos hd] at h
        exact absurd h (by simp)
  · rintro ⟨hall, hhead⟩
    rw [List.takeWhile_append_of_pos hall]
    cases rest with
    | nil => simp
    | cons d rest => rw [List.takeWhile_cons_of_neg (by simp [hhead d rfl]), List.append_nil]

end TagText
