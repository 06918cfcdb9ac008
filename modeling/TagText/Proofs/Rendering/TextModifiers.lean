import TagText.Modifiers
import TagText.Proofs.Value.Plain

/-!
# Modifiers of texts

The standard modifiers change strings and leave every other value as it is. Of any modifiers of that
kind it can be told in advance when a chain of them can be applied:

> `exists_apply_iff`: modifiers of texts can be applied to a value iff all of them are registered
> and, unless there are none to apply, the value is not null.

What comes out differs from the value by a change of text at most (`textChange_of_apply`): it is of
the same type, it is null only if the value is, and it has no objects in it if the value has none.
-/

namespace TagText

/-- The second value is the first, or both are strings. -/
inductive Value.TextChange : Value → Value → Prop where
  | same (v : Value) : TextChange v v
  | text (s t : String) : TextChange (.string s) (.string t)

namespace Value.TextChange

variable {u v w : Value}

theorem trans (huv : u.TextChange v) (hvw : v.TextChange w) : u.TextChange w := by
  cases huv with
  | same => exact hvw
  | text s t => cases hvw <;> exact .text s _

theorem typeName_eq (h : v.TextChange w) : w.typeName = v.typeName := by
  cases h <;> rfl

theorem isNull_eq (h : v.TextChange w) : w.isNull = v.isNull := by
  cases h <;> rfl

theorem plain (h : v.TextChange w) (hv : v.Plain) : w.Plain := by
  cases h with
  | same => exact hv
  | text s t => exact .string t

end Value.TextChange

/-- All of the modifiers change nothing but text. -/
def Modifiers.OnText (modifiers : Modifiers) : Prop :=
  ∀ p ∈ modifiers, ∀ v : Value, v.TextChange (p.2 v)

theorem textChange_ofText (change : List Char → List Char) (v : Value) :
    v.TextChange (Modifier.ofText change v) := by
  cases v with
  | string s => exact .text s _
  | null | bool b | int n | float x | list items | map entries | object face => exact .same _

namespace Modifiers

variable {modifiers : Modifiers} {v w : Value} {names : List String}

theorem onText_standard : OnText standard := by
  intro p hp v
  simp only [standard, List.mem_cons, List.not_mem_nil, or_false] at hp
  rcases hp with rfl | rfl | rfl | rfl <;> exact textChange_ofText _ v

theorem onText_nil : OnText [] :=
  fun _ hp => absurd hp List.not_mem_nil

/-- A chain of modifiers changes text at most. -/
theorem textChange_of_apply (honText : modifiers.OnText) (h : modifiers.apply v names = .ok w) :
    v.TextChange w := by
  induction names generalizing v with
  | nil =>
    injection h with h
    exact h ▸ .same v
  | cons name names ih =>
    unfold apply at h
    split at h
    next => exact absurd h (by simp)
    next modifier hmodifier =>
      dsimp only at h
      split at h
      next => exact absurd h (by simp)
      next => exact (honText _ (Named.mem_of_get? hmodifier) v).trans (ih h)

/-- Modifiers can be applied iff they are registered and have no null to work on. -/
theorem exists_apply_iff (honText : modifiers.OnText) :
    (∃ w, modifiers.apply v names = .ok w) ↔
      (∀ name ∈ names, Named.contains modifiers name = true) ∧
        (names ≠ [] → v.isNull = false) := by
  induction names generalizing v with
  | nil => exact ⟨fun _ => by simp, fun _ => ⟨v, rfl⟩⟩
  | cons name names ih =>
    rw [apply, List.forall_mem_cons]
    cases hmodifier : Named.get? modifiers name with
    | none => simp [Named.contains, hmodifier]
    | some modifier =>
      have hnull := (honText _ (Named.mem_of_get? hmodifier) v).isNull_eq
      dsimp only at hnull ⊢
      -- Whether the modifier gives null is whether it was given null.
      rw [hnull]
      cases hv : v.isNull with
      | true => simp
      | false => simp [ih, Named.contains, hmodifier, hnull, hv]

/-- The names of the standard modifiers. -/
def standardNames : List String := ["lower", "upper", "trim", "capitalize"]

theorem contains_standard_iff {name : String} :
    Named.contains standard name = true ↔ name ∈ standardNames :=
  Named.contains_iff_mem_names

/-- The standard modifiers never fail on a value that is not null, and keep its type. -/
theorem exists_apply_standard (hv : v.isNull = false)
    (hnames : ∀ name ∈ names, name ∈ standardNames) :
    ∃ w, standard.apply v names = .ok w ∧ w.isNull = false ∧ w.typeName = v.typeName := by
  obtain ⟨w, hw⟩ := (exists_apply_iff onText_standard).mpr
    ⟨fun name hname => contains_standard_iff.mpr (hnames name hname), fun _ => hv⟩
  have hchange := textChange_of_apply onText_standard hw
  exact ⟨w, hw, hchange.isNull_eq.trans hv, hchange.typeName_eq⟩

end Modifiers

end TagText
