import Mathlib.Logic.Relation
import TagText.Value.Basic

/-!
# The parts of a value

Lists and maps hold other values, which may hold others again. What has been proved of the parts may
be used for the whole (`Value.deepInduction`), and what a value leads to by going to parts again and
again is itself or what one of its parts leads to (`Value.reaches_iff`).

There are two notions of parts: objects keep their properties to themselves, as `held` has it, or
they show those that they list, as `shown` has it.
-/

namespace TagText

namespace Value

/-- What holds of a list if it holds of its items, of a map if it holds of its values, and of an
object if it holds of the properties that it lists, holds of all values. -/
theorem deepInduction {P : Value → Prop} (null : P .null) (bool : ∀ b, P (.bool b))
    (int : ∀ n, P (.int n)) (float : ∀ x, P (.float x)) (string : ∀ s, P (.string s))
    (list : ∀ items, (∀ v ∈ items, P v) → P (.list items))
    (map : ∀ entries, (∀ p ∈ entries, P p.2) → P (.map entries))
    (object : ∀ face : ObjectFace Value, (∀ p ∈ face.listed, P p.2) → P (.object face)) :
    ∀ v, P v := by
  intro v
  refine Value.rec (motive_1 := P) (motive_2 := fun items => ∀ v ∈ items, P v)
    (motive_3 := fun entries => ∀ p ∈ entries, P p.2)
    (motive_4 := fun face => ∀ p ∈ face.listed, P p.2) (motive_5 := fun p => P p.2)
    null bool int float string list map object ?noItem ?item ?noEntry ?entry ?face ?pair v
  case noItem => exact fun v hv => absurd hv List.not_mem_nil
  case item => exact fun v items hv hitems => List.forall_mem_cons.mpr ⟨hv, hitems⟩
  case noEntry => exact fun p hp => absurd hp List.not_mem_nil
  case entry => exact fun p entries hp hentries => List.forall_mem_cons.mpr ⟨hp, hentries⟩
  case face => exact fun _ _ _ _ hlisted => hlisted
  case pair => exact fun _ _ hv => hv

/-- The values that stand in a list or a map. -/
def held : Value → List Value
  | .list items => items
  | .map entries => entries.map Prod.snd
  | _ => []

/-- The values that stand in a list or a map or are listed by an object. -/
def shown : Value → List Value
  | .object face => face.listed.map Prod.snd
  | v => v.held

/-- Going to parts again and again, the first value leads to the second. -/
def Reaches (parts : Value → List Value) : Value → Value → Prop :=
  Relation.ReflTransGen fun v w => w ∈ parts v

variable {parts : Value → List Value} {u v w : Value}

theorem Reaches.refl (parts : Value → List Value) (v : Value) : Reaches parts v v :=
  Relation.ReflTransGen.refl

theorem Reaches.of_part (hpart : u ∈ parts v) (h : Reaches parts u w) : Reaches parts v w :=
  Relation.ReflTransGen.head hpart h

theorem reaches_iff : Reaches parts v w ↔ v = w ∨ ∃ u ∈ parts v, Reaches parts u w :=
  Relation.ReflTransGen.cases_head_iff

end Value

end TagText
