import TagText.Proofs.Rendering.Meaning

/-!
# Chains of modifiers

The modifiers of a tag are applied by a loop that may leave early, for one of two reasons. Here the
chain is told without the loop: by the value *through* it, the composition of its modifiers in
their order, and by the *faults* at its places, each of which says what is wrong there with the
value through the names before.

> `carries_iff_through`: a chain carries a value on iff every name is registered and no front of it,
> except the empty one, comes to null; it then carries the value to the one through it.

> `apply_eq_error_iff_firstFault`: a chain stops iff it has a fault, and for the first one.

Both go by induction on the chain, with the value at its beginning free: behind a name that is
registered and gives no null, a chain is the rest of it, begun with what the modifier gave.
-/

namespace TagText

namespace Modifiers

/-- The value through a chain: the modifiers of these names one after the other, whatever comes out
of them. A name that is not registered changes nothing. -/
def through (modifiers : Modifiers) (v : Value) (names : List String) : Value :=
  names.foldl (fun u name => ((Named.get? modifiers name).getD id) u) v

/-- What is wrong at a place of a chain: the name there is not registered, or its modifier gives
null on the value through the names before. -/
inductive FaultAt (modifiers : Modifiers) (v : Value) (names : List String) (i : Nat) :
    ModifierError → Prop where
  | undefined {name : String} (hplace : names[i]? = some name)
      (hname : Named.get? modifiers name = none) : FaultAt modifiers v names i (.undefined name)
  | emptyResult {name : String} {modifier : Modifier} (hplace : names[i]? = some name)
      (hname : Named.get? modifiers name = some modifier)
      (hnull : (modifier (modifiers.through v (names.take i))).isNull = true) :
      FaultAt modifiers v names i (.emptyResult name)

/-- A fault with none before it. -/
def FirstFault (modifiers : Modifiers) (v : Value) (names : List String) (i : Nat)
    (e : ModifierError) : Prop :=
  modifiers.FaultAt v names i e ∧ ∀ j < i, ∀ e', ¬modifiers.FaultAt v names j e'

variable {modifiers : Modifiers} {v w : Value} {name : String} {names names' : List String}
  {modifier : Modifier} {i : Nat} {e : ModifierError}

/-! ## The value through a chain -/

theorem through_cons (hname : Named.get? modifiers name = some modifier) :
    modifiers.through v (name :: names) = modifiers.through (modifier v) names := by
  simp only [through, List.foldl_cons, hname, Option.getD_some]

theorem carries_nil_iff : modifiers.Carries v [] w ↔ w = v := by
  constructor
  · rintro ⟨⟩
    rfl
  · rintro rfl
    exact .nil w

theorem carries_cons_iff (hname : Named.get? modifiers name = some modifier) :
    modifiers.Carries v (name :: names) w ↔
      (modifier v).isNull = false ∧ modifiers.Carries (modifier v) names w := by
  constructor
  · rintro (_ | ⟨hname', hnull, hrest⟩)
    obtain rfl := Option.some.inj (hname.symm.trans hname')
    exact ⟨hnull, hrest⟩
  · rintro ⟨hnull, hrest⟩
    exact .cons hname hnull hrest

/-- The fronts of a chain are its first name alone, and this name before the fronts of the rest. -/
theorem forall_fronts_cons_iff (hname : Named.get? modifiers name = some modifier) :
    (∀ front, front <+: name :: names → front ≠ [] →
        (modifiers.through v front).isNull = false) ↔
      (modifier v).isNull = false ∧ ∀ front, front <+: names → front ≠ [] →
        (modifiers.through (modifier v) front).isNull = false := by
  constructor
  · intro h
    have hlonger : ∀ front, front <+: names →
        (modifiers.through (modifier v) front).isNull = false := by
      intro front hfront
      rw [← through_cons hname]
      exact h (name :: front) (List.cons_prefix_cons.mpr ⟨rfl, hfront⟩) (by simp)
    exact ⟨hlonger [] List.nil_prefix, fun front hfront _ => hlonger front hfront⟩
  · rintro ⟨hfirst, hrest⟩ front hfront hne
    obtain rfl | ⟨rest, rfl, hrestfront⟩ := List.prefix_cons_iff.mp hfront
    · exact absurd rfl hne
    · rw [through_cons hname]
      by_cases hempty : rest = []
      · rw [hempty]
        exact hfirst
      · exact hrest rest hrestfront hempty

theorem carries_iff_through : modifiers.Carries v names w ↔
    (∀ name ∈ names, Named.contains modifiers name = true) ∧
      (∀ front, front <+: names → front ≠ [] → (modifiers.through v front).isNull = false) ∧
      w = modifiers.through v names := by
  induction names generalizing v with
  | nil =>
    rw [carries_nil_iff]
    simp [through]
  | cons name names ih =>
    rw [List.forall_mem_cons, Named.contains]
    cases hname : Named.get? modifiers name with
    | none =>
      have hstop : ¬modifiers.Carries v (name :: names) w := by
        rintro (_ | ⟨hname', -, -⟩)
        cases hname.symm.trans hname'
      simp [hstop]
    | some modifier =>
      rw [carries_cons_iff hname, forall_fronts_cons_iff hname, through_cons hname, ih]
      simp only [Option.isSome_some, true_and, and_left_comm, and_assoc]

/-! ## The first fault -/

/-- A fault at a place does not look behind it. -/
theorem FaultAt.of_take_eq (hsame : names.take (i + 1) = names'.take (i + 1))
    (h : modifiers.FaultAt v names i e) : modifiers.FaultAt v names' i e := by
  have hplaces : names[i]? = names'[i]? := by
    simpa [List.getElem?_take] using congrArg (·[i]?) hsame
  have hfront : names.take i = names'.take i := by
    simpa [List.take_take] using congrArg (List.take i) hsame
  cases h with
  | undefined hplace hname => exact .undefined (hplaces ▸ hplace) hname
  | emptyResult hplace hname hnull => exact .emptyResult (hplaces ▸ hplace) hname (hfront ▸ hnull)

theorem FirstFault.of_take_eq (hsame : names.take (i + 1) = names'.take (i + 1))
    (h : modifiers.FirstFault v names i e) : modifiers.FirstFault v names' i e := by
  refine ⟨h.1.of_take_eq hsame, fun j hj e' hfault => h.2 j hj e' (hfault.of_take_eq ?_)⟩
  have hmin : min (j + 1) (i + 1) = j + 1 := Nat.min_eq_left (by omega)
  have hshorter := congrArg (List.take (j + 1)) hsame
  rw [List.take_take, List.take_take, hmin] at hshorter
  exact hshorter.symm

theorem not_faultAt_nil : ¬modifiers.FaultAt v [] i e := by
  rintro (⟨hplace, -⟩ | ⟨hplace, -, -⟩) <;> simp at hplace

/-- Behind a registered name the faults are those of the rest. -/
theorem faultAt_succ_iff (hname : Named.get? modifiers name = some modifier) :
    modifiers.FaultAt v (name :: names) (i + 1) e ↔
      modifiers.FaultAt (modifier v) names i e := by
  have hfront : modifiers.through v ((name :: names).take (i + 1)) =
      modifiers.through (modifier v) (names.take i) := through_cons hname
  constructor
  · rintro (⟨hplace, hmissing⟩ | ⟨hplace, hlater, hnull⟩)
    · exact .undefined hplace hmissing
    · exact .emptyResult hplace hlater (hfront ▸ hnull)
  · rintro (⟨hplace, hmissing⟩ | ⟨hplace, hlater, hnull⟩)
    · exact .undefined hplace hmissing
    · exact .emptyResult hplace hlater (hfront ▸ hnull)

theorem faultAt_zero_iff_of_none (hname : Named.get? modifiers name = none) :
    modifiers.FaultAt v (name :: names) 0 e ↔ e = .undefined name := by
  constructor
  · rintro (⟨hplace, -⟩ | ⟨hplace, hname', -⟩)
    · rw [Option.some.inj hplace]
    · obtain rfl := Option.some.inj hplace
      cases hname.symm.trans hname'
  · rintro rfl
    exact .undefined rfl hname

theorem faultAt_zero_iff_of_some (hname : Named.get? modifiers name = some modifier) :
    modifiers.FaultAt v (name :: names) 0 e ↔
      (modifier v).isNull = true ∧ e = .emptyResult name := by
  constructor
  · rintro (⟨hplace, hmissing⟩ | ⟨hplace, hname', hnull⟩)
    · obtain rfl := Option.some.inj hplace
      cases hname.symm.trans hmissing
    · obtain rfl := Option.some.inj hplace
      obtain rfl := Option.some.inj (hname.symm.trans hname')
      exact ⟨hnull, rfl⟩
  · rintro ⟨hnull, rfl⟩
    exact .emptyResult rfl hname hnull

/-- A fault at the first name is the first one. -/
theorem exists_firstFault_iff_of_zero (h : ∀ e', modifiers.FaultAt v names 0 e' ↔ e' = e)
    {e' : ModifierError} : (∃ i, modifiers.FirstFault v names i e') ↔ e = e' := by
  constructor
  · rintro ⟨i, hfault, hbefore⟩
    rcases Nat.eq_zero_or_pos i with rfl | hi
    · exact ((h e').mp hfault).symm
    · exact absurd ((h e).mpr rfl) (hbefore 0 hi e)
  · rintro rfl
    exact ⟨0, (h e).mpr rfl, fun j hj => absurd hj j.not_lt_zero⟩

/-- Behind a name that carries its value on, the first fault is that of the rest. -/
theorem exists_firstFault_cons_iff (hname : Named.get? modifiers name = some modifier)
    (hnull : (modifier v).isNull = false) :
    (∃ i, modifiers.FirstFault v (name :: names) i e) ↔
      ∃ i, modifiers.FirstFault (modifier v) names i e := by
  have hfirst : ∀ e, ¬modifiers.FaultAt v (name :: names) 0 e := by
    simp [faultAt_zero_iff_of_some hname, hnull]
  constructor
  · rintro ⟨i, hfault, hbefore⟩
    obtain _ | i := i
    · exact absurd hfault (hfirst e)
    · refine ⟨i, (faultAt_succ_iff hname).mp hfault, fun j hj e' hearlier => ?_⟩
      exact hbefore (j + 1) (Nat.succ_lt_succ hj) e' ((faultAt_succ_iff hname).mpr hearlier)
  · rintro ⟨i, hfault, hbefore⟩
    refine ⟨i + 1, (faultAt_succ_iff hname).mpr hfault, fun j hj e' hearlier => ?_⟩
    obtain _ | j := j
    · exact hfirst e' hearlier
    · exact hbefore j (Nat.lt_of_succ_lt_succ hj) e' ((faultAt_succ_iff hname).mp hearlier)

theorem apply_eq_error_iff_firstFault :
    modifiers.apply v names = .error e ↔ ∃ i, modifiers.FirstFault v names i e := by
  induction names generalizing v with
  | nil => simp [apply, FirstFault, not_faultAt_nil]
  | cons name names ih =>
    cases hname : Named.get? modifiers name with
    | none =>
      rw [apply_cons_of_none hname, Except.error.injEq]
      exact (exists_firstFault_iff_of_zero fun _ => faultAt_zero_iff_of_none hname).symm
    | some modifier =>
      cases hnull : (modifier v).isNull with
      | true =>
        rw [apply_cons_of_null hname hnull, Except.error.injEq]
        refine (exists_firstFault_iff_of_zero fun e' => ?_).symm
        rw [faultAt_zero_iff_of_some hname, hnull, eq_self, true_and]
      | false =>
        rw [apply_cons_of_some hname hnull, exists_firstFault_cons_iff hname hnull, ih]

/-! ## What `apply` answers -/

/-- A chain behind another begins with what that one gives, and is not asked if it stops. -/
theorem apply_append (modifiers : Modifiers) (v : Value) (xs ys : List String) :
    modifiers.apply v (xs ++ ys) = (modifiers.apply v xs).bind (modifiers.apply · ys) := by
  cases hfront : modifiers.apply v xs with
  | ok w => exact (apply_eq_ok_iff.mp hfront).apply_append ys
  | error e =>
    obtain ⟨i, hfirst⟩ := apply_eq_error_iff_firstFault.mp hfront
    have hlt : i + 1 ≤ xs.length := by
      refine Nat.lt_of_not_le fun hle => ?_
      obtain ⟨hplace, -⟩ | ⟨hplace, -, -⟩ := hfirst.1 <;> simp [hle] at hplace
    exact apply_eq_error_iff_firstFault.mpr
      ⟨i, hfirst.of_take_eq (List.take_append_of_le_length hlt).symm⟩

/-- A null passes through no names, or through a first one that makes something of it. -/
theorem apply_null_eq_ok_iff : modifiers.apply .null names = .ok w ↔
    names = [] ∧ w = .null ∨
      ∃ name rest modifier, names = name :: rest ∧ Named.get? modifiers name = some modifier ∧
        (modifier .null).isNull = false ∧ modifiers.apply (modifier .null) rest = .ok w := by
  cases names with
  | nil => simp [apply_eq_ok_iff, carries_nil_iff]
  | cons name rest =>
    cases hname : Named.get? modifiers name with
    | none => simp [apply_cons_of_none hname, hname]
    | some modifier => simp [apply_eq_ok_iff, carries_cons_iff hname, hname]

/-- **Modifiers are applied strictly from left to right, up to the first fault.** Two chains one
behind the other are applied one after the other, and the second is not looked at if the first one
stops. A chain gives a value iff every name in it is registered and no front of it, except the
empty one, comes to null; the value is the composition of its modifiers in their order. It gives an
error iff this is its first fault, whatever stands behind that. And a null passes through the empty
chain only, or through a first modifier that makes something of it. -/
theorem apply_leftToRight (modifiers : Modifiers) (v : Value) :
    (∀ xs ys, modifiers.apply v (xs ++ ys) =
      (modifiers.apply v xs).bind (modifiers.apply · ys)) ∧
    (∀ names w, modifiers.apply v names = .ok w ↔
      (∀ name ∈ names, Named.contains modifiers name = true) ∧
        (∀ front, front <+: names → front ≠ [] → (modifiers.through v front).isNull = false) ∧
        w = modifiers.through v names) ∧
    (∀ names e, modifiers.apply v names = .error e ↔ ∃ i, modifiers.FirstFault v names i e) ∧
    (∀ names i e, modifiers.FirstFault v names i e →
      ∀ back, modifiers.apply v (names.take (i + 1) ++ back) = .error e) ∧
    ∀ names w, modifiers.apply .null names = .ok w ↔
      names = [] ∧ w = .null ∨
        ∃ name rest modifier, names = name :: rest ∧ Named.get? modifiers name = some modifier ∧
          (modifier .null).isNull = false ∧ modifiers.apply (modifier .null) rest = .ok w := by
  refine ⟨modifiers.apply_append v, fun names w => apply_eq_ok_iff.trans carries_iff_through,
    fun names e => apply_eq_error_iff_firstFault, fun names i e hfirst back => ?_,
    fun names w => apply_null_eq_ok_iff⟩
  have hfront : modifiers.apply v (names.take (i + 1)) = .error e :=
    apply_eq_error_iff_firstFault.mpr ⟨i, hfirst.of_take_eq (by rw [List.take_take, Nat.min_self])⟩
  rw [apply_append, hfront]
  rfl

/-- A modifier that makes something of null, and one that makes null of everything. -/
def fillAndClear : Modifiers := [
  ("fill", fun v => if v.isNull then .string "-" else v),
  ("clear", fun _ => .null)]

theorem apply_leftToRight_clear :
    fillAndClear.FirstFault .null ["fill", "clear", "missing"] 1 (.emptyResult "clear") ∧
    ∀ back, fillAndClear.apply .null (["fill", "clear"] ++ back) =
      .error (.emptyResult "clear") := by
  have hfirst : fillAndClear.FirstFault .null ["fill", "clear", "missing"] 1
      (.emptyResult "clear") := by
    refine ⟨.emptyResult rfl rfl rfl, fun j hj e' hfault => ?_⟩
    obtain rfl := Nat.lt_one_iff.mp hj
    cases ((faultAt_zero_iff_of_some rfl).mp hfault).1
  exact ⟨hfirst, (apply_leftToRight fillAndClear .null).2.2.2.1 _ 1 _ hfirst⟩

end Modifiers

end TagText
