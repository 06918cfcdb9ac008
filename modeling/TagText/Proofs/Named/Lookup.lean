import TagText.Named

/-!
# Looking things up by their names

Things under names are reached through `Named.get?`, so what is asked of a list of them is what
stands under which name. Of things that are put one after the other the last is found:

> `get?_extend`: what stands under a name is what was last put under it, and what stood there before
> if nothing was.

So it does not matter what is put under other names (`get?_extend_of_not_mem`), nor what stood under
this one before something is put there (`get?_extend_of_mem`), nor which things stand under names
that are left out (`get?_filter`).
-/

namespace TagText

namespace Named

variable {α β : Type} {xs xs' ys : Named α} {name : String} {a : α}

/-! ## Members -/

theorem mem_of_get? (h : get? xs name = some a) : (name, a) ∈ xs := by
  induction xs with
  | nil => exact absurd h (by simp [get?])
  | cons p xs ih =>
    obtain ⟨n, b⟩ := p
    by_cases hn : n = name
    · simp only [get?, hn, if_true, Option.some.injEq] at h
      simp [hn, h]
    · simp only [get?, hn, if_false] at h
      exact List.mem_cons_of_mem _ (ih h)

theorem contains_iff_mem_names : contains xs name = true ↔ name ∈ names xs := by
  unfold contains
  induction xs with
  | nil => simp [get?, names]
  | cons p xs ih =>
    obtain ⟨n, b⟩ := p
    by_cases hn : n = name
    · simp [get?, names, hn]
    · rw [get?, if_neg hn, ih]
      simp [names, Ne.symm hn]

theorem get?_eq_none_iff : get? xs name = none ↔ name ∉ names xs := by
  rw [← contains_iff_mem_names, contains, Option.isSome_iff_ne_none, Classical.not_not]

/-- All that stands after a `put` stood there before or was put. -/
theorem mem_of_mem_put {p : String × α} (h : p ∈ put xs name a) : p.2 = a ∨ p ∈ xs := by
  induction xs with
  | nil =>
    rw [put, List.mem_singleton] at h
    exact Or.inl (h ▸ rfl)
  | cons q xs ih =>
    by_cases hq : q.1 = name
    · simp only [put, hq, if_true] at h
      rcases List.mem_cons.mp h with rfl | h
      · exact Or.inl rfl
      · exact Or.inr (List.mem_cons_of_mem q h)
    · simp only [put, hq, if_false] at h
      rcases List.mem_cons.mp h with rfl | h
      · exact Or.inr List.mem_cons_self
      · exact (ih h).imp_right (List.mem_cons_of_mem q)

theorem forall_mem_put {P : α → Prop} (hxs : ∀ p ∈ xs, P p.2) (ha : P a) :
    ∀ p ∈ put xs name a, P p.2 := by
  intro p hp
  rcases mem_of_mem_put hp with heq | hp
  · exact heq ▸ ha
  · exact hxs p hp

/-- What all things of two lists have, all have after the second was put over the first. -/
theorem forall_mem_extend {P : α → Prop} (hxs : ∀ p ∈ xs, P p.2) (hys : ∀ p ∈ ys, P p.2) :
    ∀ p ∈ extend xs ys, P p.2 := by
  induction ys generalizing xs with
  | nil => exact hxs
  | cons q ys ih =>
    obtain ⟨hq, hys⟩ := List.forall_mem_cons.mp hys
    exact ih (forall_mem_put hxs hq) hys

/-! ## Parts of a list, and things changed under their names -/

theorem get?_append (xs ys : Named α) (name : String) :
    get? (xs ++ ys) name = (get? xs name).or (get? ys name) := by
  induction xs with
  | nil => rfl
  | cons p xs ih =>
    rw [List.cons_append, get?, get?]
    split
    next => rfl
    next => exact ih

/-- What stands under a name stands there among the things whose names are kept with it. -/
theorem get?_filter {p : String → Bool} (h : p name = true) (xs : Named α) :
    get? (xs.filter (p ·.1)) name = get? xs name := by
  induction xs with
  | nil => rfl
  | cons q xs ih =>
    obtain ⟨n, a⟩ := q
    by_cases hn : n = name
    · simp [get?, hn, h]
    · cases hkeep : p n <;> simp [get?, hn, hkeep, ih]

/-- Lists with the same things under the names of `kept` agree on these names. -/
theorem get?_eq_of_filter_eq {kept : List String} (h : name ∈ kept)
    (heq : xs.filter (·.1 ∈ kept) = xs'.filter (·.1 ∈ kept)) : get? xs name = get? xs' name := by
  have hfilter : ∀ zs : Named α, get? (zs.filter (·.1 ∈ kept)) name = get? zs name :=
    get?_filter (p := (decide <| · ∈ kept)) (decide_eq_true h)
  rw [← hfilter xs, heq, hfilter]

/-! ## Things put one after the other -/

theorem get?_put (xs : Named α) (name : String) (a : α) (other : String) :
    get? (put xs name a) other = if other = name then some a else get? xs other := by
  by_cases h : other = name
  · rw [if_pos h, h, get?_put_self]
  · rw [if_neg h, get?_put_of_ne xs a h]

theorem extend_append (xs ys zs : Named α) : extend xs (ys ++ zs) = extend (extend xs ys) zs :=
  List.foldl_append

/-- Under a name stands what was last put there, else what stood there before. -/
theorem get?_extend (xs : Named α) (ys : List (String × α)) (name : String) :
    get? (extend xs ys) name = (get? ys.reverse name).or (get? xs name) := by
  induction ys generalizing xs with
  | nil => rfl
  | cons p ys ih =>
    have hput : get? (put xs p.1 p.2) name = (get? [p] name).or (get? xs name) := by
      rw [get?_put, get?]
      by_cases hname : name = p.1
      · simp [hname]
      · simp [hname, Ne.symm hname, get?]
    rw [List.reverse_cons, get?_append, Option.or_assoc, ← hput]
    exact ih (put xs p.1 p.2)

/-- What is put over two lists that agree on a name leaves them so. -/
theorem get?_extend_congr (h : get? xs name = get? xs' name) (ys : List (String × α)) :
    get? (extend xs ys) name = get? (extend xs' ys) name := by
  rw [get?_extend, get?_extend, h]

/-- What is put under other names changes nothing under this one. -/
theorem get?_extend_of_not_mem (h : name ∉ ys.map Prod.fst) :
    get? (extend xs ys) name = get? xs name := by
  have hnone : get? ys.reverse name = none := by
    rw [get?_eq_none_iff, names, List.map_reverse, List.mem_reverse]
    exact h
  rw [get?_extend, hnone, Option.none_or]

/-- What is put last under a name stands there. -/
theorem get?_extend_of_last {zs : List (String × α)} (h : name ∉ zs.map Prod.fst) (xs : Named α)
    (ys : List (String × α)) (a : α) :
    get? (extend xs (ys ++ (name, a) :: zs)) name = some a := by
  rw [extend_append]
  change get? (extend (put (extend xs ys) name a) zs) name = some a
  rw [get?_extend_of_not_mem h, get?_put_self]

/-- What stands under a name that something is put under does not depend on what stood there. -/
theorem get?_extend_of_mem {ys : List (String × α)} (h : name ∈ ys.map Prod.fst)
    (xs xs' : Named α) : get? (extend xs ys) name = get? (extend xs' ys) name := by
  have hsome : get? ys.reverse name ≠ none := by
    rw [ne_eq, get?_eq_none_iff, Classical.not_not, names, List.map_reverse, List.mem_reverse]
    exact h
  obtain ⟨a, ha⟩ := Option.ne_none_iff_exists'.mp hsome
  rw [get?_extend, get?_extend, ha, Option.some_or, Option.some_or]

end Named

end TagText
