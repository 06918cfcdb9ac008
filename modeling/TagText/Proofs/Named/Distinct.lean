import Mathlib.Data.List.Induction
import Mathlib.Data.List.Nodup
import TagText.Proofs.Named.Lookup

/-!
# Distinct names in their order

Where each name stands once, to be found under a name is to be in the list with it
(`get?_eq_some_iff`), so looking things up does not show the order of the list (`get?_of_perm`).
Putting things one after the other keeps the names distinct (`nodup_names_extend`) and in order:

> `names_extend`: the names that were there before come first, and then the others in the order in
> which they first came.

> `extend_extend`: things that were put together before are put over a list as if one by one.

For the second it has to be seen that to put something in place of what stands under its name can
wait for things under other names (`put_extend`).
-/

namespace TagText

namespace Named

variable {α β : Type} {xs xs' ys : Named α} {name : String} {a : α}

/-! ## Looking things up -/

theorem get?_eq_some_iff (h : (names xs).Nodup) : get? xs name = some a ↔ (name, a) ∈ xs := by
  refine ⟨mem_of_get?, fun hmem => ?_⟩
  induction xs with
  | nil => exact absurd hmem List.not_mem_nil
  | cons p xs ih =>
    obtain ⟨hp, hxs⟩ := List.nodup_cons.mp h
    rcases List.mem_cons.mp hmem with rfl | hmem
    · rw [get?, if_pos rfl]
    · have hne : p.1 ≠ name := by
        rintro rfl
        exact hp (List.mem_map.mpr ⟨_, hmem, rfl⟩)
      rw [get?, if_neg hne]
      exact ih hxs hmem

theorem get?_of_perm (h : (names xs).Nodup) (hperm : xs.Perm xs') (name : String) :
    get? xs name = get? xs' name := by
  have h' : (names xs').Nodup := (hperm.map Prod.fst).nodup_iff.mp h
  refine Option.ext fun a => ?_
  rw [get?_eq_some_iff h, get?_eq_some_iff h', hperm.mem_iff]

theorem sort_perm (xs : Named α) : (sort xs).Perm xs :=
  List.mergeSort_perm xs _

theorem nodup_names_sort (h : (names xs).Nodup) : (names (sort xs)).Nodup :=
  ((sort_perm xs).map Prod.fst).nodup_iff.mpr h

/-- Distinct names that were sorted ascend. -/
theorem names_sort_pairwise (h : (names xs).Nodup) : (names (sort xs)).Pairwise (· < ·) := by
  have htrans : ∀ p q r : String × α, decide (p.1 ≤ q.1) = true → decide (q.1 ≤ r.1) = true →
      decide (p.1 ≤ r.1) = true := by
    simp only [decide_eq_true_eq]
    exact fun _ _ _ => String.le_trans
  have htotal : ∀ p q : String × α, (decide (p.1 ≤ q.1) || decide (q.1 ≤ p.1)) = true := by
    simp only [Bool.or_eq_true, decide_eq_true_eq]
    exact fun p q => String.le_total p.1 q.1
  have hle : (names (sort xs)).Pairwise (· ≤ ·) :=
    List.pairwise_map.mpr <|
      (List.pairwise_mergeSort htrans htotal xs).imp fun hpq => of_decide_eq_true hpq
  refine List.Pairwise.imp₂ (fun m n hmn hne => ?_) hle (nodup_names_sort h)
  exact String.not_le.mp fun hnm => hne (String.le_antisymm hmn hnm)

/-! ## Things changed under their names -/

theorem names_map (f : α → β) (xs : Named α) :
    names (xs.map fun p => (p.1, f p.2)) = names xs := by
  rw [names, List.map_map]
  rfl

theorem get?_map (f : α → β) (xs : Named α) (name : String) :
    get? (xs.map fun p => (p.1, f p.2)) name = (get? xs name).map f := by
  induction xs with
  | nil => rfl
  | cons p xs ih =>
    rw [List.map_cons, get?, get?]
    split
    next => rfl
    next => exact ih

/-! ## Putting one thing -/

theorem put_of_not_mem (h : name ∉ names xs) (a : α) : put xs name a = xs ++ [(name, a)] := by
  induction xs with
  | nil => rfl
  | cons p xs ih =>
    obtain ⟨hp, hxs⟩ := not_or.mp (mt List.mem_cons.mpr h)
    rw [put, if_neg (Ne.symm hp), ih hxs]
    rfl

/-- Of a list with distinct names each thing comes to stand at the end when it is put. -/
theorem put_of_nodup_append (h : (names (xs ++ (name, a) :: ys)).Nodup) (b : α) :
    put xs name b = xs ++ [(name, b)] := by
  refine put_of_not_mem (fun hname => ?_) b
  rw [names, List.map_append, List.map_cons, List.nodup_middle, List.nodup_cons] at h
  exact h.1 (List.mem_append_left _ hname)

theorem nodup_names_put (h : (names xs).Nodup) (name : String) (a : α) :
    (names (put xs name a)).Nodup := by
  rw [names_put]
  split
  next => exact h
  next hname => exact List.Nodup.append h (List.nodup_singleton name) (by simpa using hname)

theorem put_put (xs : Named α) (name : String) (a b : α) :
    put (put xs name a) name b = put xs name b := by
  induction xs with
  | nil => simp [put]
  | cons p xs ih =>
    by_cases hp : p.1 = name
    · simp [put, hp]
    · simp [put, hp, ih]

/-- What is put in place of something that is there can be put before or after something else. -/
theorem put_comm {other : String} (h : name ≠ other) (hmem : name ∈ names xs) (a b : α) :
    put (put xs other b) name a = put (put xs name a) other b := by
  induction xs with
  | nil => exact absurd hmem List.not_mem_nil
  | cons p xs ih =>
    obtain ⟨n, c⟩ := p
    by_cases hn : n = name
    · subst hn
      simp [put, h]
    · have hmem : name ∈ names xs := (List.mem_cons.mp hmem).resolve_left (Ne.symm hn)
      by_cases hother : n = other
      · subst hother
        simp [put, hn]
      · simp [put, hn, hother, ih hmem]

/-! ## Putting things one after the other -/

theorem nodup_names_extend (h : (names xs).Nodup) (ys : List (String × α)) :
    (names (extend xs ys)).Nodup := by
  induction ys generalizing xs with
  | nil => exact h
  | cons p ys ih => exact ih (nodup_names_put h p.1 p.2)

theorem nodup_names_ofList (ys : List (String × α)) : (names (ofList ys)).Nodup := by
  have hnil : (names ([] : Named α)).Nodup := List.nodup_nil
  exact nodup_names_extend hnil ys

/-- The names that were there stay where they are. Behind them stand the others in the order in which
they first came. -/
theorem names_extend (xs : Named α) (ys : List (String × α)) :
    names (extend xs ys) = names xs ++ ((ys.map Prod.fst).removeAll (names xs)).eraseDups := by
  induction ys using List.reverseRecOn with
  | nil => exact (List.append_nil (names xs)).symm
  | append_singleton ys p ih =>
    have hextend : extend xs (ys ++ [p]) = put (extend xs ys) p.1 p.2 := List.foldl_append
    have hremove : (ys.map Prod.fst ++ [p.1]).removeAll (names xs) =
        (ys.map Prod.fst).removeAll (names xs) ++ [p.1].removeAll (names xs) :=
      List.filter_append ..
    rw [hextend, names_put, ih, List.map_append, List.map_singleton, hremove, List.eraseDups_append]
    by_cases hxs : p.1 ∈ names xs
    · simp [List.removeAll, hxs]
    · by_cases hys : p.1 ∈ ys.map Prod.fst
      · simp [List.removeAll, hxs, hys]
      · simp [List.removeAll, List.eraseDups_cons, hxs, hys]

/-- The names stand in the order in which they first came. -/
theorem names_ofList (ys : List (String × α)) :
    names (ofList ys) = (ys.map Prod.fst).eraseDups := by
  rw [ofList, names_extend]
  simp [names, List.removeAll]

/-- Things with distinct names are put behind others just as they are. -/
theorem extend_of_nodup (h : (names (xs ++ ys)).Nodup) : extend xs ys = xs ++ ys := by
  induction ys generalizing xs with
  | nil => exact (List.append_nil xs).symm
  | cons p ys ih =>
    change extend (put xs p.1 p.2) ys = xs ++ p :: ys
    have hput : put xs p.1 p.2 = xs ++ [p] := put_of_nodup_append h p.2
    rw [hput, ih (by simpa using h), List.append_assoc]
    rfl

/-- What is put in place of something that is there can wait for things under other names. -/
theorem put_extend (hmem : name ∈ names xs) (hys : name ∉ names ys) (a : α) :
    put (extend xs ys) name a = extend (put xs name a) ys := by
  induction ys generalizing xs with
  | nil => rfl
  | cons p ys ih =>
    obtain ⟨hp, hys⟩ := not_or.mp (mt List.mem_cons.mpr hys)
    have hmem' : name ∈ names (put xs p.1 p.2) := by
      rw [names_put]
      split
      next => exact hmem
      next => exact List.mem_append_left _ hmem
    change put (extend (put xs p.1 p.2) ys) name a = extend (put (put xs name a) p.1 p.2) ys
    rw [ih hmem' hys, put_comm hp hmem]

theorem extend_put (h : (names ys).Nodup) (xs : Named α) (name : String) (a : α) :
    extend xs (put ys name a) = put (extend xs ys) name a := by
  induction ys generalizing xs with
  | nil => rfl
  | cons p ys ih =>
    obtain ⟨hp, hys⟩ := List.nodup_cons.mp h
    by_cases hn : p.1 = name
    · subst hn
      have hmem : p.1 ∈ names (put xs p.1 p.2) := by
        rw [← contains_iff_mem_names, contains, get?_put_self]
        rfl
      rw [put, if_pos rfl]
      change extend (put xs p.1 a) ys = put (extend (put xs p.1 p.2) ys) p.1 a
      rw [put_extend hmem hp, put_put]
    · rw [put, if_neg hn]
      exact ih hys (put xs p.1 p.2)

/-- Things that were put together before are put over a list as if one by one. -/
theorem extend_extend (h : (names ys).Nodup) (xs : Named α) (zs : List (String × α)) :
    extend xs (extend ys zs) = extend (extend xs ys) zs := by
  induction zs generalizing ys with
  | nil => rfl
  | cons p zs ih =>
    change extend xs (extend (put ys p.1 p.2) zs) = extend (put (extend xs ys) p.1 p.2) zs
    rw [ih (nodup_names_put h p.1 p.2), extend_put h]

end Named

end TagText
