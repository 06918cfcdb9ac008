import TagText.Store

/-!
# Following a path in two parts

Errors tell a path as it grows key by key (`Path.told`), which is with dots between the keys once
the first of them has a character (`told_cons_eq_intercalate`). Following a path is following a part
at its front and going on from the value there with the rest:

> `Store.get_append`: what `front ++ back` leads to is what `back` leads to from the value at the end
> of `front`, and the error of `front` if it has one.
-/

namespace TagText

/-! ## Paths in errors -/

namespace Path

/-- A path as errors tell it. -/
def told (keys : List String) : String := keys.foldl extend ""

theorem told_append (front back : List String) :
    told (front ++ back) = back.foldl extend (told front) :=
  List.foldl_append

theorem told_cons (key : String) (keys : List String) :
    told (key :: keys) = keys.foldl extend key :=
  rfl

/-- Behind a text that is not empty every key has its dot. -/
theorem foldl_extend_of_ne_empty {path : String} (h : path ≠ "") (keys : List String) :
    keys.foldl extend path = ".".intercalate (path :: keys) := by
  induction keys generalizing path with
  | nil => exact String.intercalate_singleton.symm
  | cons key keys ih =>
    have hextend : extend path key = path ++ "." ++ key := if_neg (by simpa using h)
    rw [List.foldl_cons, hextend, ih (by simp), String.intercalate_cons_cons]
    cases keys with
    | nil => simp
    | cons key' keys => simp [String.intercalate_cons_cons, String.append_assoc]

theorem told_cons_eq_intercalate {key : String} (h : key ≠ "") (keys : List String) :
    told (key :: keys) = ".".intercalate (key :: keys) :=
  foldl_extend_of_ne_empty h keys

/-- Keys that are not empty are told with dots between them. -/
theorem told_eq_intercalate {keys : List String} (h : ∀ key ∈ keys, key ≠ "") :
    told keys = ".".intercalate keys := by
  cases keys with
  | nil => rfl
  | cons key keys => exact told_cons_eq_intercalate (h key List.mem_cons_self) keys

end Path

/-! ## Two parts of a path -/

variable {objects : Objects}

theorem Value.descend_append (v : Value) (path : String) (front back : List String) :
    v.descend objects path (front ++ back) =
      (v.descend objects path front).bind fun w =>
        w.descend objects (front.foldl Path.extend path) back := by
  induction front generalizing v path with
  | nil => rfl
  | cons key front ih =>
    rw [List.cons_append, descend, descend]
    cases v.member objects key with
    | error obstacle => rfl
    | ok w => exact ih w (Path.extend path key)

namespace Store

variable {s : Store} {path front : List String} {v : Value} {e : ValueError}

theorem ne_nil_of_get (h : s.get objects path = .ok v) : path ≠ [] := by
  rintro rfl
  exact absurd h (by simp [get])

theorem get_append (hfront : front ≠ []) (back : List String) :
    s.get objects (front ++ back) =
      (s.get objects front).bind fun v => v.descend objects (Path.told front) back := by
  obtain ⟨key, front, rfl⟩ := List.exists_cons_of_ne_nil hfront
  rw [List.cons_append, get, get, Path.told_cons]
  cases Named.get? s.entries key with
  | some v => exact v.descend_append key front back
  | none =>
    cases s.bound with
    | none => rfl
    | some object =>
      -- The bound object is no null, so it is followed like any other value.
      exact (Value.object object).descend_append "" (key :: front) back

/-- Behind a path that leads to a value, the next key is asked for there. -/
theorem get_append_cons (h : s.get objects front = .ok v) (key : String) (keys : List String) :
    s.get objects (front ++ key :: keys) =
      match v.member objects key with
      | .ok w => w.descend objects (Path.told (front ++ [key])) keys
      | .error obstacle => .error (.blocked obstacle (Path.told (front ++ [key]))) := by
  rw [get_append (ne_nil_of_get h), h, Path.told_append]
  rfl

/-! ## Whether there is a value -/

theorem has_eq_true_iff : s.has objects path = .ok true ↔ ∃ v, s.get objects path = .ok v := by
  unfold has
  cases s.get objects path with
  | ok v => simp
  | error e => cases h : e.isAbsence <;> simp [h]

theorem has_eq_false_iff :
    s.has objects path = .ok false ↔ ∃ e, s.get objects path = .error e ∧ e.isAbsence = true := by
  unfold has
  cases s.get objects path with
  | ok v => simp
  | error e => cases h : e.isAbsence <;> simp [h]

theorem has_eq_error_iff :
    s.has objects path = .error e ↔ s.get objects path = .error e ∧ e.isAbsence = false := by
  unfold has
  cases s.get objects path with
  | ok v => simp
  | error e' =>
    cases h : e'.isAbsence with
    | false =>
      simp only [h, Bool.false_eq_true, if_false, Except.error.injEq]
      exact ⟨fun heq => ⟨heq, heq ▸ h⟩, And.left⟩
    | true =>
      simp only [h, if_true, reduceCtorEq, Except.error.injEq, false_iff, not_and]
      rintro rfl
      simp [h]

end Store

end TagText
