/-!
# Named things in order

A list of pairs in which each name stands once, at the place where it was first put, with what
was put under it last. `put` keeps the names distinct, and what it does is said by `get?_put`.
-/

namespace TagText

/-- Things under names, in the order in which the names came. -/
abbrev Named (α : Type) := List (String × α)

namespace Named

variable {α : Type}

/-- What stands under a name. -/
def get? : Named α → String → Option α
  | [], _ => none
  | (n, b) :: xs, name => if n = name then some b else get? xs name

/-- Whether something stands under a name. -/
def contains (xs : Named α) (name : String) : Bool := (get? xs name).isSome

/-- The names in order. -/
def names (xs : Named α) : List String := xs.map Prod.fst

/-- Puts `a` under `name`: in place of what stood there, else at the end. -/
def put : Named α → String → α → Named α
  | [], name, a => [(name, a)]
  | (n, b) :: xs, name, a => if n = name then (n, a) :: xs else (n, b) :: put xs name a

/-- Puts the pairs of `ys` one after the other. -/
def extend (xs ys : Named α) : Named α := ys.foldl (fun xs p => put xs p.1 p.2) xs

/-- The pairs put one after the other, a later one over an earlier of its name. -/
def ofList (ys : List (String × α)) : Named α := extend [] ys

/-- The pairs in the order of their names, by the characters of these, which is also the order of
their bytes in UTF-8. -/
def sort (xs : Named α) : Named α := xs.mergeSort fun p q => decide (p.1 ≤ q.1)

theorem get?_put_self (xs : Named α) (name : String) (a : α) :
    get? (put xs name a) name = some a := by
  induction xs with
  | nil => simp [put, get?]
  | cons p xs ih => by_cases h : p.1 = name <;> simp [put, get?, h, ih]

theorem get?_put_of_ne (xs : Named α) {name other : String} (a : α) (h : other ≠ name) :
    get? (put xs name a) other = get? xs other := by
  induction xs with
  | nil => simp [put, get?, h.symm]
  | cons p xs ih =>
    by_cases hn : p.1 = name
    · simp [put, get?, hn, h.symm]
    · simp [put, get?, hn, ih]

/-- The names after a `put`: as before, with the new one at the end if it was not there. -/
theorem names_put (xs : Named α) (name : String) (a : α) :
    names (put xs name a) = if name ∈ names xs then names xs else names xs ++ [name] := by
  unfold names
  induction xs with
  | nil => simp [put]
  | cons p xs ih =>
    by_cases hn : p.1 = name
    · simp [put, hn]
    · simp only [put, hn, if_false, List.map_cons, ih, List.mem_cons, Ne.symm hn, false_or]
      split <;> simp

end Named

/-- Names in the order of their characters. -/
def sortNames (names : List String) : List String := names.mergeSort fun a b => decide (a ≤ b)

end TagText
