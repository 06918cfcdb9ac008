/-!
# Reading a value off the front of a text

The readers of this library take characters off the front of a list. What they give back says
by its type that fewer than so many characters are left, so a reader that calls others on the
rest ends.
-/

namespace TagText

/-- A value that was read, and fewer than `n` characters after it. -/
structure Reading (α : Type) (n : Nat) where
  value : α
  rest : List Char
  shorter : rest.length < n

namespace Reading

variable {α β : Type} {m n : Nat}

/-- The same reading with its value changed. -/
def map (f : α → β) (r : Reading α n) : Reading β n := ⟨f r.value, r.rest, r.shorter⟩

/-- A reading of a later part of a text is one of the text. -/
def widen (r : Reading α m) (h : m ≤ n) : Reading α n :=
  ⟨r.value, r.rest, Nat.lt_of_lt_of_le r.shorter h⟩

end Reading

end TagText
