/-!
# Sets of characters given by ranges of code points

A property of characters that a standard publishes as a table is held as closed
ranges in increasing order, and asked by halving.
-/

namespace TagText

/-- Closed ranges of code points, in increasing order and without overlap. -/
abbrev Ranges := Array (Nat × Nat)

namespace Ranges

/-- Looks for `n` among the ranges from `lo` up to, and without, `hi`. -/
def search (table : Ranges) (n lo hi : Nat) : Bool :=
  if lo < hi then
    let mid := (lo + hi) / 2
    match table[mid]? with
    | none => false
    | some (first, last) =>
      if n < first then search table n lo mid
      else if last < n then search table n (mid + 1) hi
      else true
  else false
termination_by hi - lo

/-- Whether the code point of `c` lies in one of the ranges. -/
def holds (table : Ranges) (c : Char) : Bool :=
  search table c.toNat 0 table.size

end Ranges

end TagText
