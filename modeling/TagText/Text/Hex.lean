/-!
# Numbers to the base 16
-/

namespace TagText

/-- The value of a digit to the base 16, in either case. -/
def hexValue? (c : Char) : Option Nat :=
  if '0' ≤ c && c ≤ '9' then some (c.toNat - '0'.toNat)
  else if 'a' ≤ c && c ≤ 'f' then some (c.toNat - 'a'.toNat + 10)
  else if 'A' ≤ c && c ≤ 'F' then some (c.toNat - 'A'.toNat + 10)
  else none

/-- The value of digits to the base 16 after those worth `n`. -/
def hexNumber? (n : Nat) : List Char → Option Nat
  | [] => some n
  | c :: s =>
    match hexValue? c with
    | none => none
    | some d => hexNumber? (n * 16 + d) s

/-- The character with a number, if there is one: a surrogate is none. -/
def scalar? (n : Nat) : Option Char := if h : n.isValidChar then some (Char.ofNatAux n h) else none

end TagText
