import TagText.Text.CasingTable

/-!
# Upper and lower case of whole texts

A character goes to one or more characters, whatever stands around it, with one exception: a
capital sigma that ends a word goes to the final form of the small letter.
-/

namespace TagText

namespace CaseRun

/-- Looks for the run of `n` among those from `lo` up to, and without, `hi`. -/
def search (table : Array CaseRun) (n lo hi : Nat) : Option CaseRun :=
  if lo < hi then
    let mid := (lo + hi) / 2
    match table[mid]? with
    | none => none
    | some run =>
      if n < run.first then search table n lo mid
      else if run.last < n then search table n (mid + 1) hi
      else some run
  else none
termination_by hi - lo

/-- The image of `n` in a table of runs, `n` itself when no run has it. -/
def map (table : Array CaseRun) (n : Nat) : Nat :=
  match search table n 0 table.size with
  | none => n
  | some run => if (n - run.first) % run.step = 0 then run.image + (n - run.first) else n

end CaseRun

namespace Casing

/-- The image of `c`: several characters if `several` lists it, else one by the runs. -/
def image (several : List (Nat × List Nat)) (runs : Array CaseRun) (c : Char) : List Char :=
  match several.lookup c.toNat with
  | some ns => ns.map Char.ofNat
  | none => [Char.ofNat (CaseRun.map runs c.toNat)]

/-- The upper case of one character. -/
def upperChar (c : Char) : List Char := image upperSeveral upperRuns c

/-- The lower case of one character on its own. -/
def lowerChar (c : Char) : List Char := image lowerSeveral lowerRuns c

/-- Whether the first character that is not passed over has case. -/
def casedNext (s : List Char) : Bool :=
  match s.dropWhile caseIgnorableRanges.holds with
  | [] => false
  | c :: _ => casedRanges.holds c

/-- The lower case of the characters of `s`, which stand after those of `before`, given in
reverse. A capital sigma with case before it and none after it becomes `ς`. -/
def lowerAfter (before : List Char) : List Char → List Char
  | [] => []
  | c :: s =>
    (if c = 'Σ' then [if casedNext before && !casedNext s then 'ς' else 'σ'] else lowerChar c) ++
      lowerAfter (c :: before) s

/-- The text in upper case. -/
def upper (s : List Char) : List Char := s.flatMap upperChar

/-- The text in lower case. -/
def lower (s : List Char) : List Char := lowerAfter [] s

/-- The text with its first character in upper case. -/
def capitalize : List Char → List Char
  | [] => []
  | c :: s => upperChar c ++ s

end Casing

end TagText
