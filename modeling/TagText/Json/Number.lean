import TagText.Decimal.Reader
import TagText.Value.Basic

/-!
# Numbers in JSON text

A number without a fraction and an exponent is an integer when 64 bits with a sign hold it; any
other number is a double, and so is a zero with a minus sign. The double is not always the nearest
one: as many digits as fit in 64 bits make a whole number, which becomes a double and is then
multiplied or divided by a power of ten, itself a double. For up to fifteen digits and powers up
to 22 that is exact but for one rounding.
-/

namespace TagText

namespace Json

/-- Digits taken so far, as a whole number of at most 64 bits, the power of ten that they are to
be multiplied by, and whether further digits are left out. -/
structure Digits where
  value : Nat
  power : Int
  full : Bool

namespace Digits

/-- One more digit, which moves the power of ten by `taken` if it is taken and else by `left`. -/
def push (taken left : Int) (s : Digits) (c : Char) : Digits :=
  let value := s.value * 10 + (c.toNat - '0'.toNat)
  if s.full || UInt64.size ≤ value then ⟨s.value, s.power + left, true⟩
  else ⟨value, s.power + taken, false⟩

/-- The digits before the point. -/
def whole (digits : List Char) : Digits := digits.foldl (push 0 1) ⟨0, 0, false⟩

/-- Digits after the point on top of those before it. -/
def places (s : Digits) (digits : List Char) : Digits :=
  digits.foldl (push (-1) 0) { s with full := false }

end Digits

/-- The double `10 ^ n`. -/
def powerOfTen (n : Nat) : Float := Float.ofScientific 1 false n

/-- `x` times a power of ten. Beyond the greatest power of ten among the doubles, `x` is divided
by that power again and again; there is no answer when the result is too large. -/
def scale (x : Float) (power : Int) : Option Float :=
  if 308 < power then if x == 0 then some x else none
  else if 0 ≤ power then
    let y := x * powerOfTen power.toNat
    if y.isInf then none else some y
  else if -308 ≤ power then some (x / powerOfTen (-power).toNat)
  else if x == 0 then some x
  else scale (x / powerOfTen 308) (power + 308)
termination_by power.natAbs

/-- A number as written: its sign, its digits, and whether only an integer was written. -/
structure Written where
  negative : Bool
  digits : Digits
  integer : Bool

/-- The value of a number. -/
def Written.value? (w : Written) : Option Value :=
  let size := w.digits.value
  let n : Int := if w.negative then -size else size
  if w.integer && !w.digits.full && isInt64 n && !(w.negative && size == 0) then
    some (.int (Int64.ofInt n))
  else
    (scale (Float.ofScientific size false 0) w.digits.power).map fun x =>
      .float (if w.negative then -x else x)

/-- The exponent that stands next, 0 if none does, and what is left. -/
def takeExponent (s : List Char) : Option (Int × List Char) :=
  match s with
  | c :: more =>
    if c = 'e' || c = 'E' then
      let (negative, more) :=
        match more with
        | '-' :: r => (true, r)
        | '+' :: r => (false, r)
        | r => (false, r)
      let digits := more.takeWhile isAsciiDigit
      let n : Int := Decimal.digitsValue digits
      if digits.isEmpty then none
      else some (if negative then -n else n, more.dropWhile isAsciiDigit)
    else some (0, s)
  | [] => some (0, s)

/-- The number that stands next without its sign, and what is left. -/
def takeUnsigned (negative : Bool) (s : List Char) : Option (Written × List Char) :=
  let digits := s.takeWhile isAsciiDigit
  let rest := s.dropWhile isAsciiDigit
  let whole := Digits.whole digits
  if digits.isEmpty || (digits.head? = some '0' && 1 < digits.length) then none
  else
    match rest with
    | '.' :: more =>
      let places := more.takeWhile isAsciiDigit
      if places.isEmpty then none
      else
        let all := whole.places places
        (takeExponent (more.dropWhile isAsciiDigit)).map fun (e, rest) =>
          (⟨negative, { all with power := all.power + e }, false⟩, rest)
    | 'e' :: _ | 'E' :: _ =>
      (takeExponent rest).map fun (e, rest) =>
        (⟨negative, { whole with power := whole.power + e }, false⟩, rest)
    | rest => some (⟨negative, whole, true⟩, rest)

/-- The number that stands next, and what is left. -/
def takeNumber (s : List Char) : Option (Value × List Char) :=
  let read (w : Option (Written × List Char)) : Option (Value × List Char) :=
    w.bind fun (w, rest) => w.value?.map (·, rest)
  match s with
  | '-' :: s => read (takeUnsigned true s)
  | s => read (takeUnsigned false s)

theorem length_dropWhile_lt {p : Char → Bool} {s : List Char}
    (h : (s.takeWhile p).isEmpty = false) : (s.dropWhile p).length < s.length := by
  have := congrArg List.length (List.takeWhile_append_dropWhile (p := p) (l := s))
  have : 0 < (s.takeWhile p).length := by
    rw [List.length_pos_iff]
    simpa using h
  simp only [List.length_append] at *
  omega

theorem takeExponent_length_le {s rest : List Char} {e : Int}
    (h : takeExponent s = some (e, rest)) : rest.length ≤ s.length := by
  unfold takeExponent at h
  split at h
  · next c more =>
    split at h
    · dsimp only at h
      split at h
      all_goals
        split at h
        · simp at h
        · simp only [Option.some.injEq, Prod.mk.injEq] at h
          obtain ⟨-, rfl⟩ := h
          refine Nat.le_trans (List.dropWhile_suffix _).length_le ?_
          simp
          try omega
    · simp at h; simp [h.2]
  · simp at h; simp [h.2]

theorem takeUnsigned_length_lt {negative : Bool} {s rest : List Char} {w : Written}
    (h : takeUnsigned negative s = some (w, rest)) : rest.length < s.length := by
  unfold takeUnsigned at h
  dsimp only at h
  split at h
  · simp at h
  · next hd =>
    simp only [Bool.or_eq_true, not_or, Bool.not_eq_true] at hd
    have hlt := length_dropWhile_lt hd.1
    split at h
    · next more hr =>
      rw [hr] at hlt
      split at h
      · simp at h
      · obtain ⟨⟨e, r⟩, he, hw⟩ := Option.map_eq_some_iff.1 h
        simp only [Prod.mk.injEq] at hw
        obtain ⟨-, rfl⟩ := hw
        have := takeExponent_length_le he
        have := (List.dropWhile_suffix (l := more) isAsciiDigit).length_le
        simp at hlt
        omega
    · next hr =>
      obtain ⟨⟨e, r⟩, he, hw⟩ := Option.map_eq_some_iff.1 h
      simp only [Prod.mk.injEq] at hw
      obtain ⟨-, rfl⟩ := hw
      have := takeExponent_length_le he
      omega
    · next hr =>
      obtain ⟨⟨e, r⟩, he, hw⟩ := Option.map_eq_some_iff.1 h
      simp only [Prod.mk.injEq] at hw
      obtain ⟨-, rfl⟩ := hw
      have := takeExponent_length_le he
      omega
    · simp only [Option.some.injEq, Prod.mk.injEq] at h
      obtain ⟨-, rfl⟩ := h
      exact hlt

theorem takeNumber_length_lt {s rest : List Char} {v : Value}
    (h : takeNumber s = some (v, rest)) : rest.length < s.length := by
  unfold takeNumber at h
  dsimp only at h
  split at h
  all_goals
    obtain ⟨⟨w, r⟩, hw, hv⟩ := Option.bind_eq_some_iff.1 h
    obtain ⟨u, -, hu⟩ := Option.map_eq_some_iff.1 hv
    simp only [Prod.mk.injEq] at hu
    obtain ⟨-, rfl⟩ := hu
    have := takeUnsigned_length_lt hw
    simp only [List.length_cons] at *
    omega

end Json

end TagText
