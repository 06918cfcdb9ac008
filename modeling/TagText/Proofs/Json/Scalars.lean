import Mathlib.Data.List.Basic
import TagText.Json.Reader
import TagText.Json.Writer

/-!
# Strings and integers in JSON text

What is written for a string is read as this string (`readString_flatMap_escape`), because each
character is read from its escape (`takeChars_escape`); and what is written for an integer is read
as this integer, if nothing follows that could belong to a number (`takeNumber_int`).
-/

namespace TagText

namespace Json

/-- The reader gives this value and leaves this rest. -/
def Gives {α : Type} {n : Nat} (r : Option (Reading α n)) (a : α) (rest : List Char) : Prop :=
  ∃ shorter, r = some ⟨a, rest, shorter⟩

/-- Nothing follows, or a mark that stands behind a part of a list or a map. -/
def Ends (t : List Char) : Prop := ∀ c, t.head? = some c → c = ',' ∨ c = ']' ∨ c = '\x7d'

/-! ## Strings -/

theorem scalar?_toNat (c : Char) : scalar? c.toNat = some c := by
  have hvalid : c.toNat.isValidChar := c.valid
  rw [scalar?, dif_pos hvalid]
  rfl

theorem hexNumber?_control : ∀ n < 0x20,
    hexNumber? 0 ['0', '0', hexDigit (n / 16), hexDigit n] = some n := by
  decide

/-- A character is read from its escape. -/
theorem takeChars_escape (c : Char) (taken s : List Char) :
    takeChars taken (escape c ++ s) = takeChars (c :: taken) s := by
  unfold escape
  split
  case h_8 hquote hslash _ _ _ _ _ =>
    split
    next hcontrol =>
      have hnumber := hexNumber?_control c.toNat hcontrol
      have hunit : unitsChar? c.toNat none = some c := scalar?_toNat c
      have hlow : ¬0xD800 ≤ c.toNat := by omega
      simp [takeChars, hnumber, hlow, hunit]
    next hcontrol =>
      have hplain : ¬(c.toNat < 0x20 || c == '\\') = true := by
        simpa using ⟨Nat.le_of_not_lt hcontrol, hslash⟩
      rw [List.singleton_append, takeChars, if_neg hplain]
      · exact hquote
      · exact fun _ _ _ _ _ h => absurd h hslash
      · exact fun _ _ h => absurd h hslash
  all_goals simp [takeChars, escaped?]

/-- A string is read up to the quote behind its escapes. -/
theorem takeChars_flatMap_escape (cs taken rest : List Char) :
    takeChars taken (cs.flatMap escape ++ '"' :: rest) = some (taken.reverse ++ cs, rest) := by
  induction cs generalizing taken with
  | nil => simp [takeChars]
  | cons c cs ih => simp [takeChars_escape, ih]

theorem readString_flatMap_escape (s : String) (rest : List Char) :
    Gives (readString (s.toList.flatMap escape ++ '"' :: rest)) s rest := by
  have htake := takeChars_flatMap_escape s.toList [] rest
  rw [List.reverse_nil, List.nil_append] at htake
  refine ⟨takeChars_length_lt htake, ?_⟩
  unfold readString
  split
  next hnone => rw [htake] at hnone; cases hnone
  next cs rest' hsome =>
    obtain ⟨rfl, rfl⟩ := Prod.mk.inj (Option.some.inj (htake.symm.trans hsome))
    simp

/-! ## Digits -/

theorem isAsciiDigit_of_mem_toDigits {n : Nat} {c : Char} (h : c ∈ Nat.toDigits 10 n) :
    isAsciiDigit c = true :=
  Nat.isDigit_of_mem_toDigits (by decide) (by decide) h

theorem exists_toDigits_eq_cons (n : Nat) :
    ∃ c ds, Nat.toDigits 10 n = c :: ds ∧ isAsciiDigit c = true := by
  obtain ⟨c, ds, hcons⟩ := List.exists_cons_of_ne_nil (Nat.toDigits_ne_nil (b := 10) (n := n))
  exact ⟨c, ds, hcons, isAsciiDigit_of_mem_toDigits (hcons ▸ List.mem_cons_self)⟩

/-- No digit begins what may stand behind a number. -/
theorem takeWhile_digits {ds t : List Char} (hds : ∀ c ∈ ds, isAsciiDigit c = true) (ht : Ends t) :
    (ds ++ t).takeWhile isAsciiDigit = ds ∧ (ds ++ t).dropWhile isAsciiDigit = t := by
  rw [List.takeWhile_append_of_pos hds, List.dropWhile_append_of_pos hds]
  cases t with
  | nil => simp
  | cons c t =>
    have hc : isAsciiDigit c = false := by
      rcases ht c rfl with rfl | rfl | rfl <;> rfl
    simp [hc]

theorem toNat_digitChar : ∀ d < 10, (Nat.digitChar d).toNat - '0'.toNat = d := by
  decide

/-- Only zero begins with a zero. -/
theorem head?_toDigits {n : Nat} (h : 0 < n) : (Nat.toDigits 10 n).head? ≠ some '0' := by
  induction n using Nat.strongRecOn with
  | ind n ih =>
    rw [Nat.toDigits_eq_if (by decide)]
    split
    next hlt =>
      have hdigit : ∀ d < 10, 0 < d → [Nat.digitChar d].head? ≠ some '0' := by decide
      exact hdigit n hlt h
    next hge =>
      have hfront := ih (n / 10) (by omega) (by omega)
      have hne : Nat.toDigits 10 (n / 10) ≠ [] := Nat.toDigits_ne_nil
      rwa [List.head?_append_of_ne_nil _ hne]

/-- A digit that fits in is taken. -/
theorem push_of_lt {value digit : Nat} {c : Char} (hc : c.toNat - '0'.toNat = digit)
    (h : value * 10 + digit < UInt64.size) :
    Digits.push 0 1 ⟨value, 0, false⟩ c = ⟨value * 10 + digit, 0, false⟩ := by
  rw [Digits.push, hc, if_neg (by simpa using h), Int.add_zero]

theorem whole_toDigits {n : Nat} (h : n < UInt64.size) :
    Digits.whole (Nat.toDigits 10 n) = ⟨n, 0, false⟩ := by
  induction n using Nat.strongRecOn with
  | ind n ih =>
    have hdigit := toNat_digitChar (n % 10) (Nat.mod_lt n (by decide))
    have hvalue : n / 10 * 10 + n % 10 = n := Nat.div_add_mod' n 10
    have hpush := push_of_lt hdigit (hvalue.symm ▸ h)
    rw [hvalue] at hpush
    rw [Nat.toDigits_eq_if (by decide)]
    split
    next hlt =>
      rw [Nat.mod_eq_of_lt hlt, Nat.div_eq_of_lt hlt] at hpush
      exact hpush
    next hge =>
      have hfront := ih (n / 10) (by omega) (by omega)
      rw [Digits.whole, List.foldl_append, ← Digits.whole, hfront]
      exact hpush

/-- The digits of a number are such as a number may begin with. -/
theorem toDigits_wellFormed (n : Nat) :
    ((Nat.toDigits 10 n).isEmpty ||
      decide ((Nat.toDigits 10 n).head? = some '0') && decide (1 < (Nat.toDigits 10 n).length)) =
        false := by
  rcases Nat.eq_zero_or_pos n with rfl | hpos
  · decide
  · have hempty : (Nat.toDigits 10 n).isEmpty = false := by simp
    rw [hempty, decide_eq_false (head?_toDigits hpos)]
    rfl

/-! ## Integers -/

theorem takeUnsigned_toDigits (negative : Bool) {n : Nat} (h : n < UInt64.size) {t : List Char}
    (ht : Ends t) :
    takeUnsigned negative (Nat.toDigits 10 n ++ t) = some (⟨negative, ⟨n, 0, false⟩, true⟩, t) := by
  obtain ⟨htake, hdrop⟩ := takeWhile_digits (fun c => isAsciiDigit_of_mem_toDigits (n := n)) ht
  unfold takeUnsigned
  dsimp only
  rw [htake, hdrop, whole_toDigits h, toDigits_wellFormed]
  -- Neither a point nor an exponent follows.
  split
  next => exact absurd ‹_› Bool.false_ne_true
  next =>
    split
    next => exact absurd (ht '.' rfl) (by decide)
    next => exact absurd (ht 'e' rfl) (by decide)
    next => exact absurd (ht 'E' rfl) (by decide)
    next => rfl

theorem value?_int (n : Int64) (negative : Bool) (size : Nat)
    (hn : n.toInt = if negative then -(size : Int) else size)
    (hzero : (negative && size == 0) = false) :
    Written.value? ⟨negative, ⟨size, 0, false⟩, true⟩ = some (.int n) := by
  have hint : isInt64 n.toInt = true := by
    have hlow := n.le_toInt
    have hhigh := n.toInt_lt
    simp only [isInt64, Bool.and_eq_true, decide_eq_true_eq]
    omega
  unfold Written.value?
  dsimp only
  rw [← hn, hint, hzero, Int64.ofInt_toInt]
  rfl

/-- An integer begins with a digit or a minus sign. -/
theorem exists_write_int_eq_cons (n : Int64) :
    ∃ c s, write (.int n) = c :: s ∧ (isAsciiDigit c = true ∨ c = '-') := by
  rw [show write (.int n) = (Int.repr n.toInt).toList from rfl]
  unfold Int.repr
  split
  next m _ =>
    obtain ⟨c, ds, hdigits, hc⟩ := exists_toDigits_eq_cons m
    rw [Nat.repr, String.toList_ofList]
    exact ⟨c, ds, hdigits, .inl hc⟩
  next =>
    rw [String.toList_append]
    exact ⟨'-', _, rfl, .inr rfl⟩

/-- An integer is read from its digits, with a minus sign in front of them if it has one. -/
theorem takeNumber_int (n : Int64) {t : List Char} (ht : Ends t) :
    takeNumber (write (.int n) ++ t) = some (.int n, t) := by
  have hlow := n.le_toInt
  have hhigh := n.toInt_lt
  have hsize : n.toInt.natAbs < UInt64.size := by
    have : UInt64.size = 2 ^ 64 := rfl
    omega
  rw [show write (.int n) = (Int.repr n.toInt).toList from rfl]
  unfold Int.repr
  split
  next m hm =>
    have hread := takeUnsigned_toDigits false (n := m) (by rw [hm] at hsize; exact hsize) ht
    have hvalue := value?_int n false m hm rfl
    rw [Nat.repr, String.toList_ofList]
    unfold takeNumber
    dsimp only
    split
    next s hminus =>
      obtain ⟨c, ds, hdigits, hc⟩ := exists_toDigits_eq_cons m
      rw [hdigits] at hminus
      obtain ⟨rfl, -⟩ := List.cons.inj hminus
      exact absurd hc (by decide)
    next =>
      rw [hread, Option.bind_some, hvalue]
      rfl
  next m hm =>
    have hread := takeUnsigned_toDigits true (n := m + 1) (by rw [hm] at hsize; exact hsize) ht
    have hvalue := value?_int n true (m + 1) hm rfl
    simp only [String.toList_append, Nat.repr, String.toList_ofList]
    change (takeUnsigned true (Nat.toDigits 10 (m + 1) ++ t)).bind _ = _
    rw [hread, Option.bind_some]
    dsimp only
    rw [hvalue]
    rfl

end Json

end TagText
