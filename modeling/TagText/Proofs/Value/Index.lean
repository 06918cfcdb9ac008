import Mathlib.Data.Nat.Digits.Defs
import Mathlib.Tactic.Ring
import TagText.Proofs.Value.Descent

/-!
# The items of lists

A key chooses an item of a list by its number in decimal. The digits are read one by one, and reading
ends without a number at the first character that is no digit, and as soon as what was read so far
leaves 64 bits. Since a number only grows with every digit behind it, that happens just for the
numbers that leave 64 bits as a whole (`Path.foldlM_pushDigit?_eq_some_iff`):

> `list_key_selects`: a key leads to an item iff it is digits, with a plus sign before them or none,
> that write the place of the item; under every other key a list has nothing.
-/

namespace TagText

namespace Path

/-! ## Numbers in decimal -/

/-- The value of a digit. -/
def digitValue (c : Char) : Nat := c.toNat - '0'.toNat

/-- The value of digits by their places: the last digit counts once, the one before it ten times, and
so on. -/
def decimal (digits : List Char) : Nat := Nat.ofDigits 10 (digits.reverse.map digitValue)

/-- The characters write a number: they are digits, one at least, with a plus sign before them or
none. -/
inductive Numeral : List Char → Nat → Prop where
  | plain {digits : List Char} (hne : digits ≠ [])
      (hdigits : ∀ c ∈ digits, isAsciiDigit c = true) : Numeral digits (decimal digits)
  | signed {digits : List Char} (hne : digits ≠ [])
      (hdigits : ∀ c ∈ digits, isAsciiDigit c = true) : Numeral ('+' :: digits) (decimal digits)

theorem decimal_cons (c : Char) (digits : List Char) :
    decimal (c :: digits) = digitValue c * 10 ^ digits.length + decimal digits := by
  rw [decimal, List.reverse_cons, List.map_append, Nat.ofDigits_append, List.map_singleton,
    Nat.ofDigits_singleton, List.length_map, List.length_reverse, ← decimal]
  ring

theorem unsignedDigits_of_forall {digits : List Char}
    (hdigits : ∀ c ∈ digits, isAsciiDigit c = true) : unsignedDigits digits = digits := by
  unfold unsignedDigits
  split
  next rest => exact absurd (hdigits '+' List.mem_cons_self) (by decide)
  next => rfl

/-- All that may stand before the digits is one plus sign. -/
theorem unsignedDigits_eq_or (s : List Char) :
    unsignedDigits s = s ∨ '+' :: unsignedDigits s = s := by
  unfold unsignedDigits
  split
  next digits => exact Or.inr rfl
  next => exact Or.inl rfl

theorem numeral_iff {s : List Char} {n : Nat} :
    Numeral s n ↔ unsignedDigits s ≠ [] ∧ (∀ c ∈ unsignedDigits s, isAsciiDigit c = true) ∧
      n = decimal (unsignedDigits s) := by
  constructor
  · intro h
    cases h with
    | plain hne hdigits =>
      rw [unsignedDigits_of_forall hdigits]
      exact ⟨hne, hdigits, rfl⟩
    | signed hne hdigits => exact ⟨hne, hdigits, rfl⟩
  · rintro ⟨hne, hdigits, rfl⟩
    rcases unsignedDigits_eq_or s with h | h
    · have hplain := Numeral.plain hne hdigits
      rw [h] at hplain ⊢
      exact hplain
    · have hsigned := Numeral.signed hne hdigits
      rw [h] at hsigned
      exact hsigned

/-! ## Reading an index -/

theorem pushDigit?_eq_some_iff {n m : Nat} {c : Char} :
    pushDigit? n c = some m ↔
      isAsciiDigit c = true ∧ m = n * 10 + digitValue c ∧ m < UInt64.size := by
  unfold pushDigit?
  dsimp only
  split
  next hc =>
    split
    next hlt =>
      rw [Option.some.injEq]
      constructor
      · rintro rfl
        exact ⟨hc, rfl, hlt⟩
      · rintro ⟨-, rfl, -⟩
        rfl
    next hge =>
      refine ⟨fun h => absurd h (by simp), ?_⟩
      rintro ⟨-, rfl, hlt⟩
      exact absurd hlt hge
  next hc => exact ⟨fun h => absurd h (by simp), fun h => absurd h.1 hc⟩

/-- Digits are read behind a number of 64 bits iff they are digits and the whole is one of 64 bits.
No number on the way can be too large, for it is not larger than the whole. -/
theorem foldlM_pushDigit?_eq_some_iff {n m : Nat} (hn : n < UInt64.size) {digits : List Char} :
    digits.foldlM pushDigit? n = some m ↔ (∀ c ∈ digits, isAsciiDigit c = true) ∧
      m = n * 10 ^ digits.length + decimal digits ∧ m < UInt64.size := by
  induction digits generalizing n with
  | nil =>
    have hwhole : n * 10 ^ ([] : List Char).length + decimal [] = n := by simp [decimal]
    rw [hwhole, List.foldlM_nil]
    constructor
    · intro h
      obtain rfl := Option.some.inj h
      exact ⟨fun c hc => absurd hc List.not_mem_nil, rfl, hn⟩
    · rintro ⟨-, rfl, -⟩
      rfl
  | cons c digits ih =>
    have hwhole : n * 10 ^ (c :: digits).length + decimal (c :: digits) =
        (n * 10 + digitValue c) * 10 ^ digits.length + decimal digits := by
      rw [decimal_cons, List.length_cons]
      ring
    rw [hwhole, List.foldlM_cons, List.forall_mem_cons]
    constructor
    · intro h
      obtain ⟨k, hk, hm⟩ := Option.bind_eq_some_iff.mp h
      obtain ⟨hc, rfl, hlt⟩ := pushDigit?_eq_some_iff.mp hk
      obtain ⟨hdigits, hm, hmlt⟩ := (ih hlt).mp hm
      exact ⟨⟨hc, hdigits⟩, hm, hmlt⟩
    · rintro ⟨⟨hc, hdigits⟩, hm, hmlt⟩
      have hle : n * 10 + digitValue c ≤ (n * 10 + digitValue c) * 10 ^ digits.length :=
        Nat.le_mul_of_pos_right _ (Nat.pow_pos (by decide))
      have hlt : n * 10 + digitValue c < UInt64.size := by omega
      exact Option.bind_eq_some_iff.mpr
        ⟨_, pushDigit?_eq_some_iff.mpr ⟨hc, rfl, hlt⟩, (ih hlt).mpr ⟨hdigits, hm, hmlt⟩⟩

/-- A key is an index iff it writes a number of 64 bits, and then it is the index of that number. -/
theorem index?_eq_some_iff {key : String} {n : Nat} :
    index? key = some n ↔ Numeral key.toList n ∧ n < UInt64.size := by
  rw [numeral_iff, index?]
  cases hdigits : unsignedDigits key.toList with
  | nil => simp
  | cons c digits =>
    show (c :: digits).foldlM pushDigit? 0 = some n ↔ _
    rw [foldlM_pushDigit?_eq_some_iff (by decide), Nat.zero_mul, Nat.zero_add]
    simp [and_assoc]

end Path

/-! ## Lists -/

variable {objects : Objects} {items : List Value} {key : String} {w : Value}

namespace Value

theorem member_list_eq_ok_iff :
    (list items).member objects key = .ok w ↔
      ∃ n, Path.Numeral key.toList n ∧ n < UInt64.size ∧ items[n]? = some w := by
  simp only [← and_assoc, ← Path.index?_eq_some_iff]
  rw [← Option.bind_eq_some_iff (f := (items[·]?)), member]
  cases (Path.index? key).bind (items[·]?) <;> simp

theorem mapError_member_list_eq_ok_iff {ε : Type} {told : Obstacle → ε} :
    ((list items).member objects key).mapError told = .ok w ↔
      ∃ n, Path.Numeral key.toList n ∧ n < UInt64.size ∧ items[n]? = some w := by
  rw [← member_list_eq_ok_iff]
  cases (list items).member objects key <;> simp [Except.mapError]

/-- A list has nothing under a key that writes the place of none of its items. -/
theorem member_list_of_forall_le
    (h : ∀ n, Path.Numeral key.toList n → n < UInt64.size → items.length ≤ n) :
    (list items).member objects key = .error .undefinedKey := by
  have hnone : (Path.index? key).bind (items[·]?) = none := by
    refine Option.bind_eq_none_iff.mpr fun n hn => ?_
    obtain ⟨hnumeral, hlt⟩ := Path.index?_eq_some_iff.mp hn
    exact List.getElem?_eq_none (h n hnumeral hlt)
  rw [member, hnone]

/-- A path of one key asks for what is under that key. -/
theorem resolve_singleton {v : Value} (hv : v.isNull = false) (key : String) :
    v.resolve objects [key] = (v.member objects key).mapError (.blocked · key) := by
  rw [resolve, if_neg (by simp), hv, if_neg (by simp), descend]
  cases v.member objects key <;> rfl

end Value

namespace Store

variable {s : Store} {front : List String}

theorem get_append_singleton {v : Value} (h : s.get objects front = .ok v) (key : String) :
    s.get objects (front ++ [key]) =
      (v.member objects key).mapError (.blocked · (Path.told (front ++ [key]))) := by
  rw [get_append_cons h]
  cases v.member objects key <;> rfl

/-! ### Behind a path that leads to a list -/

section
variable (hlist : s.get objects front = .ok (.list items))
include hlist

theorem get_append_list_eq_ok_iff :
    s.get objects (front ++ [key]) = .ok w ↔
      ∃ n, Path.Numeral key.toList n ∧ n < UInt64.size ∧ items[n]? = some w := by
  rw [get_append_singleton hlist]
  exact Value.mapError_member_list_eq_ok_iff

theorem get_append_list_of_forall_le
    (h : ∀ n, Path.Numeral key.toList n → n < UInt64.size → items.length ≤ n) :
    s.get objects (front ++ [key]) =
      .error (.blocked .undefinedKey (Path.told (front ++ [key]))) := by
  rw [get_append_singleton hlist, Value.member_list_of_forall_le h]
  rfl

theorem has_append_list_eq_true_iff :
    s.has objects (front ++ [key]) = .ok true ↔
      ∃ n, Path.Numeral key.toList n ∧ n < UInt64.size ∧ n < items.length := by
  simp only [has_eq_true_iff, get_append_list_eq_ok_iff hlist]
  constructor
  · rintro ⟨w, n, hnumeral, hlt, hitem⟩
    exact ⟨n, hnumeral, hlt, (List.getElem?_eq_some_iff.mp hitem).1⟩
  · rintro ⟨n, hnumeral, hlt, hlength⟩
    exact ⟨_, n, hnumeral, hlt, List.getElem?_eq_getElem hlength⟩

/-- That there is no value is an answer, not an error. -/
theorem has_append_list_eq_false_iff :
    s.has objects (front ++ [key]) = .ok false ↔
      ∀ n, Path.Numeral key.toList n → n < UInt64.size → items.length ≤ n := by
  constructor
  · intro hfalse n hnumeral hlt
    by_contra hlength
    have htrue := (has_append_list_eq_true_iff hlist).mpr ⟨n, hnumeral, hlt, Nat.not_le.mp hlength⟩
    cases hfalse.symm.trans htrue
  · intro hnone
    exact has_eq_false_iff.mpr ⟨_, get_append_list_of_forall_le hlist hnone, rfl⟩

end

end Store

/-- **A key of a list is the number of an item.** From a list, one key leads to an item iff it writes
the place of this item, in 64 bits: it is digits, one at least and as many zeros in front as one
likes, with a plus sign before them or none. A list that has no more items than there are numbers of
64 bits has no other places. Under every other key, such as a number that is too large, an undefined
key is the error. Behind a path that leads to the list it is the same, and whether there is a value
always has an answer there. -/
theorem list_key_selects (objects : Objects) (items : List Value) (key : String) :
    (∀ w, (Value.list items).resolve objects [key] = .ok w ↔
      ∃ n, Path.Numeral key.toList n ∧ n < UInt64.size ∧ items[n]? = some w) ∧
    (items.length ≤ UInt64.size → ∀ w, (Value.list items).resolve objects [key] = .ok w ↔
      ∃ n, Path.Numeral key.toList n ∧ items[n]? = some w) ∧
    ((∀ n, Path.Numeral key.toList n → n < UInt64.size → items.length ≤ n) →
      (Value.list items).resolve objects [key] = .error (.blocked .undefinedKey key)) ∧
    ∀ s front, Store.get objects s front = .ok (.list items) →
      (∀ w, s.get objects (front ++ [key]) = .ok w ↔
        ∃ n, Path.Numeral key.toList n ∧ n < UInt64.size ∧ items[n]? = some w) ∧
      ((∀ n, Path.Numeral key.toList n → n < UInt64.size → items.length ≤ n) →
        s.get objects (front ++ [key]) =
          .error (.blocked .undefinedKey (Path.told (front ++ [key])))) ∧
      (s.has objects (front ++ [key]) = .ok true ↔
        ∃ n, Path.Numeral key.toList n ∧ n < UInt64.size ∧ n < items.length) ∧
      (s.has objects (front ++ [key]) = .ok false ↔
        ∀ n, Path.Numeral key.toList n → n < UInt64.size → items.length ≤ n) := by
  have hresolve : ∀ w, (Value.list items).resolve objects [key] = .ok w ↔
      ∃ n, Path.Numeral key.toList n ∧ n < UInt64.size ∧ items[n]? = some w := by
    intro w
    rw [Value.resolve_singleton rfl]
    exact Value.mapError_member_list_eq_ok_iff
  refine ⟨hresolve, fun hsize w => ?_, fun hnone => ?_, fun s front hfront =>
    ⟨fun w => Store.get_append_list_eq_ok_iff hfront, Store.get_append_list_of_forall_le hfront,
      Store.has_append_list_eq_true_iff hfront, Store.has_append_list_eq_false_iff hfront⟩⟩
  · rw [hresolve]
    refine exists_congr fun n => and_congr_right fun _ => and_iff_right_of_imp fun hitem => ?_
    obtain ⟨hlt, -⟩ := List.getElem?_eq_some_iff.mp hitem
    omega
  · rw [Value.resolve_singleton rfl, Value.member_list_of_forall_le hnone]
    rfl

/-- `+01` is the second of two items. The number of 64 bits that `2 ^ 64 + 1` would wrap round to is
that of this item too, but it is not reached in this way. -/
theorem list_key_selects_wrapped :
    (Value.list [.string "zero", .string "one"]).resolve .none ["+01"] = .ok (.string "one") ∧
    (Value.list [.string "zero", .string "one"]).resolve .none ["18446744073709551617"] =
      .error (.blocked .undefinedKey "18446744073709551617") ∧
    (Store.ofEntries [("items", .list [.string "zero", .string "one"])]).has .none
      ["items", "-0"] = .ok false := by
  have hsigned : Path.Numeral "+01".toList 1 := (Path.index?_eq_some_iff.mp (by decide)).1
  have hnone {key : String} (hkey : Path.index? key = none) (n : Nat)
      (h : Path.Numeral key.toList n) (hlt : n < UInt64.size) : 2 ≤ n := by
    rw [Path.index?_eq_some_iff.mpr ⟨h, hlt⟩] at hkey
    exact absurd hkey (by simp)
  obtain ⟨-, hone, -, -⟩ := list_key_selects .none [.string "zero", .string "one"] "+01"
  obtain ⟨-, -, htwo, -⟩ := list_key_selects .none [.string "zero", .string "one"]
    "18446744073709551617"
  obtain ⟨-, -, -, hthree⟩ := list_key_selects .none [.string "zero", .string "one"] "-0"
  exact ⟨(hone (by decide) _).mpr ⟨1, hsigned, rfl⟩, htwo (hnone (by decide)),
    (hthree (.ofEntries [("items", .list [.string "zero", .string "one"])]) ["items"] rfl).2.2.2.mpr
      (hnone (by decide))⟩

end TagText
